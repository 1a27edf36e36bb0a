import ProxyForge.Proofs.Clients.Twins
import ProxyForge.Session

/-!
# ProxyForge.Proofs.Clients.Steps — what a client may ask

A client works with words that name no cell and with what it was answered before
(`Arg`); it has no other way to come by a handle. It asks for any operation on a
heap except those that lay the heap open (`Step.IsClient`). Asking for the same
step in its own heap and in the common one gives steps that run in lockstep.
-/

namespace ProxyForge

open Renaming

/-- An argument of a client: a word that names no cell, the answer of one of its earlier
steps, or an element of a list that an earlier step answered. -/
inductive Arg where
  | plain (w : Word) (hw : w.cellIndex? = none)
  | answerOf (step : Nat)
  | elementOf (step index : Nat)

/-- An action by which a client works with its own objects. -/
def Action.IsClient {α : Type} : Action α → Prop
  | .lookupSymbol _ | .internSymbol _ | .allocated | .contents => False
  | _ => True

/-- A step by which a client works with its own objects. -/
def Step.IsClient {α : Type} : Step α → Prop
  | .action a => a.IsClient
  | .symbol _ | .proxy _ | .listOfArguments _ | .listOfTerminated _ | .listOfValues _
  | .listTake _ _ => True
  | _ => False

namespace Renaming

variable {r : Renaming} {st st' : Step Word}

/-- The step `b` is what `a` is in the other heap. -/
inductive SendsStep (r : Renaming) : Step Word → Step Word → Prop where
  | action {a b : Action Word} (hab : r.SendsAction a b) : SendsStep r (.action a) (.action b)
  | symbol (name : String) : SendsStep r (.symbol name) (.symbol name)
  | primitive {c d : Call Word} (hcd : r.SendsAction (.primitive c) (.primitive d)) :
      SendsStep r (.proxy (.primitive c)) (.proxy (.primitive d))
  | list {xs ys : List Word} (h : List.Forall₂ r.Sends xs ys) :
      SendsStep r (.proxy (.list xs)) (.proxy (.list ys))
  | diagnostic : SendsStep r (.proxy .diagnostic) (.proxy .diagnostic)
  | listOfArguments {xs ys : List Word} (h : List.Forall₂ r.Sends xs ys) :
      SendsStep r (.listOfArguments xs) (.listOfArguments ys)
  | listOfTerminated {xs ys : List Word} (h : List.Forall₂ r.Sends xs ys) :
      SendsStep r (.listOfTerminated xs) (.listOfTerminated ys)
  | listOfValues {xs ys : List Word} (h : List.Forall₂ r.Sends xs ys) :
      SendsStep r (.listOfValues xs) (.listOfValues ys)
  | listTake {x y : Word} (h : r.Sends x y) (limit : Nat) :
      SendsStep r (.listTake x limit) (.listTake y limit)

/-! ## Arguments -/

section

variable {ι : Type} {f g : ι → Option Word}

theorem mapM_rel (hfg : ∀ i, Option.Rel r.Sends (f i) (g i)) (is : List ι) :
    Option.Rel (List.Forall₂ r.Sends) (is.mapM f) (is.mapM g) := by
  induction is with
  | nil => exact .some .nil
  | cons i is ih =>
    rw [List.mapM_cons, List.mapM_cons]
    have hi := hfg i
    generalize f i = x at hi ⊢
    generalize g i = y at hi ⊢
    cases hi with
    | none => exact .none
    | some hxy =>
      generalize is.mapM f = xs at ih ⊢
      generalize is.mapM g = ys at ih ⊢
      cases ih with
      | none => exact .none
      | some hxys => exact .some (.cons hxy hxys)

theorem resolve_call (hfg : ∀ i, Option.Rel r.Sends (f i) (g i)) (c : Call ι) :
    Option.Rel (fun c d => r.SendsAction (.primitive c) (.primitive d))
      (c.resolve f) (c.resolve g) := by
  cases c with
  | constant k => exact .some (.constant k)
  | unary p i => exact rel_map (hfg i) fun _ _ h => .unary p h
  | binary p i j =>
    have hi := hfg i
    have hj := hfg j
    simp only [Call.resolve]
    generalize f i = x at hi ⊢
    generalize g i = y at hi ⊢
    generalize f j = x' at hj ⊢
    generalize g j = y' at hj ⊢
    cases hi with
    | none => exact .none
    | some hx =>
      cases hj with
      | none => exact .none
      | some hy => exact .some (.binary p hx hy)

theorem resolve_action (hfg : ∀ i, Option.Rel r.Sends (f i) (g i)) (a : Action ι)
    (ha : a.IsClient) : Option.Rel r.SendsAction (a.resolve f) (a.resolve g) := by
  cases a with
  | primitive c => exact rel_map (resolve_call hfg c) fun _ _ h => h
  | newString text => exact .some (.newString text)
  | newClass name parent =>
    cases parent with
    | none => exact .some (.newClass name .none)
    | some i => exact rel_map (hfg i) fun _ _ h => .newClass name (.some h)
  | newInstance i => exact rel_map (hfg i) fun _ _ h => .newInstance h
  | symbolName i => exact rel_map (hfg i) fun _ _ h => .symbolName h
  | stringValue i => exact rel_map (hfg i) fun _ _ h => .stringValue h
  | className i => exact rel_map (hfg i) fun _ _ h => .className h
  | _ => exact ha.elim

/-- A step whose arguments have counterparts has a counterpart itself. -/
theorem resolve_step (hfg : ∀ i, Option.Rel r.Sends (f i) (g i)) (st : Step ι)
    (hst : st.IsClient) : Option.Rel r.SendsStep (st.resolve f) (st.resolve g) := by
  cases st with
  | action a => exact rel_map (resolve_action hfg a hst) fun _ _ h => .action h
  | symbol name => exact .some (.symbol name)
  | proxy p =>
    cases p with
    | primitive c =>
      exact rel_map (rel_map (resolve_call hfg c) fun _ _ h => .primitive h) fun _ _ h => h
    | list is =>
      exact rel_map (rel_map (mapM_rel hfg is) fun _ _ h => .list h) fun _ _ h => h
    | diagnostic => exact .some .diagnostic
  | listOfArguments is => exact rel_map (mapM_rel hfg is) fun _ _ h => .listOfArguments h
  | listOfTerminated is => exact rel_map (mapM_rel hfg is) fun _ _ h => .listOfTerminated h
  | listOfValues is => exact rel_map (mapM_rel hfg is) fun _ _ h => .listOfValues h
  | listTake i limit => exact rel_map (hfg i) fun _ _ h => .listTake h limit
  | _ => exact hst.elim

end

end Renaming

/-! ## Steps in lockstep -/

namespace Renaming

variable {r : Renaming} {h g : Heap} {st st' : Step Word}

/-- Related answers; the objects that live across steps do not matter. -/
def StepAnswers (r : Renaming) (x y : Answer × Registers) : Prop := r.SendsAnswer x.1 y.1

theorem sendsAnswer_ofWord? {x y : Option Word} (h : Option.Rel r.Sends x y) :
    r.SendsAnswer (.ofWord? x) (.ofWord? y) := by
  cases h with
  | none => exact .nothing
  | some h => exact .word h

/-- The step that interns a symbol. -/
def symbolStep (name : String) : Program (Answer × Registers) := do
  return (.word (← Program.symbol name), {})

theorem symbolStep_runs_known {name : String} {w : Word} (hname : h.symbol? name = some w) :
    Program.Runs {} (symbolStep name) h (.word w, {}) h [] [] :=
  (Program.symbol_runs_known hname).map _

theorem symbolStep_runs_new {name : String} (hname : h.symbol? name = none) :
    Program.Runs {} (symbolStep name) h (.word h.nextHandle, {}) (h.pushSymbol name) []
      [.cellAllocated h.size] :=
  (Program.symbol_runs_new hname).map _

/-- Interning a symbol: each heap has it already, or gets it now. -/
theorem symbolStep_lockstep (hm : h.Mirrors r g) (name : String)
    (hsize : ((symbolStep name).run g).heap.size ≤ Word.capacity) :
    Heap.Lockstep StepAnswers r g ((symbolStep name).run h).result
      ((symbolStep name).run h).heap ((symbolStep name).run g).result
      ((symbolStep name).run g).heap := by
  cases hname : h.symbol? name with
  | some x =>
    rcases hm.exists_sends ((hm.tabled name x).1 hname) with ⟨x', hx⟩
    rw [(symbolStep_runs_known hname).run_eq,
      (symbolStep_runs_known (hm.symbol? hx hname)).run_eq]
    exact hm.lockstep (.ok (.word hx))
  | none =>
    cases hname' : g.symbol? name with
    | some v =>
      -- another client has interned it
      rw [(symbolStep_runs_known hname').run_eq] at hsize
      rcases hm.adopt hname hname' hsize with ⟨r', hle, hm', hkeeps, hv⟩
      rw [(symbolStep_runs_new hname).run_eq, (symbolStep_runs_known hname').run_eq]
      exact ⟨r', hle, hm', hkeeps, .ok (.word hv)⟩
    | none =>
      -- nobody has
      rw [(symbolStep_runs_new hname').run_eq] at hsize
      rcases hm.intern hname hname' hsize with ⟨r', hle, hm', hkeeps, hv⟩
      rw [(symbolStep_runs_new hname).run_eq, (symbolStep_runs_new hname').run_eq]
      exact ⟨r', hle, hm', hkeeps, .ok (.word hv)⟩

/-- An array of arguments ends with the same mark for every client. -/
theorem argumentArray_twin {xs ys : List Word} (h : List.Forall₂ r.Sends xs ys) :
    Program.Twin (fun r xs ys => List.Forall₂ r.Sends xs ys) r (argumentArray xs)
      (argumentArray ys) := by
  refine .act (.constant .undefined) fun r₁ h₁ e e' he => .done ?_
  exact List.rel_append (forall₂_sends_mono h h₁) (.cons he.sends .nil)

/-- A step of a client and its counterpart have a meaning, and they run in lockstep. -/
theorem SendsStep.lockstep (hst : r.SendsStep st st') (hm : h.Mirrors r g) :
    ∃ p q, st.program {} = some p ∧ st'.program {} = some q ∧
      ((q.run g).heap.size ≤ Word.capacity →
        Heap.Lockstep StepAnswers r g (p.run h).result (p.run h).heap
          (q.run g).result (q.run g).heap) := by
  have htwin : ∀ {p q : Program (Answer × Registers)}, st.program {} = some p →
      st'.program {} = some q → Program.Twin StepAnswers r p q →
      ∃ p q, st.program {} = some p ∧ st'.program {} = some q ∧
        ((q.run g).heap.size ≤ Word.capacity →
          Heap.Lockstep StepAnswers r g (p.run h).result (p.run h).heap
            (q.run g).result (q.run g).heap) := by
    intro p q hp hq hpq
    exact ⟨p, q, hp, hq, fun hsize => hpq.lockstep hm _ _ _ _ hsize⟩
  cases hst with
  | action hab =>
    exact htwin rfl rfl ((Program.Twin.perform hab).bind fun _ _ _ _ hxy => .done hxy)
  | symbol name => exact ⟨_, _, rfl, rfl, fun hsize => symbolStep_lockstep hm name hsize⟩
  | primitive hcd =>
    exact htwin rfl rfl ((Program.Twin.perform hcd).bind fun _ _ _ _ hxy => .done hxy)
  | list hs =>
    exact htwin rfl rfl ((listOfArguments_twin hs).bind fun _ _ _ _ hxy => .done (.word hxy))
  | diagnostic => exact htwin rfl rfl (.done .nothing)
  | listOfArguments hs =>
    refine htwin rfl rfl ((argumentArray_twin hs).bind fun _ _ _ _ hs₁ => ?_)
    exact (listOfArguments_twin hs₁).bind fun _ _ _ _ hxy => .done (.word hxy)
  | listOfTerminated hs =>
    exact htwin rfl rfl
      ((listOfTerminated?_twin hs).bind fun _ _ _ _ hxy => .done (sendsAnswer_ofWord? hxy))
  | listOfValues hs =>
    exact htwin rfl rfl ((listOfValues_twin hs).bind fun _ _ _ _ hxy => .done (.word hxy))
  | listTake hx limit =>
    exact htwin rfl rfl ((listTake_twin hx limit).bind fun _ _ _ _ hxy => .done (.words hxy))

end Renaming

end ProxyForge
