import ProxyForge.Proofs.Clients.Steps
import Mathlib.Logic.Function.Basic

/-!
# ProxyForge.Proofs.Clients.Isolation — clients that share a heap do not notice

Any number of clients ask for steps in any order. Each of them gets the results that
it would get alone on a fresh heap, up to an injective renaming of handles. The
invariant (`Apart`) has for each client a renaming of its own, under which the common
heap mirrors the heap that the client would have alone; and two clients have nothing
but symbols in common, which nobody can change.
-/

namespace ProxyForge

open Renaming

/-! ## Clients -/

/-- What a client sees: the heap, and the results of its own steps in order. -/
structure Client where
  heap : Heap := {}
  results : List (Except Fault Answer) := []

namespace Client

/-- The word that a step answered, as a value or by its bits. -/
def wordOf? : Except Fault Answer → Option Word
  | .ok (.word w) => some w
  | .ok (.bits b) => some ⟨b⟩
  | _ => none

/-- An element of the list that a step answered. -/
def elementOf? (index : Nat) : Except Fault Answer → Option Word
  | .ok (.words ws) => ws[index]?
  | _ => none

/-- The value of an argument. -/
def value? (c : Client) : Arg → Option Word
  | .plain w _ => some w
  | .answerOf step => c.results[step]?.bind wordOf?
  | .elementOf step index => c.results[step]?.bind (elementOf? index)

/-- Does one step and files its result; nothing happens when an argument has no value. -/
def step (c : Client) (st : Step Arg) : Client :=
  match (st.resolve c.value?).bind (Step.program {}) with
  | none => c
  | some p =>
    { heap := (p.run c.heap).heap,
      results := c.results ++ [(p.run c.heap).result.map fun x => x.1] }

/-- The client alone on a fresh heap. -/
def run (steps : List (Step Arg)) : Client := steps.foldl step {}

end Client

/-- A step that one of the clients asks for. -/
structure Request where
  client : Nat
  step : Step Arg
  allowed : step.IsClient

/-- The steps of one client. -/
def script (c : Nat) (requests : List Request) : List (Step Arg) :=
  (requests.filter (·.client = c)).map (·.step)

/-- A common heap, and the results of the steps of each client in order. -/
structure Shared where
  heap : Heap := {}
  results : Nat → List (Except Fault Answer) := fun _ => []

namespace Shared

/-- What one of the clients sees. -/
def view (s : Shared) (c : Nat) : Client := { heap := s.heap, results := s.results c }

/-- One step of one client. -/
def step (s : Shared) (m : Request) : Shared :=
  { heap := ((s.view m.client).step m.step).heap,
    results := Function.update s.results m.client ((s.view m.client).step m.step).results }

/-- The clients on a common heap, with their steps in the given order. -/
def run (requests : List Request) : Shared := requests.foldl step {}

end Shared

/-! ## One step of a client -/

namespace Client

variable {r : Renaming} {a b : Client} {st : Step Arg}

/-- The results of a client alone and among others. -/
def ResultsAgree (r : Renaming) (a b : Client) : Prop :=
  List.Forall₂ (r.SendsResult r.SendsAnswer) a.results b.results

/-- An argument has counterparts as its values, or no value alone and among others. -/
theorem value?_rel (hab : ResultsAgree r a b) (x : Arg) :
    Option.Rel r.Sends (a.value? x) (b.value? x) := by
  cases x with
  | plain w hw => exact .some (sends_of_plain hw)
  | answerOf step =>
    refine rel_bind (rel_getElem? hab step) fun x y hxy => ?_
    cases hxy with
    | error _ => exact .none
    | ok hanswer =>
      cases hanswer with
      | word h => exact .some h
      | bits h => exact .some h
      | _ => exact .none
  | elementOf step index =>
    refine rel_bind (rel_getElem? hab step) fun x y hxy => ?_
    cases hxy with
    | error _ => exact .none
    | ok hanswer =>
      cases hanswer with
      | @words ws ws' h =>
        show Option.Rel r.Sends ws[index]? ws'[index]?
        rw [← Array.getElem?_toList, ← Array.getElem?_toList]
        exact rel_getElem? h index
      | _ => exact .none

/-- A client does what a session does for a step whose arguments have the same values. -/
theorem step_eq_session (c : Client) (st : Step Arg) (session : Session) (st' : Step Ref)
    (hheap : session.heap = c.heap) (hregisters : session.registers = {})
    (hst : st'.resolve session.resolve = st.resolve c.value?) :
    match session.step {} st' with
    | none => c.step st = c
    | some (outcome, next) =>
      c.step st = { heap := next.heap, results := c.results ++ [outcome.result] } := by
  rcases session with ⟨heap, registers, answers⟩
  obtain rfl : heap = c.heap := hheap
  obtain rfl : registers = {} := hregisters
  unfold Session.step step
  rw [hst]
  cases st.resolve c.value? with
  | none => rfl
  | some word =>
    cases hp : word.program {} with
    | none => simp [hp]
    | some p =>
      simp only [Option.bind_some, Option.bind_eq_bind, hp]
      cases hrun : p.run c.heap with
      | mk result heap calls events => cases result <;> rfl

/-- No step makes the heap smaller. -/
theorem size_le_step (c : Client) (st : Step Arg) : c.heap.size ≤ (c.step st).heap.size := by
  unfold step
  split
  · exact Nat.le_refl _
  · exact Program.size_le_runAfter _ _ _ _

/-- A step of a client among others is what it is alone. -/
theorem step_agrees (hm : a.heap.Mirrors r b.heap) (hab : ResultsAgree r a b)
    (hst : st.IsClient) (hsize : (b.step st).heap.size ≤ Word.capacity) :
    ∃ r', r ≤ r' ∧ (a.step st).heap.Mirrors r' (b.step st).heap ∧
      Heap.Keeps r r' b.heap (b.step st).heap ∧ ResultsAgree r' (a.step st) (b.step st) := by
  have hresolve := resolve_step (value?_rel hab) st hst
  unfold step at hsize ⊢
  generalize st.resolve a.value? = x at hresolve ⊢
  generalize st.resolve b.value? = y at hresolve hsize ⊢
  cases hresolve with
  | none =>
    -- an argument has no value, alone or among others
    exact ⟨r, le_refl r, hm, .refl r b.heap, hab⟩
  | some hsends =>
    rcases hsends.lockstep hm with ⟨p, q, hp, hq, hlock⟩
    simp only [Option.bind_some, hp, hq] at hsize ⊢
    rcases hlock hsize with ⟨r', hle, hm', hkeeps, hresult⟩
    refine ⟨r', hle, hm', hkeeps, List.rel_append (hab.imp fun _ _ h => h.mono hle) ?_⟩
    refine .cons ?_ .nil
    generalize (p.run a.heap).result = x at hresult ⊢
    generalize (q.run b.heap).result = y at hresult ⊢
    cases hresult with
    | ok h => exact .ok h
    | error h => exact .error h

end Client

/-! ## All clients -/

namespace Shared

/-- The common heap mirrors the heap that each client would have alone, and two clients
have nothing but symbols in common. -/
structure Apart (s : Shared) (alone : Nat → Client) (r : Nat → Renaming) : Prop where
  mirrors : ∀ c, (alone c).heap.Mirrors (r c) s.heap
  agree : ∀ c, Client.ResultsAgree (r c) (alone c) (s.view c)
  apart : ∀ c d, c ≠ d → ∀ w, w ∈ (r c).handles → w ∈ (r d).handles →
    ∃ name, s.heap.get? w = some (.symbol name)

variable {s : Shared} {alone : Nat → Client} {r : Nat → Renaming}

theorem init_apart : Apart {} (fun _ => {}) fun _ => .empty := by
  constructor
  · exact fun _ => Heap.mirrors_empty
  · exact fun _ => .nil
  · intro c d _ w hw
    cases hw

/-- A cell of another client stays: it is no cell of the client `i`, or it is a symbol. -/
theorem Apart.kept {i : Nat} {r' : Renaming} {g : Heap} (hs : s.Apart alone r)
    (hkeeps : Heap.Keeps (r i) r' s.heap g) {c : Nat} (hc : c ≠ i) :
    ∀ w ∈ (r c).handles, ∀ d, s.heap.get? w = some d → g.get? w = some d := by
  intro w hw d hd
  refine hkeeps.frame w d hd fun hmem => ?_
  rcases hs.apart c i hc w hw hmem with ⟨name, hname⟩
  exact ⟨name, Option.some.inj (hd.symm.trans hname)⟩

/-- What the client `i` came to know is new to the heap, or a symbol. -/
theorem Apart.common {i : Nat} {r' : Renaming} {g : Heap} (hs : s.Apart alone r)
    (hkeeps : Heap.Keeps (r i) r' s.heap g) {c : Nat} (hc : c ≠ i) {w : Word}
    (hw : w ∈ (r c).handles) (hw' : w ∈ r'.handles) :
    ∃ name, g.get? w = some (.symbol name) := by
  rcases hkeeps.fresh w hw' with hold | hnone | hsym
  · rcases hs.apart c i hc w hw hold with ⟨name, hname⟩
    exact ⟨name, hs.kept hkeeps hc w hw _ hname⟩
  · -- a cell of another client is not new
    rcases (hs.mirrors c).get?_of_mem hw with ⟨d, hd⟩
    rw [hd] at hnone
    cases hnone
  · exact hsym

/-- What holds of all clients but one, and of the new state of that one, holds of all. -/
theorem update_rel {σ τ : Type} {R : Nat → σ → τ → Prop} {f : Nat → σ} {g : Nat → τ} {i : Nat}
    {x : σ} {y : τ} (hxy : R i x y) (hR : ∀ c, c ≠ i → R c (f c) (g c)) (c : Nat) :
    R c (Function.update f i x c) (Function.update g i y c) := by
  by_cases hc : c = i
  · subst hc
    rw [Function.update_self, Function.update_self]
    exact hxy
  · rw [Function.update_of_ne hc, Function.update_of_ne hc]
    exact hR c hc

/-- A step of one client leaves what the others have alone. -/
theorem Apart.step (hs : s.Apart alone r) (m : Request)
    (hsize : (s.step m).heap.size ≤ Word.capacity) :
    ∃ r', (s.step m).Apart (Function.update alone m.client ((alone m.client).step m.step)) r' := by
  obtain ⟨r', hle, hm', hkeeps, hagree⟩ :=
    Client.step_agrees (hs.mirrors m.client) (hs.agree m.client) m.allowed hsize
  refine ⟨Function.update r m.client r', ?_, ?_, ?_⟩
  · refine update_rel (R := fun _ (a : Client) r => a.heap.Mirrors r (s.step m).heap) hm'
      fun c hc => ?_
    exact (hs.mirrors c).of_get? hm'.tabled' (hs.kept hkeeps hc)
  · refine update_rel (R := fun c a r => Client.ResultsAgree r a ((s.step m).view c)) ?_
      fun c hc => ?_
    · -- the client itself sees its own step
      have hview : (s.step m).view m.client = (s.view m.client).step m.step := by
        simp only [Shared.step, view, Function.update_self]
      rw [hview]
      exact hagree
    · -- the others have no further results
      have hresults : (s.step m).results c = s.results c := Function.update_of_ne hc _ _
      unfold Client.ResultsAgree view
      rw [hresults]
      exact hs.agree c
  · -- a common cell of two clients: at most one of them is the client itself
    intro c d hcd w hw hw'
    by_cases hc : c = m.client
    · subst hc
      rw [Function.update_self] at hw
      rw [Function.update_of_ne hcd.symm] at hw'
      exact hs.common hkeeps hcd.symm hw' hw
    · rw [Function.update_of_ne hc] at hw
      by_cases hd : d = m.client
      · subst hd
        rw [Function.update_self] at hw'
        exact hs.common hkeeps hc hw hw'
      · rw [Function.update_of_ne hd] at hw'
        rcases hs.apart c d hcd w hw hw' with ⟨name, hname⟩
        exact ⟨name, hs.kept hkeeps hc w hw _ hname⟩

theorem script_concat (c : Nat) (requests : List Request) (m : Request) :
    Client.run (script c (requests ++ [m])) =
      Function.update (fun c => Client.run (script c requests)) m.client
        ((Client.run (script m.client requests)).step m.step) c := by
  unfold script Client.run
  rw [List.filter_append, List.map_append, List.foldl_append]
  by_cases hc : c = m.client
  · subst hc
    simp
  · rw [Function.update_of_ne hc]
    simp [Ne.symm hc]

/-- The invariant holds after any requests, as long as the cells fit. -/
theorem run_apart (requests : List Request)
    (hsize : (run requests).heap.size ≤ Word.capacity) :
    ∃ r, (run requests).Apart (fun c => Client.run (script c requests)) r := by
  induction requests using List.reverseRecOn with
  | nil => exact ⟨_, init_apart⟩
  | append_singleton requests m ih =>
    have hrun : run (requests ++ [m]) = (run requests).step m := List.foldl_concat ..
    rw [hrun] at hsize ⊢
    have hle := Client.size_le_step ((run requests).view m.client) m.step
    rcases ih (Nat.le_trans hle hsize) with ⟨r, hr⟩
    rcases hr.step m hsize with ⟨r', hr'⟩
    refine ⟨r', ?_⟩
    have halone : (fun c => Client.run (script c (requests ++ [m]))) =
        Function.update (fun c => Client.run (script c requests)) m.client
          ((Client.run (script m.client requests)).step m.step) :=
      funext fun c => script_concat c requests m
    rw [halone]
    exact hr'

/-- Whatever other clients do before and in between, a client gets the results that it
would get alone on a fresh heap, up to one injective renaming of handles. -/
theorem clients_do_not_interfere (requests : List Request) (c : Nat)
    (hsize : (run requests).heap.size ≤ Word.capacity) :
    ∃ ρ : Word → Word, Function.Injective ρ ∧ (∀ w, w.cellIndex? = none → ρ w = w) ∧
      (run requests).results c =
        (Client.run (script c requests)).results.map (renameResult ρ) := by
  rcases run_apart requests hsize with ⟨r, hr⟩
  rcases (r c).exists_total with ⟨ρ, hinj, hplain, hρ⟩
  refine ⟨ρ, hinj, hplain, ?_⟩
  -- the results agree one by one, and the map does to each what the renaming does
  have hagree := hr.agree c
  unfold Client.ResultsAgree at hagree
  change List.Forall₂ _ _ ((run requests).results c) at hagree
  generalize (run requests).results c = shared at hagree ⊢
  generalize (Client.run (script c requests)).results = own at hagree ⊢
  induction hagree with
  | nil => rfl
  | cons h _ ih => rw [List.map_cons, h.renameResult_eq hρ, ← ih]

/-- Two clients have a symbol in common; one relinks a pair of its own and then asks for
the car of a string. -/
def twoClients : List Request :=
  [⟨1, .action (.newString "other"), trivial⟩,
    ⟨1, .symbol "key", trivial⟩,
    ⟨0, .action (.newString "text"), trivial⟩,
    ⟨0, .symbol "key", trivial⟩,
    ⟨1, .listOfValues [.answerOf 0, .answerOf 1], trivial⟩,
    ⟨0, .action (.primitive (.binary .cons (.answerOf 0) (.plain .eol rfl))), trivial⟩,
    ⟨0, .action (.primitive (.binary .setCdr (.answerOf 2) (.answerOf 1))), trivial⟩,
    ⟨0, .action (.primitive (.unary .car (.answerOf 0))), trivial⟩,
    ⟨0, .listTake (.answerOf 2) 5, trivial⟩]

theorem clients_do_not_interfere_over_key :
    (run twoClients).heap.size ≤ Word.capacity ∧
    ∃ ρ : Word → Word, Function.Injective ρ ∧
      [.ok (.word (.handle 2)), .ok (.word (.handle 1)), .ok (.word (.handle 5)), .ok .nothing,
        .error (.nonPair .car (.handle 2)), .ok (.words #[.handle 2])] =
      [.ok (.word (.handle 0)), .ok (.word (.handle 1)), .ok (.word (.handle 2)), .ok .nothing,
        .error (.nonPair .car (.handle 0)), .ok (.words #[.handle 0])].map (renameResult ρ) := by
  have hsize : (run twoClients).heap.size ≤ Word.capacity := by decide
  rcases clients_do_not_interfere twoClients 0 hsize with ⟨ρ, hinj, -, h⟩
  exact ⟨hsize, ρ, hinj, h⟩

end Shared

end ProxyForge
