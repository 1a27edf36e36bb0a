import ProxyForge.Proofs.Lists.Appending
import ProxyForge.Session

/-!
# ProxyForge.Proofs.Lifetime — handles stay valid

What a client holds on to are handles, and what it may count on is this: no operation,
whatever words it is given, changes a cell that is there, but for the cdr of the one
pair that it relinks. `Step.target?` names that pair, `Step.newCell?` the cell of a step
that makes a single one, and `Step.reads` tells the steps that change nothing at all.

A script, and likewise any calls of any clients in turn, comes down to a list of actions
(`Program.exists_actions`, `Session.exists_actions`), so what a single action leaves of a
cell says also what any run leaves of it (`Heap.Preserved`).
-/

namespace ProxyForge

/-! ## Answers that last -/

/-- The word whose cell decides what an action answers, whatever the cdrs of pairs are. -/
def Action.subject? : Action Word → Option Word
  | .primitive (.unary .cdr _) => none
  | .primitive (.unary _ x) => some x
  | .symbolName x | .stringValue x | .className x => some x
  | _ => none

namespace Heap

variable {h h' : Heap} {a : Action Word} {w x : Word} {c : Cell} {cdrs : List Word}

/-- Which cdrs were set makes no difference to the readers of anything else. -/
theorem readers_of_relinked (hx : h.get? x = some c) (hx' : h'.get? x = some (c.relinked cdrs)) :
    (h'.pair? x).map (·.1) = (h.pair? x).map (·.1) ∧ h'.symbolName? x = h.symbolName? x ∧
      h'.stringValue? x = h.stringValue? x ∧ h'.className? x = h.className? x := by
  unfold pair? symbolName? stringValue? className?
  rw [hx, hx']
  cases c <;> exact ⟨rfl, rfl, rfl, rfl⟩

/-- So an action that does not look at a cdr answers as before. -/
theorem result_perform_of_relinked (ha : a.subject? = some x) (hx : h.get? x = some c)
    (hx' : h'.get? x = some (c.relinked cdrs)) : (h'.perform a).result = (h.perform a).result := by
  rcases readers_of_relinked hx hx' with ⟨hcar, hsymbol, hstring, hclass⟩
  have hpair : (h'.pair? x).isSome = (h.pair? x).isSome := by
    simpa using congrArg Option.isSome hcar
  cases a with
  | primitive call =>
    cases call with
    | constant k => cases ha
    | binary p y z => cases ha
    | unary p y =>
      cases p with
      | cdr => cases ha
      | isPair =>
        cases ha
        exact congrArg Except.ok hpair
      | isSymbol =>
        cases ha
        exact congrArg (fun s => Except.ok s.isSome) hsymbol
      | isString =>
        cases ha
        exact congrArg (fun s => Except.ok s.isSome) hstring
      | car =>
        cases ha
        show (h'.answerOr (.nonPair .car x) ((h'.pair? x).map (·.1))).result = _
        rw [hcar]
        rfl
      | _ => rfl
  | symbolName y =>
    cases ha
    exact congrArg Except.ok hsymbol
  | stringValue y =>
    cases ha
    exact congrArg Except.ok hstring
  | className y =>
    cases ha
    exact congrArg Except.ok hclass
  | _ => cases ha

/-- The heap `h'`, which a run with the given calls has made of `h`: every cell is as it
was, but a pair has the cdr that was set last; every handle is still one, and answers as
before. -/
structure Preserved (h : Heap) (calls : List (Call Word)) (h' : Heap) : Prop where
  size_le : h.size ≤ h'.size
  cell : ∀ w c, h.get? w = some c → h'.get? w = some (c.relinked (cdrsSet w calls))
  issued : ∀ w, h.Issued w → h'.Issued w
  answer : ∀ a x, a.subject? = some x → h.Issued x →
    (h'.perform a).result = (h.perform a).result
  cdr : ∀ w car cdr, h.get? w = some (.pair car cdr) →
    (h'.perform (.primitive (.unary .cdr w))).result =
      .ok ((cdrsSet w calls).getLast?.getD cdr)

theorem preserved_after (h : Heap) (actions : List (Action Word))
    (hsize : (h.after actions).size ≤ Word.capacity) :
    h.Preserved (actions.filterMap Action.call?) (h.after actions) := by
  have hle := size_le_after h actions
  have hcell : ∀ w c, h.get? w = some c → (h.after actions).get? w =
      some (c.relinked (cdrsSet w (actions.filterMap Action.call?))) :=
    fun w c hw => get?_after actions hw hsize
  refine ⟨hle, hcell, fun w hw => hw.mono hle, ?_, ?_⟩
  · intro a x ha hx
    rcases hx.get? (Nat.le_trans hle hsize) with ⟨c, hc⟩
    exact result_perform_of_relinked ha hc (hcell x c hc)
  · intro w car cdr hw
    have hpair : (h.after actions).pair? w = some (car,
        (cdrsSet w (actions.filterMap Action.call?)).getLast?.getD cdr) :=
      pair?_eq_some.2 (hcell w _ hw)
    show ((h.after actions).answerOr (.nonPair .cdr w)
      (((h.after actions).pair? w).map (·.2))).result = _
    rw [hpair]
    rfl

end Heap

/-! ## Runs as lists of actions -/

/-- What a run of a program does to a heap is a list of actions, among them its calls. -/
theorem Program.exists_actions {α : Type} (p : Program α) (h : Heap) (calls : Array (Call Word))
    (events : Array Event) :
    ∃ actions, (p.runAfter {} h calls events).heap = h.after actions ∧
      (p.runAfter {} h calls events).calls.toList =
        calls.toList ++ actions.filterMap Action.call? := by
  induction p generalizing h calls events with
  | done x => exact ⟨[], rfl, by simp [runAfter]⟩
  | fail f => exact ⟨[], rfl, by simp [runAfter]⟩
  | emit e next ih => exact ih h calls (events.push e)
  | act a next ih =>
    have hcalls : ∀ actions, (a.call?.elim calls calls.push).toList ++
        actions.filterMap Action.call? =
        calls.toList ++ (a :: actions).filterMap Action.call? := by
      intro actions
      cases ha : a.call? <;> simp [ha]
    rw [runAfter_act_eq]
    cases (h.perform a).result with
    | ok x =>
      rcases ih x (h.perform a).heap (a.call?.elim calls calls.push)
        (events.appendList (h.perform a).events) with ⟨actions, hheap, hmade⟩
      exact ⟨a :: actions, hheap, hmade.trans (hcalls actions)⟩
    | error f =>
      refine ⟨[a], rfl, ?_⟩
      have hone := hcalls []
      simp only [List.filterMap_nil, List.append_nil] at hone
      exact hone

namespace Session

/-- A step of a script is the run of its program. -/
theorem step_eq_some {s s' : Session} {st : Step Ref} {o : Outcome}
    (hs : s.step {} st = some (o, s')) :
    ∃ word p, st.resolve s.resolve = some word ∧ word.program s.registers = some p ∧
      s'.heap = (p.run s.heap).heap ∧ o.calls = (p.run s.heap).calls ∧
      o.events = (p.run s.heap).events ∧ o.result = (p.run s.heap).result.map Prod.fst ∧
      (∀ a r, (p.run s.heap).result = .ok (a, r) → s'.registers = r) ∧
      ∀ f, (p.run s.heap).result = .error f → s'.registers = s.registers := by
  unfold step at hs
  rcases Option.bind_eq_some_iff.1 hs with ⟨word, hword, hs⟩
  rcases Option.bind_eq_some_iff.1 hs with ⟨p, hp, hs⟩
  refine ⟨word, p, hword, hp, ?_⟩
  rcases s with ⟨heap, registers, answers⟩
  simp only at hs ⊢
  cases hrun : p.run heap with
  | mk result heap' calls events =>
    rw [hrun] at hs
    cases result with
    | ok answered =>
      cases hs
      refine ⟨rfl, rfl, rfl, rfl, ?_, nofun⟩
      rintro _ _ ⟨⟩
      rfl
    | error f =>
      cases hs
      exact ⟨rfl, rfl, rfl, rfl, nofun, fun _ _ => rfl⟩

/-- All calls of a script, in order. -/
def callsOf (outcomes : Array Outcome) : List (Call Word) :=
  outcomes.toList.flatMap fun o => o.calls.toList

/-- What a script does to a heap is a list of actions, too. -/
theorem exists_actions {s s' : Session} {outcomes outcomes' : Array Outcome}
    {script : List (Step Ref)}
    (hs : s.runAfter {} outcomes script = some (outcomes', s')) :
    ∃ actions, s'.heap = s.heap.after actions ∧
      callsOf outcomes' = callsOf outcomes ++ actions.filterMap Action.call? := by
  induction script generalizing s outcomes with
  | nil =>
    cases hs
    exact ⟨[], rfl, by simp⟩
  | cons st script ih =>
    rcases Option.bind_eq_some_iff.1 hs with ⟨⟨o, s₁⟩, hstep, hrest⟩
    rcases step_eq_some hstep with ⟨word, p, -, -, hheap, hcalls, -⟩
    rcases p.exists_actions s.heap #[] #[] with ⟨first, hfirst, hmade⟩
    rcases ih hrest with ⟨later, hlater, hmore⟩
    refine ⟨first ++ later, ?_, ?_⟩
    · rw [hlater, hheap, Program.run, hfirst, Heap.after_append]
    · have hlast : callsOf (outcomes.push o) =
          callsOf outcomes ++ first.filterMap Action.call? := by
        simp [callsOf, hcalls, Program.run, hmade]
      rw [hmore, hlast, List.filterMap_append, List.append_assoc]

end Session

/-! ## Single steps -/

/-- The action that a step is. -/
def Step.action? : Step Word → Option (Action Word)
  | .action a => some a
  | .proxy (.primitive c) => some (.primitive c)
  | _ => none

/-- The word that an action relinks if it is a pair. -/
def Action.target? : Action Word → Option Word
  | .primitive (.binary .setCdr x _) => some x
  | _ => none

/-- The pair that a step relinks: the one that it is given, or the last one of its builder. -/
def Step.target? (r : Registers) : Step Word → Option Word
  | .push b _ | .extend b _ => (r.builders[b]?).join.bind ListBuilder.last
  | st => st.action?.bind Action.target?

/-- The cell of a step that makes a single one and answers its handle. -/
def Step.newCell? (h : Heap) : Step Word → Option Cell
  | .symbol name | .action (.internSymbol name) =>
    if (h.symbol? name).isSome then none else some (.symbol name)
  | st => st.action?.bind Action.cell?

/-- Whether a step makes and relinks nothing. -/
def Step.reads (h : Heap) : Step Word → Bool
  | .symbol name | .action (.internSymbol name) => (h.symbol? name).isSome
  | .action a => a.reads
  | .proxy (.primitive c) => (Action.primitive c).reads
  | .proxy (.list _) | .listOfArguments _ | .listOfTerminated _ | .listOfValues _ => false
  | .push _ _ | .extend _ _ => false
  | _ => true

namespace Step

variable {h : Heap} {r : Registers} {st : Step Word} {p : Program (Answer × Registers)}
  {a : Action Word} {w : Word} {c : Cell}

/-- A step that works on a builder has no meaning without one. -/
theorem exists_builder {b : Nat} {f : ListBuilder → Program (Answer × Registers)}
    (hp : (do let lb ← (← r.builders[b]?); return f lb) = some p) :
    ∃ lb, (r.builders[b]?).join = some lb ∧ p = f lb := by
  rcases Option.bind_eq_some_iff.1 hp with ⟨o, ho, hp⟩
  rcases Option.bind_eq_some_iff.1 hp with ⟨lb, rfl, hp⟩
  exact ⟨lb, by rw [ho]; rfl, (Option.some.inj hp).symm⟩

/-- What a step can be: a single action, the interning of a symbol, a program that reads, or
one that appends behind the last pair of its builder. -/
inductive Form (h : Heap) (r : Registers) : Step Word → Program (Answer × Registers) → Prop where
  | action {st : Step Word} {a : Action Word} (ha : st.action? = some a) :
      Form h r st (Program.perform a >>= fun x => pure (.ofAction a x, r))
  | symbol (name : String) :
      Form h r (.symbol name) (Program.symbol name >>= fun x => pure (.word x, r))
  | reading {st : Step Word} {p : Program (Answer × Registers)} (hp : p.Reads)
      (hnew : st.newCell? h = none) : Form h r st p
  | appending {st : Step Word} {p : Program (Answer × Registers)}
      (hp : p.Appends Anything (st.target? r) none) (hnew : st.newCell? h = none)
      (hreads : st.reads h = false) : Form h r st p

theorem Form.of_some {q : Program (Answer × Registers)} (hp : some q = some p)
    (hq : Form h r st q) : Form h r st p := by
  cases hp
  exact hq

theorem program_form (h : Heap) (hp : st.program r = some p) : Form h r st p := by
  cases st with
  | action a => exact .of_some hp (.action rfl)
  | symbol name => exact .of_some hp (.symbol name)
  | proxy q =>
    cases q with
    | primitive call => exact .of_some hp (.action rfl)
    | list A =>
      exact .of_some hp (.appending ((listOfArguments_appends A).map fun _ _ _ => trivial) rfl rfl)
    | diagnostic => exact .of_some hp (.reading .done rfl)
  | listOfArguments A =>
    exact .of_some hp
      (.appending ((listOfArgumentArray_appends A).map fun _ _ _ => trivial) rfl rfl)
  | listOfTerminated A =>
    exact .of_some hp (.appending ((listOfTerminated?_appends A).map fun _ _ _ => trivial) rfl rfl)
  | listOfValues vs =>
    exact .of_some hp (.appending ((listOfValues_appends vs).map fun _ _ _ => trivial) rfl rfl)
  | push b v =>
    rcases exists_builder hp with ⟨lb, hlb, rfl⟩
    -- the pair that the step relinks is the one that the builder goes on behind
    have htarget : (Step.push b v).target? r = lb.last := by simp [target?, hlb]
    refine .appending ?_ rfl rfl
    rw [htarget]
    exact (lb.push_appends v).map fun _ _ _ => trivial
  | extend b vs =>
    rcases exists_builder hp with ⟨lb, hlb, rfl⟩
    have htarget : (Step.extend b vs).target? r = lb.last := by simp [target?, hlb]
    refine .appending ?_ rfl rfl
    rw [htarget]
    exact (lb.extend_appends vs).map fun _ _ _ => trivial
  | listLength list =>
    exact .of_some hp (.reading ((listLength_looks list).reads.bind fun _ => .done) rfl)
  | listTake list limit =>
    exact .of_some hp (.reading ((listTake_looks list limit).reads.bind fun _ => .done) rfl)
  | newBuilder => exact .of_some hp (.reading (.act rfl fun _ => .done) rfl)
  | builderLength b =>
    rcases exists_builder hp with ⟨lb, -, rfl⟩
    exact .reading .done rfl
  | builderIsEmpty b =>
    rcases exists_builder hp with ⟨lb, -, rfl⟩
    exact .reading .done rfl
  | finish b =>
    rcases exists_builder hp with ⟨lb, -, rfl⟩
    exact .reading (.emit .done) rfl
  | newIter list => exact .of_some hp (.reading .done rfl)
  | iterNext i =>
    rcases Option.bind_eq_some_iff.1 hp with ⟨it, -, hp⟩
    exact .of_some hp (.reading (it.next_looks.reads.bind fun _ => .done) rfl)
  | newCursor A =>
    exact .of_some hp (.reading ((argumentArray_looks A).reads.bind fun _ => .done) rfl)
  | cursorNext i =>
    rcases Option.bind_eq_some_iff.1 hp with ⟨c, -, hp⟩
    exact .of_some hp (.reading (c.next_looks.reads.bind fun _ => .done) rfl)
  | describe x => exact .of_some hp (.reading .done rfl)

/-! ### Steps that are actions -/

theorem target?_of_action? (ha : st.action? = some a) : st.target? r = a.target? := by
  cases st with
  | action b =>
    cases ha
    rfl
  | proxy q =>
    cases q with
    | primitive call =>
      cases ha
      rfl
    | _ => cases ha
  | _ => cases ha

theorem heap_perform_of_reads (ha : st.action? = some a) (hreads : st.reads h = true) :
    (h.perform a).heap = h := by
  cases st with
  | action b =>
    cases ha
    cases a with
    | internSymbol name =>
      rcases Option.isSome_iff_exists.1 hreads with ⟨sym, hsym⟩
      simp [Heap.perform, hsym, Heap.answer]
    | _ => exact Heap.perform_heap_of_reads hreads
  | proxy q =>
    cases q with
    | primitive call =>
      cases ha
      exact Heap.perform_heap_of_reads hreads
    | _ => cases ha
  | _ => cases ha

theorem perform_of_cell? (ha : a.cell? = some c) :
    (h.perform a).result.map (Answer.ofAction a) = .ok (.word h.nextHandle) ∧
      (h.perform a).heap.cells = h.cells.push c := by
  unfold Action.cell? at ha
  split at ha
  all_goals cases ha
  all_goals exact ⟨rfl, rfl⟩

theorem perform_of_newCell? (ha : st.action? = some a) (hc : st.newCell? h = some c) :
    (h.perform a).result.map (Answer.ofAction a) = .ok (.word h.nextHandle) ∧
      (h.perform a).heap.cells = h.cells.push c := by
  cases st with
  | action b =>
    cases ha
    cases a with
    | internSymbol name =>
      cases hname : h.symbol? name with
      | some sym => simp [newCell?, hname] at hc
      | none =>
        have hcell : Cell.symbol name = c := by simpa [newCell?, hname] using hc
        subst hcell
        simp only [Heap.perform, hname]
        exact ⟨rfl, rfl⟩
    | _ => exact perform_of_cell? hc
  | proxy q =>
    cases q with
    | primitive call =>
      cases ha
      exact perform_of_cell? hc
    | _ => cases ha
  | _ => cases ha

/-! ### All steps -/

/-- A step that reads leaves the heap exactly as it was, also when it faults. -/
theorem heap_of_reads (hp : st.program r = some p) (hreads : st.reads h = true) :
    (p.run h).heap = h := by
  cases program_form h hp with
  | @action _ a ha =>
    rw [(Program.run_perform_map a _ h).2]
    exact heap_perform_of_reads ha hreads
  | symbol name =>
    rcases Option.isSome_iff_exists.1 hreads with ⟨sym, hsym⟩
    rw [((Program.symbol_runs_known hsym).map fun x => (Answer.word x, r)).run_eq]
  | reading hp' => exact hp'.heap_runAfter h #[] #[]
  | appending _ _ hwrites =>
    rw [hwrites] at hreads
    cases hreads

/-- No step changes a cell that is there, but for the pair that it relinks. -/
theorem get?_of_ne_target (hp : st.program r = some p) (hw : h.get? w = some c)
    (htarget : st.target? r ≠ some w) (hsize : (p.run h).heap.size ≤ Word.capacity) :
    (p.run h).heap.get? w = some c := by
  cases program_form h hp with
  | @action _ a ha =>
    rw [(Program.run_perform_map a _ h).2] at hsize ⊢
    refine (Heap.perform_change h a).get?_of_some hsize hw ?_
    rintro y rfl
    exact htarget (target?_of_action? ha)
  | symbol name =>
    cases hname : h.symbol? name with
    | some sym =>
      rw [((Program.symbol_runs_known hname).map fun x => (Answer.word x, r)).run_eq, hw]
    | none =>
      rw [((Program.symbol_runs_new hname).map fun x => (Answer.word x, r)).run_eq] at hsize ⊢
      rw [Heap.size_pushSymbol] at hsize
      rw [Heap.get?_pushSymbol]
      exact Heap.get?_push_of_some hsize hw
  | reading hp' =>
    rw [Program.run, hp'.heap_runAfter, hw]
  | appending happends => exact happends.get?_runAfter hw htarget (Option.some_ne_none w).symm hsize

/-- A step that makes a single cell puts it at the end and answers its handle. -/
theorem run_of_newCell? (hp : st.program r = some p) (hc : st.newCell? h = some c) :
    (p.run h).result = .ok (.word h.nextHandle, r) ∧ (p.run h).heap.cells = h.cells.push c := by
  cases program_form h hp with
  | @action _ a ha =>
    rcases perform_of_newCell? ha hc with ⟨hresult, hcells⟩
    rcases Program.run_perform_map a (fun x => (Answer.ofAction a x, r)) h with ⟨hrun, hheap⟩
    refine ⟨?_, by rw [hheap, hcells]⟩
    rw [hrun]
    cases hperform : (h.perform a).result with
    | ok x =>
      rw [hperform] at hresult
      have hx : Answer.ofAction a x = .word h.nextHandle := Except.ok.inj hresult
      show Except.ok (Answer.ofAction a x, r) = _
      rw [hx]
    | error f =>
      rw [hperform] at hresult
      cases hresult
  | symbol name =>
    cases hname : h.symbol? name with
    | some sym => simp [newCell?, hname] at hc
    | none =>
      have hcell : Cell.symbol name = c := by simpa [newCell?, hname] using hc
      rw [((Program.symbol_runs_new hname).map fun x => (Answer.word x, r)).run_eq]
      subst hcell
      exact ⟨rfl, rfl⟩
  | reading _ hnew =>
    rw [hnew] at hc
    cases hc
  | appending _ hnew =>
    rw [hnew] at hc
    cases hc

end Step

/-! ## Handles are valid for good -/

namespace Session

/-- On any heap and with any words, a step keeps every cell that is there. Only the pair that
the step relinks can change, and only its cdr; a new cell goes to the end, and its handle is
neither an older one nor an immediate; a step that reads leaves the heap as it was. So over
any script, and over any actions in any order, every handle stays valid and answers as
before, and the cdr of a pair is the one that was set last. -/
theorem handles_stay_valid :
    (∀ (h : Heap) (r : Registers) (st : Step Word) (p : Program (Answer × Registers)),
      st.program r = some p → (p.run h).heap.size ≤ Word.capacity →
      h.size ≤ (p.run h).heap.size ∧
      (∀ w c, h.get? w = some c →
        (p.run h).heap.get? w = some (c.relinked (cdrsSet w (p.run h).calls.toList)) ∧
        (st.target? r ≠ some w → (p.run h).heap.get? w = some c)) ∧
      (∀ c, st.newCell? h = some c →
        (p.run h).result = .ok (.word h.nextHandle, r) ∧
        (p.run h).heap.cells = h.cells.push c ∧
        (p.run h).heap.get? h.nextHandle = some c ∧
        (∀ w, h.Issued w → w ≠ h.nextHandle) ∧
        ∀ code, Word.immediate code ≠ h.nextHandle) ∧
      (st.reads h = true → (p.run h).heap = h)) ∧
    (∀ s script outcomes s', runAfter {} s #[] script = some (outcomes, s') →
      s'.heap.size ≤ Word.capacity → s.heap.Preserved (callsOf outcomes) s'.heap) ∧
    (∀ (h : Heap) (actions : List (Action Word)), (h.after actions).size ≤ Word.capacity →
      h.Preserved (actions.filterMap Action.call?) (h.after actions)) := by
  refine ⟨?_, ?_, Heap.preserved_after⟩
  · intro h r st p hp hsize
    refine ⟨p.size_le_runAfter h #[] #[], ?_, ?_, Step.heap_of_reads hp⟩
    · -- the cells that were there
      intro w c hw
      refine ⟨?_, fun htarget => Step.get?_of_ne_target hp hw htarget hsize⟩
      rcases p.exists_actions h #[] #[] with ⟨actions, hheap, hcalls⟩
      rw [Program.run, hheap] at hsize
      rw [Program.run, hheap, hcalls]
      exact Heap.get?_after actions hw hsize
    · -- the new one
      intro c hc
      rcases Step.run_of_newCell? hp hc with ⟨hresult, hcells⟩
      have hroom : h.size < Word.capacity := by
        have hgrown : (p.run h).heap.size = h.size + 1 := by
          rw [Heap.size, hcells, Array.size_push]
          rfl
        omega
      refine ⟨hresult, hcells, ?_, ?_, ?_⟩
      · rw [Heap.nextHandle, Heap.get?_handle hroom, hcells]
        exact Array.getElem?_push_size
      · intro w hw
        rcases hw.get? (Nat.le_of_lt hroom) with ⟨d, hd⟩
        exact Heap.ne_nextHandle hroom hd
      · -- an immediate has no index, and the new handle has one
        intro code himmediate
        have hindex := Word.cellIndex?_immediate code
        rw [himmediate, Heap.cellIndex?_nextHandle hroom] at hindex
        cases hindex
  · intro s script outcomes s' hs hsize
    rcases exists_actions hs with ⟨actions, hheap, hcalls⟩
    rw [hheap] at hsize ⊢
    rw [hcalls]
    exact Heap.preserved_after s.heap actions hsize

/-- A symbol, a pair, a string, and a builder with one element. -/
def begun : Session :=
  ((run [.symbol "a", .action (.primitive (.binary .cons (.word .boolT) (.word .eol))),
    .action (.newString "text"), .newBuilder, .push 0 (.answerOf 1)]).map Prod.snd).getD {}

/-- The builder goes on, the pair is relinked twice, and a symbol and a handle that is made
up are taken for pairs. -/
def sequel : List (Step Ref) :=
  [.push 0 (.word .eol), .action (.primitive (.binary .setCdr (.answerOf 1) (.word (.handle 9)))),
    .action (.primitive (.binary .setCdr (.answerOf 0) (.word .boolF))), .symbol "b",
    .action (.primitive (.binary .setCdr (.answerOf 1) (.answerOf 0))),
    .action (.primitive (.unary .car (.word (.handle 99))))]

theorem handles_stay_valid_after_relinking :
    (∃ p, (Step.symbol "b").program begun.registers = some p ∧
      (p.run begun.heap).heap.size ≤ Word.capacity ∧
      (p.run begun.heap).result = .ok (.word (.handle 4), begun.registers) ∧
      (p.run begun.heap).heap.get? (.handle 1) = some (.pair .boolT .eol)) ∧
    (∃ outcomes s', runAfter {} begun #[] sequel = some (outcomes, s') ∧
      s'.heap.size ≤ Word.capacity ∧
      (s'.heap.perform (.symbolName (.handle 0))).result = .ok (some "a") ∧
      (s'.heap.perform (.primitive (.unary .cdr (.handle 1)))).result = .ok (.handle 0)) ∧
    (begun.heap.after [.newString "more", .newInstance (.handle 99)]).size ≤ Word.capacity ∧
    ((begun.heap.after [.newString "more", .newInstance (.handle 99)]).perform
      (.primitive (.unary .isString (.handle 2)))).result = .ok true := by
  have hissued : ∀ i < 4, begun.heap.Issued (.handle i) := fun i hi => ⟨i, hi, rfl⟩
  have hlater :
      (begun.heap.after [.newString "more", .newInstance (.handle 99)]).size ≤ Word.capacity := by
    decide
  rcases handles_stay_valid with ⟨hstep, hscript, hactions⟩
  refine ⟨⟨_, rfl, by decide, ?_, ?_⟩, ⟨_, _, rfl, by decide, ?_, ?_⟩, hlater, ?_⟩
  · exact ((hstep begun.heap begun.registers (.symbol "b") _ rfl (by decide)).2.2.1 _ rfl).1
  · exact ((hstep begun.heap begun.registers (.symbol "b") _ rfl (by decide)).2.1 _ _ rfl).2 nofun
  · rw [(hscript begun sequel _ _ rfl (by decide)).answer _ _ rfl (hissued 0 (by decide))]
    rfl
  · exact (hscript begun sequel _ _ rfl (by decide)).cdr _ _ _ rfl
  · rw [(hactions begun.heap _ hlater).answer _ _ rfl (hissued 2 (by decide))]
    rfl

end Session

end ProxyForge
