import ProxyForge.Session
import ProxyForge.Proofs.Heap.Symbols
import ProxyForge.Proofs.Programs
import Mathlib.Logic.Function.Basic
import Mathlib.Data.List.Nodup

/-!
# ProxyForge.Proofs.Interning — threads that intern at the same time

`Traffic` is a heap with the calls that are in progress on it, one for each thread
at most. A move begins a call, or lets a thread do one section of its call: every
operation is a single section, and a symbol that the first lookup misses needs a
second one. Since the moves are arbitrary, so are the interleavings.

Between the two sections of a symbol anything may happen, also that another thread
interns the same name. `Traffic.Inv` holds nevertheless at every moment.
-/

namespace ProxyForge

/-- The action is an operation by itself. Only the two sections of a symbol are not. -/
def Action.IsWhole : Action Word → Prop
  | .lookupSymbol _ | .internSymbol _ => False
  | _ => True

namespace Traffic

/-! ## Calls -/

/-- An operation of the heap. -/
inductive Operation where
  | symbol (name : String)
  | single (a : Action Word) (whole : a.IsWhole)

/-- The sections of an operation. -/
def Operation.program : Operation → Program Answer
  | symbol name => do return .word (← Program.symbol name)
  | single a _ => do return .ofAction a (← Program.perform a)

/-- Whether the operation makes a string, a pair, a class or an instance. -/
def Operation.makesCell : Operation → Bool
  | single (.primitive (.binary .cons _ _)) _ | single (.newString _) _
  | single (.newClass _ _) _ | single (.newInstance _) _ => true
  | _ => false

/-- A call in progress. -/
structure Call where
  op : Operation
  /-- The sections still to do. -/
  rest : Program Answer
  /-- The number of cells that its sections allocated so far. -/
  cells : Nat := 0

/-- A call that has ended. -/
structure Ended where
  thread : Nat
  op : Operation
  result : Except Fault Answer
  /-- The number of cells that its sections allocated. -/
  cells : Nat

/-- The name for which the call allocated a symbol. -/
def Ended.newName? (e : Ended) : Option String :=
  match e.op with
  | .symbol name => if e.cells = 0 then none else some name
  | .single _ _ => none

/-- What can happen next. -/
inductive Move where
  | call (t : Nat) (op : Operation)
  | turn (t : Nat)

end Traffic

/-- A heap and the calls on it, those in progress by their threads, and those that have
ended in order. -/
structure Traffic where
  heap : Heap := {}
  calls : Nat → Option Traffic.Call := fun _ => none
  ended : List Traffic.Ended := []

namespace Traffic

/-- The call of a thread ends. -/
def finish (s : Traffic) (h : Heap) (e : Ended) : Traffic :=
  { heap := h, calls := Function.update s.calls e.thread none, ended := s.ended ++ [e] }

/-- One section of the call of a thread. -/
def turn (s : Traffic) (t : Nat) : Traffic :=
  match s.calls t with
  | none => s
  | some c =>
    let { result, heap, .. } := c.rest.step {} s.heap
    let cells := c.cells + (heap.size - s.heap.size)
    match result with
    | .ok (.done x) => s.finish heap { thread := t, op := c.op, result := .ok x, cells }
    | .ok rest => { s with heap, calls := Function.update s.calls t (some { c with rest, cells }) }
    | .error f => s.finish heap { thread := t, op := c.op, result := .error f, cells }

/-- One move; a thread begins no call before its last one has ended. -/
def step (s : Traffic) : Move → Traffic
  | .call t op =>
    match s.calls t with
    | none => { s with calls := Function.update s.calls t (some { op, rest := op.program }) }
    | some _ => s
  | .turn t => s.turn t

/-- The traffic after the given moves. -/
def run (moves : List Move) : Traffic := moves.foldl step {}

/-- The names for which a call has allocated a symbol. -/
def newNames (s : Traffic) : List String := s.ended.filterMap Ended.newName?

/-- The number of ended calls that made a string, a pair, a class or an instance. -/
def made (s : Traffic) : Nat := s.ended.countP fun e => e.op.makesCell

/-! ## What a section does -/

variable {s : Traffic} {t : Nat} {c : Call} {e : Ended} {h h' : Heap} {a : Action Word}

/-- The second section of a symbol. -/
def intern (name : String) : Program Answer :=
  .act (.internSymbol name) fun w => .done (.word w)

/-- A call in progress has done nothing yet, or it is between the sections of a symbol. -/
def Call.Waits (c : Call) : Prop :=
  c.cells = 0 ∧ (c.rest = c.op.program ∨ ∃ name, c.op = .symbol name ∧ c.rest = intern name)

/-- What the end of a call reports: a symbol that has its name in the table now, and a
name that was new exactly when a symbol was allocated for it. -/
structure Ended.Fits (e : Ended) (h h' : Heap) : Prop where
  symbol : ∀ name, e.op = .symbol name →
    ∃ w, e.result = .ok (.word w) ∧ h'.symbol? name = some w
  fresh : ∀ name, e.newName? = some name → h.symbol? name = none
  size : h'.size = h.size + (if e.op.makesCell then 1 else 0) + e.newName?.toList.length

/-- The two ways in which a symbol that is in the table, or enters it, ends a call. -/
theorem Ended.fits_hit {name : String} {w : Word} (hname : h.symbol? name = some w) :
    Ended.Fits { thread := t, op := .symbol name, result := .ok (.word w), cells := 0 } h h := by
  constructor
  · rintro _ ⟨⟩
    exact ⟨w, rfl, hname⟩
  · rintro _ ⟨⟩
  · rfl

theorem Ended.fits_new {name : String} (hname : h.symbol? name = none) :
    Ended.Fits
      { thread := t, op := .symbol name, result := .ok (.word h.nextHandle), cells := 1 }
      h (h.pushSymbol name) := by
  constructor
  · rintro _ ⟨⟩
    exact ⟨h.nextHandle, rfl, by rw [Heap.symbol?_pushSymbol, if_pos rfl]⟩
  · rintro _ ⟨⟩
    exact hname
  · simp [Operation.makesCell, newName?]

theorem Operation.makesCell_single (whole : a.IsWhole) :
    (Operation.single a whole).makesCell = a.cell?.isSome := by
  cases a with
  | primitive call =>
    cases call with
    | binary p x y => cases p <;> rfl
    | _ => rfl
  | _ => rfl

/-- A single section allocates a cell exactly when it is to make one. -/
theorem Ended.fits_single (whole : a.IsWhole) {result : Except Fault Answer} {cells : Nat} :
    Ended.Fits { thread := t, op := .single a whole, result, cells } h (h.perform a).heap := by
  constructor
  · rintro _ ⟨⟩
  · rintro _ ⟨⟩
  · rw [Operation.makesCell_single]
    have hchange := Heap.perform_change h a
    generalize (h.perform a).heap = h' at hchange
    cases hchange with
    | same _ ha => simp [ha, newName?]
    | allocated _ c ha => simp [ha, newName?]
    | interned name _ => exact whole.elim
    | relinked x y => simp [Action.cell?, newName?]

/-- A call whose next section gives the answer, or a fault, ends with it. -/
theorem turn_of_end {result : Except Fault Answer} (hc : s.calls t = some c)
    (hstep : (c.rest.step {} s.heap).result = result.map .done) :
    s.turn t = s.finish (c.rest.step {} s.heap).heap
      { thread := t, op := c.op, result,
        cells := c.cells + ((c.rest.step {} s.heap).heap.size - s.heap.size) } := by
  unfold turn
  cases result <;> simp [hc, hstep, Except.map]

/-- A call with a single section left ends with what that performs. -/
theorem turn_of_last {f : a.Answer → Answer} (hc : s.calls t = some c)
    (hrest : c.rest = .act a fun x => .done (f x)) :
    s.turn t = s.finish (s.heap.perform a).heap
      { thread := t, op := c.op, result := (s.heap.perform a).result.map f,
        cells := c.cells + ((s.heap.perform a).heap.size - s.heap.size) } := by
  have hperform := Backend.perform_default s.heap a
  have hheap : (c.rest.step {} s.heap).heap = (s.heap.perform a).heap := by
    rw [hrest]
    show (({} : Backend).perform s.heap a).heap = _
    rw [hperform]
  have hresult : (c.rest.step {} s.heap).result =
      ((s.heap.perform a).result.map f).map .done := by
    rw [hrest]
    show (({} : Backend).perform s.heap a).result.map _ = _
    rw [hperform]
    cases (s.heap.perform a).result <;> rfl
  rw [turn_of_end hc hresult, hheap]

/-- The first section of a symbol ends the call when it finds the symbol; else the call
waits for the second one. -/
theorem turn_of_lookup {name : String}
    (hc : s.calls t = some ⟨.symbol name, (Operation.symbol name).program, 0⟩) :
    (∃ w, s.heap.symbol? name = some w ∧
      s.turn t = s.finish s.heap ⟨t, .symbol name, .ok (.word w), 0⟩) ∨
    s.turn t =
      { s with calls := Function.update s.calls t (some ⟨.symbol name, intern name, 0⟩) } := by
  cases hname : s.heap.symbol? name with
  | some w =>
    have hresult : ((Operation.symbol name).program.step {} s.heap).result =
        (Except.ok (.word w) : Except Fault Answer).map .done := by
      show Except.ok _ = _
      rw [hname]
      rfl
    have hturn := turn_of_end hc hresult
    change s.turn t = s.finish s.heap
      ⟨t, .symbol name, .ok (.word w), 0 + (s.heap.size - s.heap.size)⟩ at hturn
    rw [Nat.sub_self] at hturn
    exact .inl ⟨w, rfl, hturn⟩
  | none =>
    right
    have hresult : ((Operation.symbol name).program.step {} s.heap).result =
        .ok (intern name) := by
      show Except.ok _ = _
      rw [hname]
      rfl
    unfold turn
    simp only [hc, hresult, intern]
    show Traffic.mk s.heap (Function.update s.calls t (some
      ⟨.symbol name, _, 0 + (s.heap.size - s.heap.size)⟩)) s.ended = _
    rw [Nat.sub_self]

/-- The second section ends the call with a symbol, whether another thread has interned the
name in between or not. -/
theorem Ended.fits_intern (name : String) :
    Ended.Fits
      { thread := t, op := .symbol name,
        result := (h.perform (.internSymbol name)).result.map .word,
        cells := 0 + ((h.perform (.internSymbol name)).heap.size - h.size) }
      h (h.perform (.internSymbol name)).heap := by
  cases hname : h.symbol? name with
  | some w =>
    have hperform : h.perform (.internSymbol name) = h.answer w := by
      simp only [Heap.perform, hname]
    rw [hperform]
    show Ended.Fits ⟨t, .symbol name, .ok (.word w), 0 + (h.size - h.size)⟩ _ h
    rw [Nat.sub_self]
    exact fits_hit hname
  | none =>
    have hresult : (h.perform (.internSymbol name)).result = .ok h.nextHandle := by
      simp only [Heap.perform, hname, Heap.nextHandle]
    have hheap : (h.perform (.internSymbol name)).heap = h.pushSymbol name := by
      simp only [Heap.perform, hname]
    rw [hresult, hheap, Heap.size_pushSymbol, Nat.zero_add, Nat.add_sub_cancel_left]
    exact fits_new hname

/-- A turn lets the call wait for its second section, with the heap as it was, or ends it
with a fitting report. -/
theorem turn_cases (hc : s.calls t = some c) (hwaits : c.Waits) :
    (∃ c' : Call, c'.Waits ∧
      s.turn t = { s with calls := Function.update s.calls t (some c') }) ∨
    ∃ a e, e.thread = t ∧ e.Fits s.heap (s.heap.perform a).heap ∧
      s.turn t = s.finish (s.heap.perform a).heap e := by
  rcases c with ⟨op, rest, cells⟩
  rcases hwaits with ⟨hzero, hrest⟩
  obtain rfl : cells = 0 := hzero
  rcases hrest with hstart | ⟨name, hop, hsecond⟩
  · obtain rfl : rest = op.program := hstart
    cases op with
    | single a whole =>
      exact .inr ⟨a, _, rfl, Ended.fits_single whole, turn_of_last hc rfl⟩
    | symbol name =>
      rcases turn_of_lookup hc with ⟨w, hname, hturn⟩ | hturn
      · exact .inr ⟨.lookupSymbol name, _, rfl, Ended.fits_hit hname, hturn⟩
      · exact .inl ⟨_, ⟨rfl, .inr ⟨name, rfl, rfl⟩⟩, hturn⟩
  · obtain rfl : op = .symbol name := hop
    have hturn := turn_of_last (a := .internSymbol name) (f := .word) hc hsecond
    exact .inr ⟨.internSymbol name, _, rfl, Ended.fits_intern name, hturn⟩

/-! ## All calls -/

/-- The table agrees with the cells, every call in progress is in order, every symbol that
was answered is in the table, and every cell is accounted for by a call that has ended. -/
structure Inv (s : Traffic) : Prop where
  tabled : s.heap.Tabled
  waits : ∀ t c, s.calls t = some c → c.Waits
  answered : ∀ e ∈ s.ended, ∀ name, e.op = .symbol name →
    ∃ w, e.result = .ok (.word w) ∧ s.heap.symbol? name = some w
  named : ∀ name ∈ s.newNames, s.heap.symbol? name ≠ none
  fresh : s.newNames.Nodup
  size : s.heap.size = s.made + s.newNames.length

theorem init_inv : Inv {} := by
  constructor
  · exact Heap.empty_tabled
  · intro t c hc
    cases hc
  · intro e he
    cases he
  · intro name hname
    cases hname
  · exact List.nodup_nil
  · rfl

/-- A call that begins or waits changes nothing else. -/
theorem Inv.update (hs : s.Inv) (hc : c.Waits) (t : Nat) :
    Inv { s with calls := Function.update s.calls t (some c) } := by
  refine { hs with waits := ?_ }
  intro u d hd
  change Function.update s.calls t (some c) u = some d at hd
  by_cases hu : u = t
  · subst hu
    rw [Function.update_self] at hd
    cases hd
    exact hc
  · rw [Function.update_of_ne hu] at hd
    exact hs.waits u d hd

theorem newNames_finish : (s.finish h e).newNames = s.newNames ++ e.newName?.toList := by
  unfold newNames finish
  rw [List.filterMap_append]
  cases hnew : e.newName? <;> simp [hnew]

theorem made_finish : (s.finish h e).made = s.made + if e.op.makesCell then 1 else 0 := by
  unfold made finish
  rw [List.countP_append, List.countP_singleton]

/-- A name for which a symbol was allocated is the name of the call. -/
theorem Ended.op_of_newName? {name : String} (he : e.newName? = some name) :
    e.op = .symbol name := by
  unfold newName? at he
  split at he
  · next other hop =>
    split at he
    · cases he
    · rw [hop, Option.some.inj he]
  · cases he

/-- The end of a call keeps the invariant when its report fits. -/
theorem Inv.finish (hs : s.Inv) (hchange : Heap.Change s.heap a h')
    (hsize : h'.size ≤ Word.capacity) (he : e.Fits s.heap h') : (s.finish h' e).Inv := by
  constructor
  · exact hs.tabled.change hchange hsize
  · intro u c hc
    by_cases hu : u = e.thread
    · subst hu
      simp [Traffic.finish] at hc
    · simp only [Traffic.finish, Function.update_of_ne hu] at hc
      exact hs.waits u c hc
  · intro e' he' name hname
    rcases List.mem_append.1 he' with hold | hlast
    · rcases hs.answered e' hold name hname with ⟨w, hw, htable⟩
      exact ⟨w, hw, hchange.symbol?_of_some htable⟩
    · obtain rfl := List.mem_singleton.1 hlast
      exact he.symbol name hname
  · intro name hname
    rw [newNames_finish, List.mem_append] at hname
    rcases hname with hold | hnew
    · rcases Option.ne_none_iff_exists'.1 (hs.named name hold) with ⟨w, hw⟩
      have hkept : h'.symbol? name = some w := hchange.symbol?_of_some hw
      simp [Traffic.finish, hkept]
    · have hnew' : e.newName? = some name := by simpa using hnew
      rcases he.symbol name (Ended.op_of_newName? hnew') with ⟨w, -, hw⟩
      simp [Traffic.finish, hw]
  · rw [newNames_finish, List.nodup_append]
    refine ⟨hs.fresh, ?_, ?_⟩
    · cases e.newName? <;> simp
    · -- the name of a new symbol was not in the table, and all earlier ones are
      rintro name hold _ hnew rfl
      have hnew' : e.newName? = some name := by simpa using hnew
      exact hs.named name hold (he.fresh name hnew')
  · rw [newNames_finish, made_finish, List.length_append]
    have hold := hs.size
    have hgrow := he.size
    show h'.size = _
    omega

/-- No move makes the heap smaller. -/
theorem size_le_step (s : Traffic) (m : Move) : s.heap.size ≤ (s.step m).heap.size := by
  cases m with
  | call t op =>
    simp only [step]
    split <;> exact Nat.le_refl _
  | turn t =>
    simp only [step, turn]
    split
    · exact Nat.le_refl _
    · next c _ =>
      have hle := c.rest.step_size_le s.heap
      split <;> exact hle

/-- What has ended is not forgotten. -/
theorem ended_subset_step (s : Traffic) (m : Move) : s.ended ⊆ (s.step m).ended := by
  cases m with
  | call t op =>
    simp only [step]
    split <;> exact List.Subset.refl _
  | turn t =>
    simp only [step, turn]
    split
    · exact List.Subset.refl _
    · split
      · exact List.subset_append_left _ _
      · exact List.Subset.refl _
      · exact List.subset_append_left _ _

theorem ended_subset_run (moves later : List Move) :
    (run moves).ended ⊆ (run (moves ++ later)).ended := by
  unfold run
  rw [List.foldl_append]
  generalize moves.foldl step {} = s
  induction later generalizing s with
  | nil => exact List.Subset.refl _
  | cons m later ih => exact List.Subset.trans (ended_subset_step s m) (ih (s.step m))

theorem Inv.step (hs : s.Inv) (m : Move) (hsize : (s.step m).heap.size ≤ Word.capacity) :
    (s.step m).Inv := by
  cases m with
  | call t op =>
    simp only [Traffic.step]
    split
    · exact hs.update ⟨rfl, .inl rfl⟩ t
    · exact hs
  | turn t =>
    simp only [Traffic.step] at hsize ⊢
    cases hc : s.calls t with
    | none =>
      unfold turn
      rw [hc]
      exact hs
    | some c =>
      rcases turn_cases hc (hs.waits t c hc) with ⟨c', hwaits, hturn⟩ | ⟨a, e, -, hfits, hturn⟩
      · rw [hturn]
        exact hs.update hwaits t
      · rw [hturn] at hsize ⊢
        exact hs.finish (Heap.perform_change s.heap a) hsize hfits

/-- The invariant holds at every moment, as long as the cells fit. -/
theorem run_inv (moves : List Move) (hsize : (run moves).heap.size ≤ Word.capacity) :
    (run moves).Inv :=
  Heap.foldl_invariant Traffic.step Traffic.heap size_le_step Inv
    (fun _ m hs hm => hs.step m hm) moves {} init_inv hsize

/-- No run of moves makes the heap smaller. -/
theorem size_le_run (moves later : List Move) :
    (run moves).heap.size ≤ (run (moves ++ later)).heap.size := by
  unfold run
  rw [List.foldl_append]
  exact Heap.size_le_foldl Traffic.step Traffic.heap size_le_step later _

/-- However the sections of any number of threads follow one another, at every moment: the
table sends a name to a handle exactly when that is the handle of a symbol cell with this
name, and a name has at most one; every call for a symbol that has ended answered a symbol,
which has its name at every later moment too; two such calls answered the same symbol
exactly when they were for the same name; no name was allocated twice; and every cell comes
from a call for a string, a pair, a class or an instance, or from the first allocation for
a name. -/
theorem symbols_stay_unique (moves later : List Move)
    (hsize : (run (moves ++ later)).heap.size ≤ Word.capacity) :
    (∀ name w, (run moves).heap.symbol? name = some w ↔
      (run moves).heap.get? w = some (.symbol name)) ∧
    (∀ name w w', (run moves).heap.get? w = some (.symbol name) →
      (run moves).heap.get? w' = some (.symbol name) → w = w') ∧
    (∀ e ∈ (run moves).ended, ∀ name, e.op = .symbol name →
      ∃ w, e.result = .ok (.word w) ∧
        ((run (moves ++ later)).heap.perform (.symbolName w)).result = .ok (some name)) ∧
    (∀ e ∈ (run moves).ended, ∀ e' ∈ (run moves).ended, ∀ name name' w w',
      e.op = .symbol name → e'.op = .symbol name' →
      e.result = .ok (.word w) → e'.result = .ok (.word w') → (w = w' ↔ name = name')) ∧
    (run moves).newNames.Nodup ∧
    ((run moves).heap.perform .allocated).result =
      .ok ((run moves).made + (run moves).newNames.length) := by
  have hlater := run_inv (moves ++ later) hsize
  have hinv := run_inv moves (Nat.le_trans (size_le_run moves later) hsize)
  refine ⟨hinv.tabled, ?_, ?_, ?_, hinv.fresh, ?_⟩
  · intro name w w'
    exact hinv.tabled.eq_of_get?
  · intro e he name hop
    rcases hlater.answered e (ended_subset_run moves later he) name hop with ⟨w, hw, htable⟩
    refine ⟨w, hw, ?_⟩
    have hname := Heap.symbolName?_eq_some.2 ((hlater.tabled name w).1 htable)
    show Except.ok ((run (moves ++ later)).heap.symbolName? w) = _
    rw [hname]
  · intro e he e' he' name name' w w' hop hop' hw hw'
    rcases hinv.answered e he name hop with ⟨v, hv, htable⟩
    rcases hinv.answered e' he' name' hop' with ⟨v', hv', htable'⟩
    obtain rfl : v = w := by
      rw [hv] at hw
      cases hw
      rfl
    obtain rfl : v' = w' := by
      rw [hv'] at hw'
      cases hw'
      rfl
    constructor
    · rintro rfl
      exact hinv.tabled.symbol?_inj htable htable'
    · rintro rfl
      rw [htable] at htable'
      exact Option.some.inj htable'
  · show Except.ok (run moves).heap.size = _
    rw [hinv.size]

/-- Two threads look the same name up before either of them allocates it, while a third
one makes a pair. -/
def race : List Move :=
  [.call 0 (.symbol "key"), .call 1 (.symbol "key"), .turn 0, .turn 1,
    .call 2 (.single (.primitive (.binary .cons .boolT .eol)) trivial), .turn 1, .turn 2, .turn 0]

theorem symbols_stay_unique_in_race :
    (run (race ++ [.call 0 (.symbol "other"), .turn 0, .turn 0])).heap.size ≤ Word.capacity ∧
    (run race).newNames = ["key"] ∧
    ((run race).heap.perform .allocated).result = .ok 2 := by
  have hsize : (run (race ++ [.call 0 (.symbol "other"), .turn 0, .turn 0])).heap.size ≤
      Word.capacity := by decide
  have h := symbols_stay_unique race _ hsize
  exact ⟨hsize, by decide, h.2.2.2.2.2⟩

end Traffic

end ProxyForge
