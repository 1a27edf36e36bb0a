import ProxyForge.Proofs.Lists.Protocol

/-!
# ProxyForge.Proofs.Lists.Workshop — builders that work at the same time

A `Workshop` is a heap with any number of lists in the making. Its moves are those
of clients that nobody coordinates: they start lists, give values to builders, let
a builder do its next call, and do any other action between two calls. What is
refused is a relinking of a pair that a builder still needs.

* `Job` records of one list what was given so far and which cells were allocated
  in its turns, apart from what the builder itself remembers;
* `Workshop.Inv` says that every list is laid so far and that no two share a cell.
-/

namespace ProxyForge

namespace Workshop

/-! ## Lists in the making -/

/-- Where the making of a list stands. -/
inductive Stage where
  /-- The list is being filled; the builder is at rest when the program is done. -/
  | filling (p : Program ListBuilder)
  /-- The last operation, which ends with the list. -/
  | closing (p : Program Word)
  /-- The client has taken the list for uses of its own. -/
  | released (list : Word)

/-- One list in the making. -/
structure Job where
  stage : Stage
  /-- The values given so far. -/
  given : List Word := []
  /-- The handles of all cells allocated in the turns of this job. -/
  cells : List Word := []

/-- How the making of a list begins. -/
inductive Opening where
  | empty
  | values (vs : List Word)
  | arguments (A : List Word)

/-- What a client asks of a builder at rest, or of a finished list. -/
inductive Order where
  | push (v : Word)
  | extend (vs : List Word)
  | finish
  | release

/-- A list whose making has just begun. -/
def Opening.job : Opening → Job
  | empty => { stage := .filling ListBuilder.new }
  | values vs => { stage := .closing (listOfValues vs), given := vs }
  | arguments A =>
    { stage := .closing (listOfArguments A), given := A.takeWhile (· ≠ .undefined) }

/-- The next call of a list in the making. -/
def Stage.turn (h : Heap) : Stage → Stage × Heap
  | filling p => (filling (Program.resume (p.step {} h).result), (p.step {} h).heap)
  | closing p => (closing (Program.resume (p.step {} h).result), (p.step {} h).heap)
  | released list => (released list, h)

namespace Job

/-- Takes an order; one that comes at the wrong time is not taken. -/
def obey (j : Job) : Order → Job
  | .push v =>
    match j.stage with
    | .filling (.done lb) => { j with stage := .filling (lb.push v), given := j.given ++ [v] }
    | _ => j
  | .extend vs =>
    match j.stage with
    | .filling (.done lb) => { j with stage := .filling (lb.extend vs), given := j.given ++ vs }
    | _ => j
  | .finish =>
    match j.stage with
    | .filling (.done lb) => { j with stage := .closing lb.finish }
    | _ => j
  | .release =>
    match j.stage with
    | .closing (.done list) => { j with stage := .released list }
    | _ => j

/-- Does the next call, and books the cells that it allocates. -/
def turn (j : Job) (h : Heap) : Job × Heap :=
  let (stage, h') := j.stage.turn h
  ({ j with stage, cells := j.cells ++ h.nextHandles (h'.size - h.size) }, h')

/-- Whether the list still needs the pair `x` as it is. -/
def needs (j : Job) (x : Word) : Bool :=
  match j.stage with
  | .released _ => false
  | _ => j.cells.contains x

/-- Whether a call of the builder has faulted. -/
def faulted (j : Job) : Bool :=
  match j.stage with
  | .filling (.fail _) | .closing (.fail _) => true
  | _ => false

end Job

/-- What can happen next. -/
inductive Move where
  | start (o : Opening)
  | order (k : Nat) (o : Order)
  | turn (k : Nat)
  | other (a : Action Word)

end Workshop

/-- A heap with lists in the making. -/
structure Workshop where
  heap : Heap := {}
  jobs : List Workshop.Job := []

namespace Workshop

/-- Whether no list in the making needs a pair that the action relinks. -/
def permits (s : Workshop) : Action Word → Bool
  | .primitive (.binary .setCdr x _) => s.jobs.all fun j => !j.needs x
  | _ => true

/-- One move; an action that is not permitted does not happen. -/
def step (s : Workshop) : Move → Workshop
  | .start o => { s with jobs := s.jobs ++ [o.job] }
  | .order k o => { s with jobs := s.jobs.modify k (·.obey o) }
  | .turn k =>
    match s.jobs[k]? with
    | none => s
    | some j => { heap := (j.turn s.heap).2, jobs := s.jobs.set k (j.turn s.heap).1 }
  | .other a => if s.permits a then { s with heap := (s.heap.perform a).heap } else s

/-- The workshop after the given moves. -/
def run (moves : List Move) : Workshop := moves.foldl step {}

/-! ## One list -/

variable {h h' : Heap} {j : Job} {given ps : List Word} {loose : Option Word}

/-- What is left to do fits the pairs made so far. -/
def Stage.Fits (given ps : List Word) (loose : Option Word) : Stage → Prop
  | filling p => p.Builds given (ListBuilder.Complete given) ps loose
  | closing p => p.Builds given (ListBuilder.Finished given) ps loose
  | released _ => False

/-- A turn keeps the list in order and touches its own cells alone. -/
theorem Stage.Fits.turn {st : Stage} (hst : st.Fits given ps loose)
    (hl : h.Laid given ps loose) (hsize : (st.turn h).2.size ≤ Word.capacity) :
    ∃ ps' loose', (st.turn h).1.Fits given ps' loose' ∧ (st.turn h).2.Laid given ps' loose' ∧
      ps' ++ loose'.toList = ps ++ loose.toList ++ h.nextHandles ((st.turn h).2.size - h.size) ∧
      ∀ w ∉ ps' ++ loose'.toList, (st.turn h).2.get? w = h.get? w := by
  cases st with
  | filling p =>
    rcases Program.Builds.turn hst hl hsize with ⟨p', ps', loose', hturn⟩
    refine ⟨ps', loose', ?_, hturn.laid, hturn.cells_eq, hturn.frame⟩
    show (Program.resume (p.step {} h).result).Builds given _ ps' loose'
    rw [hturn.result]
    exact hturn.builds
  | closing p =>
    rcases Program.Builds.turn hst hl hsize with ⟨p', ps', loose', hturn⟩
    refine ⟨ps', loose', ?_, hturn.laid, hturn.cells_eq, hturn.frame⟩
    show (Program.resume (p.step {} h).result).Builds given _ ps' loose'
    rw [hturn.result]
    exact hturn.builds
  | released list => exact hst.elim

/-- The list is laid so far, or it is no longer the workshop's. -/
def Job.Good (j : Job) (h : Heap) : Prop :=
  (∃ list, j.stage = .released list) ∨
    ∃ ps loose, j.cells = ps ++ loose.toList ∧ h.Laid j.given ps loose ∧
      j.stage.Fits j.given ps loose

/-- A list whose making has just begun is in order. -/
theorem Opening.job_good (o : Opening) (h : Heap) : o.job.Good h := by
  have hlaid : ∀ given, h.Laid given [] none := by
    intro given
    exact ⟨.nil _, by simp, by simp⟩
  right
  refine ⟨[], none, ?_, hlaid _, ?_⟩
  · cases o <;> rfl
  · cases o with
    | empty => exact ListBuilder.new_builds fun lb hb => ⟨hb, rfl⟩
    | values vs => exact listOfValues_builds vs
    | arguments A => exact listOfArguments_builds A

/-- A builder at rest holds all that was given, and it goes on from there. -/
theorem Job.Good.more {lb : ListBuilder} (hj : j.Good h) (hrest : j.stage = .filling (.done lb))
    (vs : List Word) (st : Stage)
    (hst : ∀ ps, ListBuilder.Complete j.given lb ps → st.Fits (j.given ++ vs) ps none) :
    Job.Good { j with stage := st, given := j.given ++ vs } h := by
  rcases hj with ⟨list, hlist⟩ | ⟨ps, loose, hcells, hlaid, hfits⟩
  · rw [hrest] at hlist
    cases hlist
  · rw [hrest] at hfits
    cases hfits with
    | done hb => exact .inr ⟨ps, none, hcells, hlaid.given_append hb.2, hst ps hb⟩

/-- An order keeps a list in order; it makes no call yet. -/
theorem Job.Good.obey (hj : j.Good h) (o : Order) : (j.obey o).Good h := by
  cases o with
  | push v =>
    simp only [Job.obey]
    split
    · next lb hrest =>
      refine hj.more hrest [v] _ fun ps hb => ?_
      have hv : (j.given ++ [v])[ps.length]? = some v := by simp [hb.2]
      refine (ListBuilder.push_builds hb.1 hv).mono fun lb' ps' h => ⟨h.1, ?_⟩
      simp [h.2, hb.2]
    · exact hj
  | extend vs =>
    simp only [Job.obey]
    split
    · next lb hrest =>
      exact hj.more hrest vs _ fun ps hb => ListBuilder.extend_builds j.given vs hb.1 hb.2
    · exact hj
  | finish =>
    simp only [Job.obey]
    split
    · next lb hrest =>
      have hfinish := hj.more hrest [] (.closing lb.finish) fun ps hb => by
        rw [List.append_nil]
        exact ListBuilder.finish_builds hb
      rwa [List.append_nil] at hfinish
    · exact hj
  | release =>
    simp only [Job.obey]
    split
    · exact .inl ⟨_, rfl⟩
    · exact hj

/-- No cell is booked for an order. -/
theorem Job.cells_obey (j : Job) (o : Order) : (j.obey o).cells = j.cells := by
  cases o <;> simp only [Job.obey] <;> split <;> rfl

/-- A builder at rest has counted what was given to it. -/
theorem Job.Good.at_rest {lb : ListBuilder} (hj : j.Good h)
    (hrest : j.stage = .filling (.done lb)) :
    lb.length = j.given.length ∧ lb.isEmpty = j.given.isEmpty := by
  rcases hj with ⟨list, hlist⟩ | ⟨ps, loose, -, -, hfits⟩
  · rw [hrest] at hlist
    cases hlist
  · rw [hrest] at hfits
    cases hfits with
    | done hb =>
      have hlen : lb.length = j.given.length := by rw [hb.1.length, hb.2]
      refine ⟨hlen, ?_⟩
      unfold ListBuilder.isEmpty
      rw [hlen]
      cases j.given <;> rfl

/-- A finished list is made of its own cells, one for each value that was given. -/
theorem Job.Good.finished {list : Word} (hj : j.Good h)
    (hdone : j.stage = .closing (.done list)) :
    h.Segment list j.cells j.given .eol ∧ j.cells.Nodup := by
  rcases hj with ⟨rel, hrel⟩ | ⟨ps, loose, hcells, hlaid, hfits⟩
  · rw [hdone] at hrel
    cases hrel
  · rw [hdone] at hfits
    cases hfits with
    | done hb =>
      have hps : j.cells = ps := by simpa using hcells
      have hseg := hlaid.segment
      rw [hb.2, List.take_length, ← hb.1, ← hps] at hseg
      refine ⟨hseg, ?_⟩
      rw [hcells]
      exact hlaid.nodup

/-- What happens to other cells does not matter to a list that is not released. -/
theorem Job.Good.of_get? (hj : j.Good h)
    (hsame : ∀ w ∈ j.cells, j.needs w → h'.get? w = h.get? w) : j.Good h' := by
  rcases hj with hrel | ⟨ps, loose, hcells, hlaid, hfits⟩
  · exact .inl hrel
  · refine .inr ⟨ps, loose, hcells, hlaid.of_get? fun w hw => ?_, hfits⟩
    rw [← hcells] at hw
    refine hsame w hw ?_
    unfold Job.needs
    split
    · next list hrel =>
      rw [hrel] at hfits
      exact hfits.elim
    · simpa using hw

/-! ## One turn -/

theorem Stage.size_le_turn (st : Stage) (h : Heap) : h.size ≤ (st.turn h).2.size := by
  cases st with
  | filling p => exact p.step_size_le h
  | closing p => exact p.step_size_le h
  | released list => exact Nat.le_refl _

/-- The cells of a list are those it had and those that its turn allocated. -/
theorem Job.cells_turn (j : Job) (h : Heap) :
    (j.turn h).1.cells = j.cells ++ h.nextHandles ((j.turn h).2.size - h.size) := rfl

/-- A turn keeps the list in order and touches its own cells alone. -/
theorem Job.Good.turn (hj : j.Good h) (hsize : (j.turn h).2.size ≤ Word.capacity) :
    (j.turn h).1.Good (j.turn h).2 ∧
      ∀ w ∉ (j.turn h).1.cells, (j.turn h).2.get? w = h.get? w := by
  rw [Job.cells_turn]
  rcases hj with ⟨list, hlist⟩ | ⟨ps, loose, hcells, hlaid, hfits⟩
  · unfold Job.turn
    rw [hlist]
    exact ⟨.inl ⟨list, rfl⟩, fun w _ => rfl⟩
  · rcases hfits.turn hlaid hsize with ⟨ps', loose', hfits', hlaid', hcells', hframe⟩
    rw [← hcells] at hcells'
    refine ⟨.inr ⟨ps', loose', hcells'.symm, hlaid', hfits'⟩, fun w hw => hframe w ?_⟩
    rw [hcells']
    exact hw

/-- A list in order has not faulted. -/
theorem Job.Good.not_faulted (hj : j.Good h) : j.faulted = false := by
  unfold Job.faulted
  rcases hj with ⟨list, hlist⟩ | ⟨ps, loose, -, -, hfits⟩
  · rw [hlist]
  · cases hstage : j.stage with
    | filling p =>
      rw [hstage] at hfits
      cases hfits <;> rfl
    | closing p =>
      rw [hstage] at hfits
      cases hfits <;> rfl
    | released list => rfl

/-! ## All lists -/

/-- Every list is in order, its cells are cells of the heap, and no two lists share one. -/
structure Inv (s : Workshop) : Prop where
  good : ∀ {k : Nat} {j : Job}, s.jobs[k]? = some j → j.Good s.heap
  issued : ∀ {k : Nat} {j : Job}, s.jobs[k]? = some j → ∀ w ∈ j.cells, s.heap.Issued w
  apart : ∀ {k l : Nat} {i j : Job}, s.jobs[k]? = some i → s.jobs[l]? = some j → k ≠ l →
    i.cells.Disjoint j.cells

variable {s : Workshop}

theorem init_inv : Inv {} := by
  constructor <;> simp

/-- No move makes the heap smaller. -/
theorem size_le_step (s : Workshop) (m : Move) : s.heap.size ≤ (s.step m).heap.size := by
  cases m with
  | start o => exact Nat.le_refl _
  | order k o => exact Nat.le_refl _
  | turn k =>
    simp only [step]
    split
    · exact Nat.le_refl _
    · next j _ => exact j.stage.size_le_turn s.heap
  | other a =>
    simp only [step]
    split
    · exact (Heap.perform_change s.heap a).size_le
    · exact Nat.le_refl _

/-- A new list has no cells, so it shares none. -/
theorem Inv.start (hs : s.Inv) (o : Opening) : (s.step (.start o)).Inv := by
  have hcells : o.job.cells = [] := by cases o <;> rfl
  have hjob : ∀ {k : Nat} {j : Job}, (s.step (.start o)).jobs[k]? = some j →
      s.jobs[k]? = some j ∨ j = o.job := by
    intro k j hj
    simp only [step, List.getElem?_append, List.getElem?_singleton] at hj
    split at hj
    · exact .inl hj
    · split at hj
      · exact .inr (Option.some.inj hj).symm
      · cases hj
  constructor
  · intro k j hj
    rcases hjob hj with hj | rfl
    · exact hs.good hj
    · exact o.job_good s.heap
  · intro k j hj
    rcases hjob hj with hj | rfl
    · exact hs.issued hj
    · simp [hcells]
  · intro k l i j hi hj hne
    rcases hjob hi with hi | rfl
    · rcases hjob hj with hj | rfl
      · exact hs.apart hi hj hne
      · simp [hcells]
    · simp [hcells]

theorem Inv.order (hs : s.Inv) (k : Nat) (o : Order) : (s.step (.order k o)).Inv := by
  have hjob : ∀ {l : Nat} {j : Job}, (s.step (.order k o)).jobs[l]? = some j →
      ∃ i, s.jobs[l]? = some i ∧ (j = i ∨ j = i.obey o) := by
    intro l j hj
    simp only [step, List.getElem?_modify] at hj
    split at hj
    · rcases Option.map_eq_some_iff.1 hj with ⟨i, hi, rfl⟩
      exact ⟨i, hi, .inr rfl⟩
    · exact ⟨j, by simpa using hj, .inl rfl⟩
  have hcells : ∀ {i j : Job}, j = i ∨ j = i.obey o → j.cells = i.cells := by
    rintro i j (rfl | rfl)
    · rfl
    · exact i.cells_obey o
  constructor
  · intro l j hj
    rcases hjob hj with ⟨i, hi, rfl | rfl⟩
    · exact hs.good hi
    · exact (hs.good hi).obey o
  · intro l j hj
    rcases hjob hj with ⟨i, hi, hij⟩
    rw [hcells hij]
    exact hs.issued hi
  · intro l m i j hi hj hne
    rcases hjob hi with ⟨i', hi', hii⟩
    rcases hjob hj with ⟨j', hj', hjj⟩
    rw [hcells hii, hcells hjj]
    exact hs.apart hi' hj' hne

/-- An action of another client is permitted only when it leaves the pairs in use alone. -/
theorem Inv.other (hs : s.Inv) (a : Action Word)
    (hsize : (s.step (.other a)).heap.size ≤ Word.capacity) : (s.step (.other a)).Inv := by
  simp only [step] at hsize ⊢
  split at hsize
  · next hpermit =>
    rw [if_pos hpermit]
    have hchange := Heap.perform_change s.heap a
    refine ⟨fun {k j} hj => ?_, fun hj w hw => ?_, hs.apart⟩
    · -- a relinked pair is not needed by the list
      refine (hs.good hj).of_get? fun w hw hneeds => ?_
      rcases (hs.issued hj w hw).get? (Nat.le_trans hchange.size_le hsize) with ⟨c, hc⟩
      rw [hc]
      refine hchange.get?_of_some hsize hc ?_
      rintro y rfl
      have hall := List.all_eq_true.1 hpermit j (List.mem_of_getElem? hj)
      simp [hneeds] at hall
    · exact (hs.issued hj w hw).mono hchange.size_le
  · next hpermit =>
    rw [if_neg hpermit]
    exact hs

/-- The cells of another list are older than those of a turn, and were apart before. -/
theorem Inv.disjoint_turn (hs : s.Inv) {k l : Nat} {i j : Job} (hj : s.jobs[k]? = some j)
    (hi : s.jobs[l]? = some i) (hlk : l ≠ k)
    (hsize : (j.turn s.heap).2.size ≤ Word.capacity) :
    i.cells.Disjoint (j.turn s.heap).1.cells := by
  have hle : s.heap.size ≤ (j.turn s.heap).2.size := j.stage.size_le_turn s.heap
  rw [Job.cells_turn, List.disjoint_append_right]
  refine ⟨hs.apart hi hj hlk, fun w hw hnew => ?_⟩
  exact (hs.issued hi w hw).not_mem_nextHandles (by omega) hnew

/-- The cells booked in a turn are cells of the heap after it. -/
theorem Inv.issued_turn (hs : s.Inv) {k : Nat} {j : Job} (hj : s.jobs[k]? = some j) {w : Word}
    (hw : w ∈ (j.turn s.heap).1.cells) : (j.turn s.heap).2.Issued w := by
  have hle : s.heap.size ≤ (j.turn s.heap).2.size := j.stage.size_le_turn s.heap
  rw [Job.cells_turn, List.mem_append] at hw
  rcases hw with hw | hw
  · exact (hs.issued hj w hw).mono hle
  · rcases Heap.mem_nextHandles.1 hw with ⟨n, -, hn, rfl⟩
    exact ⟨n, by omega, rfl⟩

/-- A turn of one list does not touch the cells of the others. -/
theorem Inv.turn (hs : s.Inv) (k : Nat)
    (hsize : (s.step (.turn k)).heap.size ≤ Word.capacity) : (s.step (.turn k)).Inv := by
  cases hk : s.jobs[k]? with
  | none =>
    simp only [step, hk]
    exact hs
  | some j =>
    simp only [step, hk] at hsize ⊢
    rcases (hs.good hk).turn hsize with ⟨hgood, hframe⟩
    have hle : s.heap.size ≤ (j.turn s.heap).2.size := j.stage.size_le_turn s.heap
    have hjob : ∀ {l : Nat} {i : Job}, (s.jobs.set k (j.turn s.heap).1)[l]? = some i →
        l = k ∧ i = (j.turn s.heap).1 ∨ l ≠ k ∧ s.jobs[l]? = some i := by
      intro l i hi
      by_cases hlk : l = k
      · subst hlk
        rw [List.getElem?_set_self (List.getElem?_eq_some_iff.1 hk).1] at hi
        exact .inl ⟨rfl, (Option.some.inj hi).symm⟩
      · rw [List.getElem?_set_ne (Ne.symm hlk)] at hi
        exact .inr ⟨hlk, hi⟩
    constructor
    · -- the list itself is in order after its turn, and the others are not touched
      intro l i hi
      rcases hjob hi with ⟨rfl, rfl⟩ | ⟨hlk, hold⟩
      · exact hgood
      · refine (hs.good hold).of_get? fun w hw _ => hframe w fun hmem => ?_
        exact hs.disjoint_turn hk hold hlk hsize hw hmem
    · intro l i hi w hw
      rcases hjob hi with ⟨rfl, rfl⟩ | ⟨hlk, hold⟩
      · exact hs.issued_turn hk hw
      · exact (hs.issued hold w hw).mono hle
    · intro l m i i' hi hi' hne
      rcases hjob hi with ⟨rfl, rfl⟩ | ⟨hlk, hold⟩
      · rcases hjob hi' with ⟨rfl, rfl⟩ | ⟨hmk, hold'⟩
        · exact absurd rfl hne
        · exact List.disjoint_symm (hs.disjoint_turn hk hold' hmk hsize)
      · rcases hjob hi' with ⟨rfl, rfl⟩ | ⟨hmk, hold'⟩
        · exact hs.disjoint_turn hk hold hlk hsize
        · exact hs.apart hold hold' hne

theorem Inv.step (hs : s.Inv) (m : Move) (hsize : (s.step m).heap.size ≤ Word.capacity) :
    (s.step m).Inv := by
  cases m with
  | start o => exact hs.start o
  | order k o => exact hs.order k o
  | turn k => exact hs.turn k hsize
  | other a => exact hs.other a hsize

/-- The invariant holds after any moves, as long as the cells fit. -/
theorem run_inv (moves : List Move) (hsize : (run moves).heap.size ≤ Word.capacity) :
    (run moves).Inv :=
  Heap.foldl_invariant step Workshop.heap size_le_step Inv
    (fun _ m hs hm => hs.step m hm) moves {} init_inv hsize

/-- However many lists are in the making, and whatever happens between two calls of a
builder: a builder at rest has counted the values given to it; a finished list is the chain
of the cells allocated for it, one for each value, and an iterator yields the values in
order; no two lists share a cell; and the next call of a builder does not fault, and
changes no cell but its own. -/
theorem builders_keep_apart (moves : List Move)
    (hsize : (run moves).heap.size ≤ Word.capacity) (k : Nat) (j : Job)
    (hj : (run moves).jobs[k]? = some j) :
    (∀ lb, j.stage = .filling (.done lb) →
      lb.length = j.given.length ∧ lb.isEmpty = j.given.isEmpty) ∧
    (∀ list, j.stage = .closing (.done list) →
      (run moves).heap.Segment list j.cells j.given .eol ∧
      j.cells.length = j.given.length ∧ j.cells.Nodup ∧
      (j.given = [] → list = .eol) ∧
      ∀ limit, ((listTake list limit).run (run moves).heap).result =
        .ok (j.given.take limit).toArray) ∧
    (∀ l i, (run moves).jobs[l]? = some i → l ≠ k → j.cells.Disjoint i.cells) ∧
    (((run moves).step (.turn k)).heap.size ≤ Word.capacity →
      ∃ j', ((run moves).step (.turn k)).jobs[k]? = some j' ∧ j'.faulted = false ∧
        ∀ w ∉ j'.cells, ((run moves).step (.turn k)).heap.get? w = (run moves).heap.get? w) := by
  have hinv := run_inv moves hsize
  have hgood := hinv.good hj
  refine ⟨fun lb hrest => hgood.at_rest hrest, ?_, ?_, ?_⟩
  · -- a finished list
    intro list hdone
    rcases hgood.finished hdone with ⟨hseg, hnodup⟩
    refine ⟨hseg, hseg.length_eq, hnodup, ?_, ?_⟩
    · intro hnil
      have hcells : j.cells = [] := by
        rw [← List.length_eq_zero_iff, hseg.length_eq, hnil]
        rfl
      rw [hcells] at hseg
      exact hseg.eq_of_nil.1
    · intro limit
      exact listTake_of_segment hseg rfl limit
  · intro l i hi hlk
    exact hinv.apart hj hi (Ne.symm hlk)
  · -- the next call
    intro hnext
    have hnext' : (j.turn (run moves).heap).2.size ≤ Word.capacity := by
      simpa only [step, hj] using hnext
    rcases hgood.turn hnext' with ⟨hgood', hframe⟩
    refine ⟨(j.turn (run moves).heap).1, ?_, hgood'.not_faulted, ?_⟩
    · simp only [step, hj]
      exact List.getElem?_set_self (List.getElem?_eq_some_iff.1 hj).1
    · simp only [step, hj]
      exact hframe

/-- Two lists made call by call in turns, with a string in between and a relinking that is
not permitted. -/
def twoAtOnce : List Move :=
  [.start .empty, .start (.values [.boolT, .boolF]), .turn 0, .turn 1,
    .order 0 (.push .undefined), .turn 0, .turn 1, .turn 0, .turn 1, .other (.newString "text"),
    .order 0 (.extend [.eol]), .turn 0, .turn 1, .turn 0, .turn 1,
    .other (.primitive (.binary .setCdr (.handle 0) .boolT)), .turn 1, .turn 0,
    .order 0 .finish, .turn 0, .turn 1]

theorem builders_keep_apart_twice :
    (run twoAtOnce).heap.size ≤ Word.capacity ∧
    ((listTake (.handle 0) 9).run (run twoAtOnce).heap).result = .ok #[.undefined, .eol] ∧
    ((listTake (.handle 1) 9).run (run twoAtOnce).heap).result = .ok #[.boolT, .boolF] := by
  have hsize : (run twoAtOnce).heap.size ≤ Word.capacity := by decide
  refine ⟨hsize, ?_, ?_⟩
  · have h := builders_keep_apart twoAtOnce hsize 0
      ⟨.closing (.done (.handle 0)), [.undefined, .eol], [.handle 0, .handle 3]⟩ rfl
    exact (h.2.1 _ rfl).2.2.2.2 9
  · have h := builders_keep_apart twoAtOnce hsize 1
      ⟨.closing (.done (.handle 1)), [.boolT, .boolF], [.handle 1, .handle 4]⟩ rfl
    exact (h.2.1 _ rfl).2.2.2.2 9

end Workshop

end ProxyForge
