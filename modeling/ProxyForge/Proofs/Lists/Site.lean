import ProxyForge.Proofs.Lists.Appending
import ProxyForge.Proofs.Lists.Endings
import ProxyForge.Session

/-!
# ProxyForge.Proofs.Lists.Site — list functions at work on one heap

A `Site` is a heap with any number of builders and list functions under way. Its moves
are single calls in any order: one call of a function that is under way, or any other
operation on the heap. Two things are refused: a pair is relinked by builders alone,
and nobody else uses a handle before its cell exists.

* `Task.Owns` says which pairs a task may still link: its last one and the one that it
  has made but not linked yet;
* `Site.Inv` says that the heap is grounded and that no pair has two owners, so that
  the cdr of an unlinked pair is still the empty list when its turn comes.
-/

namespace ProxyForge

namespace Site

/-! ## Tasks -/

/-- What a task ends with: a builder at rest, or an answer. -/
inductive Product where
  | builder (lb : ListBuilder)
  | answer (a : Answer)

/-- A builder or a list function under way. -/
abbrev Task := Program Product

/-- What can be begun. -/
inductive Work where
  | builder
  | ofValues (vs : List Word)
  | ofArguments (A : List Word)
  | ofTerminated (A : List Word)
  | take (list : Word) (limit : Nat)
  | length (list : Word)

/-- What a builder at rest can be asked for. -/
inductive Order where
  | push (v : Word)
  | extend (vs : List Word)
  | finish

/-- The calls of a work. -/
def Work.task : Work → Task
  | builder => do return .builder (← ListBuilder.new)
  | ofValues vs => do return .answer (.word (← listOfValues vs))
  | ofArguments A => do return .answer (.word (← listOfArguments (← argumentArray A)))
  | ofTerminated A => do return .answer (.ofWord? (← listOfTerminated? A))
  | take list limit => do return .answer (.words (← listTake list limit))
  | length list => do return .answer (.number (← listLength list))

/-- The calls of an order. -/
def Order.task (lb : ListBuilder) : Order → Task
  | push v => do return .builder (← lb.push v)
  | extend vs => do return .builder (← lb.extend vs)
  | finish => do return .answer (.word (← lb.finish))

/-- A task with an order to its builder, which is taken only when the builder is at rest. -/
def obey (o : Order) : Task → Task
  | .done (.builder lb) => o.task lb
  | t => t

/-- Whether the action relinks a pair. -/
def relinks : Action Word → Bool
  | .primitive (.binary .setCdr _ _) => true
  | _ => false

/-- What can happen next. -/
inductive Move where
  | operate (a : Action Word)
  | start (w : Work)
  | order (k : Nat) (o : Order)
  | turn (k : Nat)

end Site

/-- A heap with tasks under way. -/
structure Site where
  heap : Heap := {}
  tasks : List Site.Task := []

namespace Site

/-- One move. An operation that relinks a pair, or that is given a word which is not known,
does not happen. -/
def step (s : Site) : Move → Site
  | .operate a =>
    if relinks a = false ∧ s.heap.Admits a then { s with heap := (s.heap.perform a).heap } else s
  | .start w => { s with tasks := s.tasks ++ [w.task] }
  | .order k o => { s with tasks := s.tasks.modify k (obey o) }
  | .turn k =>
    match s.tasks[k]? with
    | none => s
    | some t =>
      { heap := (t.step {} s.heap).heap,
        tasks := s.tasks.set k (Program.resume (t.step {} s.heap).result) }

/-- The site after the given moves. -/
def run (moves : List Move) : Site := moves.foldl step {}

/-! ## One task -/

/-- What a task leaves for the next order: a builder remembers its last pair. -/
def Product.Fits : Product → Option Word → Prop
  | .builder lb, last => lb.last = last
  | .answer _, _ => True

theorem Work.task_appends (w : Work) : w.task.Appends Product.Fits none none := by
  cases w with
  | builder => exact ListBuilder.new_appends.map fun lb last hlast => hlast
  | ofValues vs => exact (listOfValues_appends vs).map fun _ _ _ => trivial
  | ofArguments A => exact (listOfArgumentArray_appends A).map fun _ _ _ => trivial
  | ofTerminated A => exact (listOfTerminated?_appends A).map fun _ _ _ => trivial
  | take list limit =>
    exact ((listTake_looks list limit).reads.appends_anything none).map fun _ _ _ => trivial
  | length list =>
    exact ((listLength_looks list).reads.appends_anything none).map fun _ _ _ => trivial

theorem Order.task_appends (lb : ListBuilder) (o : Order) :
    (o.task lb).Appends Product.Fits lb.last none := by
  cases o with
  | push v => exact (lb.push_appends v).map fun lb' last hlast => hlast
  | extend vs => exact (lb.extend_appends vs).map fun lb' last hlast => hlast
  | finish => exact (lb.finish_appends lb.last).map fun _ _ _ => trivial

/-- An order is taken at rest only, so the task goes on behind the pair that it stopped at. -/
theorem obey_appends {t : Task} {last loose : Option Word} (o : Order)
    (ht : t.Appends Product.Fits last loose) : (obey o t).Appends Product.Fits last loose := by
  cases ht with
  | @done a last ha =>
    cases a with
    | builder lb =>
      obtain rfl : lb.last = last := ha
      exact o.task_appends lb
    | answer a => exact .done ha
  | fail => exact .fail
  | emit hnext => exact .emit hnext
  | read hreads hnext => exact .read hreads hnext
  | first hnext => exact .first hnext
  | further hnext => exact .further hnext
  | link hnext => exact .link hnext

/-! ## Pairs of a task -/

variable {h h' : Heap} {last loose last' loose' : Option Word} {w : Word} {c : Cell}

/-- The last pair and the unlinked one are two pairs, and the unlinked one ends at once. -/
structure Tail (h : Heap) (last loose : Option Word) : Prop where
  last_pair : ∀ l, last = some l → ∃ v d, h.get? l = some (.pair v d)
  loose_pair : ∀ p, loose = some p → ∃ v, h.get? p = some (.pair v .eol)
  ne : ∀ l p, last = some l → loose = some p → l ≠ p

theorem Tail.get? (ht : Tail h last loose) (hw : last = some w ∨ loose = some w) :
    ∃ c, h.get? w = some c := by
  rcases hw with hw | hw
  · rcases ht.last_pair w hw with ⟨v, d, hget⟩
    exact ⟨_, hget⟩
  · rcases ht.loose_pair w hw with ⟨v, hget⟩
    exact ⟨_, hget⟩

/-- What happens to other cells does not matter. -/
theorem Tail.of_get? (ht : Tail h last loose)
    (hsame : ∀ w, last = some w ∨ loose = some w → h'.get? w = h.get? w) : Tail h' last loose := by
  refine ⟨?_, ?_, ht.ne⟩
  · intro l hl
    rw [hsame l (.inl hl)]
    exact ht.last_pair l hl
  · intro p hp
    rw [hsame p (.inr hp)]
    exact ht.loose_pair p hp

theorem tail_none (h : Heap) : Tail h none none := ⟨nofun, nofun, nofun⟩

/-- A turn leaves the pairs of its task in order. -/
theorem Tail.extension (ht : Tail h last loose) (hx : h.Extension last loose h' last' loose')
    (hsize : h'.size ≤ Word.capacity) : Tail h' last' loose' := by
  cases hx with
  | same => exact ht
  | first v =>
    rw [Heap.size_push] at hsize
    refine ⟨?_, nofun, nofun⟩
    rintro l ⟨⟩
    exact ⟨v, .eol, Heap.get?_push_nextHandle hsize⟩
  | further l v =>
    rw [Heap.size_push] at hsize
    rcases ht.last_pair l rfl with ⟨u, d, hl⟩
    constructor
    · rintro _ ⟨⟩
      exact ⟨u, d, Heap.get?_push_of_some hsize hl⟩
    · rintro _ ⟨⟩
      exact ⟨v, Heap.get?_push_nextHandle hsize⟩
    · rintro _ _ ⟨⟩ ⟨⟩
      exact Heap.ne_nextHandle hsize hl
  | @link l p car cdr hl =>
    rcases ht.loose_pair p rfl with ⟨v, hp⟩
    refine ⟨?_, nofun, nofun⟩
    rintro _ ⟨⟩
    refine ⟨v, .eol, ?_⟩
    rw [Heap.get?_setCdr_of_ne (Ne.symm (ht.ne l p rfl rfl)), hp]

/-- A turn keeps the heap grounded: a new pair ends at once, and the last pair is linked to
one that does. -/
theorem Tail.grounded (ht : Tail h last loose) (hx : h.Extension last loose h' last' loose')
    (hg : h.Grounded) (hsize : h'.size ≤ Word.capacity) : h'.Grounded := by
  have hpair : ∀ v, h.size < Word.capacity → (h.push (.pair v .eol)).Grounded := by
    intro v hroom
    refine hg.push hroom ?_
    rintro _ _ ⟨⟩
    exact Heap.knows_eol
  cases hx with
  | same => exact hg
  | first v =>
    rw [Heap.size_push] at hsize
    exact hpair v hsize
  | further l v =>
    rw [Heap.size_push] at hsize
    exact hpair v hsize
  | @link l p car cdr hl =>
    rcases ht.loose_pair p rfl with ⟨v, hp⟩
    exact hg.setCdr hl hp rfl (ht.ne l p rfl rfl)

/-- A turn changes no cell but the last pair of its task. -/
theorem get?_of_extension (hx : h.Extension last loose h' last' loose')
    (hsize : h'.size ≤ Word.capacity) (hw : h.get? w = some c) (hlast : last ≠ some w) :
    h'.get? w = some c := by
  cases hx with
  | same => exact hw
  | first v =>
    rw [Heap.size_push] at hsize
    exact Heap.get?_push_of_some hsize hw
  | further l v =>
    rw [Heap.size_push] at hsize
    exact Heap.get?_push_of_some hsize hw
  | @link l p car cdr hl =>
    have hne : w ≠ l := by
      rintro rfl
      exact hlast rfl
    rw [Heap.get?_setCdr_of_ne hne, hw]

/-- A pair of the task after its turn was one before, or it had no cell yet. -/
theorem old_or_new_of_extension (hx : h.Extension last loose h' last' loose')
    (hsize : h'.size ≤ Word.capacity) (hw : last' = some w ∨ loose' = some w) :
    (last = some w ∨ loose = some w) ∨ h.get? w = none := by
  cases hx with
  | same => exact .inl hw
  | first v =>
    rw [Heap.size_push] at hsize
    rcases hw with ⟨⟨⟩⟩ | ⟨⟨⟩⟩
    exact .inr (Heap.get?_nextHandle hsize)
  | further l v =>
    rw [Heap.size_push] at hsize
    rcases hw with hw | ⟨⟨⟩⟩
    · exact .inl (.inl hw)
    · exact .inr (Heap.get?_nextHandle hsize)
  | link hl =>
    rcases hw with hw | ⟨⟨⟩⟩
    exact .inl (.inr hw)

/-! ## All tasks -/

/-- The task keeps to the order of calls, and the pairs that it may still link are its own. -/
def Owns (h : Heap) (mine : Word → Prop) (t : Task) : Prop :=
  ∃ last loose, t.Appends Product.Fits last loose ∧ Tail h last loose ∧
    ∀ w, last = some w ∨ loose = some w → mine w

/-- The heap is grounded, and every task owns the pairs that it may still link. A pair has
one owner at most. -/
structure Inv (s : Site) : Prop where
  grounded : s.heap.Grounded
  owned : ∃ owner : Word → Option Nat, ∀ k t, s.tasks[k]? = some t →
    Owns s.heap (fun w => owner w = some k) t

variable {s : Site}

theorem init_inv : Inv {} := by
  constructor
  · exact Heap.empty_grounded
  · refine ⟨fun _ => none, ?_⟩
    intro k t ht
    cases ht

/-- No move makes the heap smaller. -/
theorem size_le_step (s : Site) (m : Move) : s.heap.size ≤ (s.step m).heap.size := by
  cases m with
  | operate a =>
    simp only [step]
    split
    · exact (Heap.perform_change s.heap a).size_le
    · exact Nat.le_refl _
  | start w => exact Nat.le_refl _
  | order k o => exact Nat.le_refl _
  | turn k =>
    simp only [step]
    split
    · exact Nat.le_refl _
    · next t _ => exact t.step_size_le s.heap

/-- An operation that relinks nothing keeps every cell, and a new pair has a known cdr. -/
theorem Inv.operate (hs : s.Inv) {a : Action Word} (hrelinks : relinks a = false)
    (ha : s.heap.Admits a) (hsize : (s.heap.perform a).heap.size ≤ Word.capacity) :
    Inv { s with heap := (s.heap.perform a).heap } := by
  have hchange := Heap.perform_change s.heap a
  constructor
  · show (s.heap.perform a).heap.Grounded
    generalize (s.heap.perform a).heap = h' at hchange hsize
    cases hchange with
    | same => exact hs.grounded
    | allocated _ c hcell =>
      rw [Heap.size_push] at hsize
      refine hs.grounded.push hsize ?_
      rintro v d rfl
      exact ha d (Action.cdr_mem_words hcell)
    | interned name =>
      rw [Heap.size_pushSymbol] at hsize
      have hpush : (s.heap.push (.symbol name)).Grounded := hs.grounded.push hsize nofun
      exact hpush.of_get? (by simp) fun w => Heap.get?_pushSymbol
    | relinked => cases hrelinks
  · rcases hs.owned with ⟨owner, howner⟩
    refine ⟨owner, ?_⟩
    intro k t ht
    rcases howner k t ht with ⟨last, loose, happends, htail, hmine⟩
    -- the pairs of a task have their cells already, and those are kept
    refine ⟨last, loose, happends, htail.of_get? ?_, hmine⟩
    intro w hw
    rcases htail.get? hw with ⟨c, hc⟩
    rw [hc]
    refine hchange.get?_of_some hsize hc ?_
    rintro y rfl
    cases hrelinks

/-- A new task owns nothing yet. -/
theorem Inv.start (hs : s.Inv) (w : Work) : (s.step (.start w)).Inv := by
  refine ⟨hs.grounded, ?_⟩
  rcases hs.owned with ⟨owner, howner⟩
  refine ⟨owner, ?_⟩
  intro k t ht
  simp only [step, List.getElem?_append, List.getElem?_singleton] at ht
  split at ht
  · exact howner k t ht
  · split at ht
    · obtain rfl := Option.some.inj ht
      exact ⟨none, none, w.task_appends, tail_none _, nofun⟩
    · cases ht

theorem Inv.order (hs : s.Inv) (k : Nat) (o : Order) : (s.step (.order k o)).Inv := by
  refine ⟨hs.grounded, ?_⟩
  rcases hs.owned with ⟨owner, howner⟩
  refine ⟨owner, ?_⟩
  intro l t ht
  simp only [step, List.getElem?_modify] at ht
  split at ht
  · rcases Option.map_eq_some_iff.1 ht with ⟨t', ht', rfl⟩
    rcases howner l t' ht' with ⟨last, loose, happends, htail, hmine⟩
    exact ⟨last, loose, obey_appends o happends, htail, hmine⟩
  · exact howner l t (by simpa using ht)

/-- A turn of one task does not touch the pairs of the others, for they have other owners,
and a new pair is its own. -/
theorem Inv.turn (hs : s.Inv) (k : Nat) (hsize : (s.step (.turn k)).heap.size ≤ Word.capacity) :
    (s.step (.turn k)).Inv := by
  cases hk : s.tasks[k]? with
  | none =>
    simp only [step, hk]
    exact hs
  | some t =>
    simp only [step, hk] at hsize ⊢
    rcases hs.owned with ⟨owner, howner⟩
    rcases howner k t hk with ⟨last, loose, happends, htail, hmine⟩
    rcases happends.turn s.heap with ⟨last', loose', hx, happends'⟩
    refine ⟨htail.grounded hx hs.grounded hsize, ?_⟩
    -- a word that gets its cell now belongs to the task from now on
    refine ⟨fun w => if s.heap.get? w = none then some k else owner w, ?_⟩
    intro l u hu
    by_cases hlk : l = k
    · -- the task itself
      subst hlk
      rw [List.getElem?_set_self (List.getElem?_eq_some_iff.1 hk).1] at hu
      obtain rfl := Option.some.inj hu
      refine ⟨last', loose', happends', htail.extension hx hsize, ?_⟩
      intro w hw
      rcases old_or_new_of_extension hx hsize hw with hold | hnew
      · rcases htail.get? hold with ⟨c, hc⟩
        simp only [hc, reduceCtorEq, if_false]
        exact hmine w hold
      · simp only [hnew, if_true]
    · -- another task
      rw [List.getElem?_set_ne (Ne.symm hlk)] at hu
      rcases howner l u hu with ⟨last₂, loose₂, happends₂, htail₂, hmine₂⟩
      refine ⟨last₂, loose₂, happends₂, htail₂.of_get? ?_, ?_⟩
      · intro w hw
        rcases htail₂.get? hw with ⟨c, hc⟩
        rw [hc]
        refine get?_of_extension hx hsize hc ?_
        -- a relinked pair would have both tasks as its owner
        intro hlast
        have hk' : owner w = some k := hmine w (.inl hlast)
        have hl' : owner w = some l := hmine₂ w hw
        rw [hk'] at hl'
        exact hlk (Option.some.inj hl').symm
      · intro w hw
        rcases htail₂.get? hw with ⟨c, hc⟩
        simp only [hc, reduceCtorEq, if_false]
        exact hmine₂ w hw

/-- Every move keeps the invariant as long as the cells fit. -/
theorem Inv.step (hs : s.Inv) (m : Move) (hsize : (s.step m).heap.size ≤ Word.capacity) :
    (s.step m).Inv := by
  cases m with
  | operate a =>
    simp only [Site.step] at hsize ⊢
    split at hsize
    · next hadmitted =>
      rw [if_pos hadmitted]
      exact hs.operate hadmitted.1 hadmitted.2 hsize
    · next hrefused =>
      rw [if_neg hrefused]
      exact hs
  | start w => exact hs.start w
  | order k o => exact hs.order k o
  | turn k => exact hs.turn k hsize

theorem run_inv (moves : List Move) (hsize : (run moves).heap.size ≤ Word.capacity) :
    (run moves).Inv := by
  refine Heap.foldl_invariant step Site.heap size_le_step Inv ?_ moves {} init_inv hsize
  intro s m hs hnext
  exact hs.step m hnext

/-! ## Lists of a site -/

/-- On the heap that any moves left, the way along the cdrs ends from every value, after at
most as many steps as there are pairs. A walk along it ends with as many elements as its
length says, and a pair in front makes it longer by one. -/
theorem every_list_ends (moves : List Move) (hsize : (run moves).heap.size ≤ Word.capacity)
    (w : Word) :
    ∃ ps vs e,
      (run moves).heap.Segment w ps vs e ∧ (run moves).heap.pair? e = none ∧
      ps.length ≤ (run moves).heap.pairs.length ∧
      (run moves).heap.pairs.length ≤ (run moves).heap.size ∧
      vs.length = ps.length ∧
      ((listLength w).run (run moves).heap).result = .ok ps.length ∧
      (∀ limit, ps.length < limit →
        ((ListIter.count 0 ⟨w⟩ limit).run (run moves).heap).result = .ok ps.length) ∧
      (∀ limit, ((listTake w limit).run (run moves).heap).result =
        .ok (vs.take limit).toArray) ∧
      (∀ a, (run moves).heap.Knows w → (run moves).heap.size < Word.capacity →
        ((Program.cons a w >>= listLength).run (run moves).heap).result =
          .ok (ps.length + 1)) := by
  have hg : (run moves).heap.Grounded := (run_inv moves hsize).grounded
  generalize (run moves).heap = h at hg
  rcases hg.ends w with ⟨ps, vs, e, hs, he⟩
  refine ⟨ps, vs, e, hs, he, hs.length_le_pairs he, h.length_pairs_le, hs.length_eq.symm,
    ?_, ?_, listTake_of_segment hs he, ?_⟩
  · rcases listLength_runs hs he with ⟨cs, hcs⟩
    rw [hcs.run_eq]
  · intro limit hlimit
    rcases ListIter.count_of_segment hs he 0 hlimit with ⟨cs, hcs⟩
    rw [hcs.run_eq, Nat.zero_add]
  · intro a hw hroom
    rcases listLength_cons_runs hg hroom hw hs he a with ⟨h', cs, es, hcs⟩
    rw [hcs.run_eq]

/-- A pair in front of a list that its builder goes on with, beside a second builder. A
relinking that would close a circle and a cdr that is made up do not happen. -/
def interwoven : List Move :=
  [.start .builder, .start .builder, .turn 0, .turn 1, .order 0 (.push .boolT), .turn 0, .turn 0,
    .operate (.primitive (.binary .cons .boolF (.handle 0))),
    .order 1 (.push (.handle 1)), .turn 1, .order 0 (.push .undefined), .turn 0, .turn 1, .turn 0,
    .operate (.primitive (.binary .setCdr (.handle 0) (.handle 1))),
    .operate (.primitive (.binary .cons .boolT (.handle 4))), .turn 0]

theorem every_list_ends_when_interwoven :
    (run interwoven).heap.size = 4 ∧ (run interwoven).heap.size ≤ Word.capacity ∧
    (run interwoven).heap.Knows (.handle 1) ∧
    ((ListIter.count 0 ⟨.handle 1⟩ 1000).run (run interwoven).heap).result = .ok 3 ∧
    ((Program.cons .eol (.handle 1) >>= listLength).run (run interwoven).heap).result =
      .ok 4 := by
  have hsize : (run interwoven).heap.size ≤ Word.capacity := by decide
  have hknown : (run interwoven).heap.Knows (.handle 1) := by decide
  refine ⟨by decide, hsize, hknown, ?_⟩
  rcases every_list_ends interwoven hsize (.handle 1) with
    ⟨ps, vs, e, -, -, -, -, -, hlength, hcount, -, hcons⟩
  have hthree : ps.length = 3 := by
    have hrun : ((listLength (.handle 1)).run (run interwoven).heap).result = .ok 3 := rfl
    rw [hrun] at hlength
    exact (Except.ok.inj hlength).symm
  rw [hcount 1000 (by omega), hcons .eol hknown (by decide), hthree]
  exact ⟨rfl, rfl⟩

end Site

end ProxyForge
