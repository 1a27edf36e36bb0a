import ProxyForge.Proofs.Heap.Known
import ProxyForge.Proofs.Lists.Segment

/-!
# ProxyForge.Proofs.Lists.Walk — an iterator on a list that others work on

A `Walk` is a heap with an iterator on it. Its moves are single calls in any order: one
call of the step of the iterator, or any operation of somebody else who has been given the
words that he uses.

The three calls of a step are three moments. What holds them together is that a pair never
stops being one, and that a known word which is no pair never becomes one
(`Heap.Outlasts.pair?_of_known_none`); and the iterator only ever stands at known words,
because all cdrs are known (`Heap.CdrsKnown`).
-/

namespace ProxyForge

namespace Heap

variable {h h' : Heap} {w v d : Word}

/-! ## Pairs for good -/

/-- The pair of a word is a pair for good, with the car that it has. -/
theorem Outlasts.get?_pair (hl : h'.Outlasts h) (hw : h.get? w = some (.pair v d)) :
    ∃ d', h'.get? w = some (.pair v d') := by
  rcases hl.get? w _ hw with ⟨cdrs, hw'⟩
  exact ⟨_, hw'⟩

/-- A known word that is no pair never becomes one. -/
theorem Outlasts.pair?_of_known_none (hl : h'.Outlasts h) (hw : h.Knows w)
    (hnone : h.pair? w = none) : h'.pair? w = none := by
  cases hget : h.get? w with
  | none =>
    have hget' := hl.get?_of_known_none hw hget
    unfold pair?
    rw [hget']
  | some c =>
    rcases hl.get? w c hget with ⟨cdrs, hget'⟩
    unfold pair? at hnone ⊢
    rw [hget] at hnone
    rw [hget']
    cases c with
    | pair car cdr => cases hnone
    | _ => rfl

/-! ## Ways -/

/-- The pair `p` is on the way along the cdrs from `w`. -/
def OnWay (h : Heap) (w p : Word) : Prop := ∃ ps vs e, h.Segment w ps vs e ∧ p ∈ ps

/-- On a way that ends there are the pairs of the whole way. -/
theorem Segment.onWay_iff {ps vs : List Word} {e p : Word} (hs : h.Segment w ps vs e)
    (he : h.pair? e = none) : h.OnWay w p ↔ p ∈ ps := by
  constructor
  · rintro ⟨ps', vs', e', hs', hp⟩
    induction hs generalizing ps' vs' with
    | nil =>
      cases hs' with
      | nil => cases hp
      | cons hq => rw [pair?_eq_some.2 hq] at he; cases he
    | cons hq _ ih =>
      cases hs' with
      | nil => cases hp
      | cons hq' rest' =>
        rw [hq] at hq'
        cases hq'
        rcases List.mem_cons.1 hp with rfl | hp
        · exact List.mem_cons_self
        · exact List.mem_cons_of_mem _ (ih he _ _ rest' hp)
  · intro hp
    exact ⟨ps, vs, e, hs, hp⟩

/-- A way can go on by one more pair. -/
theorem Segment.snoc {ps vs : List Word} {e : Word} (hs : h.Segment w ps vs e)
    (he : h.get? e = some (.pair v d)) : h.Segment w (ps ++ [e]) (vs ++ [v]) d := by
  induction hs with
  | nil e => exact .cons he (.nil d)
  | cons hp _ ih => exact .cons hp (ih he)

/-- All values on a way from a known word are known. -/
theorem CdrsKnown.end_known {ps vs : List Word} {e : Word} (hk : h.CdrsKnown)
    (hs : h.Segment w ps vs e) (hw : h.Knows w) : h.Knows e := by
  induction hs with
  | nil => exact hw
  | cons hp _ ih => exact ih (hk _ _ _ hp)

end Heap

/-! ## Moves -/

/-- The action that a program does next. -/
def Program.due? {α : Type} : Program α → Option (Action Word)
  | act a _ => some a
  | _ => none

/-- A heap and an iterator on it: where it stands, the calls that are left of a step under
way, what its steps have answered, and the number of calls that it has made. -/
structure Walk where
  heap : Heap
  iter : ListIter
  calls : Option (Program (Option Word × ListIter)) := none
  answers : List (Except Fault (Option Word)) := []
  turns : Nat := 0

namespace Walk

/-- What can happen next: somebody else does something, or the iterator makes a call. -/
inductive Move where
  | operate (a : Action Word)
  | turn

/-- What the iterator goes on with: the calls that are left, or those of a new step. -/
def program (s : Walk) : Program (Option Word × ListIter) := s.calls.getD s.iter.next

/-- One call of the iterator. -/
def turn (s : Walk) : Walk :=
  let { result, heap, .. } := s.program.step {} s.heap
  let turns := s.turns + 1
  match result with
  | .ok (.done (v, iter)) => { heap, iter, calls := none, answers := s.answers ++ [.ok v], turns }
  | .ok p => { s with heap, calls := some p, turns }
  | .error f => { s with heap, calls := none, answers := s.answers ++ [.error f], turns }

/-- One move. An operation that is given a word which is not known does not happen. -/
def step (s : Walk) : Move → Walk
  | .operate a => { s with heap := s.heap.performKnown a }
  | .turn => s.turn

/-- The walk from a value, after the given moves. -/
def run (h : Heap) (w : Word) (moves : List Move) : Walk :=
  moves.foldl step { heap := h, iter := ⟨w⟩ }

/-! ## Stages of a step -/

variable {s : Walk} {h : Heap} {w v d : Word}

/-- A step that has found a pair. -/
def carDue (w : Word) : Program (Option Word × ListIter) := do
  let head ← Program.car w
  let rest ← Program.cdr w
  return (some head, ⟨rest⟩)

/-- A step that has read the car of a pair. -/
def cdrDue (w head : Word) : Program (Option Word × ListIter) := do
  let rest ← Program.cdr w
  return (some head, ⟨rest⟩)

/-- How far the step under way has come, and what it has made sure of. -/
inductive Stage (s : Walk) : Nat → Prop where
  | idle (hcalls : s.calls = none) : Stage s 0
  | paired {v d : Word} (hcalls : s.calls = some (carDue s.iter.rest))
      (hp : s.heap.get? s.iter.rest = some (.pair v d)) : Stage s 1
  | headed {v d : Word} (hcalls : s.calls = some (cdrDue s.iter.rest v))
      (hp : s.heap.get? s.iter.rest = some (.pair v d)) : Stage s 2

/-- What a call of the iterator can come to at a stage. -/
inductive Turned (s : Walk) : Nat → Walk → Prop where
  | ended (hcalls : s.calls = none) (hrest : s.heap.pair? s.iter.rest = none) :
      Turned s 0 { s with answers := s.answers ++ [.ok none], turns := s.turns + 1 }
  | paired {v d : Word} (hcalls : s.calls = none)
      (hp : s.heap.get? s.iter.rest = some (.pair v d)) :
      Turned s 0 { s with calls := some (carDue s.iter.rest), turns := s.turns + 1 }
  | headed {v d : Word} (hcalls : s.calls = some (carDue s.iter.rest))
      (hp : s.heap.get? s.iter.rest = some (.pair v d)) :
      Turned s 1 { s with calls := some (cdrDue s.iter.rest v), turns := s.turns + 1 }
  | moved {v d : Word} (hcalls : s.calls = some (cdrDue s.iter.rest v))
      (hp : s.heap.get? s.iter.rest = some (.pair v d)) :
      Turned s 2 { s with
        iter := ⟨d⟩, calls := none, answers := s.answers ++ [.ok (some v)], turns := s.turns + 1 }

variable {c : Call Word} {next : c.Answer → Program (Option Word × ListIter)} {x : c.Answer}
  {p : Program (Option Word × ListIter)} {v? : Option Word} {it : ListIter}

/-- The call is answered and the heap stays, as it does at each call of a step. -/
theorem step_program (hprogram : s.program = .act (.primitive c) next)
    (hc : s.heap.perform (.primitive c) = s.heap.answer x) :
    s.program.step {} s.heap = { result := .ok (next x), heap := s.heap } := by
  rw [hprogram, Program.step, Backend.perform_default, hc]
  rfl

/-- The last call of a step. -/
theorem turn_of_done (hprogram : s.program = .act (.primitive c) next)
    (hc : s.heap.perform (.primitive c) = s.heap.answer x) (hnext : next x = .done (v?, it)) :
    s.turn = { s with
      iter := it, calls := none, answers := s.answers ++ [.ok v?], turns := s.turns + 1 } := by
  unfold turn
  rw [step_program hprogram hc, hnext]

/-- A call before the last one. -/
theorem turn_of_act (hprogram : s.program = .act (.primitive c) next)
    (hc : s.heap.perform (.primitive c) = s.heap.answer x) (hnext : next x = p)
    (hp : ∀ y, p ≠ .done y) : s.turn = { s with calls := some p, turns := s.turns + 1 } := by
  unfold turn
  rw [step_program hprogram hc, hnext]
  cases p with
  | done y => exact absurd rfl (hp y)
  | _ => rfl

theorem Stage.turned {k : Nat} (hs : s.Stage k) : Turned s k s.turn := by
  cases hs with
  | idle hcalls =>
    have hprogram : s.program = s.iter.next := by rw [program, hcalls]; rfl
    cases hpair : s.heap.pair? s.iter.rest with
    | none =>
      rw [turn_of_done hprogram (Heap.perform_of_not_pair hpair).1 rfl, ← hcalls]
      exact .ended hcalls hpair
    | some vd =>
      have hp : s.heap.get? s.iter.rest = some (.pair vd.1 vd.2) := Heap.pair?_eq_some.1 hpair
      rw [turn_of_act hprogram (Heap.perform_of_pair hp).1 rfl nofun]
      exact .paired hcalls hp
  | paired hcalls hp =>
    have hprogram : s.program = carDue s.iter.rest := by rw [program, hcalls]; rfl
    rw [turn_of_act hprogram (Heap.perform_of_pair hp).2.1 rfl nofun]
    exact .headed hcalls hp
  | @headed v _ hcalls hp =>
    have hprogram : s.program = cdrDue s.iter.rest v := by rw [program, hcalls]; rfl
    rw [turn_of_done hprogram (Heap.perform_of_pair hp).2.2 rfl]
    exact .moved hcalls hp

/-! ## Answers -/

variable {s' : Walk} {a : Action Word} {vs : List Word} {n : Nat}

/-- The steps have answered the values and then nothing `n` times, which they only do at a value
that is no pair. -/
structure Answered (s : Walk) (vs : List Word) (n : Nat) : Prop where
  answers : s.answers = vs.map (fun v => .ok (some v)) ++ List.replicate n (.ok none)
  ended : 0 < n → s.calls = none ∧ s.heap.pair? s.iter.rest = none

/-- A call ends the walk, or is no last call, or is the last one at a pair. -/
theorem Answered.turned {k : Nat} (hs : s.Answered vs n) (ht : Turned s k s') :
    (s'.Answered vs (n + 1) ∧ s'.iter = s.iter) ∨ (s'.Answered vs n ∧ s'.iter = s.iter) ∨
      ∃ v d, s.heap.get? s.iter.rest = some (.pair v d) ∧ s'.Answered (vs ++ [v]) n ∧
        s'.iter = ⟨d⟩ := by
  cases ht with
  | ended hcalls hrest =>
    refine .inl ⟨⟨?_, fun _ => ⟨hcalls, hrest⟩⟩, rfl⟩
    rw [hs.answers, List.append_assoc, ← List.replicate_succ']
  | paired hcalls hp =>
    refine .inr (.inl ⟨⟨hs.answers, fun hn => ?_⟩, rfl⟩)
    have hnone := (hs.ended hn).2
    rw [Heap.pair?_eq_some.2 hp] at hnone
    cases hnone
  | headed hcalls hp =>
    refine .inr (.inl ⟨⟨hs.answers, fun hn => ?_⟩, rfl⟩)
    have hnone := (hs.ended hn).1
    rw [hcalls] at hnone
    cases hnone
  | @moved v d hcalls hp =>
    -- a step was under way, so none has answered nothing yet
    obtain rfl : n = 0 := by
      by_contra hn
      have hnone := (hs.ended (Nat.pos_of_ne_zero hn)).1
      rw [hcalls] at hnone
      cases hnone
    refine .inr (.inr ⟨v, d, hp, ⟨?_, nofun⟩, rfl⟩)
    simp [hs.answers]

/-- A value is answered by the call for the cdr. -/
theorem Turned.of_value {k : Nat} (ht : Turned s k s')
    (hv : s'.answers = s.answers ++ [.ok (some v)]) :
    s.program.due? = some (.primitive (.unary .cdr s.iter.rest)) ∧
      s.heap.get? s.iter.rest = some (.pair v s'.iter.rest) := by
  cases ht with
  | ended => simp at hv
  | paired => simp at hv
  | headed => simp at hv
  | @moved u d hcalls hp =>
    obtain rfl : u = v := by simpa using hv
    refine ⟨?_, hp⟩
    rw [program, hcalls]
    rfl

/-- Nothing is answered at a value that is no pair. -/
theorem Turned.of_nothing {k : Nat} (ht : Turned s k s')
    (hv : s'.answers = s.answers ++ [.ok none]) :
    s.heap.pair? s.iter.rest = none ∧ s'.iter = s.iter := by
  cases ht with
  | ended _ hrest => exact ⟨hrest, rfl⟩
  | paired => simp at hv
  | headed => simp at hv
  | moved => simp at hv

/-- The iterator stands at a known word, its step under way has made sure of a pair, and the
steps so far have answered values first and then nothing. -/
structure Inv (s : Walk) : Prop where
  cdrsKnown : s.heap.CdrsKnown
  known : s.heap.Knows s.iter.rest
  stage : ∃ k, s.Stage k ∧ s.turns ≤ 3 * s.answers.length + k
  answered : ∃ vs n, s.Answered vs n

theorem Stage.le_two {k : Nat} (hs : s.Stage k) : k ≤ 2 := by
  cases hs <;> decide

theorem heap_turn (s : Walk) : s.turn.heap = (s.program.step {} s.heap).heap := by
  unfold turn
  rcases s.program.step {} s.heap with ⟨result, heap, events⟩
  cases result with
  | error f => rfl
  | ok p => cases p <;> rfl

/-- No move makes the heap smaller. -/
theorem size_le_step (s : Walk) (m : Move) : s.heap.size ≤ (s.step m).heap.size := by
  cases m with
  | operate a => exact Heap.size_le_performKnown s.heap a
  | turn =>
    show s.heap.size ≤ s.turn.heap.size
    rw [heap_turn]
    exact s.program.step_size_le s.heap

/-- Whatever somebody else does, a step under way has its pair still. -/
theorem Stage.operate {k : Nat} (hs : s.Stage k)
    (hl : (s.heap.performKnown a).Outlasts s.heap) : Stage (s.step (.operate a)) k := by
  cases hs with
  | idle hcalls => exact .idle hcalls
  | paired hcalls hp =>
    rcases hl.get?_pair hp with ⟨d, hp'⟩
    exact .paired hcalls hp'
  | headed hcalls hp =>
    rcases hl.get?_pair hp with ⟨d, hp'⟩
    exact .headed hcalls hp'

/-- And an iterator at its end stays there. -/
theorem Answered.operate (hs : s.Answered vs n) (hknown : s.heap.Knows s.iter.rest)
    (hl : (s.heap.performKnown a).Outlasts s.heap) : Answered (s.step (.operate a)) vs n := by
  refine ⟨hs.answers, fun hn => ?_⟩
  rcases hs.ended hn with ⟨hcalls, hrest⟩
  exact ⟨hcalls, hl.pair?_of_known_none hknown hrest⟩

theorem Inv.operate (hs : s.Inv) (hsize : (s.heap.performKnown a).size ≤ Word.capacity) :
    (s.step (.operate a)).Inv := by
  have hl : (s.heap.performKnown a).Outlasts s.heap := Heap.outlasts_performKnown hsize
  rcases hs.stage with ⟨k, hstage, hturns⟩
  rcases hs.answered with ⟨vs, n, hanswered⟩
  exact ⟨hs.cdrsKnown.performKnown hsize, hs.known.mono hl.size_le,
    ⟨k, hstage.operate hl, hturns⟩, ⟨vs, n, hanswered.operate hs.known hl⟩⟩

theorem Inv.turn (hs : s.Inv) : s.turn.Inv := by
  rcases hs.stage with ⟨k, hstage, hturns⟩
  rcases hs.answered with ⟨vs, n, hanswered⟩
  have ht := hstage.turned
  generalize s.turn = s' at ht
  have hanswered' : ∃ vs n, s'.Answered vs n := by
    rcases hanswered.turned ht with ⟨h, -⟩ | ⟨h, -⟩ | ⟨v, d, -, h, -⟩ <;> exact ⟨_, _, h⟩
  cases ht with
  | ended hcalls hrest =>
    refine ⟨hs.cdrsKnown, hs.known, ⟨0, .idle hcalls, ?_⟩, hanswered'⟩
    simp only [List.length_append, List.length_singleton]
    omega
  | paired hcalls hp =>
    exact ⟨hs.cdrsKnown, hs.known, ⟨1, .paired rfl hp, Nat.add_le_add_right hturns 1⟩, hanswered'⟩
  | headed hcalls hp =>
    exact ⟨hs.cdrsKnown, hs.known, ⟨2, .headed rfl hp, Nat.add_le_add_right hturns 1⟩, hanswered'⟩
  | moved hcalls hp =>
    refine ⟨hs.cdrsKnown, hs.cdrsKnown _ _ _ hp, ⟨0, .idle rfl, ?_⟩, hanswered'⟩
    simp only [List.length_append, List.length_singleton]
    omega

/-- Every move keeps the invariant as long as the cells fit. -/
theorem Inv.step (hs : s.Inv) (m : Move) (hsize : (s.step m).heap.size ≤ Word.capacity) :
    (s.step m).Inv := by
  cases m with
  | operate a => exact hs.operate hsize
  | turn => exact hs.turn

theorem init_inv (hk : h.CdrsKnown) (hw : h.Knows w) : Inv { heap := h, iter := ⟨w⟩ } :=
  ⟨hk, hw, ⟨0, .idle rfl, Nat.le_refl _⟩, [], 0, rfl, nofun⟩

theorem run_inv (hk : h.CdrsKnown) (hw : h.Knows w) (moves : List Move)
    (hsize : (run h w moves).heap.size ≤ Word.capacity) : (run h w moves).Inv :=
  Heap.foldl_invariant step heap size_le_step Inv (fun _ m hs hm => hs.step m hm) moves _
    (init_inv hk hw) hsize

/-! ## Lists that are left alone -/

/-- The move relinks no pair on the way from `w`. -/
def Move.Spares (h : Heap) (w : Word) (m : Move) : Prop :=
  ∀ x y, m = .operate (.primitive (.binary .setCdr x y)) → ¬ h.OnWay w x

/-- The walk has gone along the way from `w` as it was at the start, whose pairs are as they
were. -/
structure Undisturbed (h : Heap) (w : Word) (s : Walk) : Prop where
  inv : s.Inv
  outlasts : s.heap.Outlasts h
  same : ∀ p, h.OnWay w p → s.heap.get? p = h.get? p
  way : ∃ ps vs n, h.Segment w ps vs s.iter.rest ∧ s.Answered vs n

theorem Undisturbed.operate (hs : Undisturbed h w s) (ha : Move.Spares h w (.operate a))
    (hsize : (s.heap.performKnown a).size ≤ Word.capacity) :
    Undisturbed h w (s.step (.operate a)) := by
  have hl : (s.heap.performKnown a).Outlasts s.heap := Heap.outlasts_performKnown hsize
  refine ⟨hs.inv.operate hsize, hs.outlasts.performKnown hsize, ?_, ?_⟩
  · intro p hp
    show (s.heap.performKnown a).get? p = h.get? p
    rcases hp with ⟨ps, vs, e, hway, hmem⟩
    rcases hway.get?_of_mem hmem with ⟨car, cdr, hget⟩
    have hsame := hs.same p ⟨ps, vs, e, hway, hmem⟩
    rw [← hsame]
    rw [hget] at hsame
    rcases Heap.performKnown_cases s.heap a with ⟨-, hperform⟩ | hrefused
    · rw [hperform] at hsize ⊢
      rw [hsame]
      refine (Heap.perform_change s.heap a).get?_of_some hsize hsame ?_
      rintro y rfl
      exact ha p y rfl ⟨ps, vs, e, hway, hmem⟩
    · rw [hrefused]
  · rcases hs.way with ⟨ps, vs, n, hway, hanswered⟩
    exact ⟨ps, vs, n, hway, hanswered.operate hs.inv.known hl⟩

theorem Undisturbed.turn (hs : Undisturbed h w s) (hk : h.CdrsKnown) (hw : h.Knows w) :
    Undisturbed h w s.turn := by
  have hinv := hs.inv.turn
  rcases hs.inv.stage with ⟨k, hstage, -⟩
  rcases hs.way with ⟨ps, vs, n, hway, hanswered⟩
  have ht := hstage.turned
  have hheap : s.turn.heap = s.heap := by
    generalize s.turn = s' at ht
    cases ht <;> rfl
  refine ⟨hinv, by rw [hheap]; exact hs.outlasts, by rw [hheap]; exact hs.same, ?_⟩
  rcases hanswered.turned ht with ⟨h', hiter⟩ | ⟨h', hiter⟩ | ⟨v, d, hp, h', hiter⟩
  · exact ⟨ps, vs, n + 1, by rw [hiter]; exact hway, h'⟩
  · exact ⟨ps, vs, n, by rw [hiter]; exact hway, h'⟩
  · -- the pair was one at the start, and nobody has relinked it since
    have hstart : h.get? s.iter.rest = some (.pair v d) := by
      cases hpair : h.pair? s.iter.rest with
      | none =>
        have hnone := hs.outlasts.pair?_of_known_none (hk.end_known hway hw) hpair
        rw [Heap.pair?_eq_some.2 hp] at hnone
        cases hnone
      | some vd =>
        have hget : h.get? s.iter.rest = some (.pair vd.1 vd.2) := Heap.pair?_eq_some.1 hpair
        rw [← hs.same _ ⟨_, _, _, hway.snoc hget, List.mem_append_right _ List.mem_cons_self⟩]
        exact hp
    exact ⟨_, _, n, by rw [hiter]; exact hway.snoc hstart, h'⟩

theorem run_undisturbed (hk : h.CdrsKnown) (hw : h.Knows w) (moves : List Move)
    (hspares : ∀ m ∈ moves, m.Spares h w)
    (hsize : (run h w moves).heap.size ≤ Word.capacity) : Undisturbed h w (run h w moves) := by
  have hstart : h.size ≤ Word.capacity :=
    Nat.le_trans (Heap.size_le_foldl step heap size_le_step moves { heap := h, iter := ⟨w⟩ }) hsize
  refine Heap.foldl_invariant_of_mem step heap size_le_step (Undisturbed h w) moves ?_ _ ?_ hsize
  · intro s m hm hs hnext
    cases m with
    | operate a => exact hs.operate (hspares _ hm) hnext
    | turn => exact hs.turn hk hw
  · exact ⟨init_inv hk hw, .refl hstart, fun _ _ => rfl, [], [], 0, .nil w, rfl, nofun⟩

/-- Once nothing was answered, the way from the start has ended. -/
theorem Undisturbed.end_none (hs : Undisturbed h w s) (hanswered : s.Answered vs n) (hn : 0 < n) :
    h.pair? s.iter.rest = none := by
  cases hpair : h.pair? s.iter.rest with
  | none => rfl
  | some vd =>
    -- a pair at the start would be one now
    rcases hs.outlasts.get?_pair (Heap.pair?_eq_some.1 hpair) with ⟨d, hp⟩
    have hnone := (hanswered.ended hn).2
    rw [Heap.pair?_eq_some.2 hp] at hnone
    cases hnone

/-! ## Steps of an iterator among other operations -/

/-- On a heap that was only ever given known words, and from a known value, whatever others do
between the calls of the iterator with words that are known by then: no step faults; it takes
three calls at most; the steps answer values first, and once one has answered nothing all
further ones do. A step that answers a value does so by its call for the cdr; the iterator
stands at a pair with that car then, and goes on to the cdr that the pair has at this moment.
When nobody relinks a pair on the way from the value, the answers are the elements on this way
as it was at the start, up to the first value that is no pair. -/
theorem iterator_outlives_relinking (before : List (Action Word)) (w : Word) (moves : List Move)
    (hw : (Heap.runKnown before).Knows w)
    (hsize : (run (Heap.runKnown before) w moves).heap.size ≤ Word.capacity) :
    let h := Heap.runKnown before
    let s := run h w moves
    (∃ (vs : List Word) (n : Nat),
      s.answers = vs.map (fun v => .ok (some v)) ++ List.replicate n (.ok none)) ∧
    s.turns ≤ 3 * s.answers.length + 2 ∧
    (∀ v, s.turn.answers = s.answers ++ [.ok (some v)] →
      s.program.due? = some (.primitive (.unary .cdr s.iter.rest)) ∧
      s.heap.get? s.iter.rest = some (.pair v s.turn.iter.rest)) ∧
    (s.turn.answers = s.answers ++ [.ok none] →
      s.heap.pair? s.iter.rest = none ∧ s.turn.iter = s.iter) ∧
    ((∀ m ∈ moves, m.Spares h w) →
      ∃ ps vs n, h.Segment w ps vs s.iter.rest ∧
        s.answers = vs.map (fun v => .ok (some v)) ++ List.replicate n (.ok none) ∧
        (0 < n → h.pair? s.iter.rest = none)) := by
  intro h s
  have hstart : h.size ≤ Word.capacity :=
    Nat.le_trans (Heap.size_le_foldl step heap size_le_step moves { heap := h, iter := ⟨w⟩ }) hsize
  have hk : h.CdrsKnown := Heap.runKnown_cdrsKnown before hstart
  have hs : s.Inv := run_inv hk hw moves hsize
  rcases hs.stage with ⟨k, hstage, hturns⟩
  have ht := hstage.turned
  refine ⟨?_, ?_, fun v => ht.of_value, ht.of_nothing, ?_⟩
  · rcases hs.answered with ⟨vs, n, hanswered⟩
    exact ⟨vs, n, hanswered.answers⟩
  · have hk := hstage.le_two
    omega
  · intro hspares
    have hundisturbed := run_undisturbed hk hw moves hspares hsize
    rcases hundisturbed.way with ⟨ps, vs, n, hway, hanswered⟩
    exact ⟨ps, vs, n, hway, hanswered.answers, hundisturbed.end_none hanswered⟩

/-- A list of two elements, and a pair that is not part of it. -/
def trail : List (Action Word) :=
  [.primitive (.binary .cons .undefined .unbound), .primitive (.binary .cons .boolF (.handle 0)),
    .primitive (.binary .cons .boolT .eol)]

/-- The other pair is linked to the list, and further pairs are made, during two steps and
behind the end. -/
def beside : List Move :=
  [.turn, .operate (.primitive (.binary .setCdr (.handle 2) (.handle 1))), .turn,
    .operate (.primitive (.binary .cons .boolT (.handle 2))), .turn, .turn, .turn, .turn, .turn,
    .operate (.primitive (.binary .cons .boolT .unbound)), .turn]

/-- The first pair of the list is relinked after its car was read. -/
def astray : List Move :=
  [.turn, .turn, .operate (.primitive (.binary .setCdr (.handle 1) (.handle 2)))]

theorem iterator_outlives_relinking_on_trail :
    (Heap.runKnown trail).Knows (.handle 1) ∧
    (run (Heap.runKnown trail) (.handle 1) beside).heap.size ≤ Word.capacity ∧
    (∀ m ∈ beside, m.Spares (Heap.runKnown trail) (.handle 1)) ∧
    (∃ ps vs n, (Heap.runKnown trail).Segment (.handle 1) ps vs .unbound ∧
      (run (Heap.runKnown trail) (.handle 1) beside).answers =
        vs.map (fun v => .ok (some v)) ++ List.replicate n (.ok none)) ∧
    (run (Heap.runKnown trail) (.handle 1) beside).answers =
      [.ok (some .boolF), .ok (some .undefined), .ok none, .ok none] ∧
    (run (Heap.runKnown trail) (.handle 1) astray).heap.size ≤ Word.capacity ∧
    (run (Heap.runKnown trail) (.handle 1) astray).heap.get? (.handle 1) =
      some (.pair .boolF (.handle 2)) := by
  have hw : (Heap.runKnown trail).Knows (.handle 1) := by decide
  have hsize : (run (Heap.runKnown trail) (.handle 1) beside).heap.size ≤ Word.capacity := by
    decide
  have hsize' : (run (Heap.runKnown trail) (.handle 1) astray).heap.size ≤ Word.capacity := by
    decide
  have hspares : ∀ m ∈ beside, m.Spares (Heap.runKnown trail) (.handle 1) := by
    have hway : (Heap.runKnown trail).Segment (.handle 1) [.handle 1, .handle 0]
        [.boolF, .undefined] .unbound := .cons rfl (.cons rfl (.nil _))
    rintro m hm x y rfl
    rw [hway.onWay_iff rfl]
    have hx : x = .handle 2 ∧ y = .handle 1 := by simpa [beside] using hm
    rw [hx.1]
    decide
  refine ⟨hw, hsize, hspares, ?_, rfl, hsize', ?_⟩
  · rcases (iterator_outlives_relinking trail _ beside hw hsize).2.2.2.2 hspares with
      ⟨ps, vs, n, hway, hanswers, -⟩
    exact ⟨ps, vs, n, hway, hanswers⟩
  · exact ((iterator_outlives_relinking trail _ astray hw hsize').2.2.1 .boolF rfl).2

end Walk

end ProxyForge
