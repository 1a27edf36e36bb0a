import ProxyForge.Lists.Traversal
import ProxyForge.Proofs.Heap.Access
import ProxyForge.Proofs.Programs
import Mathlib.Data.List.Nodup

/-!
# ProxyForge.Proofs.Lists.Segment — pairs that follow one another

`Heap.Segment h w ps vs e` says that from `w` the pairs `ps` follow one another
by their cdrs, that they hold the elements `vs`, and that the last cdr is `e`.
What happens to other cells does not matter (`Segment.of_get?`), a new pair can
be linked behind the last one (`Segment.link`), and an iterator that stands at
`w` yields exactly `vs` when `e` is no pair (`listTake_of_segment`).
-/

namespace ProxyForge

namespace Heap

/-- The pairs `ps` from `w` on, with their elements, up to the value `e`. -/
inductive Segment (h : Heap) : Word → List Word → List Word → Word → Prop where
  | nil (e : Word) : Segment h e [] [] e
  | cons {p v d e : Word} {ps vs : List Word} (hp : h.get? p = some (.pair v d))
      (rest : Segment h d ps vs e) : Segment h p (p :: ps) (v :: vs) e

namespace Segment

variable {h h' : Heap} {w e l c v : Word} {ps vs : List Word}

theorem length_eq (hs : Segment h w ps vs e) : ps.length = vs.length := by
  induction hs with
  | nil => rfl
  | cons _ _ ih => simp [ih]

/-- Every member of a segment is a pair. -/
theorem get?_of_mem (hs : Segment h w ps vs e) {p : Word} (hp : p ∈ ps) :
    ∃ car cdr, h.get? p = some (.pair car cdr) := by
  induction hs with
  | nil => cases hp
  | cons hq _ ih =>
    rcases List.mem_cons.1 hp with rfl | hp
    · exact ⟨_, _, hq⟩
    · exact ih hp

/-- A segment depends on its own pairs alone. -/
theorem of_get? (hs : Segment h w ps vs e) (hsame : ∀ p ∈ ps, h'.get? p = h.get? p) :
    Segment h' w ps vs e := by
  induction hs with
  | nil e => exact .nil e
  | @cons p v d e ps vs hp _ ih =>
    refine .cons (v := v) (d := d) ?_ (ih fun q hq => hsame q (List.mem_cons_of_mem p hq))
    rw [hsame p List.mem_cons_self, hp]

/-- The pairs of a segment are older than the next cell. -/
theorem ne_nextHandle (hs : Segment h w ps vs e) (hsize : h.size < Word.capacity)
    {p : Word} (hp : p ∈ ps) : p ≠ h.nextHandle := by
  rcases hs.get?_of_mem hp with ⟨car, cdr, hget⟩
  exact Heap.ne_nextHandle hsize hget

/-- A new cell leaves a segment as it is. -/
theorem push (hs : Segment h w ps vs e) (hsize : h.size < Word.capacity) (c : Cell) :
    Segment (h.push c) w ps vs e :=
  hs.of_get? fun _ hp => get?_push_of_ne (hs.ne_nextHandle hsize hp)

/-- An empty segment starts where it ends. -/
theorem eq_of_nil (hs : Segment h w [] vs e) : w = e ∧ vs = [] := by
  cases hs
  exact ⟨rfl, rfl⟩

/-- Relinking the last pair to a further one that holds `v` makes the segment longer. -/
theorem link (hs : Segment h w ps vs e) (hnodup : ps.Nodup) (hl : ps.getLast? = some l)
    (hc : h.get? c = some (.pair v e)) (hfresh : c ∉ ps) :
    Segment (h.setCdr l c) w (ps ++ [c]) (vs ++ [v]) e := by
  induction hs with
  | nil => simp at hl
  | @cons p u d e ps vs hp rest ih =>
    rcases List.nodup_cons.1 hnodup with ⟨hpps, hnodup⟩
    have hcp : c ≠ p := by
      rintro rfl
      exact hfresh List.mem_cons_self
    cases ps with
    | nil =>
      -- the only pair is the last one: it takes the new cdr
      rcases rest.eq_of_nil with ⟨rfl, rfl⟩
      have hpl : p = l := by simpa using hl
      subst hpl
      have hc' : (h.setCdr p c).get? c = some (.pair v d) := by
        rw [get?_setCdr_of_ne hcp, hc]
      exact .cons (get?_setCdr_self hp) (.cons hc' (.nil d))
    | cons q ps =>
      -- the last pair is further on, so this one stays as it is
      have hl' : (q :: ps).getLast? = some l := by simpa using hl
      have hne : p ≠ l := by
        rintro rfl
        exact hpps (List.mem_of_getLast? hl')
      have hp' : (h.setCdr l c).get? p = some (.pair u d) := by
        rw [get?_setCdr_of_ne hne, hp]
      exact .cons hp' (ih hnodup hl' hc fun hmem => hfresh (List.mem_cons_of_mem p hmem))

end Segment

end Heap

/-! ## Walking along a segment -/

variable {h : Heap} {w e v d : Word} {ps vs : List Word}

/-- At a pair the iterator yields its car and moves on to its cdr. -/
theorem ListIter.next_of_pair (hw : h.get? w = some (.pair v d)) :
    Program.Runs {} (ListIter.next ⟨w⟩) h (some v, ⟨d⟩) h
      [.unary .isPair w, .unary .car w, .unary .cdr w] [] := by
  rcases Heap.perform_of_pair hw with ⟨hisPair, hcar, hcdr⟩
  rw [← Backend.perform_default] at hisPair hcar hcdr
  refine Program.Runs.call_bind hisPair ?_
  refine Program.Runs.call_bind hcar ?_
  exact Program.Runs.call_bind hcdr (.done _ h)

/-- At any other value it yields nothing and stays. -/
theorem ListIter.next_of_not_pair (hw : h.pair? w = none) :
    Program.Runs {} (ListIter.next ⟨w⟩) h (none, ⟨w⟩) h [.unary .isPair w] [] := by
  have hisPair := (Heap.perform_of_not_pair hw).1
  rw [← Backend.perform_default] at hisPair
  exact Program.Runs.call_bind hisPair (.done _ h)

/-- Collecting from the start of a segment gives its elements. -/
theorem ListIter.collect_of_segment (hs : h.Segment w ps vs e) (he : h.pair? e = none)
    (seen : Array Word) (limit : Nat) :
    ∃ cs, Program.Runs {} (ListIter.collect seen ⟨w⟩ limit) h
      (seen ++ (vs.take limit).toArray) h cs [] := by
  induction hs generalizing seen limit with
  | nil e =>
    cases limit with
    | zero =>
      have hdone := Program.Runs.done (b := {}) seen h
      exact ⟨[], by simpa [collect, Program.pure_eq] using hdone⟩
    | succ limit =>
      refine ⟨_, (ListIter.next_of_not_pair he).bind_done ?_⟩
      simp [Program.pure_eq]
  | @cons p v d e ps vs hp _ ih =>
    cases limit with
    | zero =>
      have hdone := Program.Runs.done (b := {}) seen h
      exact ⟨[], by simpa [collect, Program.pure_eq] using hdone⟩
    | succ limit =>
      rcases ih he (seen.push v) limit with ⟨cs, hcs⟩
      have hmore : seen.push v ++ (vs.take limit).toArray =
          seen ++ ((v :: vs).take (limit + 1)).toArray := by
        simp
      rw [hmore] at hcs
      exact ⟨_, (ListIter.next_of_pair hp).bind hcs⟩

/-- An iterator at the start of a segment yields the elements up to the first value
that is no pair, and then nothing more. -/
theorem listTake_of_segment (hs : h.Segment w ps vs e) (he : h.pair? e = none) (limit : Nat) :
    ((listTake w limit).run h).result = .ok (vs.take limit).toArray := by
  rcases ListIter.collect_of_segment hs he #[] limit with ⟨cs, hcs⟩
  rw [listTake, hcs.run_eq]
  simp

end ProxyForge
