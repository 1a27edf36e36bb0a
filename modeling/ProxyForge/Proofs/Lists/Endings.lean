import ProxyForge.Proofs.Heap.Known
import ProxyForge.Proofs.Lists.Segment
import Mathlib.Data.List.Perm.Subperm

/-!
# ProxyForge.Proofs.Lists.Endings — heaps in which every list ends

A heap is `Grounded` when every cdr is a known word and the way along the cdrs ends
from every value. The position of a pair is no measure for that way: a new pair points
back to older ones, and a builder links older pairs to newer ones. What keeps a heap
grounded is that a pair is only ever linked to one whose own cdr ends at once
(`Grounded.setCdr`), and that nobody knows the handle of a pair beforehand
(`Grounded.push`).

On a way that ends no pair comes twice, so there are at most as many steps as pairs.
-/

namespace ProxyForge

namespace Heap

variable {h : Heap} {w e p v d : Word} {ps vs : List Word} {c : Cell}

/-! ## Pairs of a heap -/

/-- The handles of all cells, in the order of allocation. -/
def handles (h : Heap) : List Word := (List.range h.size).map Word.handle

/-- The handles of all pairs. -/
def pairs (h : Heap) : List Word := h.handles.filter fun w => (h.pair? w).isSome

theorem length_pairs_le (h : Heap) : h.pairs.length ≤ h.size := by
  have hfilter := List.length_filter_le (fun w => (h.pair? w).isSome) h.handles
  have hhandles : h.handles.length = h.size := by simp [handles]
  unfold pairs
  omega

theorem mem_pairs (hw : h.get? w = some (.pair v d)) : w ∈ h.pairs := by
  rcases lt_size_of_get? hw with ⟨i, hi, -, rfl⟩
  refine List.mem_filter.2 ⟨List.mem_map.2 ⟨i, List.mem_range.2 hi, rfl⟩, ?_⟩
  exact isSome_pair?.2 ⟨v, d, hw⟩

/-! ## Ways that end -/

namespace Segment

/-- There is one way from a value to the first value that is no pair. -/
theorem unique {e' : Word} {ps' vs' : List Word} (hs : h.Segment w ps vs e)
    (he : h.pair? e = none) (hs' : h.Segment w ps' vs' e') (he' : h.pair? e' = none) :
    ps = ps' ∧ vs = vs' ∧ e = e' := by
  induction hs generalizing ps' vs' with
  | nil =>
    cases hs' with
    | nil => exact ⟨rfl, rfl, rfl⟩
    | cons hp => rw [pair?_eq_some.2 hp] at he; cases he
  | cons hp _ ih =>
    cases hs' with
    | nil => rw [pair?_eq_some.2 hp] at he'; cases he'
    | cons hp' rest' =>
      rw [hp] at hp'
      cases hp'
      rcases ih he rest' with ⟨rfl, rfl, rfl⟩
      exact ⟨rfl, rfl, rfl⟩

/-- The way from a pair on a way is the end of that way. -/
theorem suffix_of_mem (hs : h.Segment w ps vs e) (hp : p ∈ ps) :
    ∃ ps' vs', h.Segment p ps' vs' e ∧ ps' <:+ ps := by
  induction hs with
  | nil => cases hp
  | @cons q v d e ps vs hq rest ih =>
    rcases List.mem_cons.1 hp with rfl | hp
    · exact ⟨_, _, .cons hq rest, List.suffix_refl _⟩
    · rcases ih hp with ⟨ps', vs', hs', hsuffix⟩
      exact ⟨ps', vs', hs', hsuffix.trans (List.suffix_cons q ps)⟩

/-- No pair comes twice on a way that ends. -/
theorem nodup (hs : h.Segment w ps vs e) (he : h.pair? e = none) : ps.Nodup := by
  induction hs with
  | nil => exact List.nodup_nil
  | @cons p v d e ps vs hp rest ih =>
    refine List.nodup_cons.2 ⟨fun hmem => ?_, ih he⟩
    -- else the way from the second occurrence would be as long as the whole way
    rcases rest.suffix_of_mem hmem with ⟨ps', vs', hs', hsuffix⟩
    have hsame := (Segment.unique (.cons hp rest) he hs' he).1
    have hle := hsuffix.length_le
    rw [← hsame, List.length_cons] at hle
    omega

/-- A way that ends has at most as many steps as there are pairs. -/
theorem length_le_pairs (hs : h.Segment w ps vs e) (he : h.pair? e = none) :
    ps.length ≤ h.pairs.length := by
  have hsubset : ps ⊆ h.pairs := by
    intro p hp
    rcases hs.get?_of_mem hp with ⟨car, cdr, hget⟩
    exact mem_pairs hget
  exact (List.subperm_of_subset (hs.nodup he) hsubset).length_le

end Segment

/-! ## Grounded heaps -/

/-- Every cdr is known, and the way along the cdrs ends from every value. -/
structure Grounded (h : Heap) : Prop where
  known : ∀ w v d, h.get? w = some (.pair v d) → h.Knows d
  ends : ∀ w, ∃ ps vs e, h.Segment w ps vs e ∧ h.pair? e = none

theorem empty_grounded : ({} : Heap).Grounded := by
  have hnone : ∀ w, ({} : Heap).get? w = none := fun w => get?_empty
  constructor
  · intro w v d hw
    rw [hnone] at hw
    cases hw
  · intro w
    refine ⟨[], [], w, .nil w, ?_⟩
    unfold pair?
    rw [hnone]

/-- Whether a heap is grounded can be seen from its cells alone. -/
theorem Grounded.of_get? {h' : Heap} (hg : h.Grounded) (hsize : h.size ≤ h'.size)
    (hsame : ∀ w, h'.get? w = h.get? w) : h'.Grounded := by
  constructor
  · intro w v d hw
    rw [hsame w] at hw
    exact (hg.known w v d hw).mono hsize
  · intro w
    rcases hg.ends w with ⟨ps, vs, e, hs, he⟩
    refine ⟨ps, vs, e, hs.of_get? fun p _ => hsame p, ?_⟩
    rw [(readers_of_get? (hsame e)).1, he]

/-- A way ends at a known word, unless it has no step at all. -/
theorem Grounded.end_known (hg : h.Grounded) (hs : h.Segment w ps vs e) : e = w ∨ h.Knows e := by
  induction hs with
  | nil => exact .inl rfl
  | cons hp _ ih =>
    rcases ih with rfl | hknown
    · exact .inr (hg.known _ _ _ hp)
    · exact .inr hknown

/-- A way from a word that is not the next handle is the same after the next cell is made. -/
theorem Grounded.segment_push (hg : h.Grounded) (hsize : h.size < Word.capacity) (c : Cell)
    (hw : w ≠ h.nextHandle) (hs : h.Segment w ps vs e) (he : h.pair? e = none) :
    (h.push c).Segment w ps vs e ∧ (h.push c).pair? e = none := by
  have hne : e ≠ h.nextHandle := by
    rintro rfl
    rcases hg.end_known hs with hew | hknown
    · exact hw hew.symm
    · exact not_knows_nextHandle hsize hknown
  refine ⟨hs.push hsize c, ?_⟩
  rw [(readers_of_get? (get?_push_of_ne hne)).1, he]

/-- A new cell keeps a heap grounded; if it is a pair, its cdr must be known. -/
theorem Grounded.push (hg : h.Grounded) (hsize : h.size < Word.capacity)
    (hc : ∀ v d, c = .pair v d → h.Knows d) : (h.push c).Grounded := by
  have hk : h.CdrsKnown := hg.known
  refine ⟨hk.push hsize hc, ?_⟩
  intro w
  by_cases hnew : w = h.nextHandle
  · subst hnew
    have hget : (h.push c).get? h.nextHandle = some c := get?_push_nextHandle hsize
    cases c with
    | pair v d =>
      -- the way from the new pair goes on at an older value
      have hd : d ≠ h.nextHandle := by
        rintro rfl
        exact not_knows_nextHandle hsize (hc v _ rfl)
      rcases hg.ends d with ⟨ps, vs, e, hs, he⟩
      rcases hg.segment_push hsize (.pair v d) hd hs he with ⟨hs', he'⟩
      exact ⟨_, _, e, .cons hget hs', he'⟩
    | _ =>
      refine ⟨[], [], _, .nil _, ?_⟩
      unfold pair?
      rw [hget]
  · rcases hg.ends w with ⟨ps, vs, e, hs, he⟩
    exact ⟨ps, vs, e, hg.segment_push hsize c hnew hs he⟩

/-- So does linking a pair to another one behind which the way ends at once. -/
theorem Grounded.setCdr {l c u e car cdr : Word} (hg : h.Grounded)
    (hl : h.get? l = some (.pair car cdr)) (hc : h.get? c = some (.pair u e))
    (he : h.pair? e = none) (hne : l ≠ c) : (h.setCdr l c).Grounded := by
  -- a value that is no pair is not the relinked one
  have hkept : ∀ x, h.pair? x = none → (h.setCdr l c).pair? x = none := by
    intro x hx
    have hxl : x ≠ l := by
      rintro rfl
      rw [pair?_eq_some.2 hl] at hx
      cases hx
    rw [(readers_of_get? (get?_setCdr_of_ne hxl)).1, hx]
  have hk : h.CdrsKnown := hg.known
  refine ⟨hk.setCdr hl (knows_of_get? hc), ?_⟩
  intro w
  -- on the way as it was before, which is the same up to the relinked pair
  rcases hg.ends w with ⟨ps, vs, e', hs, he'⟩
  induction hs with
  | nil x => exact ⟨[], [], x, .nil x, hkept x he'⟩
  | @cons p v d x ps vs hp _ ih =>
    by_cases hpl : p = l
    · -- the way now turns off to the other pair, and ends behind it
      subst hpl
      have hc' : (h.setCdr p c).get? c = some (.pair u e) := by
        rw [get?_setCdr_of_ne (Ne.symm hne), hc]
      exact ⟨_, _, e, .cons (get?_setCdr_self hl) (.cons hc' (.nil e)), hkept e he⟩
    · have hp' : (h.setCdr l c).get? p = some (.pair v d) := by
        rw [get?_setCdr_of_ne hpl, hp]
      rcases ih he' with ⟨ps', vs', x', hs', hx'⟩
      exact ⟨_, _, x', .cons hp' hs', hx'⟩

end Heap

/-! ## Counting -/

variable {h : Heap} {w e : Word} {ps vs : List Word}

/-- Counting along a way that ends gives its number of pairs, whatever the bound is. -/
theorem ListIter.count_of_segment (hs : h.Segment w ps vs e) (he : h.pair? e = none)
    (seen : Nat) {limit : Nat} (hlimit : ps.length < limit) :
    ∃ cs, Program.Runs {} (ListIter.count seen ⟨w⟩ limit) h (seen + ps.length) h cs [] := by
  induction hs generalizing seen limit with
  | nil e =>
    cases limit with
    | zero => cases hlimit
    | succ limit =>
      refine ⟨_, (ListIter.next_of_not_pair he).bind_done ?_⟩
      simp [Program.pure_eq]
  | @cons p v d e ps vs hp _ ih =>
    cases limit with
    | zero => cases hlimit
    | succ limit =>
      have hrest : ps.length < limit := by simpa using hlimit
      rcases ih he (seen + 1) hrest with ⟨cs, hcs⟩
      have hmore : seen + 1 + ps.length = seen + (p :: ps).length := by
        rw [List.length_cons]
        omega
      rw [hmore] at hcs
      exact ⟨_, (ListIter.next_of_pair hp).bind hcs⟩

/-- The length of a list is the number of pairs on the way from it. -/
theorem listLength_runs (hs : h.Segment w ps vs e) (he : h.pair? e = none) :
    ∃ cs, Program.Runs {} (listLength w) h ps.length h cs [] := by
  -- the bound of the count is the number of cells, and no way has more pairs than that
  have hlimit : ps.length < h.size + 1 := by
    have hle := hs.length_le_pairs he
    have hle' := h.length_pairs_le
    omega
  rcases ListIter.count_of_segment hs he 0 hlimit with ⟨cs, hcs⟩
  rw [Nat.zero_add] at hcs
  have hcells : ({} : Backend).perform h .allocated = h.answer h.size := rfl
  exact ⟨_, Program.Runs.act hcells hcs⟩

/-- A new pair in front makes a list longer by one. -/
theorem listLength_cons_runs (hg : h.Grounded) (hsize : h.size < Word.capacity)
    (hw : h.Knows w) (hs : h.Segment w ps vs e) (he : h.pair? e = none) (a : Word) :
    ∃ h' cs es,
      Program.Runs {} (Program.cons a w >>= listLength) h (ps.length + 1) h' cs es := by
  have hne : w ≠ h.nextHandle := by
    rintro rfl
    exact Heap.not_knows_nextHandle hsize hw
  rcases hg.segment_push hsize (.pair a w) hne hs he with ⟨hs', he'⟩
  have hfront : (h.push (.pair a w)).Segment h.nextHandle (h.nextHandle :: ps) (a :: vs) e :=
    .cons (Heap.get?_push_nextHandle hsize) hs'
  rcases listLength_runs hfront he' with ⟨cs, hcs⟩
  have hcons : ({} : Backend).perform h (.primitive (.binary .cons a w)) =
      { result := .ok h.nextHandle, heap := h.push (.pair a w),
        events := [.cellAllocated h.size] } := rfl
  exact ⟨_, _, _, Program.Runs.call_bind hcons hcs⟩

end ProxyForge
