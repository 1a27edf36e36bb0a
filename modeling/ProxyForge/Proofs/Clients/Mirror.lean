import ProxyForge.Proofs.Clients.Renaming
import ProxyForge.Proofs.Heap.Symbols
import Mathlib.Data.List.Perm.Subperm

/-!
# ProxyForge.Proofs.Clients.Mirror — a heap that another heap contains

`Heap.Mirrors r h g` says that the heap `g` contains, under the renaming `r`, a
copy of every cell of `h`, whatever else it contains. All readers then answer the
same up to `r`. A walk along a class chain needs an argument of its own: its bound
is the size of the heap, which differs, but parents are older than their classes,
so that no walk gets near it.
-/

namespace ProxyForge.Heap

open Renaming

variable {h g h' g' : Heap} {r r' r'' : Renaming} {x x' y y' v w : Word} {c d : Cell}

/-- Under the renaming, `g` contains a copy of `h`. -/
structure Mirrors (r : Renaming) (h g : Heap) : Prop where
  length_eq : r.handles.length = h.size
  cell : ∀ (i : Nat) (c : Cell) (w : Word), h.cells[i]? = some c → r.handles[i]? = some w →
    ∃ d, g.get? w = some d ∧ r.SendsCell c d
  tabled : h.Tabled
  tabled' : g.Tabled
  older : ∀ (i : Nat) (name : String) (p : Word), h.cells[i]? = some (.classCell name (some p)) →
    ∀ j, p.cellIndex? = some j → j < i

theorem mirrors_empty : Mirrors .empty empty empty := by
  constructor
  · rfl
  · intro i c w hc
    cases hc
  · exact empty_tabled
  · exact empty_tabled
  · intro i name p hc
    cases hc

/-! ## Sizes -/

/-- Distinct words with cells are no more than there are cells. -/
theorem length_le_size {ws : List Word} (hnodup : ws.Nodup)
    (hws : ∀ w ∈ ws, ∃ c, h.get? w = some c) : ws.length ≤ h.size := by
  have hsub : ws ⊆ (List.range h.size).map Word.handle := by
    intro w hw
    rcases hws w hw with ⟨c, hc⟩
    rcases issued_of_get? hc with ⟨i, hi, rfl⟩
    exact List.mem_map_of_mem (List.mem_range.2 hi)
  have hle := (List.subperm_of_subset hnodup hsub).length_le
  rwa [List.length_map, List.length_range] at hle

namespace Mirrors

/-- Every counterpart is a cell. -/
theorem get?_of_mem (hm : Mirrors r h g) (hw : w ∈ r.handles) : ∃ d, g.get? w = some d := by
  rcases List.getElem?_of_mem hw with ⟨i, hi⟩
  have hlt : i < h.cells.size := by
    have hlen := (List.getElem?_eq_some_iff.1 hi).1
    rwa [hm.length_eq] at hlen
  rcases hm.cell i _ w (Array.getElem?_eq_getElem hlt) hi with ⟨d, hd, -⟩
  exact ⟨d, hd⟩

theorem size_le (hm : Mirrors r h g) : h.size ≤ g.size := by
  rw [← hm.length_eq]
  exact length_le_size r.nodup fun w hw => hm.get?_of_mem hw

/-- A cell that is no counterpart makes the containing heap larger than the other. -/
theorem size_lt (hm : Mirrors r h g) (hv : v ∉ r.handles) (hcell : g.get? v = some d) :
    h.size < g.size := by
  have hnodup : (v :: r.handles).Nodup := List.nodup_cons.2 ⟨hv, r.nodup⟩
  have hle := length_le_size (h := g) hnodup fun w hw => by
    rcases List.mem_cons.1 hw with rfl | hw
    · exact ⟨d, hcell⟩
    · exact hm.get?_of_mem hw
  rw [List.length_cons, hm.length_eq] at hle
  exact hle

/-! ## Reading -/

/-- A known word has a counterpart of its cell, or no cell in either heap. -/
theorem get? (hm : Mirrors r h g) (hx : r.Sends x x') :
    (h.get? x = none ∧ g.get? x' = none) ∨
      ∃ c d, h.get? x = some c ∧ g.get? x' = some d ∧ r.SendsCell c d := by
  cases hi : x.cellIndex? with
  | none =>
    rw [hx.eq_of_plain hi]
    exact .inl ⟨get?_of_cellIndex?_eq_none hi, get?_of_cellIndex?_eq_none hi⟩
  | some i =>
    have hw := (sends_iff_of_cell hi).1 hx
    have hlt : i < h.cells.size := by
      have hlen := (List.getElem?_eq_some_iff.1 hw).1
      rwa [hm.length_eq] at hlen
    have hc : h.cells[i]? = some h.cells[i] := Array.getElem?_eq_getElem hlt
    rcases hm.cell i _ x' hc hw with ⟨d, hd, hcd⟩
    have hget : h.get? x = some h.cells[i] := by
      rw [Heap.get?, hi, Option.bind_some, hc]
    exact .inr ⟨_, d, hget, hd, hcd⟩

/-- Pairs are counterparts of pairs. -/
theorem pair? (hm : Mirrors r h g) (hx : r.Sends x x') :
    Option.Rel (fun p q => r.Sends p.1 q.1 ∧ r.Sends p.2 q.2) (h.pair? x) (g.pair? x') := by
  unfold Heap.pair?
  rcases hm.get? hx with ⟨hc, hd⟩ | ⟨c, d, hc, hd, hcd⟩
  · rw [hc, hd]
    exact .none
  · rw [hc, hd]
    cases hcd with
    | pair hcar hcdr => exact .some ⟨hcar, hcdr⟩
    | _ => exact .none

theorem symbolName? (hm : Mirrors r h g) (hx : r.Sends x x') :
    h.symbolName? x = g.symbolName? x' := by
  unfold Heap.symbolName?
  rcases hm.get? hx with ⟨hc, hd⟩ | ⟨c, d, hc, hd, hcd⟩
  · rw [hc, hd]
  · rw [hc, hd]
    cases hcd <;> rfl

theorem stringValue? (hm : Mirrors r h g) (hx : r.Sends x x') :
    h.stringValue? x = g.stringValue? x' := by
  unfold Heap.stringValue?
  rcases hm.get? hx with ⟨hc, hd⟩ | ⟨c, d, hc, hd, hcd⟩
  · rw [hc, hd]
  · rw [hc, hd]
    cases hcd <;> rfl

theorem className? (hm : Mirrors r h g) (hx : r.Sends x x') :
    h.className? x = g.className? x' := by
  unfold Heap.className?
  rcases hm.get? hx with ⟨hc, hd⟩ | ⟨c, d, hc, hd, hcd⟩
  · rw [hc, hd]
  · rw [hc, hd]
    cases hcd <;> rfl

theorem instanceClass? (hm : Mirrors r h g) (hx : r.Sends x x') :
    Option.Rel r.Sends (h.instanceClass? x) (g.instanceClass? x') := by
  unfold Heap.instanceClass?
  rcases hm.get? hx with ⟨hc, hd⟩ | ⟨c, d, hc, hd, hcd⟩
  · rw [hc, hd]
    exact .none
  · rw [hc, hd]
    cases hcd with
    | instanceCell hcls => exact .some hcls
    | _ => exact .none

theorem parent? (hm : Mirrors r h g) (hx : r.Sends x x') :
    Option.Rel r.Sends (h.parent? x) (g.parent? x') := by
  unfold Heap.parent?
  rcases hm.get? hx with ⟨hc, hd⟩ | ⟨c, d, hc, hd, hcd⟩
  · rw [hc, hd]
    exact .none
  · rw [hc, hd]
    cases hcd with
    | classCell name hparent => exact hparent
    | _ => exact .none

/-- Every cell has a counterpart. -/
theorem exists_sends (hm : Mirrors r h g) (hx : h.get? x = some c) : ∃ x', r.Sends x x' := by
  rcases get?_eq_some.1 hx with ⟨i, hi, rfl, hc⟩
  have hlt : i < r.handles.length := by
    rw [hm.length_eq]
    exact (Array.getElem?_eq_some_iff.1 hc).1
  refine ⟨r.handles[i], ?_⟩
  rw [sends_iff_of_cell (Word.cellIndex?_handle hi)]
  exact List.getElem?_eq_getElem hlt

/-- A symbol has the same name in both heaps, and the table of each knows it. -/
theorem symbol? (hm : Mirrors r h g) {name : String} (hx : r.Sends x x')
    (hname : h.symbol? name = some x) : g.symbol? name = some x' := by
  have hcell := (hm.tabled name x).1 hname
  rcases hm.get? hx with ⟨hc, -⟩ | ⟨c, d, hc, hd, hcd⟩
  · rw [hcell] at hc
    cases hc
  · rw [hcell] at hc
    cases hc
    cases hcd
    exact (hm.tabled' name x').2 hd

end Mirrors

/-! ## Class chains -/

/-- A walk that has ended is not changed by a larger bound. -/
theorem onChain?_mono {b : Bool} {n m : Nat} (hn : h.onChain? y n x = some b) (hle : n ≤ m) :
    h.onChain? y m x = some b := by
  induction n generalizing x m with
  | zero => cases hn
  | succ n ih =>
    obtain ⟨m, rfl⟩ : ∃ k, m = k + 1 := ⟨m - 1, by omega⟩
    unfold onChain? at hn ⊢
    by_cases hxy : x = y
    · rw [if_pos hxy] at hn ⊢
      exact hn
    · rw [if_neg hxy] at hn ⊢
      cases hp : h.parent? x with
      | none =>
        simp only [hp] at hn ⊢
        exact hn
      | some p =>
        simp only [hp] at hn ⊢
        exact ih hn (by omega)

namespace Mirrors

/-- Two walks with the same bound go side by side. -/
theorem onChain?_eq (hm : Mirrors r h g) (hy : r.Sends y y') (n : Nat) (hx : r.Sends x x') :
    h.onChain? y n x = g.onChain? y' n x' := by
  induction n generalizing x x' with
  | zero => rfl
  | succ n ih =>
    unfold onChain?
    by_cases hxy : x = y
    · rw [if_pos hxy, if_pos ((hx.eq_iff hy).1 hxy)]
    · rw [if_neg hxy, if_neg fun hxy' => hxy ((hx.eq_iff hy).2 hxy')]
      have hparent := hm.parent? hx
      generalize h.parent? x = p at hparent ⊢
      generalize g.parent? x' = q at hparent ⊢
      cases hparent with
      | none => rfl
      | some hp => exact ih hp

/-- Since parents are older, a walk makes no more steps than there are older cells. -/
theorem isSome_onChain? (hm : Mirrors r h g) (y : Word) (n : Nat)
    (hx : ∀ i, x.cellIndex? = some i → i < n) : (h.onChain? y (n + 1) x).isSome := by
  induction n generalizing x with
  | zero =>
    unfold onChain?
    have hplain : x.cellIndex? = none := by
      cases hi : x.cellIndex? with
      | none => rfl
      | some i => exact absurd (hx i hi) (Nat.not_lt_zero i)
    have hparent : h.parent? x = none := by
      rw [Heap.parent?, get?_of_cellIndex?_eq_none hplain]
    by_cases hxy : x = y <;> simp [hxy, hparent]
  | succ n ih =>
    unfold onChain?
    by_cases hxy : x = y
    · simp [hxy]
    · rw [if_neg hxy]
      cases hp : h.parent? x with
      | none => rfl
      | some p =>
        refine ih fun j hj => ?_
        have hclass : ∃ name, h.get? x = some (.classCell name (some p)) := by
          unfold Heap.parent? at hp
          split at hp
          · next name parent hget => exact ⟨name, by rw [hget, hp]⟩
          · cases hp
        rcases hclass with ⟨name, hget⟩
        rcases get?_eq_some.1 hget with ⟨i, hi, rfl, hcell⟩
        have hlt := hm.older i name p hcell j hj
        have hin := hx i (Word.cellIndex?_handle hi)
        omega

/-- A known word that names a cell names one of the heap. -/
theorem lt_size (hm : Mirrors r h g) {i : Nat} (hx : r.Sends x x') (hi : x.cellIndex? = some i) :
    i < h.size := by
  have hlt := (List.getElem?_eq_some_iff.1 ((sends_iff_of_cell hi).1 hx)).1
  rwa [hm.length_eq] at hlt

/-- The class test answers the same in both heaps, and it does answer. -/
theorem isA? (hm : Mirrors r h g) (hx : r.Sends x x') (hy : r.Sends y y') :
    ∃ b, h.isA? x y = some b ∧ g.isA? x' y' = some b := by
  unfold Heap.isA?
  have hcls := hm.instanceClass? hx
  generalize h.instanceClass? x = cls at hcls
  generalize g.instanceClass? x' = cls' at hcls
  cases hcls with
  | none => exact ⟨false, rfl, rfl⟩
  | @some cls cls' hcls =>
    have hsome := hm.isSome_onChain? y h.size fun i hi => hm.lt_size hcls hi
    rcases Option.isSome_iff_exists.1 hsome with ⟨b, hb⟩
    refine ⟨b, hb, ?_⟩
    rw [hm.onChain?_eq hy _ hcls] at hb
    exact onChain?_mono hb (Nat.succ_le_succ hm.size_le)

/-! ## Changes -/

/-- A copy of a new cell, be it new as well or there before, goes to the end of the
renaming. -/
theorem grow (hm : Mirrors r h g) (hcells : h'.cells = h.cells.push c) (ht : h'.Tabled)
    (ht' : g'.Tabled) (hv : v ∉ r.handles) (hcell : v.cellIndex? ≠ none)
    (hget : g'.get? v = some d) (hcd : r.SendsCell c d)
    (hsame : ∀ w ∈ r.handles, g'.get? w = g.get? w) : Mirrors (r.snoc v hv hcell) h' g' := by
  have hsize : h'.size = h.size + 1 := by simp [size, hcells]
  constructor
  · rw [hsize, ← hm.length_eq]
    exact List.length_append
  · intro i c' w hc' hw
    rw [hcells, Array.getElem?_push] at hc'
    change (r.handles ++ [v])[i]? = some w at hw
    split at hc'
    · next hi =>
      obtain rfl := Option.some.inj hc'
      have hi' : i = r.handles.length := by rw [hm.length_eq, hi, size]
      rw [hi', List.getElem?_append_right (Nat.le_refl _), Nat.sub_self] at hw
      obtain rfl : v = w := by simpa using hw
      exact ⟨d, hget, hcd.mono (le_snoc hv hcell)⟩
    · have hlt : i < r.handles.length := by
        rw [hm.length_eq]
        exact (Array.getElem?_eq_some_iff.1 hc').1
      rw [List.getElem?_append_left hlt] at hw
      rcases hm.cell i c' w hc' hw with ⟨d', hd', hcd'⟩
      refine ⟨d', ?_, hcd'.mono (le_snoc hv hcell)⟩
      rw [hsame w (List.mem_of_getElem? hw), hd']
  · exact ht
  · exact ht'
  · intro i name p hp j hj
    rw [hcells, Array.getElem?_push] at hp
    split at hp
    · next hi =>
      obtain rfl := Option.some.inj hp
      cases hcd with
      | classCell _ hparent =>
        cases hparent with
        | some hp =>
          rw [hi]
          exact hm.lt_size hp hj
    · exact hm.older i name p hp j hj

/-- What happens to other cells of the containing heap does not matter. -/
theorem of_get? (hm : Mirrors r h g) (ht' : g'.Tabled)
    (hsame : ∀ w ∈ r.handles, ∀ d, g.get? w = some d → g'.get? w = some d) : Mirrors r h g' := by
  refine ⟨hm.length_eq, ?_, hm.tabled, ht', hm.older⟩
  intro i c w hc hw
  rcases hm.cell i c w hc hw with ⟨d, hd, hcd⟩
  exact ⟨d, hsame w (List.mem_of_getElem? hw) d hd, hcd⟩

/-- Relinking a pair and its counterpart. -/
theorem setCdr (hm : Mirrors r h g) (hx : r.Sends x x') (hy : r.Sends y y')
    {car cdr : Word} (hpair : h.get? x = some (.pair car cdr)) :
    Mirrors r (h.setCdr x y) (g.setCdr x' y') := by
  rcases get?_eq_some.1 hpair with ⟨i, hi, rfl, hcell⟩
  have hindex := Word.cellIndex?_handle hi
  have hwx := (sends_iff_of_cell hindex).1 hx
  rcases hm.cell i _ x' hcell hwx with ⟨d, hd, hcd⟩
  cases hcd with
  | @pair _ car' _ cdr' hcar hcdr =>
    constructor
    · rw [size_setCdr]
      exact hm.length_eq
    · intro j c w hc hw
      rw [getElem?_cells_setCdr hi hcell] at hc
      split at hc
      · next hij =>
        subst hij
        rw [hwx] at hw
        cases hc
        cases hw
        exact ⟨_, get?_setCdr_self hd, .pair hcar hy⟩
      · next hij =>
        rcases hm.cell j c w hc hw with ⟨d, hd', hcd⟩
        refine ⟨d, ?_, hcd⟩
        rw [get?_setCdr_of_ne, hd']
        rintro rfl
        exact hij ((List.getElem?_inj (List.getElem?_eq_some_iff.1 hwx).1 r.nodup).1
          (hwx.trans hw.symm))
    · exact hm.tabled.setCdr hpair
    · exact hm.tabled'.setCdr hd
    · intro j name p hc k hk
      rw [getElem?_cells_setCdr hi hcell] at hc
      split at hc
      · cases hc
      · exact hm.older j name p hc k hk

end Mirrors

end ProxyForge.Heap
