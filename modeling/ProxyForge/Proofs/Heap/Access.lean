import ProxyForge.Heap.Basic
import ProxyForge.Proofs.Handles

/-!
# ProxyForge.Proofs.Heap.Access — what a word reads after a change

`Heap.get?` is the only view of a heap that the later modules use. Here each
change is described by what it does to that view: a new cell shows at the next
handle alone, and a relinked pair shows a new cdr at its own handle alone.
-/

namespace ProxyForge.Heap

variable {h : Heap} {v w x y : Word} {c : Cell}

/-! ## Cells and handles -/

theorem get?_eq_some :
    h.get? w = some c ↔ ∃ i, i < Word.capacity ∧ w = Word.handle i ∧ h.cells[i]? = some c := by
  simp only [get?, Option.bind_eq_some_iff, Word.cellIndex?_eq_some, and_assoc]

theorem get?_handle {i : Nat} (hi : i < Word.capacity) :
    h.get? (Word.handle i) = h.cells[i]? := by
  simp [get?, Word.cellIndex?_handle hi]

/-- A word with a cell is the handle of a position below the size. -/
theorem lt_size_of_get? (hw : h.get? w = some c) :
    ∃ i, i < h.size ∧ i < Word.capacity ∧ w = Word.handle i := by
  rcases get?_eq_some.1 hw with ⟨i, hi, rfl, hc⟩
  rcases Array.getElem?_eq_some_iff.1 hc with ⟨hlt, -⟩
  exact ⟨i, hlt, hi, rfl⟩

/-- Words that name no cell have none in any heap. -/
theorem get?_of_cellIndex?_eq_none (hw : w.cellIndex? = none) : h.get? w = none := by
  simp [get?, hw]

theorem cellIndex?_nextHandle (hsize : h.size < Word.capacity) :
    h.nextHandle.cellIndex? = some h.size :=
  Word.cellIndex?_handle hsize

theorem get?_nextHandle (hsize : h.size < Word.capacity) : h.get? h.nextHandle = none := by
  rw [nextHandle, get?_handle hsize]
  exact Array.getElem?_eq_none (Nat.le_refl _)

/-- The next handle is the handle of no cell so far. -/
theorem ne_nextHandle (hsize : h.size < Word.capacity) (hw : h.get? w = some c) :
    w ≠ h.nextHandle := by
  rintro rfl
  rw [get?_nextHandle hsize] at hw
  cases hw

/-! ## Handles given out -/

/-- The word is the handle of one of the cells. -/
def Issued (h : Heap) (w : Word) : Prop := ∃ i < h.size, w = Word.handle i

theorem Issued.mono {h' : Heap} (hw : h.Issued w) (hle : h.size ≤ h'.size) : h'.Issued w := by
  rcases hw with ⟨i, hi, rfl⟩
  exact ⟨i, by omega, rfl⟩

theorem issued_of_get? (hw : h.get? w = some c) : h.Issued w := by
  rcases lt_size_of_get? hw with ⟨i, hlt, -, rfl⟩
  exact ⟨i, hlt, rfl⟩

theorem Issued.get? (hw : h.Issued w) (hsize : h.size ≤ Word.capacity) :
    ∃ c, h.get? w = some c := by
  rcases hw with ⟨i, hi, rfl⟩
  rw [get?_handle (by omega)]
  exact ⟨_, Array.getElem?_eq_getElem hi⟩

/-! ## New cells -/

@[simp] theorem get?_empty : empty.get? w = none := by
  cases hw : w.cellIndex? <;> simp [get?, hw, empty]

@[simp] theorem size_push : (h.push c).size = h.size + 1 := by
  simp [size, push]

@[simp] theorem size_pushSymbol {name : String} : (h.pushSymbol name).size = h.size + 1 := by
  simp [size, pushSymbol]

@[simp] theorem symbol?_push {name : String} : (h.push c).symbol? name = h.symbol? name := rfl

/-- The cells of a heap with a new symbol are those with any other new cell. -/
theorem get?_pushSymbol {name : String} :
    (h.pushSymbol name).get? w = (h.push (.symbol name)).get? w := rfl

theorem symbol?_pushSymbol {name other : String} :
    (h.pushSymbol name).symbol? other =
      if other = name then some h.nextHandle else h.symbol? other := by
  simp only [symbol?, pushSymbol, List.lookup_cons]
  split <;> simp_all

theorem get?_push_nextHandle (hsize : h.size < Word.capacity) :
    (h.push c).get? h.nextHandle = some c := by
  rw [nextHandle, get?_handle hsize]
  simp [push, size]

theorem get?_push_of_ne (hw : w ≠ h.nextHandle) : (h.push c).get? w = h.get? w := by
  cases hi : w.cellIndex? with
  | none => rw [get?_of_cellIndex?_eq_none hi, get?_of_cellIndex?_eq_none hi]
  | some i =>
    rcases Word.cellIndex?_eq_some.1 hi with ⟨hcap, rfl⟩
    have hne : i ≠ h.cells.size := by
      rintro rfl
      exact hw rfl
    rw [get?_handle hcap, get?_handle hcap, push, Array.getElem?_push, if_neg hne]

/-- A cell stays where it is when another one is allocated. -/
theorem get?_push_of_some {d : Cell} (hsize : h.size < Word.capacity)
    (hw : h.get? w = some d) : (h.push c).get? w = some d := by
  rw [get?_push_of_ne (ne_nextHandle hsize hw), hw]

/-! ## Relinked pairs -/

@[simp] theorem size_setCdr : (h.setCdr x y).size = h.size := by
  unfold setCdr
  split <;> simp [size]

@[simp] theorem symbol?_setCdr {name : String} :
    (h.setCdr x y).symbol? name = h.symbol? name := by
  unfold setCdr
  split <;> rfl

/-- A relinked pair is the only cell that changes. -/
theorem getElem?_cells_setCdr {car cdr : Word} {i : Nat} (hi : i < Word.capacity)
    (hc : h.cells[i]? = some (.pair car cdr)) (j : Nat) :
    (h.setCdr (Word.handle i) y).cells[j]? =
      if i = j then some (.pair car y) else h.cells[j]? := by
  rw [setCdr, Word.cellIndex?_handle hi]
  simp only [Array.getElem?_modify]
  split
  · next hij =>
    subst hij
    rw [hc]
    rfl
  · rfl

theorem get?_setCdr_self {car cdr : Word} (hx : h.get? x = some (.pair car cdr)) :
    (h.setCdr x y).get? x = some (.pair car y) := by
  rcases get?_eq_some.1 hx with ⟨i, hi, rfl, hc⟩
  rw [get?_handle hi, getElem?_cells_setCdr hi hc, if_pos rfl]

theorem get?_setCdr_of_ne (hw : w ≠ x) : (h.setCdr x y).get? w = h.get? w := by
  unfold setCdr
  split
  · rfl
  · next i hx =>
    rcases Word.cellIndex?_eq_some.1 hx with ⟨-, rfl⟩
    cases hj : w.cellIndex? with
    | none => rw [get?_of_cellIndex?_eq_none hj, get?_of_cellIndex?_eq_none hj]
    | some j =>
      rcases Word.cellIndex?_eq_some.1 hj with ⟨hcap, rfl⟩
      have hne : i ≠ j := by
        rintro rfl
        exact hw rfl
      rw [get?_handle hcap, get?_handle hcap, Array.getElem?_modify, if_neg hne]

/-! ## The readers -/

theorem pair?_eq_some {car cdr : Word} :
    h.pair? w = some (car, cdr) ↔ h.get? w = some (.pair car cdr) := by
  unfold pair?
  split <;> simp_all

theorem isSome_pair? : (h.pair? w).isSome ↔ ∃ car cdr, h.get? w = some (.pair car cdr) := by
  simp only [Option.isSome_iff_exists, Prod.exists, pair?_eq_some]

theorem symbolName?_eq_some {name : String} :
    h.symbolName? w = some name ↔ h.get? w = some (.symbol name) := by
  unfold symbolName?
  split <;> simp_all

theorem instanceClass?_eq_some {cls : Word} :
    h.instanceClass? w = some cls ↔ h.get? w = some (.instanceCell cls) := by
  unfold instanceClass?
  split <;> simp_all

theorem parent?_eq_some {parent : Word} :
    h.parent? w = some parent ↔ ∃ name, h.get? w = some (.classCell name (some parent)) := by
  unfold parent?
  split <;> simp_all

/-- The readers see the cell of a word and nothing else. -/
theorem readers_of_get? {h' : Heap} (hw : h'.get? w = h.get? w) :
    h'.pair? w = h.pair? w ∧ h'.parent? w = h.parent? w ∧
      h'.instanceClass? w = h.instanceClass? w := by
  unfold pair? parent? instanceClass?
  rw [hw]
  exact ⟨rfl, rfl, rfl⟩

end ProxyForge.Heap
