import ProxyForge.Proofs.Heap.Lasting
import ProxyForge.Session
import Mathlib.Data.List.Nodup

/-!
# ProxyForge.Proofs.Heap.Growth — the handles that allocations give out

An action makes no cell, or it makes one, answers its handle and reports its position
(`perform_growth`). So the words that the allocations of a run give out are the handles of
the positions in order (`givenOut_eq`), and whatever holds of the arithmetic of handles
holds of them: each is the only one for its position, reads back as that position, and
can be told from every other word.
-/

namespace ProxyForge

namespace Word

variable {w : Word} {i : Nat}

/-- A handle read as a number: the position counted from one, three bits up. -/
theorem toNat_shiftRight_handle (hi : i < capacity) : ((handle i).bits >>> 3).toNat = i + 1 := by
  have h3 : (3 : UInt64).toNat % 64 = 3 := by decide
  rw [UInt64.toNat_shiftRight, toNat_handle hi, h3, Nat.shiftRight_eq_div_pow]
  omega

/-- What is accepted as a handle is at least eight, so there is a position to subtract
one from. -/
theorem one_le_shiftRight (htag : w.bits &&& tagMask = cellTag) (hzero : w.bits ≠ 0) :
    (1 : UInt64) ≤ w.bits >>> 3 := by
  have hcell : ¬ (w.bits &&& tagMask ≠ cellTag ∨ w.bits = 0) := by
    rintro (hother | hnone)
    · exact hother htag
    · exact hzero hnone
  have h3 : (3 : UInt64).toNat % 64 = 3 := by decide
  rw [refused_iff] at hcell
  rw [UInt64.le_iff_toNat_le, UInt64.toNat_shiftRight, h3, Nat.shiftRight_eq_div_pow,
    UInt64.toNat_one]
  omega

/-- Exactly the words with the tag of cells, but for zero, are read as handles. -/
theorem exists_cellIndex?_iff :
    (∃ i, w.cellIndex? = some i) ↔ w.bits &&& tagMask = cellTag ∧ w.bits ≠ 0 := by
  unfold cellIndex?
  split
  · next hrefused =>
    refine iff_of_false (by simp) ?_
    rintro ⟨htag, hzero⟩
    rcases hrefused with hother | hnone
    · exact hother htag
    · exact hzero hnone
  · next haccepted =>
    rw [not_or, not_not] at haccepted
    exact iff_of_true ⟨_, rfl⟩ haccepted

end Word

namespace Heap

variable {h : Heap} {a : Action Word} {w : Word}

/-! ## One action -/

/-- An action leaves the number of cells and reports nothing, or it makes the next cell,
answers its handle and reports its position. -/
theorem perform_growth (h : Heap) (a : Action Word) :
    ((h.perform a).heap.size = h.size ∧ (h.perform a).events = []) ∨
    ((h.perform a).heap.size = h.size + 1 ∧
      (h.perform a).result.map (Answer.ofAction a) = .ok (.word h.nextHandle) ∧
      (h.perform a).events = [.cellAllocated h.size]) := by
  cases a with
  | primitive call =>
    cases call with
    | constant k => exact .inl ⟨rfl, rfl⟩
    | unary p x => cases p <;> exact .inl ⟨rfl, rfl⟩
    | binary p x y =>
      cases p with
      | isEq => exact .inl ⟨rfl, rfl⟩
      | isA => exact .inl ⟨rfl, rfl⟩
      | cons => exact .inr ⟨size_push, rfl, rfl⟩
      | setCdr =>
        have hset : h.perform (.primitive (.binary .setCdr x y)) = h.performBinary x y .setCdr :=
          rfl
        cases hpair : h.pair? x with
        | none =>
          rw [hset, performBinary_setCdr_of_not_pair hpair]
          exact .inl ⟨rfl, rfl⟩
        | some cell =>
          rw [hset, performBinary_setCdr (pair?_eq_some.1 hpair)]
          exact .inl ⟨size_setCdr, rfl⟩
  | internSymbol name =>
    cases hname : h.symbol? name with
    | some sym =>
      have hsame : h.perform (.internSymbol name) = h.answer sym := by
        simp only [perform, hname]
      rw [hsame]
      exact .inl ⟨rfl, rfl⟩
    | none =>
      have hnew : h.perform (.internSymbol name) =
          { result := .ok h.nextHandle, heap := h.pushSymbol name,
            events := [.cellAllocated h.size] } := by
        simp only [perform, hname, nextHandle]
      rw [hnew]
      exact .inr ⟨size_pushSymbol, rfl, rfl⟩
  | newString text => exact .inr ⟨size_push, rfl, rfl⟩
  | newClass name parent => exact .inr ⟨size_push, rfl, rfl⟩
  | newInstance cls => exact .inr ⟨size_push, rfl, rfl⟩
  | _ => exact .inl ⟨rfl, rfl⟩

/-! ## A run of actions -/

/-- The word that an action answers, if it makes a cell. -/
def givenBy (h : Heap) (a : Action Word) : Option Word :=
  if h.size < (h.perform a).heap.size then
    ((h.perform a).result.map (Answer.ofAction a)).toOption.bind Answer.word?
  else none

/-- The words that the allocations among the actions answer, in order. -/
def givenOut (h : Heap) : List (Action Word) → List Word
  | [] => []
  | a :: actions => (h.givenBy a).toList ++ (h.perform a).heap.givenOut actions

/-- Allocations give out the handles of the positions, one after the other. -/
theorem givenOut_eq (h : Heap) (actions : List (Action Word)) :
    h.givenOut actions =
      (List.range' h.size ((h.after actions).size - h.size)).map Word.handle := by
  induction actions generalizing h with
  | nil => simp [givenOut, after]
  | cons a actions ih =>
    have hle := size_le_after (h.perform a).heap actions
    rw [givenOut, ih, after_cons]
    rcases perform_growth h a with ⟨hsize, -⟩ | ⟨hsize, hanswer, -⟩
    · have hnone : h.givenBy a = none := by
        rw [givenBy, if_neg (by omega)]
      rw [hnone, hsize]
      rfl
    · have hsome : h.givenBy a = some h.nextHandle := by
        rw [givenBy, if_pos (by omega), hanswer]
        rfl
      -- the first position of the range is that of the new cell
      have hcount : ((h.perform a).heap.after actions).size - h.size =
          ((h.perform a).heap.after actions).size - (h.size + 1) + 1 := by omega
      rw [hsome, hcount, List.range'_succ, List.map_cons, hsize]
      rfl

/-- On a fresh heap the word given out at a position is its handle. -/
theorem getElem?_givenOut {actions : List (Action Word)} {i : Nat} :
    (({} : Heap).givenOut actions)[i]? = some w ↔
      i < (({} : Heap).after actions).size ∧ w = Word.handle i := by
  have hzero : ({} : Heap).size = 0 := rfl
  rw [givenOut_eq, hzero, Nat.sub_zero, ← List.range_eq_range', List.getElem?_map,
    Option.map_eq_some_iff]
  constructor
  · rintro ⟨j, hj, rfl⟩
    rcases List.getElem?_eq_some_iff.1 hj with ⟨hlt, rfl⟩
    rw [List.length_range] at hlt
    exact ⟨hlt, by rw [List.getElem_range]⟩
  · rintro ⟨hlt, rfl⟩
    exact ⟨i, by rw [List.getElem?_range hlt], rfl⟩

theorem mem_givenOut_iff {actions : List (Action Word)} :
    w ∈ ({} : Heap).givenOut actions ↔ (({} : Heap).after actions).Issued w := by
  rw [List.mem_iff_getElem?]
  simp only [getElem?_givenOut, Issued]

/-- There are runs of any number of allocations. -/
theorem exists_size_after (n : Nat) : ∃ actions, (({} : Heap).after actions).size = n := by
  induction n with
  | zero => exact ⟨[], rfl⟩
  | succ n ih =>
    rcases ih with ⟨actions, hsize⟩
    refine ⟨actions ++ [.newString ""], ?_⟩
    rw [after_append]
    show ((({} : Heap).after actions).push (.string "")).size = n + 1
    rw [size_push, hsize]

/-- A word has a cell exactly when it is the handle of a position below the size. -/
theorem isSome_get?_iff (hsize : h.size ≤ Word.capacity) :
    (h.get? w).isSome = true ↔ h.Issued w := by
  rw [Option.isSome_iff_exists]
  constructor
  · rintro ⟨c, hc⟩
    exact issued_of_get? hc
  · intro hissued
    exact hissued.get? hsize

/-! ## Words and positions -/

/-- The words that allocations give out, as long as their cells fit. The shift over the tag
loses nothing, so the word given out at position `i` is `8 * (i + 1)` and reads back as
`i`; nothing else reads as a position, and where one is read there is enough to subtract
from. No two of the words are the same, and none is zero or has the tag of immediates. The
heap has a cell for these words and for no other. -/
theorem handles_stand_for_positions (actions : List (Action Word))
    (hsize : (({} : Heap).after actions).size ≤ Word.capacity) :
    (({} : Heap).givenOut actions).length = (({} : Heap).after actions).size ∧
    (∀ i (w : Word), (({} : Heap).givenOut actions)[i]? = some w →
      w.bits.toNat = (i + 1) * 8 ∧ (w.bits >>> 3).toNat = i + 1 ∧ w.cellIndex? = some i) ∧
    (({} : Heap).givenOut actions).Nodup ∧
    (∀ w ∈ ({} : Heap).givenOut actions, w.bits ≠ 0 ∧
      ∀ v : Word, v.bits &&& Word.tagMask = Word.immediateTag → w ≠ v) ∧
    (∀ w, ((({} : Heap).after actions).get? w).isSome = true ↔
      w ∈ ({} : Heap).givenOut actions) ∧
    (∀ w : Word, (∃ i, w.cellIndex? = some i) ↔
      w.bits &&& Word.tagMask = Word.cellTag ∧ w.bits ≠ 0) ∧
    (∀ (w : Word) i, w.cellIndex? = some i →
      (1 : UInt64) ≤ w.bits >>> 3 ∧ Word.handle i = w ∧ w.bits.toNat = (i + 1) * 8) ∧
    (∀ (w : Word) i, w.cellIndex? = some i ↔
      ∃ run, (({} : Heap).after run).size ≤ Word.capacity ∧
        (({} : Heap).givenOut run)[i]? = some w) := by
  have hissued : ∀ w, w ∈ ({} : Heap).givenOut actions ↔ (({} : Heap).after actions).Issued w :=
    fun w => mem_givenOut_iff
  refine ⟨?_, ?_, ?_, ?_, ?_, fun w => Word.exists_cellIndex?_iff, ?_, ?_⟩
  · simp [givenOut_eq, size]
  · intro i w hw
    rcases getElem?_givenOut.1 hw with ⟨hi, rfl⟩
    have hfits : i < Word.capacity := by omega
    exact ⟨Word.toNat_handle hfits, Word.toNat_shiftRight_handle hfits,
      Word.cellIndex?_handle hfits⟩
  · -- equal words at two positions would be one handle of two positions
    rw [List.nodup_iff_getElem?_ne_getElem?]
    intro i j hij hj heq
    have hw := List.getElem?_eq_getElem hj
    rcases getElem?_givenOut.1 hw with ⟨hlt, hhandle⟩
    rw [hw] at heq
    rcases getElem?_givenOut.1 heq with ⟨hlt', hhandle'⟩
    have hsame := Word.handle_inj (by omega) (by omega) (hhandle'.symm.trans hhandle)
    omega
  · intro w hw
    rcases (hissued w).1 hw with ⟨i, hi, rfl⟩
    have haccepted := Word.exists_cellIndex?_iff.1 ⟨i, Word.cellIndex?_handle (by omega)⟩
    refine ⟨haccepted.2, ?_⟩
    rintro v hv rfl
    rw [haccepted.1] at hv
    exact absurd hv (by decide)
  · intro w
    rw [isSome_get?_iff hsize, hissued]
  · intro w i hw
    have haccepted := Word.exists_cellIndex?_iff.1 ⟨i, hw⟩
    exact ⟨Word.one_le_shiftRight haccepted.1 haccepted.2, (Word.cellIndex?_eq_some.1 hw).2.symm,
      Word.cellIndex?_eq_some_iff_toNat.1 hw⟩
  · intro w i
    rw [Word.cellIndex?_eq_some]
    constructor
    · rintro ⟨hi, rfl⟩
      rcases exists_size_after (i + 1) with ⟨run, hrun⟩
      exact ⟨run, by omega, getElem?_givenOut.2 ⟨by omega, rfl⟩⟩
    · rintro ⟨run, hfits, hw⟩
      rcases getElem?_givenOut.1 hw with ⟨hi, rfl⟩
      exact ⟨by omega, rfl⟩

/-- A string, a pair that is relinked, and a symbol that is interned twice. -/
def firstCells : List (Action Word) :=
  [.newString "text", .primitive (.binary .cons .eol .eol), .internSymbol "a",
    .primitive (.binary .setCdr (.handle 1) (.handle 2)), .internSymbol "a"]

/-- Three words are given out and no other has a cell; the greatest word with the tag of
cells is a handle, too, and some run gives it out. -/
theorem handles_stand_for_positions_at_both_ends :
    (({} : Heap).after firstCells).size ≤ Word.capacity ∧
    (({} : Heap).givenOut firstCells).length = 3 ∧
    ((({} : Heap).after firstCells).get? ⟨24⟩).isSome = true ∧
    ((({} : Heap).after firstCells).get? ⟨32⟩).isSome = false ∧
    ∃ run, (({} : Heap).after run).size ≤ Word.capacity ∧
      (({} : Heap).givenOut run)[2305843009213693950]? = some ⟨0xfffffffffffffff8⟩ := by
  have hsize : (({} : Heap).after firstCells).size ≤ Word.capacity := by decide
  rcases handles_stand_for_positions firstCells hsize with
    ⟨hlength, -, -, -, hcells, -, -, hpositions⟩
  have hgiven : ({} : Heap).givenOut firstCells = [⟨8⟩, ⟨16⟩, ⟨24⟩] := by decide
  refine ⟨hsize, hlength, ?_, ?_, (hpositions _ _).1 (by decide)⟩
  · rw [hcells, hgiven]
    decide
  · rw [← Bool.not_eq_true, hcells, hgiven]
    decide

end Heap

end ProxyForge
