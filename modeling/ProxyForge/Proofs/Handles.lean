import ProxyForge.Word
import Mathlib.Algebra.Group.Nat.Defs
import Mathlib.Tactic.Common

/-!
# ProxyForge.Proofs.Handles — handles and the cells they name

`Word.handle` and `Word.cellIndex?` undo one another as long as the position
fits: `cellIndex?_eq_some` says that a word names the cell at position `i`
exactly when `i` is below `Word.capacity` and the word is `handle i`. All the
distinctness of handles that later modules use comes from this one statement.
-/

namespace ProxyForge.Word

/-- The number of cells that words can tell apart. -/
def capacity : Nat := 2 ^ 61 - 1

/-- A position that fits loses no bit in the shift over the tag. -/
theorem toNat_handle {i : Nat} (hi : i < capacity) :
    (handle i).bits.toNat = (i + 1) * 8 := by
  have hlt : i < 2 ^ 61 - 1 := hi
  have h3 : (3 : UInt64).toNat % 64 = 3 := by decide
  simp only [handle, UInt64.toNat_shiftLeft, UInt64.toNat_ofNat']
  rw [Nat.mod_eq_of_lt (by omega : i + 1 < 2 ^ 64), h3, Nat.shiftLeft_eq,
    Nat.mod_eq_of_lt (by omega)]

/-- The tag is the remainder by eight, so only multiples of eight are handles. -/
theorem refused_iff (w : Word) :
    (w.bits &&& tagMask ≠ cellTag ∨ w.bits = 0) ↔
      (w.bits.toNat % 8 ≠ 0 ∨ w.bits.toNat = 0) := by
  have hmask : tagMask.toNat = 2 ^ 3 - 1 := by decide
  have hzero : cellTag.toNat = 0 := by decide
  rw [ne_eq, ← UInt64.toNat_inj, ← UInt64.toNat_inj, UInt64.toNat_and, hmask,
    Nat.and_two_pow_sub_one_eq_mod, hzero, UInt64.toNat_zero]

theorem cellIndex?_eq_some_iff_toNat {w : Word} {i : Nat} :
    w.cellIndex? = some i ↔ w.bits.toNat = (i + 1) * 8 := by
  have hlt := w.bits.toNat_lt
  have h3 : (3 : UInt64).toNat % 64 = 3 := by decide
  have hshift : (w.bits >>> 3).toNat = w.bits.toNat / 8 := by
    rw [UInt64.toNat_shiftRight, h3, Nat.shiftRight_eq_div_pow]
  unfold cellIndex?
  by_cases hcell : w.bits &&& tagMask ≠ cellTag ∨ w.bits = 0
  · rw [if_pos hcell]
    rw [refused_iff] at hcell
    constructor
    · intro h
      cases h
    · intro h
      omega
  · rw [if_neg hcell, Option.some.injEq]
    rw [refused_iff] at hcell
    have hle : (1 : UInt64) ≤ w.bits >>> 3 := by
      rw [UInt64.le_iff_toNat_le, hshift, UInt64.toNat_one]
      omega
    rw [UInt64.toNat_sub_of_le _ _ hle, hshift, UInt64.toNat_one]
    omega

/-- A word names a cell position exactly when it is the handle of that position. -/
theorem cellIndex?_eq_some {w : Word} {i : Nat} :
    w.cellIndex? = some i ↔ i < capacity ∧ w = handle i := by
  rw [cellIndex?_eq_some_iff_toNat]
  constructor
  · intro h
    have hi : i < capacity := by
      have hlt := w.bits.toNat_lt
      show i < 2 ^ 61 - 1
      omega
    refine ⟨hi, ?_⟩
    have hbits : w.bits = (handle i).bits := by
      rw [← UInt64.toNat_inj, toNat_handle hi, h]
    cases w
    exact congrArg Word.mk hbits
  · rintro ⟨hi, rfl⟩
    exact toNat_handle hi

theorem cellIndex?_handle {i : Nat} (hi : i < capacity) : (handle i).cellIndex? = some i :=
  cellIndex?_eq_some.2 ⟨hi, rfl⟩

/-- No immediate is a handle: its tag is another one, whatever its code is. -/
theorem cellIndex?_immediate (code : UInt64) : (immediate code).cellIndex? = none := by
  have hmask : ∀ n : Nat, n &&& 7 = n % 8 := fun n => Nat.and_two_pow_sub_one_eq_mod n 3
  have h8 : (8 : Nat) % 64 = 8 := rfl
  have htag : (immediate code).bits &&& tagMask = immediateTag := by
    rw [← UInt64.toNat_inj, immediate, tagMask, immediateTag, UInt64.toNat_and, UInt64.toNat_or,
      UInt64.toNat_shiftLeft]
    simp only [UInt64.reduceToNat]
    have hlow : code.toNat * 2 ^ 8 % 2 ^ 64 % 8 = 0 := by omega
    rw [Nat.and_or_distrib_right, hmask, Nat.shiftLeft_eq, h8, hlow]
    rfl
  rw [cellIndex?, if_pos]
  left
  rw [htag]
  decide

/-- Cells at different positions have different handles. -/
theorem handle_inj {i j : Nat} (hi : i < capacity) (hj : j < capacity)
    (h : handle i = handle j) : i = j := by
  have hsome := cellIndex?_handle hi
  rw [h, cellIndex?_handle hj] at hsome
  exact (Option.some.inj hsome).symm

end ProxyForge.Word
