/-!
# ProxyForge.Word — runtime words, immediates and cell handles

A runtime value is one 64-bit word. The low three bits tell immediates
(`100`) from handles of heap cells (`000`, and the word is not zero):

* `Word.immediate` builds the six objects that need no cell;
* `Word.handle` writes the position of a cell as a word, `Word.cellIndex?`
  reads it back and refuses every word that is no handle.

All arithmetic here is the arithmetic of 64-bit words, so a shift that loses
bits or a subtraction that goes below zero would show.
-/

namespace ProxyForge

/-- A value as the runtime passes it around: one machine word. -/
structure Word where
  bits : UInt64
deriving DecidableEq, Repr, Inhabited

namespace Word

/-! ## Tags -/

/-- The bits of a word that hold its tag. -/
def tagMask : UInt64 := 7

/-- The tag of a cell handle. -/
def cellTag : UInt64 := 0

/-- The tag of an immediate object. -/
def immediateTag : UInt64 := 4

/-! ## Immediate objects -/

/-- The immediate object with the given code: the code above the tag byte. -/
def immediate (code : UInt64) : Word :=
  ⟨(code <<< 8) ||| immediateTag⟩

/-- The false object, the only false value. -/
def boolF : Word := immediate 0

/-- The true object. -/
def boolT : Word := immediate 1

/-- The empty list. -/
def eol : Word := immediate 2

/-- The value of an expression without a value. -/
def unspecified : Word := immediate 3

/-- The undefined object, which also ends an argument array. -/
def undefined : Word := immediate 4

/-- The content of a variable without a binding. -/
def unbound : Word := immediate 5

/-! ## Cell handles -/

/-- The word that names the cell at position `index`: the one-based position,
shifted over the tag. -/
def handle (index : Nat) : Word :=
  ⟨UInt64.ofNat (index + 1) <<< 3⟩

/-- The position that a handle names; `none` for a word that is no handle. -/
def cellIndex? (w : Word) : Option Nat :=
  if w.bits &&& tagMask ≠ cellTag ∨ w.bits = 0 then none
  else some ((w.bits >>> 3) - 1).toNat

/-! ## Text -/

/-- The word in lower-case hexadecimal, without leading zeros. -/
def hex (w : Word) : String :=
  "0x" ++ String.ofList (Nat.toDigits 16 w.bits.toNat)

/-- The word as diagnostics show it. -/
def describe (w : Word) : String :=
  "Scm(" ++ w.hex ++ ")"

end Word

end ProxyForge
