import ProxyForge.Compiler.Constant
import ProxyForge.Compiler.Definition

/-!
# ProxyForge.Compiler.Condition — conditions of directives

A condition is read as an expression of integers first (`Condition.ofTokens?`) and
then evaluated with 64 bits, where words stand for zero. Operands that are not
needed are not evaluated, so that a division by zero there is no fault.
-/

namespace ProxyForge.Compiler

/-- An integer of 64 bits with or without a sign. -/
structure Quantity where
  value : Int
  isUnsigned : Bool := false
deriving DecidableEq, Repr

namespace Quantity

/-- The quantity of a type with this remainder modulo 2 ^ 64. -/
def wrap (isUnsigned : Bool) (n : Int) : Quantity :=
  { value := if isUnsigned then n % Nat.pow 2 64 else Int.bmod n (Nat.pow 2 64), isUnsigned }

/-- One for true and zero for false. -/
def ofBool (b : Bool) : Quantity := { value := if b then 1 else 0 }

/-- Whether the quantity counts as true. -/
def isTrue (a : Quantity) : Bool := a.value ≠ 0

end Quantity

/-- A condition. -/
inductive Condition where
  | constant (n : Quantity)
  | unary (op : String) (a : Condition)
  | binary (op : String) (a b : Condition)
  | choice (a b c : Condition)
deriving Repr

/-- How tight the binary operators bind, the tightest one most. -/
def bindingStrength? (op : String) : Option Nat :=
  match op with
  | "*" | "/" | "%" => some 10
  | "+" | "-" => some 9
  | "<<" | ">>" => some 8
  | "<" | ">" | "<=" | ">=" => some 7
  | "==" | "!=" => some 6
  | "&" => some 5
  | "^" => some 4
  | "|" => some 3
  | "&&" => some 2
  | "||" => some 1
  | _ => none

namespace Condition

/-! ## Reading -/

/-- The quantity that a token stands for. -/
def operand? (t : Token) : Option Quantity :=
  match t.kind with
  | .word => if t.text = "defined" then none else some { value := 0 }
  | .number => (IntegerText.parse? t.text).map fun n =>
      Quantity.wrap (n.isUnsigned || n.value ≥ Nat.pow 2 63) n.value
  | .character => (characterValue? t.text).map fun n => { value := n }
  | _ => none

/-- Reads a condition whose binary operators bind at least as tight as `least`, and
gives the tokens behind it. The number bounds the nesting. -/
def parse? : Nat → Nat → List Token → Option (Condition × List Token)
  | 0, _, _ => none
  | fuel + 1, least, ts => do
    let (a, rest) ←
      match ts with
      | [] => none
      | t :: rest =>
        if t.kind = .sign then
          if t.text = "(" then do
            let (a, rest) ← parse? fuel 0 rest
            match rest with
            | close :: rest => if close.text = ")" then some (a, rest) else none
            | [] => none
          else if ["+", "-", "!", "~"].contains t.text then do
            let (a, rest) ← parse? fuel 11 rest
            some (.unary t.text a, rest)
          else none
        else (operand? t).map fun n => (.constant n, rest)
    climb fuel fuel least a rest
where
  /-- Goes on behind an operand with the operators that bind tight enough. -/
  climb (fuel : Nat) : Nat → Nat → Condition → List Token → Option (Condition × List Token)
    | 0, _, _, _ => none
    | _, _, a, [] => some (a, [])
    | steps + 1, least, a, t :: rest =>
      if t.kind ≠ .sign then some (a, t :: rest)
      else if t.text = "?" ∧ least = 0 then do
        let (b, rest) ← parse? fuel 0 rest
        match rest with
        | colon :: rest => do
          if colon.text ≠ ":" then none
          let (c, rest) ← parse? fuel 0 rest
          return (.choice a b c, rest)
        | [] => none
      else
        match bindingStrength? t.text with
        | some strength =>
          if strength < least then some (a, t :: rest)
          else do
            let (b, rest) ← parse? fuel (strength + 1) rest
            climb fuel steps least (.binary t.text a b) rest
        | none => some (a, t :: rest)

/-- Reads a condition. -/
def ofTokens? (ts : List Token) : Option Condition :=
  match parse? (ts.length + 1) 0 ts with
  | some (c, []) => some c
  | _ => none

/-! ## Evaluation -/

/-- The value of an operator without side conditions on two quantities; `none` for a
division by zero. -/
def operate? (op : String) (a b : Quantity) : Option Quantity :=
  let isUnsigned := a.isUnsigned || b.isUnsigned
  let x := (Quantity.wrap isUnsigned a.value).value
  let y := (Quantity.wrap isUnsigned b.value).value
  let wrap := Quantity.wrap isUnsigned
  let shift (left : Bool) (n : Int) : Quantity :=
    Quantity.wrap a.isUnsigned <|
      if !left then Int.fdiv a.value (Nat.pow 2 n.toNat)
      else if n ≥ 64 then 0
      else a.value * Nat.pow 2 n.toNat
  let bits (f : Nat → Nat → Nat) : Quantity :=
    wrap (f (x % Nat.pow 2 64).toNat (y % Nat.pow 2 64).toNat : Nat)
  match op with
  | "*" => some (wrap (x * y))
  | "/" => if y = 0 then none else some (wrap (Int.tdiv x y))
  | "%" => if y = 0 then none else some (wrap (Int.tmod x y))
  | "+" => some (wrap (x + y))
  | "-" => some (wrap (x - y))
  | "<<" => some (if b.value < 0 then shift false (min 64 (-b.value)) else shift true b.value)
  | ">>" => some (if b.value < 0 then shift true (-b.value) else shift false (min 64 b.value))
  | "<" => some (.ofBool (x < y))
  | ">" => some (.ofBool (y < x))
  | "<=" => some (.ofBool (x ≤ y))
  | ">=" => some (.ofBool (y ≤ x))
  | "==" => some (.ofBool (x = y))
  | "!=" => some (.ofBool (x ≠ y))
  | "&" => some (bits Nat.land)
  | "^" => some (bits Nat.xor)
  | "|" => some (bits Nat.lor)
  | _ => none

/-- Whether the value of a condition has no sign. -/
def isUnsigned : Condition → Bool
  | constant n => n.isUnsigned
  | unary op a => op ≠ "!" && a.isUnsigned
  | binary op a b =>
    if ["*", "/", "%", "+", "-", "&", "^", "|"].contains op then a.isUnsigned || b.isUnsigned
    else (op = "<<" || op = ">>") && a.isUnsigned
  | choice _ b c => b.isUnsigned || c.isUnsigned

/-- The value of a condition; `none` for a division by zero that is needed. -/
def value? : Condition → Option Quantity
  | constant n => some n
  | unary op a => do
    let n ← a.value?
    match op with
    | "-" => return .wrap n.isUnsigned (-n.value)
    | "~" => return .wrap n.isUnsigned (-n.value - 1)
    | "!" => return .ofBool (!n.isTrue)
    | _ => return n
  | binary op a b => do
    let n ← a.value?
    let decides := (op = "&&" ∧ !n.isTrue) ∨ (op = "||" ∧ n.isTrue)
    if decides then return .ofBool n.isTrue
    else if op = "&&" ∨ op = "||" then return .ofBool (← b.value?).isTrue
    else operate? op n (← b.value?)
  | choice a b c => do
    let n ← if (← a.value?).isTrue then b.value? else c.value?
    return .wrap (b.isUnsigned || c.isUnsigned) n.value

end Condition

end ProxyForge.Compiler
