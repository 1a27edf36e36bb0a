import ProxyForge.Compiler.Records

/-!
# ProxyForge.Compiler.Operand — what expressions are allowed to combine

An operand is what is known of an expression: its type, whether it names a place,
and what is known of its value before the program runs. Each rule gives the
operand of a larger expression, or `none` where the language forbids it and a
compiler refuses.

Numbers and pointers may stand for each other, and pointers for pointers of other
types; a compiler only warns of that.
-/

namespace ProxyForge.Compiler

/-- What is known of a value before the program runs. Of a place this is said about
its address. -/
inductive Worth where
  | unknown
  /-- It is fixed when the program is loaded. -/
  | fixed
  | integer (value : Int)
deriving DecidableEq, Repr

/-- What is known of an expression. -/
structure Operand where
  type : CType
  isPlace : Bool := false
  worth : Worth := .unknown
deriving Repr

namespace Operand

/-- An expression without a value. -/
def nothing : Operand := { type := .void }

/-- A known integer of a type. -/
def integer (n : NumberType) (value : Int) : Operand :=
  { type := .number n, worth := .integer (n.wrap value) }

/-- What is known of something made of two operands, when nothing more is known than
of both. -/
def bothWorth (a b : Operand) : Worth :=
  if a.worth = .unknown ∨ b.worth = .unknown then .unknown else .fixed

/-- The integer that is known. -/
def integer? (o : Operand) : Option Int :=
  match o.worth with
  | .integer n => some n
  | _ => none

/-- The operand used for its value; `none` for a record of which nothing is known. -/
def value? (rs : Records) (o : Operand) : Option Operand :=
  let type := o.type.decay
  if o.type.isRecord ∧ !rs.isComplete o.type then none
  else
    match o.type.unqualified with
    | .array .. | .function .. | .openFunction _ => some { type, worth := o.worth }
    | _ =>
      if o.isPlace ∧ !(o.type.isConst ∧ o.worth = .fixed) then some { type }
      else some { type, worth := o.worth }

/-- The operand used for its value, which it must have. -/
def proper? (rs : Records) (o : Operand) : Option Operand :=
  (o.value? rs).filter fun o => !o.type.isVoid

/-- The operand used as a condition. -/
def condition? (rs : Records) (o : Operand) : Option Operand :=
  (o.value? rs).filter fun o => o.type.isScalar

/-! ## Conversions -/

/-- Whether a value may become a value of a type by itself. -/
def converts (target : CType) (o : Operand) : Bool :=
  match target.unqualified, o.type.unqualified with
  | .number .bool, .pointer _ => true
  | .number n, .pointer _ => n.isLikePointer
  | .number _, .number _ => true
  | .pointer _, .pointer _ => true
  | .pointer _, .number n => n.isLikePointer
  | .record a, .record b => a == b
  | _, _ => false

/-- The operand converted to a type by name. -/
def cast? (rs : Records) (target : CType) (o : Operand) : Option Operand := do
  let o ← o.value? rs
  if target.isVoid then return nothing
  match target.unqualified, o.type with
  | .number n, .number m =>
    let worth := match o.worth with
      | .integer v => if n.isFloating then .fixed else .integer (n.wrap v)
      | .fixed => if m.isFloating ∧ !n.isFloating then .integer 1 else .fixed
      | .unknown => .unknown
    return { type := .number n, worth }
  | .number n, .pointer _ =>
    if n.isFloating then none
    let worth := match o.worth with
      | .integer v => .integer (n.wrap v)
      | .fixed => if n.size = 8 ∨ n = .bool then .fixed else .unknown
      | .unknown => .unknown
    return { type := .number n, worth }
  | .pointer t, .number n =>
    if n.isFloating then none else return { type := .pointer t, worth := o.worth }
  | .pointer t, .pointer _ => return { type := .pointer t, worth := o.worth }
  | .record a, .record b => if a = b then return o else none
  | _, _ => none

/-! ## Operators -/

/-- The value of an operator on known integers, computed in a type. -/
def compute? (op : String) (n : NumberType) (x y : Int) : Option Int :=
  let ofBool (b : Bool) : Option Int := some (if b then 1 else 0)
  let size : Nat := 8 * n.size
  let bits (f : Nat → Nat → Nat) : Option Int :=
    some (n.wrap (f (x % Nat.pow 2 size).toNat (y % Nat.pow 2 size).toNat : Nat))
  match op with
  | "*" => some (n.wrap (x * y))
  | "/" => if y = 0 then none else some (n.wrap (Int.tdiv x y))
  | "%" => if y = 0 then none else some (n.wrap (Int.tmod x y))
  | "+" => some (n.wrap (x + y))
  | "-" => some (n.wrap (x - y))
  | "<<" => if y < 0 ∨ (size : Int) ≤ y then none else some (n.wrap (x * Nat.pow 2 y.toNat))
  | ">>" => if y < 0 ∨ (size : Int) ≤ y then none else some (n.wrap (Int.fdiv x (Nat.pow 2 y.toNat)))
  | "<" => ofBool (x < y)
  | ">" => ofBool (y < x)
  | "<=" => ofBool (x ≤ y)
  | ">=" => ofBool (y ≤ x)
  | "==" => ofBool (x = y)
  | "!=" => ofBool (x ≠ y)
  | "&" => bits Nat.land
  | "^" => bits Nat.xor
  | "|" => bits Nat.lor
  | _ => none

/-- An operator on two numbers that are computed in one type, with a result of a type. -/
def arithmetic (op : String) (common result : NumberType) (a b : Operand) : Operand :=
  let worth :=
    match a.worth, b.worth with
    | .integer x, .integer y =>
      match compute? op common (common.wrap x) (common.wrap y) with
      | some v => .integer v
      | none => .unknown
    | _, _ => bothWorth a b
  { type := .number result, worth }

/-- An operator on the values of two operands. -/
def binary? (rs : Records) (op : String) (a b : Operand) : Option Operand := do
  let a ← a.proper? rs
  let b ← b.proper? rs
  let compares := ["<", ">", "<=", ">=", "==", "!="].contains op
  let moved (p i : Operand) (t : CType) : Option Operand :=
    if (rs.size? t).isSome then some { type := p.type, worth := bothWorth p i } else none
  match a.type, b.type with
  | .number m, .number n =>
    let wholeOnly := ["%", "<<", ">>", "&", "^", "|"].contains op
    if wholeOnly ∧ (m.isFloating ∨ n.isFloating) then none
    else if op = "<<" ∨ op = ">>" then
      let worth :=
        match a.worth, b.worth with
        | .integer x, .integer y => (compute? op m.promote x y).elim .unknown .integer
        | _, _ => bothWorth a b
      return { type := .number m.promote, worth }
    else
      let common := m.common n
      return arithmetic op common (if compares then .int else common) a b
  | .pointer s, .pointer t =>
    if compares then
      match a.worth, b.worth with
      | .integer _, .integer _ => return arithmetic op .ulong .int a b
      | _, _ => return { type := .int, worth := bothWorth a b }
    else if op = "-" ∧ (rs.size? s.unqualified).isSome
        ∧ CType.compatible s.unqualified t.unqualified then
      return { type := .number .long, worth := bothWorth a b }
    else none
  | .pointer t, .number n =>
    if n.isFloating then none
    else if compares then return { type := .int, worth := bothWorth a b }
    else if op = "+" ∨ op = "-" then moved a b t.unqualified
    else none
  | .number n, .pointer t =>
    if n.isFloating then none
    else if compares then return { type := .int, worth := bothWorth a b }
    else if op = "+" then moved b a t.unqualified
    else none
  | _, _ => none

/-- Both conditions or one of them. The second one does not count where the first one
decides. -/
def logical? (rs : Records) (isAnd : Bool) (a b : Operand) : Option Operand := do
  let a ← a.condition? rs
  let b ← b.condition? rs
  let worth :=
    match a.worth, b.worth with
    | .integer x, .integer y =>
      if isAnd then .integer (if x ≠ 0 ∧ y ≠ 0 then 1 else 0)
      else .integer (if x ≠ 0 ∨ y ≠ 0 then 1 else 0)
    | .integer x, worth =>
      if isAnd ∧ x = 0 then .integer 0 else if !isAnd ∧ x ≠ 0 then .integer 1 else worth
    | .unknown, _ => .unknown
    | .fixed, worth => if worth = .unknown then .unknown else .fixed
  return { type := .int, worth }

/-- One of two operands by a condition. -/
def choice? (rs : Records) (c a b : Operand) : Option Operand := do
  let c ← c.condition? rs
  let a ← a.value? rs
  let b ← b.value? rs
  let worth :=
    match c.worth with
    | .integer n => if n ≠ 0 then a.worth else b.worth
    | .fixed => bothWorth a b
    | .unknown => .unknown
  match a.type, b.type with
  | .void, _ | _, .void => return nothing
  | .number m, .number n => return { type := .number (m.common n), worth }
  | .pointer s, .pointer t =>
    return { type := if s.isVoid ∧ a.worth = .integer 0 then .pointer t else .pointer s, worth }
  | .pointer _, .number n => if n.isFloating then none else return { type := a.type, worth }
  | .number n, .pointer _ => if n.isFloating then none else return { type := b.type, worth }
  | .record m, .record n => if m = n then return { a with worth } else none
  | _, _ => none

/-- A sign in front of an operand. -/
def signed? (rs : Records) (op : String) (o : Operand) : Option Operand := do
  let o ← o.value? rs
  if op = "!" then
    if !o.type.isScalar then none
    let worth := match o.worth with
      | .integer n => .integer (if n = 0 then 1 else 0)
      | worth => worth
    return { type := .int, worth }
  match o.type with
  | .number n =>
    if op = "~" ∧ n.isFloating then none
    let n := if n.isFloating then n else n.promote
    let worth := match o.worth, op with
      | .integer v, "-" => .integer (n.wrap (-v))
      | .integer v, "~" => .integer (n.wrap (-v - 1))
      | worth, _ => worth
    return { type := .number n, worth }
  | _ => none

/-- What a pointer points to. -/
def pointee? (rs : Records) (o : Operand) : Option Operand := do
  let o ← o.value? rs
  return { type := ← o.type.target?, isPlace := true,
           worth := if o.worth = .unknown then .unknown else .fixed }

/-- An element of an array. There are no arrays of functions. -/
def element? (rs : Records) (o i : Operand) : Option Operand := do
  let sum ← binary? rs "+" o i
  (sum.pointee? rs).filter fun e => !e.type.isFunction

/-- The address of a place or a function. -/
def address? (o : Operand) : Option Operand :=
  if o.isPlace ∨ o.type.isFunction then some { type := .pointer o.type, worth := o.worth }
  else none

/-- A member of a record. -/
def member? (rs : Records) (name : String) (o : Operand) : Option Operand :=
  match o.type.unqualified with
  | .record id =>
    (rs.member? id name).map fun t =>
      { type := if o.type.isConst then t.qualify else t, isPlace := true, worth := o.worth }
  | _ => none

/-- A place counted up or down by one. -/
def step? (rs : Records) (o : Operand) : Option Operand :=
  if !o.isPlace ∨ o.type.isConst then none
  else
    match o.type.unqualified with
    | .number _ => some { type := o.type.unqualified }
    | .pointer t =>
      if (rs.size? t.unqualified).isSome then some { type := o.type.unqualified } else none
    | _ => none

/-- A value stored to a place, with an operator before if there is one. -/
def assign? (rs : Records) (op : Option String) (a b : Operand) : Option Operand := do
  let t := a.type.unqualified
  if !a.isPlace ∨ a.type.isConst ∨ a.type.isVoid ∨ a.type.isFunction then none
  let b ←
    match op with
    | none => b.proper? rs
    | some op => binary? rs op a b
  match t with
  | .array .. => none
  | _ => if b.converts t then return { type := t } else none

/-- The call of a function with arguments. -/
def call? (rs : Records) (f : Operand) (args : List Operand) : Option Operand := do
  let f ← f.value? rs
  let args ← args.mapM (·.proper? rs)
  let target ← f.type.target?
  let result ← target.result?
  match target with
  | .function _ params takesMore =>
    let enough := if takesMore then params.length ≤ args.length else params.length = args.length
    if !enough ∨ !(params.zip args).all (fun (t, o) => o.converts t) then none
  | _ => pure ()
  if result.isVoid then return nothing
  else if rs.isComplete result then return { type := result.unqualified }
  else none

end Operand

end ProxyForge.Compiler
