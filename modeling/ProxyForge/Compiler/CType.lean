/-!
# ProxyForge.Compiler.CType — the types of C

Types are numbers, pointers, arrays, functions and records; records are numbered,
and what they hold stands in a table beside the types. `CType.compatible` says when
two declarations of one name agree.

An operand that is no place of its own has lost the qualifier of its type, and an
array or a function has become a pointer (`CType.decay`).
-/

namespace ProxyForge.Compiler

/-- The types of numbers. Enumerations have a sign when one of their values does. -/
inductive NumberType where
  | bool
  | char
  | schar
  | uchar
  | short
  | ushort
  | int
  | uint
  | long
  | ulong
  | longLong
  | ulongLong
  | huge
  | uhuge
  | float
  | double
  | longDouble
  | enumeration (isSigned : Bool)
deriving DecidableEq, Repr

namespace NumberType

/-- The size in bytes. -/
def size : NumberType → Nat
  | bool | char | schar | uchar => 1
  | short | ushort => 2
  | int | uint | float | enumeration _ => 4
  | long | ulong | longLong | ulongLong | double => 8
  | huge | uhuge | longDouble => 16

/-- Whether the numbers have fractions. -/
def isFloating : NumberType → Bool
  | float | double | longDouble => true
  | _ => false

/-- Whether the numbers have no sign. -/
def isUnsigned : NumberType → Bool
  | bool | uchar | ushort | uint | ulong | ulongLong | uhuge => true
  | enumeration isSigned => !isSigned
  | _ => false

/-- The rank in conversions. -/
def rank : NumberType → Nat
  | bool => 0
  | char | schar | uchar => 1
  | short | ushort => 2
  | int | uint | enumeration _ => 3
  | long | ulong => 4
  | longLong | ulongLong => 5
  | huge | uhuge => 6
  | float => 7
  | double => 8
  | longDouble => 9

/-- The type without a sign of the same rank. -/
def unsigned : NumberType → NumberType
  | int => uint
  | long => ulong
  | longLong => ulongLong
  | huge => uhuge
  | n => n

/-- The integers that an enumeration is made of. -/
def underlying : NumberType → NumberType
  | enumeration isSigned => if isSigned then int else uint
  | n => n

/-- The type that operands of a smaller rank have in expressions. -/
def promote (n : NumberType) : NumberType := if n.rank < 3 then int else n.underlying

/-- Whether a pointer and a number of the type may stand for each other. -/
def isLikePointer : NumberType → Bool
  | bool | enumeration _ => false
  | n => !n.isFloating

/-- The type in which two operands are computed. -/
def common (a b : NumberType) : NumberType :=
  let a := a.promote
  let b := b.promote
  if a.rank < b.rank then if a.isUnsigned ∧ a.size = b.size then b.unsigned else b
  else if b.rank < a.rank then if b.isUnsigned ∧ a.size = b.size then a.unsigned else a
  else if a.isUnsigned then a
  else b

/-- The number of the type that a value becomes. -/
def wrap (n : NumberType) (value : Int) : Int :=
  if n = bool then if value = 0 then 0 else 1
  else if n.isFloating then value
  else if n.isUnsigned then value % Nat.pow 2 (8 * n.size)
  else Int.bmod value (Nat.pow 2 (8 * n.size))

end NumberType

/-- A type. -/
inductive CType where
  | void
  | number (n : NumberType)
  | pointer (target : CType)
  /-- An array, with the number of its elements if that is known. -/
  | array (element : CType) (length : Option Nat)
  /-- A function whose arguments are checked against parameters. -/
  | function (result : CType) (params : List CType) (takesMore : Bool)
  /-- A function whose arguments are not checked. -/
  | openFunction (result : CType)
  | record (id : Nat)
  | const (t : CType)
deriving Repr

namespace CType

/-- The type of integers without further words. -/
def int : CType := .number .int

/-- The type of sizes. -/
def size : CType := .number .ulong

/-- The type without its qualifier. -/
def unqualified : CType → CType
  | const t => t.unqualified
  | t => t

/-- The type with a qualifier, which an array passes on to its elements. -/
def qualify : CType → CType
  | const t => const t
  | array element length => array element.qualify length
  | t => const t

/-- Whether the type has a qualifier. -/
def isConst : CType → Bool
  | const _ => true
  | array element _ => element.isConst
  | _ => false

/-- The type of an operand that is used for its value. -/
def decay (t : CType) : CType :=
  match t.unqualified with
  | array element _ => pointer element
  | function r ps v => pointer (function r ps v)
  | openFunction r => pointer (openFunction r)
  | t => t

/-- The type of a parameter that is declared with a type. -/
def ofParam (t : CType) : CType :=
  match t.unqualified with
  | array .. | function .. | openFunction _ => t.decay
  | _ => t

/-- The type of numbers, if it is one. -/
def number? (t : CType) : Option NumberType :=
  match t.unqualified with
  | number n => some n
  | _ => none

/-- Whether values of the type are whole numbers. -/
def isInteger (t : CType) : Bool := t.number?.any (!·.isFloating)

/-- Whether values of the type are pointers. -/
def isPointer (t : CType) : Bool :=
  match t.unqualified with
  | pointer _ => true
  | _ => false

/-- Whether values of the type can be tested. -/
def isScalar (t : CType) : Bool := t.number?.isSome || t.isPointer

/-- Whether it is the type of expressions without a value. -/
def isVoid (t : CType) : Bool :=
  match t.unqualified with
  | void => true
  | _ => false

/-- Whether it is a type of functions. -/
def isFunction : CType → Bool
  | function .. | openFunction _ => true
  | _ => false

/-- Whether it is a type of records. -/
def isRecord (t : CType) : Bool :=
  match t.unqualified with
  | record _ => true
  | _ => false

/-- What a pointer points to. -/
def target? (t : CType) : Option CType :=
  match t.unqualified with
  | pointer target => some target
  | _ => none

/-- What calling a function of the type gives. -/
def result? : CType → Option CType
  | function r _ _ | openFunction r => some r
  | _ => none

/-- Whether a parameter of the type can be passed where arguments are not checked. -/
def isPromoted (t : CType) : Bool :=
  match t.number? with
  | some n => n.promote == n && n != .float
  | none => true

mutual

/-- Whether two declarations with these types agree. -/
def compatible : CType → CType → Bool
  | void, void => true
  | number a, number b => a.underlying == b.underlying
  | pointer a, pointer b => compatible a b
  | array a m, array b n => compatible a b && (m.isNone || n.isNone || m == n)
  | function r ps v, function s qs w => compatible r s && v == w && allCompatible ps qs
  | function r ps v, openFunction s => compatible r s && !v && ps.all isPromoted
  | openFunction r, function s qs w => compatible r s && !w && qs.all isPromoted
  | openFunction r, openFunction s => compatible r s
  | record a, record b => a == b
  | const a, const b => compatible a b
  | _, _ => false

/-- Whether parameters agree, whose own qualifiers do not count. -/
def allCompatible : List CType → List CType → Bool
  | [], [] => true
  | const a :: as, const b :: bs => compatible a b && allCompatible as bs
  | const a :: as, b :: bs => compatible a b && allCompatible as bs
  | a :: as, const b :: bs => compatible a b && allCompatible as bs
  | a :: as, b :: bs => compatible a b && allCompatible as bs
  | _, _ => false

end

/-- The type after two declarations that agree: the one that says more. -/
def merge : CType → CType → CType
  | array a none, array _ n => array a n
  | openFunction _, t => t
  | t, _ => t

end CType

end ProxyForge.Compiler
