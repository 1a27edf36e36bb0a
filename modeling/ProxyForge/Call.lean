import ProxyForge.Kind

/-!
# ProxyForge.Call — the primitives of the runtime and their calls

The runtime offers constants, primitives of one value and primitives of two.
A `Call` is one of them with its arguments; the kind of its result, and with
it the Lean type of its answer, can be read off the call. Arguments are of any
type, so that a script may name them before their values are known.
-/

namespace ProxyForge

/-- The constants. -/
inductive Constant where
  | boolF
  | boolT
  | undefined
  | unspecified
  | eol
  | unbound
deriving DecidableEq, Repr

/-- The primitives of one value. -/
inductive Unary where
  | unpack
  | isFalse
  | isTrue
  | isBool
  | isNull
  | isPair
  | isSymbol
  | isString
  | isUnbound
  | car
  | cdr
deriving DecidableEq, Repr

/-- The primitives of two values. -/
inductive Binary where
  | isEq
  | isA
  | cons
  | setCdr
deriving DecidableEq, Repr

/-- The method name of a constant. -/
def Constant.method : Constant → String
  | boolF => "bool_f"
  | boolT => "bool_t"
  | undefined => "undefined"
  | unspecified => "unspecified"
  | eol => "eol"
  | unbound => "unbound"

/-- The method name of a primitive of one value. -/
def Unary.method : Unary → String
  | unpack => "unpack"
  | isFalse => "is_false"
  | isTrue => "is_true"
  | isBool => "is_bool"
  | isNull => "is_null"
  | isPair => "is_pair"
  | isSymbol => "is_symbol"
  | isString => "is_string"
  | isUnbound => "is_unbound"
  | car => "car"
  | cdr => "cdr"

/-- The kind of the result of a primitive of one value. -/
def Unary.ret : Unary → Kind
  | unpack => .bits
  | isFalse | isTrue | isBool | isNull | isPair | isSymbol | isString | isUnbound => .truth
  | car | cdr => .value

/-- The method name of a primitive of two values. -/
def Binary.method : Binary → String
  | isEq => "is_eq"
  | isA => "is_a"
  | cons => "cons"
  | setCdr => "set_cdr"

/-- The kind of the result of a primitive of two values. -/
def Binary.ret : Binary → Kind
  | isEq | isA => .truth
  | cons => .value
  | setCdr => .unit

/-- The constant of a method name. -/
def Constant.ofMethod? : String → Option Constant
  | "bool_f" => some boolF
  | "bool_t" => some boolT
  | "undefined" => some undefined
  | "unspecified" => some unspecified
  | "eol" => some eol
  | "unbound" => some unbound
  | _ => none

/-- The primitive of one value with a method name. -/
def Unary.ofMethod? : String → Option Unary
  | "unpack" => some unpack
  | "is_false" => some isFalse
  | "is_true" => some isTrue
  | "is_bool" => some isBool
  | "is_null" => some isNull
  | "is_pair" => some isPair
  | "is_symbol" => some isSymbol
  | "is_string" => some isString
  | "is_unbound" => some isUnbound
  | "car" => some car
  | "cdr" => some cdr
  | _ => none

/-- The primitive of two values with a method name. -/
def Binary.ofMethod? : String → Option Binary
  | "is_eq" => some isEq
  | "is_a" => some isA
  | "cons" => some cons
  | "set_cdr" => some setCdr
  | _ => none

/-! ## Calls -/

/-- A primitive with its arguments. -/
inductive Call (α : Type) where
  | constant (c : Constant)
  | unary (p : Unary) (x : α)
  | binary (p : Binary) (x y : α)
deriving DecidableEq, Repr

namespace Call

/-- The kind of the result. -/
def ret {α : Type} : Call α → Kind
  | constant _ => .value
  | unary p _ => p.ret
  | binary p _ _ => p.ret

/-- The type of the answer. -/
@[reducible] def Answer {α : Type} (c : Call α) : Type := c.ret.Carrier

/-- The call of the method with the given name, if it takes that many arguments. -/
def ofMethod? {α : Type} (method : String) : List α → Option (Call α)
  | [] => (Constant.ofMethod? method).map .constant
  | [x] => (Unary.ofMethod? method).map (.unary · x)
  | [x, y] => (Binary.ofMethod? method).map (.binary · x y)
  | _ => none

/-- Gives each argument its value; fails when one has none. -/
def resolve {α β : Type} (f : α → Option β) : Call α → Option (Call β)
  | constant c => some (.constant c)
  | unary p x => (f x).map (.unary p)
  | binary p x y => do return .binary p (← f x) (← f y)

/-- The call as a recording shows it: the method, and the words it is given. -/
def text : Call Word → String
  | constant c => c.method
  | unary p x => p.method ++ "(" ++ x.hex ++ ")"
  | binary p x y => p.method ++ "(" ++ x.hex ++ "," ++ y.hex ++ ")"

end Call

end ProxyForge
