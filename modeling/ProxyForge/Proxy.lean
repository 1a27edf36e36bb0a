import ProxyForge.Lists.Builder
import ProxyForge.Registry.Basic

/-!
# ProxyForge.Proxy — the exported symbols as calls

Consumers reach the runtime through exported symbols alone. `Proxy.ofSymbol?`
and `Proxy.ofArraySymbol?` say what a symbol with its arguments asks for, and
`Proxy.program` does it: a primitive call, the construction of a list from an
array that the undefined object ends, or nothing.
-/

namespace ProxyForge

/-- A call through the exported surface. -/
inductive Proxy (α : Type) where
  | primitive (c : Call α)
  | list (elements : List α)
  | diagnostic
deriving DecidableEq, Repr

namespace Proxy

/-- The constant behind a symbol. -/
def constant? : String → Option Constant
  | "gu_SCM_BOOL_F" => some .boolF
  | "gu_SCM_BOOL_T" => some .boolT
  | "gu_SCM_UNDEFINED" => some .undefined
  | "gu_SCM_UNSPECIFIED" => some .unspecified
  | "gu_SCM_EOL" => some .eol
  | "gu_SCM_UNBOUND" => some .unbound
  | _ => none

/-- The primitive of one value behind a symbol. -/
def unary? : String → Option Unary
  | "gu_SCM_UNPACK" => some .unpack
  | "gu_scm_is_false" => some .isFalse
  | "gu_scm_is_true" => some .isTrue
  | "gu_scm_is_bool" => some .isBool
  | "gu_scm_is_null" => some .isNull
  | "gu_scm_is_pair" => some .isPair
  | "gu_scm_is_symbol" => some .isSymbol
  | "gu_scm_is_string" => some .isString
  | "gu_SCM_UNBNDP" => some .isUnbound
  | "gu_scm_car" => some .car
  | "gu_scm_cdr" => some .cdr
  | _ => none

/-- The primitive of two values behind a symbol. -/
def binary? : String → Option Binary
  | "gu_scm_is_eq" => some .isEq
  | "gu_SCM_IS_A_P" => some .isA
  | "gu_scm_cons" => some .cons
  | "gu_SCM_SETCDR" => some .setCdr
  | _ => none

/-- What a symbol asks for when it is called with these values. -/
def ofSymbol? {α : Type} (symbol : String) : List α → Option (Proxy α)
  | [] =>
    if symbol = Registry.diagnosticSymbol then some diagnostic
    else (constant? symbol).map fun c => primitive (.constant c)
  | [x] => (unary? symbol).map fun p => primitive (.unary p x)
  | [x, y] => (binary? symbol).map fun p => primitive (.binary p x y)
  | _ => none

/-- What a symbol asks for when it is called with an array. -/
def ofArraySymbol? {α : Type} (symbol : String) (elements : List α) : Option (Proxy α) :=
  if symbol = Registry.listSymbol then some (list elements) else none

/-- Gives each argument its value; fails when one has none. -/
def resolve {α β : Type} (f : α → Option β) : Proxy α → Option (Proxy β)
  | primitive c => (c.resolve f).map primitive
  | list elements => (elements.mapM f).map list
  | diagnostic => some diagnostic

/-- The type of the answer. -/
@[reducible] def Answer {α : Type} : Proxy α → Type
  | primitive c => c.Answer
  | list _ => Word
  | diagnostic => Unit

/-- What the call does. -/
def program : (p : Proxy Word) → Program p.Answer
  | primitive c => Program.call c
  | list elements => listOfArguments elements
  | diagnostic => .done ()

end Proxy

end ProxyForge
