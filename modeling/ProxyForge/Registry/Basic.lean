import ProxyForge.Kind

/-!
# ProxyForge.Registry.Basic — the table of primitives

Every proxy surface is derived from one table of entries. An entry gives the
C name of a primitive, the runtime method that performs it, the kinds of its
arguments and the kind of its result. This module holds the entries, the
built-in table and the two ways to look an entry up: `Registry.find?` by bare
name, and `Registry.lookup` by bare name or by proxy symbol.
-/

namespace ProxyForge

/-- One entry of the table. -/
structure Primitive where
  name : String
  method : String
  args : List Kind
  ret : Kind
deriving DecidableEq, Repr

namespace Primitive

/-- What stands before a primitive's name in the symbol of its proxy. -/
def symbolLead : String := "gu_"

/-- The number of arguments. -/
def arity (p : Primitive) : Nat := p.args.length

/-- A primitive without arguments denotes a constant. -/
def isConstant (p : Primitive) : Bool := p.args.isEmpty

/-- The exported symbol of the proxy. -/
def symbol (p : Primitive) : String := symbolLead ++ p.name

/-- The proxy's signature in the binding language. -/
def signature (p : Primitive) : String :=
  "fn " ++ p.symbol ++ "(" ++ ", ".intercalate (p.args.map Kind.signatureType) ++ ") -> "
    ++ p.ret.signatureType

end Primitive

/-- An ordered list of entries. -/
abbrev Registry := List Primitive

namespace Registry

/-- The symbol of the entry point that builds a list from an array. -/
def listSymbol : String := "gu_scm_list_n"

/-- The symbol of the entry point that does nothing. -/
def diagnosticSymbol : String := "gu_test_func"

/-! ## The built-in table -/

/-- An entry for a constant of the runtime. -/
def constantEntry (name method : String) : Primitive :=
  { name, method, args := [], ret := .value }

/-- An entry for a primitive of one value. -/
def unaryEntry (name method : String) (ret : Kind) : Primitive :=
  { name, method, args := [.value], ret }

/-- An entry for a primitive of two values. -/
def binaryEntry (name method : String) (ret : Kind) : Primitive :=
  { name, method, args := [.value, .value], ret }

/-- The primitives that the runtime offers only as macros or inline functions. -/
def builtin : Registry :=
  [ constantEntry "SCM_BOOL_F" "bool_f",
    constantEntry "SCM_BOOL_T" "bool_t",
    constantEntry "SCM_UNDEFINED" "undefined",
    constantEntry "SCM_UNSPECIFIED" "unspecified",
    constantEntry "SCM_EOL" "eol",
    constantEntry "SCM_UNBOUND" "unbound",
    unaryEntry "SCM_UNPACK" "unpack" .bits,
    unaryEntry "scm_is_false" "is_false" .truth,
    unaryEntry "scm_is_true" "is_true" .truth,
    unaryEntry "scm_is_bool" "is_bool" .truth,
    unaryEntry "scm_is_null" "is_null" .truth,
    unaryEntry "scm_is_pair" "is_pair" .truth,
    unaryEntry "scm_is_symbol" "is_symbol" .truth,
    unaryEntry "scm_is_string" "is_string" .truth,
    unaryEntry "SCM_UNBNDP" "is_unbound" .truth,
    unaryEntry "scm_car" "car" .value,
    unaryEntry "scm_cdr" "cdr" .value,
    binaryEntry "scm_is_eq" "is_eq" .truth,
    binaryEntry "SCM_IS_A_P" "is_a" .truth,
    binaryEntry "scm_cons" "cons" .value,
    binaryEntry "SCM_SETCDR" "set_cdr" .unit ]

/-! ## Lookup -/

/-- The first entry of a bare name. -/
def find? (r : Registry) (name : String) : Option Primitive :=
  List.find? (fun p => p.name == name) r

/-- A name that no entry has, as it was asked for. -/
structure UnknownPrimitive where
  name : String
deriving DecidableEq, Repr

/-- The text of the error. -/
def UnknownPrimitive.message (e : UnknownPrimitive) : String :=
  "unknown primitive `" ++ e.name ++ "`"

/-- The bare name behind a proxy symbol; a name without the lead is bare already. -/
def bareName (name : String) : String :=
  match Primitive.symbolLead.toList.isPrefixOf? name.toList with
  | some rest => String.ofList rest
  | none => name

/-- The entry of a bare name or of a proxy symbol. -/
def lookup (r : Registry) (name : String) : Except UnknownPrimitive Primitive :=
  match r.find? (bareName name) with
  | some p => .ok p
  | none => .error ⟨name⟩

/-- The symbols that a library with these proxies exports: one for each entry,
then the two hand-written entry points. -/
def exportedSymbols (r : Registry) : List String :=
  r.map Primitive.symbol ++ [listSymbol, diagnosticSymbol]

end Registry

end ProxyForge
