import ProxyForge.Registry.Basic

/-!
# ProxyForge.CText.Emission — the C text of a table

A table is written as two C texts. The source defines one function for each
entry, whose body names the primitive the way C code would; the header declares
the same functions, and after them the two hand-written entry points, inside an
include guard made from the header's file name.

There are two parameter names. A definition has to name all its parameters,
so an entry with more than two arguments has none (`Primitive.definition?`);
a prototype names as many as it can.
-/

namespace ProxyForge

namespace CText

/-- The first line of every generated file. -/
def banner : String :=
  "/* Generated from the guile-shim primitive registry. Do not edit. */\n"

/-- The headers that the proxies need. -/
def includes : String := "#include <libguile.h>\n#include <stdbool.h>\n"

/-- The names of parameters, in order. -/
def paramNames : List String := ["x", "y"]

end CText

namespace Primitive

/-- The parameter list of the proxy. -/
def params (p : Primitive) : String :=
  if p.args.isEmpty then "void"
  else ", ".intercalate (p.args.zipWith (fun kind name => kind.cType ++ " " ++ name) CText.paramNames)

/-- The head of the proxy. -/
def prototype (p : Primitive) : String :=
  p.ret.cType ++ " " ++ p.symbol ++ "(" ++ p.params ++ ")"

/-- The expression that names the primitive; `none` when there are more arguments
than parameter names. -/
def expression? (p : Primitive) : Option String :=
  if p.isConstant then some p.name
  else if p.arity ≤ CText.paramNames.length then
    some (p.name ++ "(" ++ ", ".intercalate (CText.paramNames.take p.arity) ++ ")")
  else none

/-- The statement that is the body of the proxy. -/
def statement (p : Primitive) (expression : String) : String :=
  if p.ret = .unit then expression ++ ";" else "return " ++ expression ++ ";"

/-- The proxy. -/
def definition? (p : Primitive) : Option String :=
  p.expression?.map fun e => p.prototype ++ " \x7b\n    " ++ p.statement e ++ "\n\x7d\n"

end Primitive

namespace Registry

/-- The text of the definitions, each after an empty line. -/
def definitions? : Registry → Option String
  | [] => some ""
  | p :: rest => do return "\n" ++ (← p.definition?) ++ (← definitions? rest)

/-- The C source; `none` when some entry has no definition. -/
def source? (r : Registry) : Option String :=
  r.definitions?.map fun text => CText.banner ++ CText.includes ++ text

/-- A character of an include guard: a letter or digit of ASCII in upper case, and
an underscore for anything else. -/
def guardChar (c : Char) : Char :=
  if c.isAlphanum then c.toUpper else '_'

/-- The include guard for a header's file name. -/
def includeGuard (headerName : String) : String :=
  String.ofList (headerName.toList.map guardChar)

/-- The text of the declarations, each on a line of its own. -/
def declarations : Registry → String
  | [] => ""
  | p :: rest => p.prototype ++ ";\n" ++ declarations rest

/-- The header. -/
def header (r : Registry) (headerName : String) : String :=
  let guardName := includeGuard headerName
  CText.banner
    ++ "#ifndef " ++ guardName ++ "\n#define " ++ guardName ++ "\n\n"
    ++ CText.includes ++ "\n"
    ++ r.declarations
    ++ "\nSCM " ++ listSymbol ++ "(const SCM *elts);\n"
    ++ "void " ++ diagnosticSymbol ++ "(void);\n"
    ++ "\n#endif /* " ++ guardName ++ " */\n"

end Registry

end ProxyForge
