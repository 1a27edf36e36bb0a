import ProxyForge.Compiler.Statement

/-!
# ProxyForge.Compiler.Source — reading a whole source

A source is a list of declarations and function definitions. `Analysis.ofTokens?`
reads one with the grammar tied together as often as it has tokens, since every
nested part takes one; `Analysis.symbols` are the functions that other sources
can link to then.

A function whose declarations all say that calls may be replaced by its body has no
body of its own to link to.
-/

namespace ProxyForge.Compiler

open Reader

/-- The readers of nested parts, up to a depth. -/
def Grammar.upTo : Nat → Grammar
  | 0 => .empty
  | depth + 1 =>
    let g := Grammar.upTo depth
    { expression := commaExpression g
      assignment := assignmentExpression g
      cast := castOperand g
      binary := binaryOperand g
      typeName := typeNameOf g
      specifiers := specifiersOf g
      declarator := declaratorOf g
      initializer := initializerOf g
      block := blockReader g
      statement := statementReader g }

/-! ## Function definitions -/

/-- The parameters that a definition names, where their types are said in declarations
before the body. -/
def laterParams (g : Grammar) (names : List String) :
    Reader (List (Option String × CType)) := do
  let said ← inScope do
    iterate ([] : List (String × CType)) fun said => do
      if (← textAt 0) = "\x7b" then return none
      let s ← specifiersOf g
      let ds ← commaSeparated (g.declarator s.type)
      expect ";"
      let new ← ds.mapM fun d => return (← require d.name, d.type.ofParam)
      check (new.all fun p => names.contains p.1)
      return some (said ++ new)
  return names.map fun name => (some name, (said.lookup name).getD .int)

/-- A function with its body, behind its declared name. -/
def functionDefinition (g : Grammar) (s : Specifiers) (d : Declared) (params : Params) :
    Reader Unit := do
  let name ← require d.name
  let result ← require d.type.result?
  check (s.storage.isNone || s.storage = some .shared || s.storage = some .static)
  let params ← match params with
    | .typed params _ => pure params
    | .named names => laterParams g names
  declareGlobal name
    { type := d.type, isStatic := s.storage = some .static, isDefined := true,
      isInlineOnly := s.isInline && s.storage ≠ some .shared } true
  functionBody g result params

/-! ## Sources -/

/-- The words before the names of a declaration outside of functions. Without any, the
name stands for an integer or a function that gives one; a name before another
name is a type that is not known. -/
def outerSpecifiers (g : Grammar) : Reader Specifiers := do
  if ← startsTypeAt 0 then specifiersOf g
  else
    let tokens := (← get).tokens
    let isNamed := tokens.head?.any isName
    check (!isNamed || !tokens[1]?.any fun t => isName t || t.text = "*")
    return { type := .int, hasType := false }

/-- A declaration or a definition outside of functions. -/
def outerDeclaration (g : Grammar) : Reader Unit := do
  let _ ← iterate () fun () => do
    if ← accept "__extension__" then return some () else return none
  match ← textAt 0 with
  | ";" =>
    let _ ← next
  | "_Static_assert" => staticAssertion g
  | "__asm__" | "__asm" =>
    let _ ← next
    assembly
  | _ =>
    let s ← outerSpecifiers g
    if ← accept ";" then
      check (s.storage ≠ some .register && s.storage ≠ some .automatic)
      return ()
    let d ← g.declarator s.type
    skipAttributes
    let hasBody ← match d.params with
      | some (.named names) =>
        pure ((← textAt 0) = "\x7b" || (!names.isEmpty && (← startsTypeAt 0)))
      | some (.typed ..) => pure ((← textAt 0) = "\x7b")
      | none => pure false
    match d.params with
    | some params =>
      if hasBody then functionDefinition g s d params
      else
        declarator g s d
        furtherDeclarators g s
    | none =>
      declarator g s d
      furtherDeclarators g s

namespace Analysis

/-- Whether room can be made for something of a type, which is an array of one element
if nothing is said of its length. -/
def hasSize (a : Analysis) (t : CType) : Bool :=
  match t.unqualified with
  | .array element none => a.records.isComplete element
  | _ => a.records.isComplete t

/-- Reads the tokens of a source; `none` when it does not compile. -/
def ofTokens? (tokens : List Token) : Option Analysis := do
  let g := Grammar.upTo (tokens.length + 1)
  let all : Reader Unit := iterate () fun () => do
    match ← peek with
    | none => return none
    | some _ =>
      outerDeclaration g
      return some ()
  let a ← (all.run { tokens }).map Prod.snd
  if a.globals.all fun (_, g) => !g.needsRoom || a.hasSize g.type then return a else none

/-- The functions that other sources can link to, in order. -/
def symbols (a : Analysis) : List String :=
  let linked := a.globals.filter fun (_, g) =>
    g.type.isFunction && g.isDefined && !g.isStatic && !g.isInlineOnly
  (linked.map Prod.fst).mergeSort

end Analysis

end ProxyForge.Compiler
