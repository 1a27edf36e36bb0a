import ProxyForge.Compiler.Operand
import ProxyForge.Compiler.Token

/-!
# ProxyForge.Compiler.Analysis — the state of reading a source

A source is read and checked in one go, since which words are types decides how
the words behind them are read. An `Analysis` is the tokens that are left with
everything that was declared; a `Reader` goes on from there or fails, and a failure
means that the source does not compile.

Readers of nested parts are reached through a `Grammar`, whose readers are one
level further in. So every reader is defined on its own, and the nesting is bounded
by the number with which the grammar is tied together.
-/

namespace ProxyForge.Compiler

/-- What a name means in a scope. -/
inductive Entity where
  | typeName (t : CType)
  | enumerator (value : Int)
  /-- Something with a place, which is fixed when the program is loaded or not. -/
  | object (t : CType) (isFixed : Bool)
deriving Repr

/-- The kinds of types with a tag. -/
inductive TagKind where
  | struct
  | union
  | enum
deriving DecidableEq, Repr

/-- The names of a scope, the latest first. Tags have names of their own. -/
structure Scope where
  names : List (String × Entity) := []
  tags : List (String × TagKind × CType) := []

/-- Something that all scopes share under its name. -/
structure Global where
  type : CType
  isStatic : Bool := false
  /-- Whether it has a body or a first value. -/
  isDefined : Bool := false
  /-- Whether every declaration says that calls may be replaced by the body. -/
  isInlineOnly : Bool := false
  /-- Whether it was only called so far. -/
  isAssumed : Bool := false
  /-- Whether it needs room of its own. -/
  needsRoom : Bool := false

/-- What statements may do where they stand. -/
structure Surroundings where
  /-- The result of the function, inside of one. -/
  result : Option CType := none
  canBreak : Bool := false
  canContinue : Bool := false
  inSwitch : Bool := false

/-- The state of reading a source. Scopes come innermost first. -/
structure Analysis where
  tokens : List Token
  scopes : List Scope := [{}]
  records : Records := #[]
  globals : List (String × Global) := []
  surroundings : Surroundings := {}
  /-- The labels of the function, and the labels that it jumps to. -/
  labels : List String := []
  jumps : List String := []
  /-- The cases of the statement that chooses between them; the one for all other values
  is none. -/
  cases : List (Option Int) := []

/-- Reads a part of a source, or fails. -/
abbrev Reader := StateT Analysis Option

/-- How a declared name is stored. -/
inductive Storage where
  | automatic
  | typeName
  | shared
  | static
  | register
deriving DecidableEq, Repr

/-- What the words before the declared names say. -/
structure Specifiers where
  type : CType
  storage : Option Storage := none
  isInline : Bool := false
  /-- Whether the type was said. -/
  hasType : Bool := true
  /-- Whether the type is that of the first value. -/
  isInferred : Bool := false

/-- The parameters of a function: types, each with its name if it has one, or only
names whose types are said later. -/
inductive Params where
  | typed (params : List (Option String × CType)) (takesMore : Bool)
  | named (names : List String)
deriving Repr

/-- A declared name and its type. -/
structure Declared where
  name : Option String
  type : CType
  /-- The parameters of the function that the name is for. -/
  params : Option Params := none
  /-- Whether nothing stands around the name. -/
  isPlain : Bool := true

/-- The readers of nested parts. -/
structure Grammar where
  expression : Reader Operand
  assignment : Reader Operand
  cast : Reader Operand
  binary : Nat → Reader Operand
  typeName : Reader CType
  specifiers : Reader Specifiers
  declarator : CType → Reader Declared
  /-- The first value of something of a type, which is unknown inside of another one. -/
  initializer : Option CType → Reader Operand
  /-- The statements up to a closing brace, with what the last one gives. -/
  block : Reader Operand
  statement : Reader Operand

/-- The grammar in which nothing nested can be read. -/
def Grammar.empty : Grammar where
  expression := failure
  assignment := failure
  cast := failure
  binary _ := failure
  typeName := failure
  specifiers := failure
  declarator _ := failure
  initializer _ := failure
  block := failure
  statement := failure

end ProxyForge.Compiler
