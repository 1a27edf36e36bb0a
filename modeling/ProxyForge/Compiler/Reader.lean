import ProxyForge.Compiler.Analysis

/-!
# ProxyForge.Compiler.Reader — steps of reading a source

Readers of single tokens and names, from which all others are made. What repeats
takes a token in every round, so that the number of tokens bounds it (`iterate`).
-/

namespace ProxyForge.Compiler

namespace Reader

/-! ## Tokens -/

/-- The next token. -/
def peek : Reader (Option Token) := return (← get).tokens.head?

/-- The characters of the token behind a number of others. -/
def textAt (n : Nat) : Reader String := return ((← get).tokens[n]?).elim "" Token.text

/-- Takes the next token. -/
def next : Reader Token := do
  match (← get).tokens with
  | t :: rest =>
    modify ({ · with tokens := rest })
    return t
  | [] => failure

/-- Takes the next token if it is the given one. -/
def accept (text : String) : Reader Bool := do
  if (← textAt 0) = text then
    let _ ← next
    return true
  else return false

/-- Takes the given token. -/
def expect (text : String) : Reader Unit := do
  if !(← accept text) then failure

/-- The value of a rule that must allow something. -/
def require {α : Type} (a : Option α) : Reader α :=
  match a with
  | some a => return a
  | none => failure

/-- Goes on only if a condition holds. -/
def check (b : Bool) : Reader Unit := if b then return () else failure

/-- Repeats a step from a value until it gives none, up to a number of times. -/
def repeatFrom {α : Type} (step : α → Reader (Option α)) : Nat → α → Reader α
  | 0, _ => failure
  | n + 1, a => do
    match ← step a with
    | some b => repeatFrom step n b
    | none => return a

/-- Repeats a step from a value until it gives none. Every round takes a token. -/
def iterate {α : Type} (a : α) (step : α → Reader (Option α)) : Reader α := do
  repeatFrom step ((← get).tokens.length + 1) a

/-- The parts that a reader reads with commas between them. -/
def commaSeparated {α : Type} (part : Reader α) : Reader (List α) := do
  let first ← part
  let parts ← iterate [first] fun parts => do
    if ← accept "," then return some ((← part) :: parts) else return none
  return parts.reverse

/-- Leaves out tokens up to the bracket that closes one that was taken. -/
def skipBrackets : Reader Unit := do
  let _ ← iterate (1 : Nat) fun depth => do
    if depth = 0 then return none
    let t ← next
    if t.kind ≠ .sign then return some depth
    else if ["(", "[", "\x7b"].contains t.text then return some (depth + 1)
    else if [")", "]", "\x7d"].contains t.text then return some (depth - 1)
    else return some depth

/-- Leaves out attributes and assembler names, which change nothing here. -/
def skipAttributes : Reader Unit := do
  let _ ← iterate () fun () => do
    if ["__attribute__", "__attribute"].contains (← textAt 0) then
      let _ ← next
      expect "("
      expect "("
      skipBrackets
      expect ")"
      return some ()
    else if ["__asm__", "__asm"].contains (← textAt 0) then
      let _ ← next
      expect "("
      skipBrackets
      return some ()
    else if ← accept "__extension__" then return some ()
    else return none

/-! ## Names -/

/-- What a name means. -/
def find? (name : String) : Reader (Option Entity) :=
  return (← get).scopes.findSome? fun scope => scope.names.lookup name

/-- What a name means in the innermost scope. -/
def findHere? (name : String) : Reader (Option Entity) :=
  return (← get).scopes.head?.bind fun scope => scope.names.lookup name

/-- Changes the innermost scope. -/
def modifyScope (change : Scope → Scope) : Reader Unit :=
  modify fun a =>
    match a.scopes with
    | scope :: outer => { a with scopes := change scope :: outer }
    | [] => a

/-- Gives a name a meaning in the innermost scope. -/
def bind (name : String) (e : Entity) : Reader Unit :=
  modifyScope fun scope => { scope with names := (name, e) :: scope.names }

/-- Whether names are declared outside of functions. -/
def isOutermost : Reader Bool := return (← get).scopes.length ≤ 1

/-- Reads inside a scope of its own. -/
def inScope {α : Type} (inner : Reader α) : Reader α := do
  modify fun a => { a with scopes := {} :: a.scopes }
  let result ← inner
  modify fun a => { a with scopes := a.scopes.drop 1 }
  return result

/-- Reads where other things are allowed. -/
def surrounded {α : Type} (change : Surroundings → Surroundings) (inner : Reader α) :
    Reader α := do
  let before := (← get).surroundings
  modify ({ · with surroundings := change before })
  let result ← inner
  modify ({ · with surroundings := before })
  return result

/-- The shared thing of a name. -/
def global? (name : String) : Reader (Option Global) := return (← get).globals.lookup name

/-- Sets the shared thing of a name. -/
def setGlobal (name : String) (g : Global) : Reader Unit :=
  modify fun a => { a with globals := (name, g) :: a.globals.filter (·.1 != name) }

/-! ## Words -/

/-- The words that say how something is stored, and other words before a type. -/
def storageWords : List String :=
  [ "typedef", "extern", "static", "auto", "register", "inline", "__inline", "__inline__",
    "_Noreturn", "__thread", "_Thread_local", "__extension__", "__attribute__", "__attribute",
    "_Alignas" ]

/-- The words that qualify a type. -/
def qualifierWords : List String :=
  [ "const", "__const", "__const__", "volatile", "__volatile", "__volatile__", "restrict",
    "__restrict", "__restrict__", "_Atomic" ]

/-- The words for types. -/
def typeWords : List String :=
  [ "void", "char", "short", "int", "long", "float", "double", "signed", "__signed", "__signed__",
    "unsigned", "_Bool", "_Complex", "__complex__", "__int128", "_Float128", "__float128" ]

/-- The words that start a type of several tokens. -/
def compoundWords : List String :=
  ["struct", "union", "enum", "__typeof__", "__typeof", "__auto_type"]

/-- The words that only expressions and statements use. -/
def statementWords : List String :=
  [ "if", "else", "while", "do", "for", "switch", "case", "default", "break", "continue", "return",
    "goto", "sizeof", "_Alignof", "__alignof__", "__alignof", "_Static_assert", "_Generic",
    "__asm__", "__asm", "__label__", "__real__", "__imag__" ]

/-- Whether a word cannot be a name. -/
def isReserved (word : String) : Bool :=
  storageWords.contains word || qualifierWords.contains word || typeWords.contains word
    || compoundWords.contains word || statementWords.contains word

/-- Whether a token is a name. -/
def isName (t : Token) : Bool := t.kind = .word && !isReserved t.text

/-- Takes the next token, which is a name. -/
def name : Reader String := do
  let t ← next
  check (isName t)
  return t.text

/-- The types that have names without a declaration. -/
def knownTypes : List (String × CType) :=
  [ ("__builtin_va_list", .pointer .void), ("__int128_t", .number .huge),
    ("__uint128_t", .number .uhuge) ]

/-- The type that a word is a name of. -/
def typeNamed? (word : String) : Reader (Option CType) := do
  match ← find? word with
  | some (.typeName t) => return some t
  | some _ => return none
  | none => return knownTypes.lookup word

/-- Whether a type starts at the token behind a number of others. -/
def startsTypeAt (n : Nat) : Reader Bool := do
  match (← get).tokens[n]? with
  | some t =>
    if t.kind ≠ .word ∨ t.text = "__extension__" then return false
    else if isReserved t.text then return !statementWords.contains t.text
    else return (← typeNamed? t.text).isSome
  | none => return false

end Reader

end ProxyForge.Compiler
