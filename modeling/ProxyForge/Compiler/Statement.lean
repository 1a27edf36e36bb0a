import ProxyForge.Compiler.Declaration

/-!
# ProxyForge.Compiler.Statement — reading statements

A statement gives what its expression gives, if it is one, since the last statement
of a block in brackets is the value of the brackets. Jumps out of a statement are
allowed only where there is something to leave.
-/

namespace ProxyForge.Compiler

open Reader

/-- An expression in brackets that is tested. -/
def testInBrackets (g : Grammar) : Reader Operand := do
  expect "("
  let o ← g.expression
  expect ")"
  require (o.condition? (← get).records)

/-- The statement that a loop repeats. -/
def repeated (g : Grammar) : Reader Unit := do
  let _ ← surrounded (fun s => { s with canBreak := true, canContinue := true }) g.statement

/-- A loop behind the word for its heading of three parts. -/
def countedLoop (g : Grammar) : Reader Unit :=
  inScope do
    expect "("
    if ← startsTypeAt 0 then localDeclaration g
    else if !(← accept ";") then
      let _ ← g.expression
      expect ";"
    if !(← accept ";") then
      let o ← g.expression
      let _ ← require (o.condition? (← get).records)
      expect ";"
    if !(← accept ")") then
      let _ ← g.expression
      expect ")"
    repeated g

/-- What a function gives back, behind the word for it. -/
def returned (g : Grammar) : Reader Unit := do
  let result ← require (← get).surroundings.result
  if ← accept ";" then return ()
  let o ← g.expression
  expect ";"
  if !result.isVoid then
    let v ← require (o.proper? (← get).records)
    check (v.converts result)

/-- A statement behind a label, which may be missing at the end of a block. -/
def labelled (g : Grammar) : Reader Operand := do
  skipAttributes
  if (← textAt 0) = "\x7d" || (← startsTypeAt 0) then return .nothing else g.statement

/-- One more case, which is new. -/
def newCase (value : Option Int) : Reader Unit := do
  let a ← get
  check (a.surroundings.inSwitch && !a.cases.contains value)
  modify ({ · with cases := value :: a.cases })

/-- An instruction for an assembler, which is not read. -/
def assembly : Reader Unit := do
  let _ ← iterate () fun () => do
    if (← textAt 0) = "(" then return none
    let t ← next
    check (t.kind = .word)
    return some ()
  expect "("
  check ((← peek).any fun t => t.kind = .text)
  skipBrackets
  expect ";"

/-- A statement that starts with a word of its own; `none` if the word starts none. -/
def statementOf? (g : Grammar) (word : String) : Option (Reader Operand) :=
  let plain (r : Reader Unit) : Option (Reader Operand) := some do
    let _ ← next
    r
    return .nothing
  match word with
  | "\x7b" => some do
    let _ ← next
    let _ ← inScope g.block
    return .nothing
  | ";" => plain (return ())
  | "if" => plain do
    let _ ← testInBrackets g
    let _ ← g.statement
    if ← accept "else" then
      let _ ← g.statement
  | "while" => plain do
    let _ ← testInBrackets g
    repeated g
  | "do" => plain do
    repeated g
    expect "while"
    let _ ← testInBrackets g
    expect ";"
  | "for" => plain (countedLoop g)
  | "switch" => plain do
    let o ← testInBrackets g
    check o.type.isInteger
    let before := (← get).cases
    modify ({ · with cases := [] })
    let _ ← surrounded (fun s => { s with canBreak := true, inSwitch := true }) g.statement
    modify ({ · with cases := before })
  | "case" => plain do
    newCase (some (← knownInteger g))
    if ← accept "..." then
      let _ ← knownInteger g
    expect ":"
    let _ ← labelled g
  | "default" => plain do
    newCase none
    expect ":"
    let _ ← labelled g
  | "break" => plain do
    check (← get).surroundings.canBreak
    expect ";"
  | "continue" => plain do
    check (← get).surroundings.canContinue
    expect ";"
  | "return" => plain (returned g)
  | "goto" => plain do
    if (← textAt 0) = "*" then
      let _ ← g.expression
    else
      let label ← name
      modify fun a => { a with jumps := label :: a.jumps }
    expect ";"
  | "__asm__" | "__asm" => plain assembly
  | "__label__" => plain do
    let _ ← commaSeparated name
    expect ";"
  | _ => none

/-- A statement. -/
def statementReader (g : Grammar) : Reader Operand := do
  skipAttributesBefore
  match ← peek with
  | none => failure
  | some t =>
    let own := if t.kind = .word ∨ t.kind = .sign then statementOf? g t.text else none
    match own with
    | some r => r
    | none =>
      if isName t && (← textAt 1) = ":" then
        let label ← name
        expect ":"
        check (!(← get).labels.contains label)
        modify fun a => { a with labels := label :: a.labels }
        labelled g
      else
        let o ← g.expression
        expect ";"
        return o
where
  /-- Leaves out attributes. -/
  skipAttributesBefore : Reader Unit := do
    if ["__attribute__", "__attribute"].contains (← textAt 0) then skipAttributes

/-- The statements and declarations of a block up to its closing brace, with what the
last one gives. -/
def blockReader (g : Grammar) : Reader Operand := do
  let (last, _) ← iterate (Operand.nothing, false) fun (last, isDone) => do
    if isDone then return none
    if ← accept "\x7d" then return some (last, true)
    if (← textAt 0) = "__extension__" && (← startsTypeAt 1) then
      let _ ← next
    if (← textAt 0) = "_Static_assert" then
      staticAssertion g
      return some (.nothing, false)
    else if (← startsTypeAt 0) && (← textAt 1) ≠ ":" then
      localDeclaration g
      return some (.nothing, false)
    else return some (← statementReader g, false)
  return last

end ProxyForge.Compiler
