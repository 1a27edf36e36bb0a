import ProxyForge.Compiler.Expression

/-!
# ProxyForge.Compiler.Specifiers — reading the words before declared names

A declaration starts with words that say a type and how something is stored. A type
is said by one or more words, by a name that was declared for it, or by the members
of a record or the values of an enumeration, which are read here as well.
-/

namespace ProxyForge.Compiler

open Reader

/-! ## Words -/

/-- The type that words say together. -/
def typeOfWords? (words : List String) : Option CType :=
  let words := words.map fun w =>
    if w = "__signed" ∨ w = "__signed__" then "signed"
    else if w = "__complex__" then "_Complex"
    else if w = "__float128" then "_Float128"
    else w
  let times (w : String) : Nat := words.count w
  let allows (others : List String) : Bool := words.all others.contains
  let isUnsigned := times "unsigned" == 1
  let signs := times "signed" + times "unsigned"
  let once := ["void", "_Bool", "char", "short", "int", "float", "double", "_Complex", "__int128",
    "_Float128"].all fun w => times w ≤ 1
  let number (n : NumberType) : Option CType := some (.number n)
  if !once ∨ 1 < signs then none
  else if words = ["void"] then some .void
  else if words = ["_Bool"] then number .bool
  else if words.contains "char" then
    if !allows ["char", "signed", "unsigned"] then none
    else if isUnsigned then number .uchar
    else if signs = 1 then number .schar
    else number .char
  else if words.contains "float" then if allows ["float", "_Complex"] then number .float else none
  else if words.contains "double" then
    if !allows ["double", "long", "_Complex"] ∨ 1 < times "long" then none
    else number (if times "long" = 1 then .longDouble else .double)
  else if words = ["_Complex"] then number .double
  else if words = ["_Float128"] then number .longDouble
  else if words.contains "__int128" then
    if !allows ["__int128", "signed", "unsigned"] then none
    else number (if isUnsigned then .uhuge else .huge)
  else if !allows ["short", "int", "long", "signed", "unsigned"] ∨ 2 < times "long" then none
  else if words.contains "short" then
    if words.contains "long" then none else number (if isUnsigned then .ushort else .short)
  else
    match times "long" with
    | 0 => number (if isUnsigned then .uint else .int)
    | 1 => number (if isUnsigned then .ulong else .long)
    | _ => number (if isUnsigned then .ulongLong else .longLong)

/-! ## Records and enumerations -/

/-- The kind and the type of a tag; only in the innermost scope if so asked. -/
def tag? (name : String) (here : Bool) : Reader (Option (TagKind × CType)) := do
  let scopes := (← get).scopes
  return (if here then scopes.take 1 else scopes).findSome? fun scope => scope.tags.lookup name

/-- Gives a tag to a type in the innermost scope. -/
def bindTag (name : String) (kind : TagKind) (t : CType) : Reader Unit :=
  modifyScope fun scope => { scope with tags := (name, kind, t) :: scope.tags }

/-- A new record of which nothing is known yet. -/
def newRecord (isUnion : Bool) : Reader CType := do
  let id := (← get).records.size
  modify fun a => { a with records := a.records.push { isUnion } }
  return .record id

/-- A condition on constants that must hold. -/
def staticAssertion (g : Grammar) : Reader Unit := do
  expect "_Static_assert"
  expect "("
  match (← g.assignment).worth with
  | .integer n => check (n ≠ 0)
  | .fixed => pure ()
  | .unknown => failure
  if ← accept "," then
    let t ← next
    check (t.kind = .text)
  expect ")"
  expect ";"

/-- The width of a member that has only some bits, at least as many as are given. -/
def bitWidth (g : Grammar) (t : CType) (least : Int) : Reader Unit := do
  let n ← knownInteger g
  check (t.isInteger && least ≤ n && n ≤ ((t.number?.map fun k => (8 * k.size : Int)).getD 0))

/-- One member of a record whose type was read. -/
def member (g : Grammar) (type : CType) : Reader (List (String × CType)) := do
  if ← accept ":" then
    bitWidth g type 0
    return []
  let d ← g.declarator type
  if ← accept ":" then bitWidth g d.type 1
  skipAttributes
  let name ← require d.name
  match d.type.unqualified with
  | .array element none => return [(name, .array element (some 0))]
  | _ =>
    check ((← get).records.isComplete d.type)
    return [(name, d.type)]

/-- The members of a record up to the closing brace. -/
def members (g : Grammar) : Reader (List (String × CType)) := do
  let ms ← iterate ([] : List (String × CType)) fun ms => do
    if (← textAt 0) = "\x7d" then return none
    else if ← accept ";" then return some ms
    else if (← textAt 0) = "_Static_assert" then
      staticAssertion g
      return some ms
    else
      let s ← g.specifiers
      check (s.hasType && s.storage.isNone)
      let new ←
        if (← textAt 0) = ";" || (← textAt 0) = "\x7d" then
          pure (if s.type.isRecord then [("", s.type)] else [])
        else pure (← commaSeparated (member g s.type)).flatten
      if (← textAt 0) ≠ "\x7d" then expect ";"
      return some (ms ++ new)
  expect "\x7d"
  let names := (ms.map Prod.fst).filter (· ≠ "")
  check (names.eraseDups.length = names.length)
  return ms

/-- A structure or a union behind its first word. -/
def recordType (g : Grammar) (kind : TagKind) : Reader CType := do
  skipAttributes
  let isUnion := kind = .union
  let word? ← do
    match ← peek with
    | some t => if isName t then pure (some (← next).text) else pure none
    | none => pure none
  if ← accept "\x7b" then
    let known ← match word? with
      | some name => tag? name true
      | none => pure none
    let type ← match known with
      | some (k, t) =>
        check (k = kind)
        pure t
      | none => newRecord isUnion
    if let (some name, none) := (word?, known) then bindTag name kind type
    match type with
    | .record id =>
      check ((← get).records[id]?.all (·.members.isNone))
      let ms ← members g
      skipAttributes
      modify fun a =>
        { a with records := a.records.setIfInBounds id (a.records.describe isUnion ms) }
      return type
    | _ => failure
  else
    let name ← require word?
    match ← tag? name ((← textAt 0) = ";") with
    | some (k, t) =>
      check (k = kind)
      return t
    | none =>
      let type ← newRecord isUnion
      bindTag name kind type
      return type

/-- The enumerators up to the closing brace, with whether one is negative. -/
def enumerators (g : Grammar) : Reader Bool := do
  let (_, isSigned, _) ← iterate ((0 : Int), false, false) fun (value, isSigned, isDone) => do
    if isDone then return none
    let word ← name
    skipAttributes
    let value ← if ← accept "=" then knownInteger g else pure value
    check (← findHere? word).isNone
    bind word (.enumerator value)
    let isSigned := isSigned || value < 0
    if ← accept "," then
      if ← accept "\x7d" then return some (value, isSigned, true)
      else return some (value + 1, isSigned, false)
    else
      expect "\x7d"
      return some (value, isSigned, true)
  return isSigned

/-- An enumeration behind its first word. -/
def enumerationType (g : Grammar) : Reader CType := do
  skipAttributes
  let word? ← do
    match ← peek with
    | some t => if isName t then pure (some (← next).text) else pure none
    | none => pure none
  if ← accept "\x7b" then
    if let some name := word? then
      check (← tag? name true).isNone
    let type : CType := .number (.enumeration (← enumerators g))
    if let some name := word? then bindTag name .enum type
    skipAttributes
    return type
  else
    let name ← require word?
    match ← tag? name false with
    | some (k, t) =>
      check (k = .enum)
      return t
    | none => return .number (.enumeration false)

/-! ## Specifiers -/

/-- The words before declared names, as far as they were read. -/
structure SpecifierWords where
  storage : Option Storage := none
  isInline : Bool := false
  isConst : Bool := false
  isRestricted : Bool := false
  words : List String := []
  type : Option CType := none
  isInferred : Bool := false

/-- The type of an operand or of a type in brackets. -/
def typeOf (g : Grammar) : Reader CType := do
  expect "("
  let t ← if ← startsTypeAt 0 then g.typeName else pure (← g.expression).type
  expect ")"
  return t

/-- How a word says that something is stored. -/
def storage? (word : String) : Option Storage :=
  match word with
  | "typedef" => some .typeName
  | "extern" => some .shared
  | "static" => some .static
  | "auto" => some .automatic
  | "register" => some .register
  | _ => none

/-- Reads one of the words before declared names, if there is one more. -/
def specifierWord (g : Grammar) (s : SpecifierWords) : Reader (Option SpecifierWords) := do
  match ← peek with
  | none => return none
  | some t =>
    if t.kind ≠ .word then return none
    let isOpen := s.type.isNone && s.words.isEmpty
    match storage? t.text with
    | some storage =>
      check s.storage.isNone
      let _ ← next
      return some { s with storage := some storage }
    | none =>
      if ["inline", "__inline", "__inline__"].contains t.text then
        let _ ← next
        return some { s with isInline := true }
      else if t.text = "_Atomic" && (← textAt 1) = "(" then
        check isOpen
        let _ ← next
        return some { s with type := some (← typeOf g) }
      else if qualifierWords.contains t.text then
        let _ ← next
        let isConst := s.isConst || ["const", "__const", "__const__"].contains t.text
        let isRestricted := s.isRestricted
          || ["restrict", "__restrict", "__restrict__"].contains t.text
        return some { s with isConst, isRestricted }
      else if ["__attribute__", "__attribute"].contains t.text then
        skipAttributes
        return some s
      else if t.text = "_Alignas" then
        let _ ← next
        expect "("
        skipBrackets
        return some s
      else if storageWords.contains t.text then
        let _ ← next
        return some s
      else if typeWords.contains t.text then
        check s.type.isNone
        let _ ← next
        return some { s with words := t.text :: s.words }
      else if compoundWords.contains t.text then
        check isOpen
        let _ ← next
        let type ← match t.text with
          | "struct" => recordType g .struct
          | "union" => recordType g .union
          | "enum" => enumerationType g
          | "__auto_type" => pure .int
          | _ => typeOf g
        return some { s with type := some type, isInferred := t.text = "__auto_type" }
      else if isOpen && isName t then
        match ← typeNamed? t.text with
        | some type =>
          let _ ← next
          return some { s with type := some type }
        | none => return none
      else return none

/-- The words before declared names. Without a type they mean an integer. -/
def specifiersOf (g : Grammar) : Reader Specifiers := do
  let s ← iterate {} (specifierWord g)
  let (type, hasType) ←
    match s.type with
    | some t => pure (t, true)
    | none =>
      if s.words.isEmpty then pure (CType.int, false)
      else pure (← require (typeOfWords? s.words), true)
  check (!s.isRestricted || type.isPointer)
  return { type := if s.isConst then type.qualify else type, storage := s.storage,
           isInline := s.isInline, hasType, isInferred := s.isInferred }

end ProxyForge.Compiler
