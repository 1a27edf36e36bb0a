import ProxyForge.Compiler.Specifiers

/-!
# ProxyForge.Compiler.Declarator — reading declared names

Names are declared in a shape that shows how they are used: behind a star for a
pointer, before brackets for an array or a function. The shape is read from the name
outwards (`declaratorOf`).
-/

namespace ProxyForge.Compiler

open Reader

/-- What stands behind a declared name. -/
inductive Suffix where
  | array (length : Option Nat)
  | function (params : Params)
deriving Repr

/-- The type of a name behind which a suffix stands, when with the suffix it is used
as something of a type. -/
def Suffix.shape? (rs : Records) (t : CType) : Suffix → Option CType
  | array length => if rs.isComplete t then some (.array t length) else none
  | function params =>
    if t.isFunction then none
    else
      match t.unqualified, params with
      | .array .., _ => none
      | _, .typed params takesMore => some (.function t (params.map Prod.snd) takesMore)
      | _, .named _ => some (.openFunction t)

/-- A parameter of a function. -/
def param (g : Grammar) : Reader (Option String × CType) := do
  check (← startsTypeAt 0)
  let s ← g.specifiers
  check (s.storage.isNone || s.storage = some .register)
  let d ← g.declarator s.type
  skipAttributes
  let type := d.type.ofParam
  check (!type.isVoid)
  if let some name := d.name then
    check (← findHere? name).isNone
    bind name (.object type false)
  return (d.name, type)

/-- The parameters of a function behind the opening bracket. -/
def paramsOf (g : Grammar) : Reader Params := do
  if ← accept ")" then return .named []
  if (← textAt 0) = "..." && (← textAt 1) = ")" then
    let _ ← next
    let _ ← next
    return .typed [] true
  if (← textAt 0) = "void" && (← textAt 1) = ")" then
    let _ ← next
    let _ ← next
    return .typed [] false
  let isBare ← match ← peek with
    | some t => do
      let behind ← textAt 1
      pure (isName t && (← typeNamed? t.text).isNone && (behind = "," || behind = ")"))
    | none => pure false
  if isBare then
    let names ← commaSeparated do
      let word ← name
      check (← typeNamed? word).isNone
      return word
    expect ")"
    return .named names
  inScope do
    let first ← param g
    let (params, takesMore) ← iterate ([first], false) fun (params, takesMore) => do
      if takesMore then return none
      if ← accept "," then
        if ← accept "..." then return some (params, true)
        else return some ((← param g) :: params, false)
      else return none
    expect ")"
    return .typed params.reverse takesMore

/-- The length of an array behind the opening bracket. What is only known when the
program runs is allowed inside of functions. -/
def arrayLength (g : Grammar) : Reader (Option Nat) := do
  let _ ← iterate () fun () => do
    let word ← textAt 0
    if qualifierWords.contains word || word = "static" then
      let _ ← next
      return some ()
    else return none
  if ← accept "]" then return none
  if (← textAt 0) = "*" && (← textAt 1) = "]" then
    let _ ← next
    let _ ← next
    return none
  let o ← g.assignment
  expect "]"
  check o.type.isInteger
  match o.integer? with
  | some n =>
    check (0 ≤ n)
    return some n.toNat
  | none =>
    check (!(← isOutermost))
    return some 1

/-- What stands behind a declared name, the last part first. -/
def suffixesOf (g : Grammar) : Reader (List Suffix) :=
  iterate [] fun parts => do
    if ← accept "[" then return some (.array (← arrayLength g) :: parts)
    else if ← accept "(" then return some (.function (← paramsOf g) :: parts)
    else return none

/-- The type of a name behind stars. -/
def pointersTo (t : CType) : Reader CType :=
  iterate t fun t => do
    if ← accept "*" then return some (.pointer t)
    else if ["const", "__const", "__const__"].contains (← textAt 0) then
      match t with
      | .pointer _ | .const (.pointer _) =>
        let _ ← next
        return some t.qualify
      | _ => return none
    else if qualifierWords.contains (← textAt 0) then
      let _ ← next
      return some t
    else
      skipAttributesOnly
      return none
where
  /-- Leaves out attributes, but not names for an assembler. -/
  skipAttributesOnly : Reader Unit := do
    if ["__attribute__", "__attribute"].contains (← textAt 0) then skipAttributes

/-- Whether a bracket opens a declarator and not parameters. -/
def opensDeclarator : Reader Bool := do
  if (← textAt 0) ≠ "(" then return false
  if ["*", "(", "[", "__attribute__"].contains (← textAt 1) then return true
  match (← get).tokens[1]? with
  | some t => return isName t && !(← startsTypeAt 1)
  | none => return false

/-- A declared name, or nothing in its place, in the shape of its use as something of a
type. What stands in brackets around a name is read after what stands behind
them. -/
def declaratorOf (g : Grammar) (base : CType) : Reader Declared := do
  let hasStars := (← textAt 0) = "*"
  let type ← pointersTo base
  if ← opensDeclarator then
    let _ ← next
    let inside := (← get).tokens
    skipBrackets
    let parts ← suffixesOf g
    let behind := (← get).tokens
    let type ← require (parts.foldlM (Suffix.shape? (← get).records) type)
    modify ({ · with tokens := inside })
    let d ← g.declarator type
    expect ")"
    modify ({ · with tokens := behind })
    let own := match parts.getLast? with
      | some (.function params) => some params
      | _ => none
    return { d with params := if d.isPlain then own else d.params,
                    isPlain := d.isPlain && parts.isEmpty && !hasStars }
  else
    let name ← match ← peek with
      | some t => if isName t then pure (some (← next).text) else pure none
      | none => pure none
    let parts ← suffixesOf g
    let rs := (← get).records
    let type ← require (parts.foldlM (Suffix.shape? rs) type)
    let params := match parts.getLast? with
      | some (.function params) => some params
      | _ => none
    return { name, type, params, isPlain := parts.isEmpty && !hasStars }

/-- A type by itself. -/
def typeNameOf (g : Grammar) : Reader CType := do
  let s ← specifiersOf g
  check (s.storage.isNone && !s.isInline)
  let d ← g.declarator s.type
  check d.name.isNone
  return d.type

end ProxyForge.Compiler
