import ProxyForge.Compiler.Declarator

/-!
# ProxyForge.Compiler.Declaration — what declarations do

A declaration gives its names a meaning in the innermost scope. Functions, and all
that is declared outside of functions, are shared under their name: all their
declarations must agree, and only one of them may define the name
(`declareGlobal`). What is there when the program is loaded can only have a first
value that is known then.
-/

namespace ProxyForge.Compiler

open Reader

/-! ## First values -/

/-- The type of something after its first value of a number of elements. -/
def withLength (t : CType) (length : Option Nat) : CType :=
  match t, length with
  | .array element none, some n => .array element (some n)
  | .const (.array element none), some n => .const (.array element (some n))
  | t, _ => t

/-- Where the next value in braces goes: a place counted from zero, which is not known
behind values that fill parts of parts. -/
abbrev Slot := Option Nat

/-- The type of a part of something by its place. Of a union only the first part has
one. -/
def partAt? (rs : Records) (t : CType) (slot : Slot) : Option CType := do
  let n ← slot
  match t.unqualified with
  | .array element _ => some element
  | .record id =>
    let info ← rs[id]?
    if info.isUnion ∧ n ≠ 0 then none else return (← (← info.members)[n]?).2
  | t => if n = 0 then some t else none

/-- Reads what says which part of something a value is for; gives its place, or the given
one when nothing is said. -/
def designators (g : Grammar) (type : Option CType) (slot : Slot) : Reader Slot := do
  let (slot, count) ← iterate (slot, 0) fun (_, count) => do
    if ← accept "[" then
      let n ← knownInteger g
      let n ← if ← accept "..." then knownInteger g else pure n
      expect "]"
      return some (if count = 0 then some n.toNat else none, count + 1)
    else if ← accept "." then
      let word ← name
      match type.map CType.unqualified with
      | some (.record id) =>
        if count = 0 then
          let rs := (← get).records
          check (rs.member? id word).isSome
          let members := (rs[id]?.bind RecordInfo.members).getD []
          return some (members.findIdx? (·.1 == word), 1)
        else return some (none, count + 1)
      | _ => return some (none, count + 1)
    else return none
  if count ≠ 0 then
    let _ ← accept "="
  return slot

/-- Values in braces: how many there are, and what is known of them. -/
def braced (g : Grammar) (type : Option CType) : Reader (Nat × Worth) := do
  let (length, _, worth, _) ← iterate (0, (some 0 : Slot), Worth.fixed, false)
    fun (length, slot, worth, isDone) => do
      if isDone then return none
      if ← accept "\x7d" then return some (length, slot, worth, true)
      let slot ← designators g type slot
      let rs := (← get).records
      let part := type.bind fun t => partAt? rs t slot
      let isWhole := (← textAt 0) = "\x7b" || part.any CType.isScalar
      let o ← g.initializer (if isWhole then part else none)
      let worth := if o.worth = .unknown then .unknown else worth
      let isDone ← if ← accept "," then pure false else do
        expect "\x7d"
        pure true
      let slot := if isWhole then slot else none
      return some (max length ((slot.getD length) + 1), slot.map (· + 1), worth, isDone)
  return (length, worth)

/-- The first value of something: its type, which has a length then, and what is known
of the value. -/
def initializerOf (g : Grammar) (type : Option CType) : Reader Operand := do
  let isText := ((← get).tokens[1]?).any (·.kind == .text)
  let isArray := match type.map CType.unqualified with
    | some (.array element _) => element.isInteger
    | _ => false
  if isText && isArray && (← textAt 0) = "\x7b" then
    expect "\x7b"
    let o ← g.initializer type
    let _ ← accept ","
    expect "\x7d"
    return o
  else if ← accept "\x7b" then
    let (length, worth) ← braced g type
    match type with
    | some t =>
      return { type := withLength t (some length), worth }
    | none => return { type := .void, worth }
  else
    let o ← g.assignment
    let rs := (← get).records
    match type with
    | none => require (o.proper? rs)
    | some t =>
      match t.unqualified, o.type with
      | .array element _, .array given length =>
        check (element.isInteger && (rs.size? element.unqualified) = (rs.size? given.unqualified))
        return { type := withLength t length, worth := .fixed }
      | .array .., _ => failure
      | _, _ =>
        let v ← require (o.proper? rs)
        check (v.converts t)
        let cast ← require (v.cast? rs t)
        return { type := t, worth := cast.worth }

/-! ## Names -/

/-- Declares something under a name that all scopes share. -/
def declareGlobal (name : String) (new : Global) (isSaidShared : Bool) : Reader Unit := do
  let old? ← global? name
  let g ← match old? with
    | none => pure new
    | some old =>
      let givesNothing := new.type.result?.any CType.isVoid
      check ((old.isAssumed && givesNothing) || CType.compatible old.type new.type)
      check (!(old.isDefined && new.isDefined))
      check (!(new.isStatic && !old.isStatic))
      check (new.type.isFunction || isSaidShared || new.isStatic = old.isStatic)
      pure { type := if old.isAssumed then new.type else old.type.merge new.type
             isStatic := old.isStatic
             isDefined := old.isDefined || new.isDefined
             isInlineOnly := new.isInlineOnly && (old.isInlineOnly || old.isAssumed)
             needsRoom := old.needsRoom || new.needsRoom }
  setGlobal name g
  match ← findHere? name with
  | some (.typeName _) | some (.enumerator _) => failure
  | _ => bind name (.object g.type true)

/-- Declares a name that stands for a type. -/
def declareType (name : String) (t : CType) : Reader Unit := do
  match ← findHere? name with
  | none => bind name (.typeName t)
  | some (.typeName old) => check (CType.compatible old t)
  | some _ => failure

/-- Declares a name, which has a first value or not. -/
def declare (s : Specifiers) (name : String) (type : CType) (hasValue : Bool) : Reader Unit := do
  let outermost ← isOutermost
  let isStatic := s.storage = some .static
  if s.storage = some .typeName then
    check (!hasValue)
    declareType name type
  else if type.isFunction then
    check (!hasValue && s.storage ≠ some .automatic && s.storage ≠ some .register)
    let isInlineOnly := s.isInline && s.storage ≠ some .shared
    declareGlobal name { type, isStatic, isInlineOnly } true
  else
    let isShared := s.storage = some .shared
    check (!type.isVoid || isShared)
    if outermost || isShared then
      check (s.storage ≠ some .automatic && s.storage ≠ some .register)
      check (outermost || !hasValue)
      declareGlobal name
        { type, isStatic, isDefined := hasValue, needsRoom := !isShared } isShared
    else
      check (← findHere? name).isNone
      check (hasValue || (← get).records.isComplete type)
      bind name (.object type isStatic)

/-- A declared name with its first value, if it has one. -/
def declarator (g : Grammar) (s : Specifiers) (d : Declared) : Reader Unit := do
  skipAttributes
  let name ← require d.name
  if s.isInferred then
    expect "="
    let o ← g.assignment
    let v ← require (o.proper? (← get).records)
    declare s name v.type true
  else if ← accept "=" then
    let isFixed := (← isOutermost) || s.storage = some .static
    declare s name d.type true
    check (!d.type.isFunction)
    let o ← initializerOf g (some d.type)
    check (!isFixed || o.worth ≠ .unknown)
    check ((← get).records.isComplete o.type)
    modifyScope fun scope =>
      { scope with names := (name, .object o.type isFixed) :: scope.names.filter (·.1 != name) }
  else declare s name d.type false

/-- The declared names behind the first one, up to the end of the declaration. -/
def furtherDeclarators (g : Grammar) (s : Specifiers) : Reader Unit := do
  let _ ← iterate () fun () => do
    if ← accept "," then
      skipAttributes
      let d ← g.declarator s.type
      declarator g s d
      return some ()
    else return none
  expect ";"

/-! ## Functions -/

/-- The body of a function with a result and parameters. All labels that it jumps to
are its own. -/
def functionBody (g : Grammar) (result : CType) (params : List (Option String × CType)) :
    Reader Unit := do
  let before ← get
  check (result.isVoid || before.records.isComplete result)
  check (params.all fun p => before.records.isComplete p.2)
  expect "\x7b"
  modify ({ · with labels := [], jumps := [] })
  inScope do
    for (name?, type) in params do
      if let some name := name? then
        check (← findHere? name).isNone
        bind name (.object type false)
    let _ ← surrounded (fun _ => { result := some result }) g.block
  let a ← get
  check (a.jumps.all a.labels.contains)
  modify ({ · with labels := before.labels, jumps := before.jumps })

/-- A declaration inside of a function, which may be a function with its body. -/
def localDeclaration (g : Grammar) : Reader Unit := do
  let s ← specifiersOf g
  if ← accept ";" then return ()
  let d ← g.declarator s.type
  skipAttributes
  match (← textAt 0), d.name, d.params, d.type.result? with
  | "\x7b", some name, some (.typed params _), some result =>
    bind name (.object d.type true)
    functionBody g result params
  | _, _, _, _ =>
    declarator g s d
    furtherDeclarators g s

end ProxyForge.Compiler
