import ProxyForge.Compiler.Condition
import ProxyForge.Compiler.Reader

/-!
# ProxyForge.Compiler.Expression — reading expressions

Every reader gives what is known of the expression that it read. A name that was
never declared can be called: it is assumed to be a function that gives an integer
and takes anything.
-/

namespace ProxyForge.Compiler

open Reader

/-! ## Constants -/

/-- The type of an integer constant: the first one that has its value, out of those
that its letters allow. -/
def IntegerText.type (n : IntegerText) : NumberType :=
  let signed : List NumberType := [.int, .long, .longLong]
  let unsigned : List NumberType := [.uint, .ulong, .ulongLong]
  let both : List NumberType := [.int, .uint, .long, .ulong, .longLong, .ulongLong]
  let candidates :=
    if n.isUnsigned then unsigned.drop n.longs
    else if n.isDecimal then signed.drop n.longs
    else both.drop (2 * n.longs)
  (candidates.find? fun t => t.wrap n.value == (n.value : Int)).getD .huge

/-- A number as it is written. -/
def numberOperand? (s : String) : Option Operand :=
  match IntegerText.parse? s with
  | some n => some (.integer n.type n.value)
  | none =>
    if isFloating s then
      let type : NumberType :=
        match s.toList.getLast? with
        | some 'f' | some 'F' => .float
        | some 'l' | some 'L' => .longDouble
        | _ => .double
      some { type := .number type, worth := .fixed }
    else none

/-- The number of characters of a quoted text. -/
def quotedLength (t : Token) : Nat :=
  let inner := (t.text.toList.drop (if t.text.startsWith "L" then 2 else 1)).dropLast
  ((codes? inner).getD []).length

/-- A text in quotes, with those that follow it. -/
def textOperand (first : Token) : Reader Operand := do
  let (length, isWide) ← iterate (quotedLength first, first.text.startsWith "L")
    fun (length, isWide) => do
      match ← peek with
      | some t =>
        if t.kind = .text then
          let _ ← next
          return some (length + quotedLength t, isWide || t.text.startsWith "L")
        else return none
      | none => return none
  let element := if isWide then CType.int else .number .char
  return { type := .array element (some (length + 1)), isPlace := true, worth := .fixed }

/-! ## Names -/

/-- The result of a function that the compiler knows by itself. -/
def knownResult (name : String) : CType :=
  if ["unreachable", "trap", "va_start", "va_end", "va_copy", "prefetch", "abort", "exit",
      "free"].contains name then .void
  else if ["alloca", "malloc", "calloc", "realloc", "memcpy", "memset", "memmove", "memchr",
      "return_address", "frame_address"].contains name then .pointer .void
  else if ["strchr", "strcpy", "strcat"].contains name then .pointer (.number .char)
  else if name = "expect" then .number .long
  else if ["strlen", "object_size"].contains name then .size
  else if ["huge_val", "inf", "nan", "fabs"].contains name then .number .double
  else if ["huge_valf", "inff", "nanf"].contains name then .number .float
  else .int

/-- Something that the compiler knows by itself, of the given name behind a common
beginning. -/
def knownOperand (g : Grammar) (name : String) : Reader Operand := do
  match name with
  | "offsetof" =>
    expect "("
    let _ ← g.typeName
    expect ","
    skipBrackets
    return { type := .size, worth := .integer 0 }
  | "va_arg" =>
    expect "("
    let _ ← g.assignment
    expect ","
    let t ← g.typeName
    expect ")"
    return { type := t.unqualified }
  | "types_compatible_p" =>
    expect "("
    let a ← g.typeName
    expect ","
    let b ← g.typeName
    expect ")"
    return .integer .int (if CType.compatible a.unqualified b.unqualified then 1 else 0)
  | "choose_expr" =>
    expect "("
    let c ← g.assignment
    expect ","
    let a ← g.assignment
    expect ","
    let b ← g.assignment
    expect ")"
    return if (← require c.integer?) ≠ 0 then a else b
  | _ => return { type := .openFunction (knownResult name), worth := .fixed }

/-- The text that all names of things that the compiler knows begin with. -/
def knownLead : String := "__builtin_"

/-- What a name stands for in an expression. -/
def namedOperand (g : Grammar) (name : String) : Reader Operand := do
  match ← find? name with
  | some (.object type isFixed) =>
    return { type, isPlace := !type.isFunction, worth := if isFixed then .fixed else .unknown }
  | some (.enumerator value) => return .integer (if value < Nat.pow 2 31 then .int else .long) value
  | some (.typeName _) => failure
  | none =>
    if ["__func__", "__FUNCTION__", "__PRETTY_FUNCTION__"].contains name then
      return { type := .array (.const (.number .char)) (some 1), isPlace := true, worth := .fixed }
    else if name.startsWith knownLead then knownOperand g (name.drop knownLead.length).toString
    else if (← textAt 0) = "(" then
      match ← global? name with
      | some known =>
        check known.type.isFunction
        return { type := known.type, worth := .fixed }
      | none =>
        setGlobal name { type := .openFunction .int, isAssumed := true }
        bind name (.object (.openFunction .int) true)
        return { type := .openFunction .int, worth := .fixed }
    else failure

/-! ## Operands -/

/-- A constant, a name, or an expression in brackets. -/
def primary (g : Grammar) : Reader Operand := do
  let t ← next
  match t.kind with
  | .number => require (numberOperand? t.text)
  | .character => return .integer .int (← require (characterValue? t.text))
  | .text => textOperand t
  | .word =>
    check (isName t)
    namedOperand g t.text
  | .sign =>
    check (t.text = "(")
    if ← accept "\x7b" then
      check (!(← isOutermost))
      let o ← inScope g.block
      expect ")"
      return { type := o.type.decay }
    else
      let o ← g.expression
      expect ")"
      return o
  | _ => failure

/-- Goes on behind an operand with what may follow it directly. -/
def suffixes (g : Grammar) (o : Operand) : Reader Operand := do
  iterate o fun o => do
    let rs := (← get).records
    if ← accept "[" then
      let i ← g.expression
      expect "]"
      return some (← require (Operand.element? rs o i))
    else if ← accept "(" then
      let args ← if (← textAt 0) = ")" then pure [] else commaSeparated g.assignment
      expect ")"
      return some (← require (Operand.call? (← get).records o args))
    else if ← accept "." then return some (← require (o.member? rs (← name)))
    else if ← accept "->" then
      let target ← require (o.pointee? rs)
      return some (← require (target.member? rs (← name)))
    else if ["++", "--"].contains (← textAt 0) then
      let _ ← next
      return some (← require (o.step? rs))
    else return none

/-- The size or the alignment of a type or of an operand. -/
def measured (g : Grammar) (ofSize : Bool) : Reader Operand := do
  let type ←
    if (← textAt 0) = "(" && (← startsTypeAt 1) then
      let _ ← next
      let t ← g.typeName
      expect ")"
      if (← textAt 0) = "\x7b" then
        let o ← g.initializer (some t)
        pure (← suffixes g { o with isPlace := true }).type
      else pure t
    else pure (← g.cast).type
  let rs := (← get).records
  let n ← if ofSize then require (rs.size? type.unqualified)
    else pure (((rs.layout? type).map Prod.snd).getD 1)
  return .integer .ulong n

/-- An operand with what stands before and behind it. -/
def unary (g : Grammar) : Reader Operand := do
  let op ← textAt 0
  let rs := (← get).records
  match op with
  | "++" | "--" =>
    let _ ← next
    require ((← g.cast).step? rs)
  | "&" =>
    let _ ← next
    require (← g.cast).address?
  | "&&" =>
    let _ ← next
    let label ← name
    modify fun a => { a with jumps := label :: a.jumps }
    return { type := .pointer .void, worth := .fixed }
  | "*" =>
    let _ ← next
    let o ← g.cast
    require (o.pointee? (← get).records)
  | "+" | "-" | "~" | "!" =>
    let _ ← next
    let o ← g.cast
    require (o.signed? (← get).records op)
  | "sizeof" =>
    let _ ← next
    measured g true
  | "_Alignof" | "__alignof__" | "__alignof" =>
    let _ ← next
    measured g false
  | "__extension__" =>
    let _ ← next
    g.cast
  | _ => suffixes g (← primary g)

/-- An operand, perhaps converted by a type in brackets before it. A braced list behind
such a type is a value of the type. -/
def castOperand (g : Grammar) : Reader Operand := do
  if (← textAt 0) = "(" && (← startsTypeAt 1) then
    let _ ← next
    let t ← g.typeName
    expect ")"
    if (← textAt 0) = "\x7b" then
      let isFixed ← isOutermost
      let o ← g.initializer (some t)
      suffixes g { type := o.type, isPlace := true, worth := if isFixed then .fixed else .unknown }
    else
      let o ← g.cast
      require (o.cast? (← get).records t)
  else unary g

/-! ## Operators -/

/-- Operands with operators between them that bind at least as tight as `least`. -/
def binaryOperand (g : Grammar) (least : Nat) : Reader Operand := do
  iterate (← castOperand g) fun a => do
    let op ← textAt 0
    match bindingStrength? op with
    | some strength =>
      if strength < least then return none
      let _ ← next
      let b ← g.binary (strength + 1)
      let rs := (← get).records
      let joined :=
        if op = "&&" ∨ op = "||" then Operand.logical? rs (op = "&&") a b
        else Operand.binary? rs op a b
      return some (← require joined)
    | none => return none

/-- One of two expressions by a condition, or just one expression. -/
def conditional (g : Grammar) : Reader Operand := do
  let c ← binaryOperand g 1
  if ← accept "?" then
    let a ← if (← textAt 0) = ":" then pure c else g.expression
    expect ":"
    let b ← g.assignment
    require (Operand.choice? (← get).records c a b)
  else return c

/-- The operators that store, with the operator that is applied before. -/
def storingOperator? (s : String) : Option (Option String) :=
  match s with
  | "=" => some none
  | "*=" => some "*"
  | "/=" => some "/"
  | "%=" => some "%"
  | "+=" => some "+"
  | "-=" => some "-"
  | "<<=" => some "<<"
  | ">>=" => some ">>"
  | "&=" => some "&"
  | "^=" => some "^"
  | "|=" => some "|"
  | _ => none

/-- An expression without commas, perhaps with a place that its value is stored to. -/
def assignmentExpression (g : Grammar) : Reader Operand := do
  let a ← conditional g
  match storingOperator? (← textAt 0) with
  | some op =>
    let _ ← next
    let b ← g.assignment
    require (Operand.assign? (← get).records op a b)
  | none => return a

/-- An expression, perhaps with commas, where the last part counts. -/
def commaExpression (g : Grammar) : Reader Operand := do
  let parts ← commaSeparated (assignmentExpression g)
  match parts with
  | [o] => return o
  | _ => return { type := ((parts.getLast?.map (·.type.decay)).getD .void) }

/-- An expression whose integer is known. -/
def knownInteger (g : Grammar) : Reader Int := do
  let o ← conditional g
  check o.type.isInteger
  require o.integer?

end ProxyForge.Compiler
