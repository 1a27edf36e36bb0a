import ProxyForge.Log.Event
import ProxyForge.Text.Alphanumeric
import ProxyForge.Text.Digits

/-!
# ProxyForge.Log.Directive — one rule about what is logged

A directive is written as a target, then in brackets a span and a field with
braces around it, then a level behind an equals sign; each part may be missing.
A text that is the name of a level, or a number for one, is a level for all
targets.

The signs between the parts are searched in the text without the blanks around
it. The parts are cut out of the text as it was given, at the places that were
found, so that blanks at the ends shift the parts or become part of them.
-/

namespace ProxyForge

/-- A field that an entry must have, with the value that it must have there. -/
structure FieldMatch where
  name : String
  value : Option String := none
deriving DecidableEq, Repr

/-- A rule for the entries of the targets that start with `target`, inside the spans
of the given name and with the given fields. Without a level it lets none
through. -/
structure Directive where
  target : Option String := none
  span : Option String := none
  fields : List FieldMatch := []
  level : Option Level := some .trace
deriving DecidableEq, Repr

/-- Whether a character is a blank that is not written at the ends of a directive. -/
def isBlankAround (c : Char) : Bool :=
  let n := c.toNat
  (9 ≤ n && n ≤ 13) || (0x2000 ≤ n && n ≤ 0x200a)
    || [0x20, 0x85, 0xa0, 0x1680, 0x2028, 0x2029, 0x202f, 0x205f, 0x3000].contains n

/-- The text without the blanks around it. -/
def trimBlanks (s : List Char) : List Char :=
  ((s.dropWhile isBlankAround).reverse.dropWhile isBlankAround).reverse

/-- The number of bytes of a text. -/
def byteCount (s : List Char) : Nat := (String.ofList s).utf8ByteSize

/-- The text behind a number of bytes; `none` when they end inside a character. -/
def dropBytes? : Nat → List Char → Option (List Char)
  | 0, s => some s
  | _, [] => none
  | n, c :: rest => if c.utf8Size ≤ n then dropBytes? (n - c.utf8Size) rest else none

/-- The characters that make up a number of bytes. -/
def takeBytes? : Nat → List Char → Option (List Char)
  | 0, _ => some []
  | _, [] => none
  | n, c :: rest =>
    if c.utf8Size ≤ n then (takeBytes? (n - c.utf8Size) rest).map (c :: ·) else none

namespace Directive

/-- The threshold that a text names, by its name in any case or by a number. The
outer option tells whether it names one. -/
def threshold? (s : String) : Option (Option Level) :=
  let digits := if s.startsWith "+" then s.toList.drop 1 else s.toList
  match Text.numeral? 10 digits, String.ofList (s.toList.map Char.toLower) with
  | some 0, _ | _, "off" => some none
  | some 1, _ | _, "error" => some (some .error)
  | some 2, _ | _, "warn" => some (some .warn)
  | some 3, _ | _, "info" => some (some .info)
  | some 4, _ | _, "debug" => some (some .debug)
  | some 5, _ | _, "trace" => some (some .trace)
  | _, _ => none

/-- The threshold behind an equals sign, where nothing stands for everything. -/
def levelText? (s : String) : Option (Option Level) :=
  if s = "" then some (some .trace) else threshold? s

/-- The characters that a target can start with. -/
def startsTarget (c : Char) : Bool := ['-', ':', '_'].contains c || Text.isAlphanumeric c

/-- The field that a text asks for: a name, and a value behind an equals sign. -/
def fieldText (s : List Char) : FieldMatch :=
  let name := String.ofList (s.takeWhile (· ≠ '='))
  match s.dropWhile (· ≠ '=') with
  | _ :: value => { name, value := some (String.ofList (value.takeWhile (· ≠ '='))) }
  | [] => { name }

/-- The part of the given text from one byte to before another. -/
def cut? (given : List Char) (first last : Nat) : Option String := do
  return String.ofList (← takeBytes? (last - first) (← dropBytes? first given))

/-- The part of the given text from a byte on. -/
def cutFrom? (given : List Char) (first : Nat) : Option String :=
  (dropBytes? first given).map String.ofList

/-- Reads what stands behind the brackets: nothing, or a level. -/
def afterSpan? (d : Directive) (given : List Char) (place : Nat) : List Char → Option Directive
  | [] => some d
  | '=' :: _ => do return { d with level := ← levelText? (← cutFrom? given (place + 1)) }
  | _ => none

/-- Reads what stands behind an opening bracket. -/
def inSpan? (d : Directive) (given : List Char) (place : Nat) (s : List Char) :
    Option Directive := do
  let name := s.takeWhile fun c => c ≠ ']' && c ≠ '\x7b'
  let nameEnd := place + byteCount name
  let span ← cut? given place nameEnd
  match s.dropWhile fun c => c ≠ ']' && c ≠ '\x7b' with
  | ']' :: rest => afterSpan? { d with span := some span } given (nameEnd + 1) rest
  | _ :: rest =>
    let field := rest.takeWhile (· ≠ '\x7d')
    let fieldEnd := nameEnd + 1 + byteCount field
    let text ← cut? given (nameEnd + 1) fieldEnd
    match rest.dropWhile (· ≠ '\x7d') with
    | _ :: ']' :: rest =>
      if text = "" then none
      else
        let d := { d with span := if span = "" then none else some span,
                          fields := [fieldText text.toList] }
        afterSpan? d given (fieldEnd + 2) rest
    | _ => none
  | [] => none

/-- Reads a directive. -/
def parse? (text : String) : Option Directive := do
  let given := text.toList
  let s := trimBlanks given
  let head := s.takeWhile fun c => c ≠ '=' && c ≠ '['
  let headEnd := byteCount head
  let target ← cut? given 0 headEnd
  match s, s.dropWhile fun c => c ≠ '=' && c ≠ '[' with
  | '[' :: _, _ :: rest => inSpan? {} given 1 rest
  | c :: _, rest =>
    if startsTarget c then
      match rest with
      | [] =>
        match threshold? text with
        | some level => return { level }
        | none => return { target := some text }
      | '=' :: _ => afterSpan? { target := some target } given headEnd rest
      | _ :: rest => inSpan? { target := some target } given (headEnd + 1) rest
    else none
  | [], _ => none

/-- Whether the directive can decide about entries outside spans: it asks for no
span and for no value of a field. -/
def isStatic (d : Directive) : Bool := d.span.isNone && d.fields.all (·.value.isNone)

/-- The names of the fields that the directive asks for. -/
def fieldNames (d : Directive) : List String := d.fields.map FieldMatch.name

/-- Whether the directive speaks of an entry. -/
def speaksOf (d : Directive) (r : LogRecord) : Bool :=
  d.target.all (fun target => target.toList.isPrefixOf r.target.toList)
    && d.fieldNames.all fun name => name == "message" || r.fields.any (·.1 == name)

/-- Whether the directive lets a severity through. -/
def allows (d : Directive) (level : Level) : Bool :=
  d.level.any fun least => least.rank ≤ level.rank

/-- The length of the target, counted so that no target is shorter than any. -/
def reach (d : Directive) : Nat := d.target.elim 0 (·.utf8ByteSize + 1)

/-- Whether a directive is more specific than another: its target is longer, or as
long with more fields; where both are equal the text that comes later counts as
more specific. -/
def outranks (a b : Directive) : Bool :=
  if a.reach ≠ b.reach then b.reach < a.reach
  else if a.fields.length ≠ b.fields.length then b.fields.length < a.fields.length
  else if a.target ≠ b.target then b.target.getD "" < a.target.getD ""
  else b.fieldNames < a.fieldNames

end Directive

end ProxyForge
