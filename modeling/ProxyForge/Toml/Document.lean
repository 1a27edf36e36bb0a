import ProxyForge.Toml.DateTime
import ProxyForge.Toml.Key
import ProxyForge.Toml.Node
import ProxyForge.Toml.Number

/-!
# ProxyForge.Toml.Document — reading documents

A document is a sequence of lines: headers, keys with values, comments and blank
lines. `Toml.parse?` gives its table, or `none` for a text that is no document.

Values nest through arrays and inline tables, fewer than `maxNesting` deep; the
reader of a value is given the number of levels that are left.
-/

namespace ProxyForge.Toml

/-! ## Values -/

/-- The items of an array after the ones in `acc`, the last first, up to the closing
bracket. Each item takes at least one character of `fuel`. -/
def itemsAfter? (item : Reader Value) (acc : List Value) : Nat → Reader (List Value)
  | 0, _ => none
  | fuel + 1, s => do
    match ← skipLines? s with
    | ']' :: rest => return (acc.reverse, rest)
    | s =>
      let (v, rest) ← item s
      match ← skipLines? rest with
      | ',' :: rest => itemsAfter? item (v :: acc) fuel rest
      | ']' :: rest => return ((v :: acc).reverse, rest)
      | _ => none

/-- A key, an equals sign and a value. -/
def keyValue? (value : Reader Value) : Reader (List String × Value) := fun s => do
  match ← dottedKey? s with
  | (keys, '=' :: rest) =>
    let (v, rest) ← value (skipBlanks rest)
    return ((keys, v), rest)
  | _ => none

/-- Adds a value at all the keys of a dotted key. -/
def Entries.insertKeys? (entries : Entries) (keys : List String) (v : Value)
    (origin : Origin := .header) : Option Entries := do
  entries.insert keys.dropLast (← keys.getLast?) v origin

/-- The pairs of an inline table, added to the entries, up to the closing brace. -/
def pairsAfter? (value : Reader Value) (entries : Entries) : Nat → Reader Entries
  | 0, _ => none
  | fuel + 1, s => do
    let ((keys, v), rest) ← keyValue? value s
    let entries ← entries.insertKeys? keys v
    match skipBlanks rest with
    | ',' :: rest => pairsAfter? value entries fuel rest
    | '\x7d' :: rest => return (entries, rest)
    | _ => none

/-- The rest of an inline table. -/
def inlineTable? (value : Reader Value) : Reader Value := fun s =>
  match skipBlanks s with
  | '\x7d' :: rest => some (.table [], rest)
  | s => (pairsAfter? value [] (s.length + 1) s).map fun (entries, rest) =>
    (.table (Entries.toTable entries), rest)

/-- A value that holds no others. -/
def scalarValue? : Reader Value := fun s =>
  match s with
  | '"' :: _ | '\'' :: _ => (quoted? s).map fun (text, rest) => (.string text, rest)
  | 't' :: 'r' :: 'u' :: 'e' :: rest => some (.boolean true, rest)
  | 'f' :: 'a' :: 'l' :: 's' :: 'e' :: rest => some (.boolean false, rest)
  | s => (dateTime? s).or (number? s)

/-- A value with at most `levels` levels of arrays and inline tables. -/
def value? : (levels : Nat) → Reader Value
  | 0, s =>
    match s with
    | '[' :: _ | '\x7b' :: _ => none
    | s => scalarValue? s
  | levels + 1, s =>
    match s with
    | '[' :: rest => (itemsAfter? (value? levels) [] (rest.length + 1) rest).map fun (items, rest) =>
      (.array items, rest)
    | '\x7b' :: rest => inlineTable? (value? levels) rest
    | s => scalarValue? s

/-! ## Lines -/

/-- A document read so far: its tables, and the path of the table that keys go to. -/
structure DocumentState where
  root : Entries := []
  path : List String := []

/-- What a line of a document adds. -/
inductive Statement where
  | tableHeader (keys : List String)
  | arrayHeader (keys : List String)
  | pair (keys : List String) (v : Value)

/-- A statement, up to the end of its line. -/
def statement? : Reader Statement := fun s =>
  match s with
  | '[' :: '[' :: rest => do
    match ← dottedKey? rest with
    | (keys, ']' :: ']' :: rest) => return (.arrayHeader keys, rest)
    | _ => none
  | '[' :: rest => do
    match ← dottedKey? rest with
    | (keys, ']' :: rest) => return (.tableHeader keys, rest)
    | _ => none
  | s => (keyValue? (value? (maxNesting - 1)) s).map fun ((keys, v), rest) => (.pair keys v, rest)

/-- Adds a statement to a document; `none` when it conflicts with earlier ones. -/
def DocumentState.add? (d : DocumentState) : Statement → Option DocumentState
  | .tableHeader keys => do
    return { root := ← d.root.openTable keys.dropLast (← keys.getLast?), path := keys }
  | .arrayHeader keys => do
    return { root := ← d.root.openArrayTable keys.dropLast (← keys.getLast?), path := keys }
  | .pair keys v => do
    let add (origin : Origin) (entries : Entries) : Option Entries :=
      entries.insertKeys? keys v origin
    return { d with root := ← Entries.updateAt false add d.path .header d.root }

/-- Reads the lines of a document in order. Every line takes at least one character
of `fuel`. -/
def readLines? (d : DocumentState) : Nat → List Char → Option DocumentState
  | 0, _ => none
  | fuel + 1, s =>
    match skipBlanks s with
    | [] => some d
    | s =>
      match lineEnd? s with
      | some rest => readLines? d fuel rest
      | none => do
        let (statement, rest) ← statement? s
        readLines? (← d.add? statement) fuel (← lineEnd? rest)

/-- The table of a document. A byte-order mark may stand before it. -/
def parse? (text : String) : Option Table :=
  let s :=
    match text.toList with
    | '\ufeff' :: rest => rest
    | s => s
  (readLines? {} (s.length + 1) s).map fun d => Entries.toTable d.root

end ProxyForge.Toml
