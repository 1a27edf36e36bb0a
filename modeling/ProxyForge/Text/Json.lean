/-!
# ProxyForge.Text.Json — writing JSON

Values are written compactly on one line (`JsonValue.compact`), or with one item
on a line, indented by two blanks (`JsonValue.pretty`). The fields of an object
come in the order in which they are given.
-/

namespace ProxyForge

/-- A value to be written. -/
inductive JsonValue where
  | string (s : String)
  | number (n : Nat)
  | array (items : List JsonValue)
  | object (fields : List (String × JsonValue))

namespace JsonValue

/-- A character inside a text. -/
def escapeChar (c : Char) : List Char :=
  if c = '"' then ['\\', '"']
  else if c = '\\' then ['\\', '\\']
  else if c = '\x08' then ['\\', 'b']
  else if c = '\x0c' then ['\\', 'f']
  else if c = '\n' then ['\\', 'n']
  else if c = '\r' then ['\\', 'r']
  else if c = '\t' then ['\\', 't']
  else if c < ' ' then
    '\\' :: 'u' :: '0' :: '0' :: [Nat.digitChar (c.toNat / 16), Nat.digitChar (c.toNat % 16)]
  else [c]

/-- A text between quotes. -/
def quote (s : String) : String :=
  String.ofList ('"' :: (s.toList.flatMap escapeChar ++ ['"']))

mutual

/-- The value on one line. -/
def compact : JsonValue → String
  | string s => quote s
  | number n => toString n
  | array items => "[" ++ compactItems items ++ "]"
  | object fields => "\x7b" ++ compactFields fields ++ "\x7d"

/-- Items with commas between them. -/
def compactItems : List JsonValue → String
  | [] => ""
  | [v] => v.compact
  | v :: rest => v.compact ++ "," ++ compactItems rest

/-- Fields with commas between them. -/
def compactFields : List (String × JsonValue) → String
  | [] => ""
  | [(key, v)] => quote key ++ ":" ++ v.compact
  | (key, v) :: rest => quote key ++ ":" ++ v.compact ++ "," ++ compactFields rest

end

/-- A new line with the given indentation. -/
def newLine (indent : Nat) : String := "\n" ++ String.ofList (List.replicate (2 * indent) ' ')

mutual

/-- The value over many lines; inner lines are indented one step more than
`indent`. -/
def prettyAt (indent : Nat) : JsonValue → String
  | string s => quote s
  | number n => toString n
  | array [] => "[]"
  | array items => "[" ++ prettyItems (indent + 1) items ++ newLine indent ++ "]"
  | object [] => "\x7b\x7d"
  | object fields => "\x7b" ++ prettyFields (indent + 1) fields ++ newLine indent ++ "\x7d"

/-- Items, each on a new line. -/
def prettyItems (indent : Nat) : List JsonValue → String
  | [] => ""
  | [v] => newLine indent ++ v.prettyAt indent
  | v :: rest => newLine indent ++ v.prettyAt indent ++ "," ++ prettyItems indent rest

/-- Fields, each on a new line. -/
def prettyFields (indent : Nat) : List (String × JsonValue) → String
  | [] => ""
  | [(key, v)] => newLine indent ++ quote key ++ ": " ++ v.prettyAt indent
  | (key, v) :: rest =>
    newLine indent ++ quote key ++ ": " ++ v.prettyAt indent ++ "," ++ prettyFields indent rest

end

/-- The value over many lines. -/
def pretty (v : JsonValue) : String := v.prettyAt 0

end JsonValue

end ProxyForge
