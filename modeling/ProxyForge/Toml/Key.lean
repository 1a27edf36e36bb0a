import ProxyForge.Toml.Quoted

/-!
# ProxyForge.Toml.Key — keys and dotted keys

A key is bare, made of ASCII letters, digits, underscores and hyphens, or a
quoted text on one line. A dotted key is a path of keys; it has fewer than
`maxNesting` of them.
-/

namespace ProxyForge.Toml

/-- The limit on the length of dotted keys and on the nesting of values. -/
def maxNesting : Nat := 80

/-- The characters of bare keys. -/
def isBareKeyChar (c : Char) : Bool := c.isAlphanum || c == '_' || c == '-'

/-- One key. -/
def key? : Reader String := fun s =>
  match s with
  | '"' :: _ | '\'' :: _ => quotedLine? s
  | _ =>
    match s.takeWhile isBareKeyChar with
    | [] => none
    | name => some (String.ofList name, s.dropWhile isBareKeyChar)

/-- The keys of a dotted key after the ones in `acc`, the last first; at most `fuel`
of them. Blanks may stand around every key. -/
def keysAfter? (acc : List String) : Nat → Reader (List String)
  | 0, _ => none
  | fuel + 1, s => do
    let (name, rest) ← key? (skipBlanks s)
    match skipBlanks rest with
    | '.' :: rest => keysAfter? (name :: acc) fuel rest
    | rest => return ((name :: acc).reverse, rest)

/-- A dotted key with the blanks around it. -/
def dottedKey? : Reader (List String) := keysAfter? [] (maxNesting - 1)

end ProxyForge.Toml
