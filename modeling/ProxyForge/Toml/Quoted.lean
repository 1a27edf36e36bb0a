import ProxyForge.Text.Digits
import ProxyForge.Toml.Blank
import ProxyForge.Toml.Value

/-!
# ProxyForge.Toml.Quoted — quoted texts

Four forms: basic texts in `"`, which know escapes, and literal texts in `'`,
which do not; each on one line, or over many lines between three quotes. A text
over many lines drops a line end right after its opening, writes every line end
as a line feed, and may hold one or two quotes in a row, also right before its
closing. In a basic one, a backslash at the end of a line drops the blanks and
line ends that follow it.
-/

namespace ProxyForge.Toml

/-- The character that a hexadecimal code of an escape stands for. -/
def scalar? (code : List Char) : Option Char := do
  let n ← Text.numeral? 16 code
  if n.isValidChar then some (Char.ofNat n) else none

/-- The character behind a backslash that stands for one character. -/
def shortEscape? : Char → Option Char
  | 'b' => some '\x08'
  | 't' => some '\t'
  | 'n' => some '\n'
  | 'f' => some '\x0c'
  | 'r' => some '\r'
  | '"' => some '"'
  | '\\' => some '\\'
  | _ => none

/-- Whether a line end follows, after blanks at most. -/
def endsLine (s : List Char) : Bool := (newline? (skipBlanks s)).isSome

/-- The rest of a basic text on one line, after the characters `acc`, the last
first. -/
def basicRest (acc : List Char) : Reader String
  | [] => none
  | '"' :: rest => some (String.ofList acc.reverse, rest)
  | '\\' :: 'u' :: a :: b :: c :: d :: rest =>
    (scalar? [a, b, c, d]).bind fun x => basicRest (x :: acc) rest
  | '\\' :: 'U' :: a :: b :: c :: d :: e :: f :: g :: h :: rest =>
    (scalar? [a, b, c, d, e, f, g, h]).bind fun x => basicRest (x :: acc) rest
  | '\\' :: c :: rest => (shortEscape? c).bind fun x => basicRest (x :: acc) rest
  | c :: rest => if isPlain c ∧ c ≠ '\\' then basicRest (c :: acc) rest else none

/-- The rest of a literal text on one line. -/
def literalRest (acc : List Char) : Reader String
  | [] => none
  | '\'' :: rest => some (String.ofList acc.reverse, rest)
  | c :: rest => if isPlain c then literalRest (c :: acc) rest else none

/-- The text that ends at three quotes, with the quotes that stand before the last
three. -/
def closeQuotes (quote : Char) (acc : List Char) : List Char → String × List Char
  | c :: d :: rest =>
    if c = quote ∧ d = quote then (String.ofList (quote :: quote :: acc).reverse, rest)
    else if c = quote then (String.ofList (quote :: acc).reverse, d :: rest)
    else (String.ofList acc.reverse, c :: d :: rest)
  | [c] =>
    if c = quote then (String.ofList (quote :: acc).reverse, [])
    else (String.ofList acc.reverse, [c])
  | [] => (String.ofList acc.reverse, [])

/-- The rest of a basic text over many lines. While `trim` holds, blanks and line
ends are dropped. -/
def basicLines (trim : Bool) (acc : List Char) : Reader String
  | [] => none
  | '"' :: '"' :: '"' :: rest => some (closeQuotes '"' acc rest)
  | '\r' :: '\n' :: rest => basicLines trim (if trim then acc else '\n' :: acc) rest
  | '\n' :: rest => basicLines trim (if trim then acc else '\n' :: acc) rest
  | '\\' :: 'u' :: a :: b :: c :: d :: rest =>
    (scalar? [a, b, c, d]).bind fun x => basicLines false (x :: acc) rest
  | '\\' :: 'U' :: a :: b :: c :: d :: e :: f :: g :: h :: rest =>
    (scalar? [a, b, c, d, e, f, g, h]).bind fun x => basicLines false (x :: acc) rest
  | '\\' :: c :: rest =>
    match shortEscape? c with
    | some x => basicLines false (x :: acc) rest
    | none => if endsLine (c :: rest) then basicLines true acc (c :: rest) else none
  | c :: rest =>
    if isBlank c then basicLines trim (if trim then acc else c :: acc) rest
    else if isPlain c ∧ c ≠ '\\' then basicLines false (c :: acc) rest
    else none

/-- The rest of a literal text over many lines. -/
def literalLines (acc : List Char) : Reader String
  | [] => none
  | '\'' :: '\'' :: '\'' :: rest => some (closeQuotes '\'' acc rest)
  | '\r' :: '\n' :: rest => literalLines ('\n' :: acc) rest
  | '\n' :: rest => literalLines ('\n' :: acc) rest
  | c :: rest => if isPlain c then literalLines (c :: acc) rest else none

/-- A quoted text on one line. -/
def quotedLine? : Reader String
  | '"' :: rest => basicRest [] rest
  | '\'' :: rest => literalRest [] rest
  | _ => none

/-- A quoted text. -/
def quoted? : Reader String
  | '"' :: '"' :: '"' :: rest => basicLines false [] ((newline? rest).getD rest)
  | '\'' :: '\'' :: '\'' :: rest => literalLines [] ((newline? rest).getD rest)
  | s => quotedLine? s

end ProxyForge.Toml
