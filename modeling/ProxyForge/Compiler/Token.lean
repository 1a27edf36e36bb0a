/-!
# ProxyForge.Compiler.Token — C text as lines of tokens

A C text is read in the steps that the language names: replacements of three
characters first, then lines that a backslash continues, then tokens with
comments counting as blanks. Directives end with their line, so the tokens come
line by line (`tokenLines?`); the only text without tokens is one with a comment
that does not end.

A quote that does not end on its line makes the rest of the line one stray token.
Whether that is a fault depends on where it stands.
-/

namespace ProxyForge.Compiler

/-- What a token is. -/
inductive TokenKind where
  /-- An identifier or a keyword. -/
  | word
  | number
  | character
  | text
  /-- A file name in angle brackets. -/
  | header
  /-- An operator or a separator. -/
  | sign
  /-- Something that no token starts with. -/
  | stray
  /-- The place of an argument without tokens. -/
  | blank
deriving DecidableEq, Repr

/-- A token, whether blanks stand before it, and the defined names that are not
replaced in it any more. -/
structure Token where
  kind : TokenKind
  text : String
  spaced : Bool := false
  hidden : List String := []
deriving DecidableEq, Repr

/-! ## Characters -/

/-- The characters of a file. A byte order mark at the start is dropped; when the
bytes are no text, those that are not ASCII stand for characters that no token
starts with. -/
def decode (bytes : ByteArray) : List Char :=
  match String.fromUTF8? bytes with
  | some s => if s.startsWith "\ufeff" then s.toList.drop 1 else s.toList
  | none =>
    bytes.toList.map fun b => Char.ofNat (if b < 128 then b.toNat else 0xf700 + b.toNat)

/-- The character that two question marks and this one stand for. -/
def trigraph? : Char → Option Char
  | '=' => some '#'
  | '(' => some '['
  | '/' => some '\\'
  | ')' => some ']'
  | '\'' => some '^'
  | '<' => some '\x7b'
  | '!' => some '|'
  | '>' => some '\x7d'
  | '-' => some '~'
  | _ => none

/-- The text with its replacements of three characters made, behind some characters
that are left out. -/
def replaceTrigraphs : Nat → List Char → List Char
  | _, [] => []
  | skip + 1, _ :: rest => replaceTrigraphs skip rest
  | 0, c :: rest =>
    match c, rest.head?, (rest[1]?).bind trigraph? with
    | '?', some '?', some d => d :: replaceTrigraphs 2 rest
    | _, _, _ => c :: replaceTrigraphs 0 rest

/-- Whether a character is blank within a line. -/
def isBlank (c : Char) : Bool := [' ', '\t', '\x0b', '\x0c', '\x00'].contains c

/-- The text behind the end of a line: a line feed, a carriage return, or both. -/
def lineEnd? : List Char → Option (List Char)
  | '\n' :: rest => some rest
  | '\r' :: '\n' :: rest => some rest
  | '\r' :: rest => some rest
  | _ => none

/-- The text with continued lines joined and each line ended by a line feed. Blanks
may stand between the backslash and the end of the line. There is at most one
step for each character. -/
def joinLines (s : List Char) : List Char :=
  go s.length s
where
  go : Nat → List Char → List Char
    | 0, s => s
    | _, [] => []
    | fuel + 1, c :: rest =>
      if c = '\\' then
        match lineEnd? (rest.dropWhile isBlank) with
        | some rest => go fuel rest
        | none => c :: go fuel rest
      else
        match lineEnd? (c :: rest) with
        | some rest => '\n' :: go fuel rest
        | none => c :: go fuel rest

/-! ## Single tokens -/

/-- The code points outside of ASCII that words may hold, as first and last of each
run. -/
def wordRanges : List (Nat × Nat) :=
  [ (0xa8, 0xa8), (0xaa, 0xaa), (0xad, 0xad), (0xaf, 0xaf), (0xb2, 0xb5), (0xb7, 0xba),
    (0xbc, 0xbe), (0xc0, 0xd6), (0xd8, 0xf6), (0xf8, 0x167f), (0x1681, 0x180d), (0x180f, 0x1fff),
    (0x200b, 0x200d), (0x202a, 0x202e), (0x203f, 0x2040), (0x2054, 0x2054), (0x2060, 0x218f),
    (0x2460, 0x24ff), (0x2776, 0x2793), (0x2c00, 0x2dff), (0x2e80, 0x2fff), (0x3004, 0x3007),
    (0x3021, 0x302f), (0x3031, 0xd7ff), (0xf900, 0xfd3d), (0xfd40, 0xfdcf), (0xfdf0, 0xfe44),
    (0xfe47, 0xfffd) ]

/-- The code points out of `wordRanges` that words may not start with: marks that
combine with the character before them. -/
def markRanges : List (Nat × Nat) :=
  [(0x300, 0x36f), (0x1dc0, 0x1dff), (0x20d0, 0x20ff), (0xfe20, 0xfe2f)]

/-- Whether a code point lies in one of some runs. -/
def isWithin (ranges : List (Nat × Nat)) (n : Nat) : Bool :=
  ranges.any fun (first, last) => first ≤ n && n ≤ last

/-- The characters of words. Beyond the first plane they are all but the last two of a
plane, up to the planes for private use. -/
def isWordChar (c : Char) : Bool :=
  let n := c.toNat
  c.isAlphanum || c == '_' || c == '$' || isWithin wordRanges n
    || (0x10000 ≤ n && n < 0xf0000 && n % 0x10000 < 0xfffe)

/-- The characters that a word can start with. -/
def startsWord (c : Char) : Bool :=
  isWordChar c && !c.isDigit && !isWithin markRanges c.toNat

/-- The rest of a number: letters, digits, points, and a sign behind the letter of an
exponent. -/
def numberRest (afterExponent : Bool) : List Char → List Char
  | [] => []
  | c :: rest =>
    if isWordChar c || c == '.' || (afterExponent && (c == '+' || c == '-')) then
      c :: numberRest (['e', 'E', 'p', 'P'].contains c) rest
    else []

/-- The text up to and including a closing quote on the same line; `none` when there
is none. A backslash that escapes takes the next character along. -/
def quoted? (close : Char) (escapes : Bool) : List Char → Option (List Char)
  | [] | '\n' :: _ => none
  | '\\' :: c :: rest =>
    if escapes && c ≠ '\n' then (quoted? close escapes rest).map ('\\' :: c :: ·)
    else (quoted? close escapes (c :: rest)).map ('\\' :: ·)
  | c :: rest => if c = close then some [c] else (quoted? close escapes rest).map (c :: ·)

/-- The operators and separators, longer ones first. -/
def signs : List String :=
  [ "%:%:", "...", "<<=", ">>=", "->", "++", "--", "<<", ">>", "<=", ">=", "==", "!=", "&&", "||",
    "*=", "/=", "%=", "+=", "-=", "&=", "^=", "|=", "##", "<:", ":>", "<%", "%>", "%:",
    "[", "]", "(", ")", "\x7b", "\x7d", ".", "&", "*", "+", "-", "~", "!", "/", "%", "<", ">", "^",
    "|", "?", ":", ";", "=", ",", "#" ]

/-- The sign that another spelling stands for. -/
def canonicalSign (s : String) : String :=
  match s with
  | "<:" => "["
  | ":>" => "]"
  | "<%" => "\x7b"
  | "%>" => "\x7d"
  | "%:" => "#"
  | "%:%:" => "##"
  | s => s

/-- A quoted token, or the rest of the line as a stray one. -/
def quotedToken (kind : TokenKind) (lead : List Char) (close : Char) (escapes : Bool)
    (s : List Char) : TokenKind × List Char :=
  match quoted? close escapes s with
  | some body => (kind, lead ++ body)
  | none => (.stray, lead ++ s.takeWhile (· ≠ '\n'))

/-- The token that a text starts with, which is not blank, by its kind and its
characters. File names in brackets are tokens only where one is expected. -/
def firstToken (expectsHeader : Bool) : List Char → TokenKind × List Char
  | [] => (.blank, [])
  | '"' :: rest => quotedToken .text ['"'] '"' (!expectsHeader) rest
  | '\'' :: rest => quotedToken .character ['\''] '\'' true rest
  | 'L' :: '"' :: rest => quotedToken .text ['L', '"'] '"' true rest
  | 'L' :: '\'' :: rest => quotedToken .character ['L', '\''] '\'' true rest
  | c :: rest =>
    if startsWord c then (.word, c :: rest.takeWhile isWordChar)
    else if c.isDigit || (c == '.' && (rest.head?.any Char.isDigit)) then
      (.number, c :: numberRest false rest)
    else
      match if expectsHeader && c == '<' then quoted? '>' false rest else none with
      | some body => (.header, c :: body)
      | none =>
        match signs.find? fun s => s.toList.isPrefixOf (c :: rest) with
        | some s => (.sign, s.toList)
        | none => (.stray, [c])

/-! ## Lines -/

/-- Whether a file name may follow the tokens of a line, the last one first. -/
def expectsHeader : List Token → Bool
  | [name, hash] => hash.text == "#" && ["include", "include_next", "import"].contains name.text
  | paren :: name :: _ =>
    paren.text == "(" && ["__has_include", "__has_include_next"].contains name.text
  | _ => false

/-- The text behind a comment that started; `none` when it does not end. -/
def commentEnd? : List Char → Option (List Char)
  | [] => none
  | '*' :: '/' :: rest => some rest
  | _ :: rest => commentEnd? rest

/-- The lines of tokens of a text; `none` when a comment does not end. -/
def tokenLines? (s : List Char) : Option (List (List Token)) :=
  let s := joinLines (replaceTrigraphs 0 s)
  go (s.length + 1) s false [] []
where
  /-- Goes on with the rest of a text, with the tokens of the line so far and the
  lines so far, both backwards. Each step takes at least one character. -/
  go : Nat → List Char → Bool → List Token → List (List Token) →
      Option (List (List Token))
    | 0, _, _, _, _ => none
    | _, [], _, line, lines => some ((line.reverse :: lines).reverse)
    | fuel + 1, c :: rest, spaced, line, lines =>
      if c = '\n' then go fuel rest false [] (line.reverse :: lines)
      else if isBlank c then go fuel rest true line lines
      else
        match c, rest with
        | '/', '/' :: rest => go fuel (rest.dropWhile (· ≠ '\n')) true line lines
        | '/', '*' :: rest =>
          match commentEnd? rest with
          | some rest => go fuel rest true line lines
          | none => none
        | _, _ =>
          let (kind, chars) := firstToken (expectsHeader line) (c :: rest)
          let text := String.ofList chars
          let token : Token :=
            { kind, spaced, text := if kind = .sign then canonicalSign text else text }
          go fuel ((c :: rest).drop chars.length) false (token :: line) lines

end ProxyForge.Compiler
