/-!
# ProxyForge.Toml.Blank — blanks, comments and line ends

Within a line only spaces and tabs are blank. A line ends with a line feed,
before which one carriage return may stand, or with the document. Comments run
to the end of the line and hold no control characters but tabs.
-/

namespace ProxyForge.Toml

/-- The characters that separate tokens within a line. -/
def isBlank (c : Char) : Bool := c == ' ' || c == '\t'

/-- The characters that comments and quoted texts may hold: no control characters
but the tab. -/
def isPlain (c : Char) : Bool := c == '\t' || (' ' ≤ c && c != '\x7f')

/-- The text behind blanks. -/
def skipBlanks (s : List Char) : List Char := s.dropWhile isBlank

/-- The text behind a line feed, with or without a carriage return before it. -/
def newline? : List Char → Option (List Char)
  | '\n' :: rest => some rest
  | '\r' :: '\n' :: rest => some rest
  | _ => none

/-- The text behind a comment, if one starts here. -/
def skipComment : List Char → List Char
  | '#' :: rest => rest.dropWhile isPlain
  | s => s

/-- The text of the next line, when only blanks and a comment are left on this
one. -/
def lineEnd? (s : List Char) : Option (List Char) :=
  match skipComment (skipBlanks s) with
  | [] => some []
  | rest => newline? rest

/-- The text behind blanks, comments and line ends, as they may stand between the
items of an array. A comment must be followed by a line end; there is at most
one skip for each character. -/
def skipLines? (s : List Char) : Option (List Char) :=
  go s.length s
where
  go : Nat → List Char → Option (List Char)
    | 0, s => some s
    | fuel + 1, s =>
      match skipBlanks s with
      | '#' :: rest =>
        match newline? (skipComment ('#' :: rest)) with
        | some rest => go fuel rest
        | none => none
      | rest =>
        match newline? rest with
        | some rest => go fuel rest
        | none => some rest

end ProxyForge.Toml
