import ProxyForge.Compiler.Condition
import ProxyForge.Compiler.Library
import ProxyForge.Path

/-!
# ProxyForge.Compiler.Inclusion — the tokens of a source with all it includes

Directives decide which lines of a file count, define names and include further
files. What is left is one list of tokens in which no defined names are left
(`Sources.tokens?`).

A file in quotes is looked for beside the file that includes it, then like one in
brackets: in the directories of the search path in order, then among the headers
of the standard library. Conditions that do not count are not even read, but they
must still be nested properly.
-/

namespace ProxyForge.Compiler

/-- Where sources come from: the directories that are searched, and the content of
the files that can be read. -/
structure Sources where
  dirs : List Path
  read : Path → Option ByteArray

/-- A file in its place: the directory that it is in, and how many directories of the
search path it was looked for in. -/
structure SourceFile where
  content : List Char
  dir : Path := ⟨""⟩
  passed : Nat := 0

/-- A conditional group that is open: whether the enclosing lines count, whether one of
its branches was taken, whether the present one counts, and whether it is the
last. -/
structure OpenGroup where
  outer : Bool
  taken : Bool
  active : Bool
  isLast : Bool := false
deriving Repr

/-- What is known between two lines: the defined names, the names that may not be used
any more, the files that are included only once, and the tokens so far,
backwards. -/
structure Progress where
  definitions : Definitions := []
  forbidden : List String := []
  once : List (List Char) := []
  tokens : List Token := []

namespace Sources

/-! ## Finding files -/

/-- The first directory that has a file of the name, out of those behind the first
`passed` ones; after all directories the standard library. -/
def search? (s : Sources) (name : String) (passed : Nat) : Option SourceFile :=
  go passed (s.dirs.drop passed)
where
  go (passed : Nat) : List Path → Option SourceFile
    | [] => (Library.header? name).map fun text => { content := text.toList, passed := passed + 1 }
    | dir :: dirs =>
      match s.read (dir.join ⟨name⟩) with
      | some bytes =>
        let dir := ((dir.join ⟨name⟩).parent?).getD ⟨""⟩
        some { content := decode bytes, dir, passed := passed + 1 }
      | none => go (passed + 1) dirs

/-- The file that a name means which stands in quotes or in brackets in a file. The
search can start behind the directory of that file. -/
def find? (s : Sources) (file : SourceFile) (name : String) (quoted next : Bool) :
    Option SourceFile :=
  let from? (p : Path) : Option SourceFile :=
    (s.read p).map fun bytes => { content := decode bytes, dir := p.parent?.getD ⟨""⟩ }
  if name = "" then none
  else if (Path.mk name).isAbsolute then from? ⟨name⟩
  else if next then s.search? name file.passed
  else
    match if quoted then from? (file.dir.join ⟨name⟩) else none with
    | some found => some found
    | none => s.search? name 0

/-- The name of a file and whether it stands in quotes, from the tokens of a
directive. Brackets may come out of defined names. -/
def fileName? (ts : List Token) : Option (String × Bool) :=
  match ts with
  | [] => none
  | t :: rest =>
    let inner := String.ofList ((t.text.toList.drop 1).dropLast)
    match t.kind with
    | .text => if t.text.startsWith "L" then none else some (inner, true)
    | .header => some (inner, false)
    | .sign =>
      let parts := rest.takeWhile fun u => u.text ≠ ">"
      if t.text = "<" ∧ parts.length < rest.length then
        some (String.join (parts.map fun u => if u.spaced then " " ++ u.text else u.text), false)
      else none
    | _ => none

/-! ## Conditions -/

/-- The answer to a question that only conditions can ask, with the tokens behind it:
whether a name is defined, and whether a file is there. -/
def answer? (s : Sources) (file : SourceFile) (defs : Definitions) :
    List Token → Option (Token × List Token)
  | question :: rest => do
    let answer (b : Bool) : Token := { kind := .number, text := if b then "1" else "0" }
    let (arguments, behind) ←
      match rest with
      | t :: inside =>
        if t.text = "(" then do
          let (args, _, behind) ← Definition.arguments? 0 [] [] inside
          some (args.flatten, behind)
        else if question.text = "defined" then some ([t], inside)
        else none
      | [] => none
    match question.text with
    | "defined" =>
      match arguments with
      | [name] =>
        if name.kind = .word then some (answer (defs.lookup name.text).isSome, behind) else none
      | _ => none
    | "__has_include" | "__has_include_next" =>
      let (name, quoted) ← fileName? arguments
      let next := question.text = "__has_include_next"
      some (answer (s.find? file name quoted next).isSome, behind)
    | "__has_attribute" | "__has_builtin" => some (answer true, behind)
    | "__has_c_attribute" => some (answer false, behind)
    | _ => none
  | [] => none

/-- Whether a condition holds; `none` when it is none. -/
def holds? (s : Sources) (file : SourceFile) (defs : Definitions) (ts : List Token) :
    Option Bool := do
  let ts ← defs.replace? ts (s.answer? file defs)
  let condition ← Condition.ofTokens? ts
  return (← condition.value?).isTrue

/-- The name that a directive asks about. -/
def namedIn? : List Token → Option String
  | t :: _ => if t.kind = .word then some t.text else none
  | [] => none

/-! ## Directives -/

/-- Puts the tokens of lines behind those that are there, with defined names
replaced. -/
def flush? (p : Progress) (lines : List (List Token)) : Option Progress := do
  if lines.any (·.any fun t => p.forbidden.contains t.text) then none
  let ts ← p.definitions.replace? lines.reverse.flatten
  return { p with tokens := ts.reverse ++ p.tokens }

/-- What a directive does that is about a group: the groups that are open then, the
innermost one first. The outer option is for directives about something else. -/
def groupDirective? (s : Sources) (file : SourceFile) (defs : Definitions) (name : String)
    (args : List Token) (groups : List OpenGroup) : Option (Option (List OpenGroup)) :=
  let isActive := groups.head?.all (·.active)
  let enter (test : Option Bool) : Option (List OpenGroup) :=
    if isActive then
      test.map fun b => { outer := true, taken := b, active := b } :: groups
    else some ({ outer := false, taken := true, active := false } :: groups)
  let isDefined := (namedIn? args).map fun name => (defs.lookup name).isSome
  match name, groups with
  | "if", _ => some (enter (s.holds? file defs args))
  | "ifdef", _ => some (enter isDefined)
  | "ifndef", _ => some (enter (isDefined.map (!·)))
  | "elif", g :: outer =>
    some <|
      if g.isLast then none
      else if g.outer ∧ !g.taken then
        (s.holds? file defs args).map fun b => { g with taken := b, active := b } :: outer
      else some ({ g with active := false } :: outer)
  | "else", g :: outer =>
    some <|
      if g.isLast then none
      else some ({ g with taken := true, active := g.outer && !g.taken, isLast := true } :: outer)
  | "endif", _ :: outer => some (some outer)
  | "elif", [] | "else", [] | "endif", [] => some none
  | _, _ => none

/-- Whether tokens say a line by its number, perhaps of a file by its name. -/
def isLineMarker : List Token → Bool
  | [] => false
  | number :: file =>
    number.kind = .number && number.text.toList.all Char.isDigit
      && file.head?.all fun t => t.kind = .text

/-- What a directive does whose lines count and which is not about a group, where
`insert` goes through an included file. -/
def directive? (s : Sources) (insert : SourceFile → Progress → Option Progress)
    (file : SourceFile) (name : String) (args : List Token) (p : Progress) : Option Progress :=
  match name with
  | "define" => do
    let d ← Definition.ofTokens? args
    return { p with definitions := d :: p.definitions.filter (·.1 != d.1) }
  | "undef" => do
    let name ← namedIn? args
    return { p with definitions := p.definitions.filter (·.1 != name) }
  | "include" | "include_next" | "import" => do
    let args ←
      match fileName? args with
      | some _ => some args
      | none => p.definitions.replace? args
    let (found, quoted) ← fileName? args
    let included ← s.find? file found quoted (name = "include_next")
    if p.once.contains included.content then return p
    else
      let once := if name = "import" then included.content :: p.once else p.once
      insert included { p with once }
  | "pragma" =>
    match args.map Token.text with
    | "once" :: _ => some { p with once := file.content :: p.once }
    | "GCC" :: "error" :: _ => none
    | "GCC" :: "poison" :: names => some { p with forbidden := names ++ p.forbidden }
    | _ => some p
  | "line" => do
    let args ← p.definitions.replace? args
    if isLineMarker args then return p else none
  | "ident" | "sccs" => if (args.head?.any fun t => t.kind = .text) then some p else none
  | "warning" | "assert" | "unassert" => some p
  | _ => none

/-- The state behind the lines of a file, with the groups that are open and with the
lines whose tokens are not put yet, the last one first. -/
def insertLines? (s : Sources) (insert : SourceFile → Progress → Option Progress)
    (file : SourceFile) :
    List OpenGroup → List (List Token) → Progress → List (List Token) → Option Progress
  | groups, waiting, p, [] => if groups.isEmpty then flush? p waiting else none
  | groups, waiting, p, line :: lines =>
    let isActive := groups.head?.all (·.active)
    match line with
    | [] => s.insertLines? insert file groups waiting p lines
    | t :: rest =>
      if t.kind = .sign ∧ t.text = "#" then
        match rest with
        | [] => s.insertLines? insert file groups waiting p lines
        | name :: args =>
          match groupDirective? s file p.definitions name.text args groups with
          | some (some groups) => s.insertLines? insert file groups waiting p lines
          | some none => none
          | none =>
            if !isActive then s.insertLines? insert file groups waiting p lines
            else if name.kind = .number then
              if isLineMarker rest then s.insertLines? insert file groups waiting p lines else none
            else
              match (flush? p waiting).bind (directive? s insert file name.text args) with
              | some p => s.insertLines? insert file groups [] p lines
              | none => none
      else s.insertLines? insert file groups (if isActive then line :: waiting else waiting) p lines

/-- The state behind a file. The number bounds how deep files include each other. -/
def insert? (s : Sources) : Nat → SourceFile → Progress → Option Progress
  | 0, _, _ => none
  | depth + 1, file, p => do
    insertLines? s (s.insert? depth) file [] [] p (← tokenLines? file.content)

/-- How deep files may include each other. -/
def maxDepth : Nat := 200

/-- The tokens without the directives that stand among them, each a text in
brackets. -/
def dropPragmas? : List Token → Option (List Token)
  | [] => some []
  | t :: rest =>
    if t.text = "_Pragma" then
      match rest with
      | opening :: text :: closing :: rest =>
        if opening.text = "(" ∧ text.kind = .text ∧ closing.text = ")" then dropPragmas? rest
        else none
      | _ => none
    else (dropPragmas? rest).map (t :: ·)

/-- The tokens of a source with all that it includes; `none` when a directive fails, a
file is missing or a defined name is misused. -/
def tokens? (s : Sources) (source : Path) : Option (List Token) := do
  let defined ← s.insert? maxDepth { content := Library.predefined.text.toList } {}
  let bytes ← s.read source
  let file : SourceFile := { content := decode bytes, dir := source.parent?.getD ⟨""⟩ }
  let p ← s.insert? maxDepth file { definitions := defined.definitions }
  dropPragmas? p.tokens.reverse

end Sources

end ProxyForge.Compiler
