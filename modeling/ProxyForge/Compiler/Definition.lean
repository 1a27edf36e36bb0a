import ProxyForge.Compiler.Token

/-!
# ProxyForge.Compiler.Definition — defined names and their replacement

A name is defined by a directive, alone or with parameters. `Definitions.replace?`
replaces the defined names of a list of tokens, and goes on with what came out of
it. A token remembers the names that it came from, so that no name is replaced
inside its own replacement.

Inside a definition an argument stands with its own names replaced, except beside
the sign that joins two tokens and behind the sign that quotes.
-/

namespace ProxyForge.Compiler

/-- A part of what a name stands for. -/
inductive Piece where
  | token (t : Token)
  | argument (name : String)
  /-- The argument as a text. -/
  | quoted (name : String)
  /-- The tokens on both sides become one. -/
  | joint
deriving DecidableEq, Repr

/-- What a name stands for. Without parameters it stands alone; with a rest, the last
parameter takes all arguments that are left. -/
structure Definition where
  params : Option (List String) := none
  takesRest : Bool := false
  pieces : List Piece := []
deriving DecidableEq, Repr

/-- The defined names, the latest first. -/
abbrev Definitions := List (String × Definition)

namespace Definition

/-! ## Reading definitions -/

/-- The pieces of what a name stands for. The sign that quotes must stand before a
parameter, where there are any. -/
def pieces? (params : Option (List String)) : List Token → Option (List Piece)
  | [] => some []
  | t :: rest =>
    if t.kind = .sign ∧ t.text = "##" then (pieces? params rest).map (.joint :: ·)
    else
      match params with
      | none => (pieces? params rest).map (.token t :: ·)
      | some names =>
        if t.kind = .sign ∧ t.text = "#" then
          match rest with
          | p :: rest =>
            if names.contains p.text then (pieces? params rest).map (.quoted p.text :: ·) else none
          | [] => none
        else if names.contains t.text then (pieces? params rest).map (.argument t.text :: ·)
        else (pieces? params rest).map (.token t :: ·)

/-- Reads parameters behind their opening bracket, and gives them with whether the
last one takes the rest and the tokens behind the closing bracket. -/
def params? (names : List String) : List Token → Option (List String × Bool × List Token)
  | [] => none
  | t :: rest =>
    if t.text = ")" then if names = [] then some ([], false, rest) else none
    else if t.text = "..." then
      match rest with
      | close :: rest =>
        if close.text = ")" then some (names ++ ["__VA_ARGS__"], true, rest) else none
      | [] => none
    else if t.kind ≠ .word ∨ names.contains t.text then none
    else
      match rest with
      | [] => none
      | u :: rest =>
        if u.text = ")" then some (names ++ [t.text], false, rest)
        else if u.text = "," then
          match rest with
          | v :: _ => if v.text = ")" then none else params? (names ++ [t.text]) rest
          | [] => none
        else if u.text = "..." then
          match rest with
          | close :: rest =>
            if close.text = ")" then some (names ++ [t.text], true, rest) else none
          | [] => none
        else none

/-- The definition with a given body. No joint stands at its ends. -/
def ofBody? (params : Option (List String)) (takesRest : Bool) (body : List Token) :
    Option Definition := do
  let pieces ← pieces? params body
  if pieces.head? = some .joint ∨ pieces.getLast? = some .joint then none
  else return { params, takesRest, pieces }

/-- Reads a name and what it stands for. A bracket right behind the name starts
parameters. -/
def ofTokens? : List Token → Option (String × Definition)
  | [] => none
  | name :: rest => do
    if name.kind ≠ .word ∨ name.text = "defined" then none
    else
      match rest with
      | paren :: inside =>
        if paren.text = "(" ∧ !paren.spaced then
          let (params, takesRest, body) ← params? [] inside
          return (name.text, ← ofBody? (some params) takesRest body)
        else return (name.text, ← ofBody? none false rest)
      | [] => return (name.text, {})

/-! ## Arguments -/

/-- The arguments behind an opening bracket, with the closing bracket and the tokens
behind it. -/
def arguments? : Nat → List Token → List (List Token) → List Token →
    Option (List (List Token) × Token × List Token)
  | _, _, _, [] => none
  | depth, current, done, t :: rest =>
    if t.text = "(" then arguments? (depth + 1) (t :: current) done rest
    else if t.text = ")" then
      match depth with
      | 0 => some ((current.reverse :: done).reverse, t, rest)
      | depth + 1 => arguments? depth (t :: current) done rest
    else if t.text = "," ∧ depth = 0 then arguments? 0 [] (current.reverse :: done) rest
    else arguments? depth (t :: current) done rest

/-- Several arguments as one, with commas between them. -/
def joinArguments : List (List Token) → List Token
  | [] => []
  | [a] => a
  | a :: rest => a ++ { kind := .sign, text := "," } :: joinArguments rest

/-- The arguments by the names of the parameters; `none` when their numbers differ. -/
def bind? (params : List String) (takesRest : Bool) (args : List (List Token)) :
    Option (List (String × List Token)) :=
  if takesRest then
    let fixed := params.length - 1
    if args.length < fixed then none
    else some (params.zip (args.take fixed ++ [joinArguments (args.drop fixed)]))
  else if params = [] then if args = [[]] then some [] else none
  else if args.length = params.length then some (params.zip args)
  else none

/-! ## Filling in -/

/-- The characters of a token inside a text: in quoted tokens, quotes and backslashes
are escaped. -/
def quotedChars (t : Token) : List Char :=
  if t.kind = .text ∨ t.kind = .character then
    t.text.toList.flatMap fun c => if c = '"' ∨ c = '\\' then ['\\', c] else [c]
  else t.text.toList

/-- Tokens as a text, with one space for the blanks between two. -/
def quote (ts : List Token) : Token :=
  let parts := ts.map fun t => if t.spaced then ' ' :: quotedChars t else quotedChars t
  let chars := parts.flatten
  let chars := if (ts.head?.any Token.spaced) then chars.drop 1 else chars
  { kind := .text, text := String.ofList ('"' :: chars ++ ['"']) }

/-- Two tokens as one; `none` when their characters are not those of one token. -/
def join? (a b : Token) : Option Token :=
  if a.kind = .blank then some b
  else if b.kind = .blank then some a
  else
    match tokenLines? (a.text ++ b.text).toList with
    | some [[t]] => if t.kind = .stray then none else some { t with spaced := a.spaced }
    | _ => none

/-- Puts tokens behind those that are there, which come backwards, and joins the two
that meet. A comma before the rest of the arguments is not joined, and goes when
there is no rest. -/
def attach? (isRest : Bool) (out group : List Token) : Option (List Token) :=
  match out, group with
  | last :: before, first :: more =>
    if isRest ∧ last.text = "," then
      if first.kind = .blank then some before else some (group.reverse ++ out)
    else (join? last first).map fun t => more.reverse ++ t :: before
  | _, _ => some (group.reverse ++ out)

/-- The pieces with their arguments, backwards behind `out`. Arguments come as they
were given and with their names replaced. -/
def fill? (rest : Option String) (raw replaced : List (String × List Token)) :
    Bool → List Token → List Piece → Option (List Token)
  | _, out, [] => some out
  | _, out, .joint :: pieces => fill? rest raw replaced true out pieces
  | joined, out, piece :: pieces =>
    let group :=
      match piece with
      | .token t => [t]
      | .quoted name => [quote ((raw.lookup name).getD [])]
      | .argument name =>
        if joined ∨ pieces.head? = some .joint then
          match raw.lookup name with
          | some (t :: ts) => t :: ts
          | _ => [{ kind := .blank, text := "" }]
        else (replaced.lookup name).getD []
      | .joint => []
    let isRest := match piece with
      | .argument name => rest == some name
      | _ => false
    if joined then
      match attach? isRest out group with
      | some out => fill? rest raw replaced false out pieces
      | none => none
    else fill? rest raw replaced false (group.reverse ++ out) pieces

end Definition

namespace Definitions

/-- Remembers that tokens came from the replacement of names. -/
def hide (names : List String) (ts : List Token) : List Token :=
  ts.map fun t => { t with hidden := (t.hidden ++ names).eraseDups }

/-- What a definition gives with some arguments. -/
def instance? (d : Definition) (raw replaced : List (String × List Token)) :
    Option (List Token) := do
  let rest := if d.takesRest then (d.params.getD []).getLast? else none
  let out ← Definition.fill? rest raw replaced false [] d.pieces
  return out.reverse.filter (·.kind ≠ .blank)

/-- Replaces the defined names of tokens, behind tokens that are done and come
backwards. Words that `answer` answers to are replaced by its answer. The number
bounds the steps. -/
def replaceFrom? (defs : Definitions) (answer : List Token → Option (Token × List Token)) :
    Nat → List Token → List Token → Option (List Token)
  | 0, _, _ => none
  | _, out, [] => some out.reverse
  | fuel + 1, out, t :: rest =>
    if t.kind ≠ .word then defs.replaceFrom? answer fuel (t :: out) rest
    else
      match answer (t :: rest) with
      | some (t, rest) => defs.replaceFrom? answer fuel (t :: out) rest
      | none =>
        match if t.hidden.contains t.text then none else defs.lookup t.text with
        | none => defs.replaceFrom? answer fuel (t :: out) rest
        | some d =>
          match d.params with
          | none => do
            let ts := hide (t.text :: t.hidden) (← instance? d [] [])
            defs.replaceFrom? answer fuel out (ts ++ rest)
          | some params =>
            match rest with
            | paren :: inside =>
              if paren.text = "(" then do
                let (args, close, rest) ← Definition.arguments? 0 [] [] inside
                let raw ← Definition.bind? params d.takesRest args
                let replaced ← raw.mapM fun (name, arg) => do
                  return (name, ← defs.replaceFrom? answer fuel [] arg)
                let names := t.text :: t.hidden.filter close.hidden.contains
                let ts := hide names (← instance? d raw replaced)
                defs.replaceFrom? answer fuel out (ts ++ rest)
              else defs.replaceFrom? answer fuel (t :: out) rest
            | [] => defs.replaceFrom? answer fuel (t :: out) rest

/-- The most names that are replaced in one piece of text. -/
def maxSteps : Nat := 1000000

/-- Replaces the defined names of tokens; `none` when a definition is used with
brackets that do not close, with another number of arguments or so that two tokens
do not join. -/
def replace? (defs : Definitions) (ts : List Token)
    (answer : List Token → Option (Token × List Token) := fun _ => none) : Option (List Token) :=
  defs.replaceFrom? answer maxSteps [] ts

end Definitions

end ProxyForge.Compiler
