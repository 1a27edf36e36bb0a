import ProxyForge.CText.Emission
import ProxyForge.Text.Split

/-!
# ProxyForge.CText.Reading — the functions that a C text names

Generated C has one function head on a line, ended by `;` in a declaration and
by a brace in a definition. `CText.declaredHeads` and `CText.definedHeads` read
these lines back from the text alone.
-/

namespace ProxyForge.CText

/-- The head of a function: its result type, its symbol and its parameter list. -/
structure FunctionHead where
  result : String
  symbol : String
  params : String
deriving DecidableEq, Repr

/-- The characters of an identifier. -/
def isIdentChar (c : Char) : Bool := c.isAlphanum || c == '_'

/-- Reads `result symbol(params)` followed by `close` from a line. -/
def FunctionHead.ofLine? (close : List Char) (line : List Char) : Option FunctionHead :=
  let result := line.takeWhile isIdentChar
  match line.dropWhile isIdentChar with
  | ' ' :: rest =>
    let symbol := rest.takeWhile isIdentChar
    match rest.dropWhile isIdentChar with
    | '(' :: rest =>
      let params := rest.takeWhile (· ≠ ')')
      if result ≠ [] ∧ symbol ≠ [] ∧ rest.dropWhile (· ≠ ')') = ')' :: close then
        some ⟨String.ofList result, String.ofList symbol, String.ofList params⟩
      else none
    | _ => none
  | _ => none

/-- The heads on the lines that end with `close`, in order. -/
def headsEndingWith (close : String) (text : String) : List FunctionHead :=
  (Text.split '\n' text.toList).filterMap (FunctionHead.ofLine? close.toList)

/-- The heads of the functions that a text declares. -/
def declaredHeads (text : String) : List FunctionHead := headsEndingWith ";" text

/-- The heads of the functions that a text defines. -/
def definedHeads (text : String) : List FunctionHead := headsEndingWith " \x7b" text

end ProxyForge.CText
