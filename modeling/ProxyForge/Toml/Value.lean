/-!
# ProxyForge.Toml.Value — what a TOML document says

A document is a table: keys with values, each key once. Numbers with a fraction
and points in time are kept as they are written, since nothing here computes
with them.
-/

namespace ProxyForge.Toml

/-- A value of a document. -/
inductive Value where
  | string (s : String)
  | integer (n : Int)
  | float (literal : String)
  | boolean (b : Bool)
  | dateTime (literal : String)
  | array (items : List Value)
  | table (entries : List (String × Value))
deriving Repr, Inhabited

/-- The keys of a table and their values. -/
abbrev Table := List (String × Value)

/-- Reads something from the front of a text and gives the rest; `none` when the
front has another form. -/
abbrev Reader (α : Type) := List Char → Option (α × List Char)

end ProxyForge.Toml
