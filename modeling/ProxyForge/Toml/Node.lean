import ProxyForge.Toml.Value

/-!
# ProxyForge.Toml.Node — a document under construction

While a document is read, a table remembers how it came to be, for that decides
what may still be added to it:

* a table with a header of its own cannot get a second header, nor be extended by
  dotted keys;
* a table that headers of its subtables implied may still get its own header, but
  no dotted keys;
* a table that dotted keys made may get more dotted keys, but no header.

An array of tables is extended by headers, and further headers and keys go to
its last table. Everything else is closed once it is written.
-/

namespace ProxyForge.Toml

/-- How a table came to be. -/
inductive Origin where
  | header
  | implied
  | dotted
deriving DecidableEq, Repr

/-- A part of a document: a closed value, a table, or an array of tables with the
last table first. -/
inductive Node where
  | leaf (v : Value)
  | table (origin : Origin) (entries : List (String × Node))
  | tables (items : List (List (String × Node)))

/-- The entries of a table under construction. -/
abbrev Entries := List (String × Node)

namespace Entries

/-- Puts a node at a key, in the place of the old one if there is one. -/
def put (key : String) (node : Node) : Entries → Entries
  | [] => [(key, node)]
  | (k, n) :: rest => if k = key then (k, node) :: rest else (k, n) :: put key node rest

/-- Changes the table at the end of a path. Tables on the way are created where
nothing is, by dotted keys or implied by a header. -/
def updateAt (byDots : Bool) (change : Origin → Entries → Option Entries) :
    List String → Origin → Entries → Option Entries
  | [], origin, entries => change origin entries
  | key :: path, _, entries =>
    match entries.lookup key with
    | none => do
      let origin := if byDots then .dotted else .implied
      return put key (.table origin (← updateAt byDots change path origin [])) entries
    | some (.leaf _) => none
    | some (.table origin child) =>
      if byDots ∧ origin = .header then none
      else do return put key (.table origin (← updateAt byDots change path origin child)) entries
    | some (.tables []) => none
    | some (.tables (last :: older)) => do
      return put key (.tables ((← updateAt byDots change path .header last) :: older)) entries

/-- Adds a value at a dotted key. The table that gets it must have been made by
dotted keys exactly when the key has a dot. -/
def insert (entries : Entries) (path : List String) (key : String) (v : Value)
    (origin : Origin := .header) : Option Entries :=
  let add (origin : Origin) (entries : Entries) : Option Entries :=
    if (origin == .dotted) == path.isEmpty then none
    else if (entries.lookup key).isSome then none
    else some (put key (.leaf v) entries)
  updateAt true add path origin entries

/-- Opens the table of a header. -/
def openTable (entries : Entries) (path : List String) (key : String) : Option Entries :=
  let add (_ : Origin) (entries : Entries) : Option Entries :=
    match entries.lookup key with
    | none => some (put key (.table .header []) entries)
    | some (.table .implied child) => some (put key (.table .header child) entries)
    | some _ => none
  updateAt false add path .header entries

/-- Opens one more table of an array of tables. -/
def openArrayTable (entries : Entries) (path : List String) (key : String) : Option Entries :=
  let add (_ : Origin) (entries : Entries) : Option Entries :=
    match entries.lookup key with
    | none => some (put key (.tables [[]]) entries)
    | some (.tables items) => some (put key (.tables ([] :: items)) entries)
    | some _ => none
  updateAt false add path .header entries

end Entries

mutual

/-- The value that a finished part of a document stands for. -/
def Node.toValue : Node → Value
  | .leaf v => v
  | .table _ entries => .table (Entries.toTable entries)
  | .tables items => .array (Entries.toTables items).reverse

/-- The table that finished entries stand for. -/
def Entries.toTable : List (String × Node) → Table
  | [] => []
  | (key, node) :: rest => (key, node.toValue) :: Entries.toTable rest

/-- The tables that finished items stand for. -/
def Entries.toTables : List (List (String × Node)) → List Value
  | [] => []
  | entries :: rest => .table (Entries.toTable entries) :: Entries.toTables rest

end

end ProxyForge.Toml
