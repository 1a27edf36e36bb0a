import ProxyForge.CText.Emission
import ProxyForge.CommandLine.Options
import ProxyForge.Config.Basic
import ProxyForge.Registry.Validation
import ProxyForge.Text.Json

/-!
# ProxyForge.CommandLine.Report — the text that a command prints

Every command prints one text, made from the table of primitives and the
configuration. `Command.report` gives it, or the message of what is wrong.
-/

namespace ProxyForge

/-- A text, filled up with blanks on the right. -/
def padRight (width : Nat) (s : String) : String :=
  s ++ String.ofList (List.replicate (width - s.length) ' ')

namespace Primitive

/-- The line of an entry in the listing. -/
def listing (p : Primitive) : String :=
  padRight 24 p.name ++ " " ++ toString p.arity ++ "  " ++ p.signature ++ "\n"

/-- The entry in the JSON listing. -/
def json (p : Primitive) : JsonValue :=
  .object
    [ ("args", .array (p.args.map fun k => .string k.name)),
      ("arity", .number p.arity),
      ("method", .string p.method),
      ("name", .string p.name),
      ("returns", .string p.ret.name),
      ("symbol", .string p.symbol) ]

/-- The entry with its proxy. -/
def description? (p : Primitive) : Option String :=
  p.definition?.map fun text =>
    "name:      " ++ p.name ++ "\nsymbol:    " ++ p.symbol ++ "\nmethod:    " ++ p.method
      ++ "\nsignature: " ++ p.signature ++ "\n\n" ++ text

end Primitive

namespace Registry

/-- The listing of a table. -/
def listing (r : Registry) : String := r.foldl (fun text p => text ++ p.listing) ""

/-- The JSON listing of a table. -/
def jsonListing (r : Registry) : String :=
  (JsonValue.array (r.map Primitive.json)).pretty

/-- What a successful check prints. -/
def checkReport (r : Registry) (library : String) : String :=
  "ok: " ++ toString r.length ++ " proxies, " ++ toString r.exportedSymbols.length
    ++ " exported symbols, links " ++ library ++ "\n"

end Registry

/-- Why a command has nothing to print. -/
inductive ReportError where
  | unknownPrimitive (e : Registry.UnknownPrimitive)
  | invalidRegistry (e : RegistryError)
  /-- Some entry of the table has no definition. -/
  | noDefinition
deriving DecidableEq, Repr

/-- The text of the error. -/
def ReportError.message : ReportError → String
  | unknownPrimitive e => e.message
  | invalidRegistry e => e.message
  | noDefinition => "an entry has no definition"

/-- The text that a command prints for a table. -/
def Command.report (r : Registry) (c : Config) (json : Bool) :
    Command → Except ReportError String
  | list => .ok (if json then r.jsonListing else r.listing)
  | emitSource => r.source?.elim (.error .noDefinition) .ok
  | emitHeader => .ok (r.header c.output.headerName)
  | describe name =>
    match r.lookup name with
    | .error e => .error (.unknownPrimitive e)
    | .ok p => p.description?.elim (.error .noDefinition) .ok
  | check =>
    match r.validate with
    | .error e => .error (.invalidRegistry e)
    | .ok () => .ok (r.checkReport c.runtime.library)

end ProxyForge
