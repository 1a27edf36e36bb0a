import ProxyForge.Log.Event
import ProxyForge.Text.Json
import ProxyForge.Text.Quoted

/-!
# ProxyForge.Log.Line — log entries as lines

An entry is one line: either a text with the fields behind the message, or a JSON
object.
-/

namespace ProxyForge

/-- The value of a field in a text line. -/
def FieldValue.text : FieldValue → String
  | quoted s => Text.quote s
  | bare s => s
  | number n => toString n

/-- The value of a field in a JSON line. -/
def FieldValue.json : FieldValue → JsonValue
  | quoted s | bare s => .string s
  | number n => .number n

namespace LogRecord

/-- The entry as a text line. -/
def textLine (r : LogRecord) : String :=
  r.fields.foldl (fun line (key, v) => line ++ " " ++ key ++ "=" ++ v.text)
    (r.level.name ++ " " ++ r.target ++ ": " ++ r.message)

/-- The entry as a JSON line. -/
def jsonLine (r : LogRecord) : String :=
  JsonValue.compact <| .object
    [ ("level", .string r.level.name),
      ("fields", .object (("message", .string r.message)
        :: r.fields.map fun (key, v) => (key, v.json))),
      ("target", .string r.target) ]

end LogRecord

end ProxyForge
