import ProxyForge.Path
import ProxyForge.Text.Quoted

/-!
# ProxyForge.CommandLine.Options — arguments of the command line

The arguments are read from left to right. Each option and each command is a
token, and some take the token behind it whatever that looks like. Of several
options of one kind, and of several commands, the last one counts.
`Options.parse` gives the options or the first thing that is wrong with them.
-/

namespace ProxyForge

/-- What the program is asked to do. -/
inductive Command where
  /-- Print the table of primitives. -/
  | list
  /-- Print the C source. -/
  | emitSource
  /-- Print the header. -/
  | emitHeader
  /-- Print one primitive with its proxy. -/
  | describe (name : String)
  /-- Check the table and the configuration. -/
  | check
deriving DecidableEq, Repr

/-- The command as log entries show it. -/
def Command.text : Command → String
  | list => "List"
  | emitSource => "EmitC"
  | emitHeader => "EmitHeader"
  | describe name => "Show(" ++ Text.quote name ++ ")"
  | check => "Check"

/-- What the arguments ask for. -/
structure Options where
  command : Command
  config : Option Path := none
  out : Option Path := none
  json : Bool := false
deriving DecidableEq, Repr

/-- Why the arguments are refused. -/
inductive UsageError where
  /-- Help was asked for. -/
  | help
  /-- A token is neither option nor command. -/
  | unknownArgument (token : String)
  /-- The file behind `--config` is missing. -/
  | missingConfigFile
  /-- The file behind `--out` is missing. -/
  | missingOutFile
  /-- The name behind `show` is missing. -/
  | missingName
  /-- There is no command. -/
  | noCommand
deriving DecidableEq, Repr

/-- How to use the program. -/
def usage (program : String) : String :=
  "guile-shim - addressable proxies for Guile's macro primitives\n\n"
    ++ "USAGE:\n    " ++ program ++ " [OPTIONS] <COMMAND>\n\n"
    ++ "COMMANDS:\n"
    ++ "    list            Print the primitive registry\n"
    ++ "    emit-c          Print the C proxy translation unit\n"
    ++ "    emit-header     Print the proxy header\n"
    ++ "    show NAME       Print one primitive and its C proxy\n"
    ++ "    check           Validate the registry and configuration\n\n"
    ++ "OPTIONS:\n"
    ++ "    -h, --help      Print help information\n"
    ++ "    --config FILE   Use FILE instead of discovering guile-shim.toml\n"
    ++ "    -o, --out FILE  Write output to FILE instead of stdout\n"
    ++ "    --json          Print the registry as JSON (list)"

/-- The text of the error. -/
def UsageError.message (program : String) : UsageError → String
  | help | noCommand => usage program
  | unknownArgument token => "Unknown argument: " ++ token ++ "\n\n" ++ usage program
  | missingConfigFile => "--config needs a file"
  | missingOutFile => "--out needs a file"
  | missingName => "show needs a primitive name"

namespace Options

/-- The options read so far. -/
structure Draft where
  command : Option Command := none
  config : Option Path := none
  out : Option Path := none
  json : Bool := false
deriving DecidableEq, Repr

/-- One option or command with what it takes. -/
inductive Group where
  | json
  | config (file : String)
  | out (file : String)
  | command (c : Command)
deriving DecidableEq, Repr

/-- The options with one group more. -/
def Draft.add (d : Draft) : Group → Draft
  | .json => { d with json := true }
  | .config file => { d with config := some ⟨file⟩ }
  | .out file => { d with out := some ⟨file⟩ }
  | .command c => { d with command := some c }

/-- What a token at the head of a group starts. -/
inductive Head where
  | whole (g : Group)
  | needs (absent : UsageError) (make : String → Group)
  | refused (e : UsageError)

/-- What a token starts. -/
def Head.ofToken : String → Head
  | "--help" | "-h" => refused .help
  | "--json" => whole .json
  | "--config" => needs .missingConfigFile .config
  | "--out" | "-o" => needs .missingOutFile .out
  | "list" => whole (.command .list)
  | "emit-c" => whole (.command .emitSource)
  | "emit-header" => whole (.command .emitHeader)
  | "check" => whole (.command .check)
  | "show" => needs .missingName fun name => .command (.describe name)
  | token => refused (.unknownArgument token)

/-- The groups that tokens make up. -/
def groups : List String → Except UsageError (List Group)
  | [] => .ok []
  | token :: rest =>
    match Head.ofToken token, rest with
    | .whole g, rest => (groups rest).map (g :: ·)
    | .needs _ make, taken :: rest => (groups rest).map (make taken :: ·)
    | .needs absent _, [] => .error absent
    | .refused e, _ => .error e

/-- Reads the arguments behind the name of the program. -/
def parse (args : List String) : Except UsageError Options := do
  let draft : Draft := (← groups args).foldl Draft.add {}
  match draft.command with
  | none => throw .noCommand
  | some command =>
    return { command, config := draft.config, out := draft.out, json := draft.json }

end Options

end ProxyForge
