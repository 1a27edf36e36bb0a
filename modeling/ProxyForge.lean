import ProxyForge.Artifacts
import ProxyForge.Build
import ProxyForge.CText.Emission
import ProxyForge.CText.Reading
import ProxyForge.Call
import ProxyForge.CommandLine.Options
import ProxyForge.CommandLine.Report
import ProxyForge.CommandLine.Run
import ProxyForge.Compiler.Analysis
import ProxyForge.Compiler.Basic
import ProxyForge.Compiler.CType
import ProxyForge.Compiler.Condition
import ProxyForge.Compiler.Constant
import ProxyForge.Compiler.Declaration
import ProxyForge.Compiler.Declarator
import ProxyForge.Compiler.Definition
import ProxyForge.Compiler.Expression
import ProxyForge.Compiler.Inclusion
import ProxyForge.Compiler.Library
import ProxyForge.Compiler.Operand
import ProxyForge.Compiler.Reader
import ProxyForge.Compiler.Records
import ProxyForge.Compiler.Source
import ProxyForge.Compiler.Specifiers
import ProxyForge.Compiler.Statement
import ProxyForge.Compiler.Token
import ProxyForge.Config.Basic
import ProxyForge.Config.Discovery
import ProxyForge.Files.Access
import ProxyForge.Files.Tree
import ProxyForge.Heap.Action
import ProxyForge.Heap.Basic
import ProxyForge.Kind
import ProxyForge.Lists.Builder
import ProxyForge.Lists.Traversal
import ProxyForge.Log.Directive
import ProxyForge.Log.Event
import ProxyForge.Log.Filter
import ProxyForge.Log.Line
import ProxyForge.Log.Logger
import ProxyForge.Log.Settings
import ProxyForge.Main
import ProxyForge.Path
import ProxyForge.Program
import ProxyForge.Proxy
import ProxyForge.Registry.Basic
import ProxyForge.Registry.Validation
import ProxyForge.Session
import ProxyForge.Text.Alphanumeric
import ProxyForge.Text.Digits
import ProxyForge.Text.Hidden
import ProxyForge.Text.Json
import ProxyForge.Text.Quoted
import ProxyForge.Text.Split
import ProxyForge.Threads
import ProxyForge.Toml.Blank
import ProxyForge.Toml.DateTime
import ProxyForge.Toml.Document
import ProxyForge.Toml.Key
import ProxyForge.Toml.Node
import ProxyForge.Toml.Number
import ProxyForge.Toml.Quoted
import ProxyForge.Toml.Value
import ProxyForge.Word
import ProxyForge.Proofs.Handles
import ProxyForge.Proofs.Heap.Access
import ProxyForge.Proofs.Heap.Change
import ProxyForge.Proofs.Heap.Lasting
import ProxyForge.Proofs.Heap.Growth
import ProxyForge.Proofs.Heap.Known
import ProxyForge.Proofs.Heap.Classes
import ProxyForge.Proofs.Lists.Appending
import ProxyForge.Proofs.Lists.Endings
import ProxyForge.Proofs.Lists.Site
import ProxyForge.Proofs.Programs
import ProxyForge.Proofs.Lists.Construction
import ProxyForge.Proofs.Lists.Protocol
import ProxyForge.Proofs.Lists.Workshop
import ProxyForge.Proofs.Heap.Symbols
import ProxyForge.Proofs.Interning
import ProxyForge.Proofs.Clients.Mirror
import ProxyForge.Proofs.Clients.Lockstep
import ProxyForge.Proofs.Clients.Twins
import ProxyForge.Proofs.Clients.Steps
import ProxyForge.Proofs.Clients.Isolation
import ProxyForge.Proofs.Surface
import ProxyForge.Proofs.Registry.Validation
import ProxyForge.Proofs.Text.Lines
import ProxyForge.Proofs.Text.Occurrences
import ProxyForge.Proofs.CText.Lines
import ProxyForge.Proofs.CText.Heads
import ProxyForge.Proofs.CText.Guards
import ProxyForge.Proofs.CText.Signatures
import ProxyForge.Proofs.CText.Decoding
import ProxyForge.Proofs.Lifetime
import ProxyForge.Proofs.Files.Writing
import ProxyForge.Proofs.CommandLine.Arguments
import ProxyForge.Proofs.CommandLine.Outcome
import ProxyForge.Proofs.CommandLine.Grammar
import ProxyForge.Proofs.Registry.Faults
import ProxyForge.Proofs.Artifacts
import ProxyForge.Proofs.Heap.Objects
import ProxyForge.Proofs.Lists.Walk
import ProxyForge.Proofs.Files.Reading
import ProxyForge.Proofs.Paths
import ProxyForge.Proofs.Config.Discovery
import ProxyForge.Proofs.Config.Settings
import ProxyForge.Proofs.Config.Documents
import ProxyForge.Proofs.Config.Overrides
import ProxyForge.Proofs.Log.Allocations
import ProxyForge.Proofs.Log.Course
import ProxyForge.Proofs.Log.Chronicle
