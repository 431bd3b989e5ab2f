-- Managing the versions of an App Engine service through the gcloud command line.
import AppVersions.Calendar
import AppVersions.Capture
import AppVersions.Child
import AppVersions.CommandLine.Invocation
import AppVersions.CommandLine.Level
import AppVersions.CommandLine.Opt
import AppVersions.CommandLine.Token
import AppVersions.Config
import AppVersions.Error
import AppVersions.Handler
import AppVersions.Host
import AppVersions.Instant
import AppVersions.Instant.Reading
import AppVersions.IoError
import AppVersions.Json.Basic
import AppVersions.Json.Layout
import AppVersions.Json.Number
import AppVersions.Json.Quoted
import AppVersions.Json.Skip
import AppVersions.Json.Value
import AppVersions.Lines
import AppVersions.Log
import AppVersions.Log.Filter
import AppVersions.Log.Pattern
import AppVersions.Machine.Bytes
import AppVersions.Machine.Execution
import AppVersions.Machine.FileTree
import AppVersions.Machine.Launch
import AppVersions.Machine.Script.Arithmetic
import AppVersions.Machine.Script.Asking
import AppVersions.Machine.Script.Command
import AppVersions.Machine.Script.Complaint
import AppVersions.Machine.Script.Control
import AppVersions.Machine.Script.Expansion
import AppVersions.Machine.Script.Fields
import AppVersions.Machine.Script.Grammar
import AppVersions.Machine.Script.Lookup
import AppVersions.Machine.Script.Matching
import AppVersions.Machine.Script.Places
import AppVersions.Machine.Script.Redirecting
import AppVersions.Machine.Script.Reports
import AppVersions.Machine.Script.Running
import AppVersions.Machine.Script.Settings
import AppVersions.Machine.Script.Shell
import AppVersions.Machine.Script.Signals
import AppVersions.Machine.Script.Source
import AppVersions.Machine.Script.Starting
import AppVersions.Machine.Script.Words
import AppVersions.Machine.Signal
import AppVersions.Machine.System
import AppVersions.Machine.Tool.Call
import AppVersions.Machine.Tool.Condition
import AppVersions.Machine.Tool.Editing
import AppVersions.Machine.Tool.Entries
import AppVersions.Machine.Tool.Filters
import AppVersions.Machine.Tool.Format
import AppVersions.Machine.Tool.Printing
import AppVersions.Machine.Tool.Quoting
import AppVersions.Machine.Tool.Regex
import AppVersions.Machine.Tool.Searching
import AppVersions.Machine.Tool.Starting
import AppVersions.Machine.Toolbox
import AppVersions.Main
import AppVersions.Mismatch
import AppVersions.Number.Binary64
import AppVersions.Number.Shortest
import AppVersions.Operation
import AppVersions.Options
import AppVersions.OutputStream
import AppVersions.Path
import AppVersions.Program
import AppVersions.Proofs.Captures
import AppVersions.Proofs.Children
import AppVersions.Proofs.CommandLine.Acceptance
import AppVersions.Proofs.CommandLine.Invocation
import AppVersions.Proofs.CommandLine.Level
import AppVersions.Proofs.CommandLine.Writing
import AppVersions.Proofs.Discovery
import AppVersions.Proofs.Flags
import AppVersions.Proofs.Instants
import AppVersions.Proofs.Json.Number
import AppVersions.Proofs.Json.Quoted
import AppVersions.Proofs.Json.Reading
import AppVersions.Proofs.Json.Record
import AppVersions.Proofs.Json.Spelling
import AppVersions.Proofs.Json.Tokens
import AppVersions.Proofs.Lines
import AppVersions.Proofs.Notations
import AppVersions.Proofs.Paths
import AppVersions.Proofs.Programs
import AppVersions.Proofs.Readers
import AppVersions.Proofs.Requests
import AppVersions.Proofs.Runs
import AppVersions.Proofs.Sessions
import AppVersions.Proofs.Toml.Names
import AppVersions.Proofs.Walking
import AppVersions.Record
import AppVersions.Request
import AppVersions.Runner
import AppVersions.Sdk
import AppVersions.Selection
import AppVersions.Session
import AppVersions.Text.Alphanumeric
import AppVersions.Text.Blank
import AppVersions.Text.Hexadecimal
import AppVersions.Text.Hidden
import AppVersions.Text.Quoted
import AppVersions.Text.Reader
import AppVersions.Text.Utf8
import AppVersions.Toml.Document
import AppVersions.Toml.Excerpt
import AppVersions.Toml.Node
import AppVersions.Toml.Number
import AppVersions.Toml.Record
import AppVersions.Toml.Table
import AppVersions.Toml.Text
import AppVersions.Toml.Value
import AppVersions.Traced
import AppVersions.Version
import AppVersions.Proofs.CommandLine.Words
import AppVersions.Proofs.Selections
import AppVersions.Proofs.Utf8
import AppVersions.Proofs.TextLines
import AppVersions.Proofs.CapturedTexts
import AppVersions.Proofs.Json.Lists
import AppVersions.Proofs.Json.Forms
import AppVersions.Proofs.Cuts
import AppVersions.Proofs.Layers
import AppVersions.Proofs.Steps
import AppVersions.Proofs.Versions
import AppVersions.Proofs.Validation
import AppVersions.Proofs.Toml.Quoted
import AppVersions.Proofs.Toml.Layout
import AppVersions.Proofs.Toml.Values
import AppVersions.Proofs.Toml.Documents
import AppVersions.Proofs.Configs
import AppVersions.Proofs.Logs
import AppVersions.Proofs.Environments
import AppVersions.Proofs.Wording
