-- The options of the command line: what they are called, what they take, and where they may stand.

namespace AppVersions.CommandLine

/-! ## Options -/

inductive Opt
  | sdkHome
  | config
  | format
  | verbosity
  | credentialFile
  | flagsFile
  | metricsEnvironment
  | metricsEnvironmentVersion
  | showStructuredLogs
  | json
  | verbose
  | help
  | service
  | project
  | hideNoTraffic
  deriving DecidableEq, Repr

/-- What an option takes. -/
inductive Takes
  | nothing
  | text
  | path
  | truth
  deriving DecidableEq, Repr

namespace Opt

def name : Opt → String
  | .sdkHome => "sdk-home"
  | .config => "config"
  | .format => "format"
  | .verbosity => "verbosity"
  | .credentialFile => "credential-file"
  | .flagsFile => "flags-file"
  | .metricsEnvironment => "metrics-environment"
  | .metricsEnvironmentVersion => "metrics-environment-version"
  | .showStructuredLogs => "show-structured-logs"
  | .json => "json"
  | .verbose => "verbose"
  | .help => "help"
  | .service => "service"
  | .project => "project"
  | .hideNoTraffic => "hide-no-traffic"

/-- The letter that stands for an option after a single dash. -/
def letter? : Opt → Option Char
  | .verbose => some 'v'
  | .help => some 'h'
  | _ => none

def takes : Opt → Takes
  | .sdkHome | .config | .credentialFile | .flagsFile => .path
  | .json | .verbose | .help => .nothing
  | .hideNoTraffic => .truth
  | _ => .text

/-- Options that may be given again and again. -/
def repeats : Opt → Bool
  | .flagsFile | .verbose => true
  | _ => false

/-- Paths are not empty, and truth values are spelled out. -/
def accepts (o : Opt) (value : String) : Bool :=
  match o.takes with
  | .nothing | .text => true
  | .path => value != ""
  | .truth => value == "true" || value == "false"

/-- Options that may stand on either side of the subcommand. -/
def globals : List Opt :=
  [.sdkHome, .config, .format, .verbosity, .credentialFile, .flagsFile, .metricsEnvironment,
    .metricsEnvironmentVersion, .showStructuredLogs, .json, .verbose, .help]

end Opt

/-! ## Scopes -/

/-- Where a token stands: before the subcommand, or after one that takes versions or the one that
lists them. -/
inductive Scope
  | root
  | selection
  | listing
  deriving DecidableEq, Repr

namespace Scope

/-- The options that are known in a scope. -/
def options : Scope → List Opt
  | .root => Opt.globals
  | .selection => Opt.globals ++ [.service, .project]
  | .listing => Opt.globals ++ [.service, .project, .hideNoTraffic]

def named? (s : Scope) (name : String) : Option Opt := s.options.find? (·.name == name)

def lettered? (s : Scope) (c : Char) : Option Opt := s.options.find? (·.letter? == some c)

end Scope

/-! ## Subcommands -/

inductive Subcommand
  | start
  | stop
  | delete
  | list
  deriving DecidableEq, Repr

namespace Subcommand

def all : List Subcommand := [start, stop, delete, list]

def name : Subcommand → String
  | .start => "start"
  | .stop => "stop"
  | .delete => "delete"
  | .list => "list"

def ofName? (s : String) : Option Subcommand := all.find? (·.name == s)

def scope : Subcommand → Scope
  | .list => .listing
  | _ => .selection

end Subcommand

/-- The subcommand that explains the others. -/
def helpName : String := "help"

def isSubcommandName (s : String) : Bool := s == helpName || (Subcommand.ofName? s).isSome

end AppVersions.CommandLine
