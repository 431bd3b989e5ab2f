-- Whole command lines: the options of both levels, the operation, and how an invocation is shown.
import AppVersions.CommandLine.Level
import AppVersions.Operation
import AppVersions.Options
import AppVersions.Text.Quoted

namespace AppVersions.CommandLine

/-- What a command line asks for. -/
structure Invocation where
  operation : Operation
  options : GcloudOptions := {}
  sdkHome : Option Path := none
  config : Option Path := none
  json : Bool := false
  verbosity : Nat := 0
  deriving DecidableEq

/-! ## Levels put together -/

/-- What was given before the subcommand, the subcommand, and what was given after it. -/
structure Parts where
  before : Level
  subcommand : Subcommand
  after : Level

/-- The verbosity stops counting here. -/
def maxVerbosity : Nat := 255

namespace Parts

/-- The values of an option: those after the subcommand if there are any, else those before it. -/
def values (p : Parts) (o : Opt) : List String :=
  if (p.after.values o).isEmpty then p.before.values o else p.after.values o

def text? (p : Parts) (o : Opt) : Option String := (p.values o).head?

def path? (p : Parts) (o : Opt) : Option Path := (p.text? o).map Path.mk

def options (p : Parts) : GcloudOptions where
  metricsEnvironment := p.text? .metricsEnvironment
  metricsEnvironmentVersion := p.text? .metricsEnvironmentVersion
  credentialFile := p.path? .credentialFile
  flagsFiles := (p.values .flagsFile).map Path.mk
  outputFormat := p.text? .format
  showStructuredLogs := p.text? .showStructuredLogs
  verbosity := p.text? .verbosity

def selection (p : Parts) : Selection where
  versions := p.after.versions
  service := p.text? .service
  project := p.text? .project

def listing (p : Parts) : Listing where
  service := p.text? .service
  project := p.text? .project
  hideNoTraffic := (p.text? .hideNoTraffic).map (· == "true")

def operation (p : Parts) : Operation :=
  match p.subcommand with
  | .start => .start p.selection
  | .stop => .stop p.selection
  | .delete => .delete p.selection
  | .list => .list p.listing

def invocation (p : Parts) : Invocation where
  operation := p.operation
  options := p.options
  sdkHome := p.path? .sdkHome
  config := p.path? .config
  json := !(p.values .json).isEmpty
  verbosity := min maxVerbosity (p.values .verbose).length

end Parts

/-! ## Reading -/

/-- The answer to a request for help on what the arguments name: a subcommand, which has none of its
own, or nothing. -/
def helpOn : List String → Refusal
  | [] => .help
  | [s] => if isSubcommandName s then .help else .invalidSubcommand
  | _ => .invalidSubcommand

/-- The level after a subcommand; a selection has to have versions. -/
def readAfter (c : Subcommand) (args : List String) : Except Refusal Level := do
  let l ← Level.read c.scope args
  if c.scope = .selection ∧ l.versions = [] then throw .missingVersions
  return l

/-- What the arguments come to after a level that is not finished. What follows the subcommand is
checked before the option that still waits in front of it. -/
def readFrom : Level → List String → Except Refusal Parts
  | l, [] => do
    let l ← l.settle
    throw (if l.given.isEmpty then .nothingGiven else .missingSubcommand)
  | l, s :: args =>
    if l.trailing || l.awaitsValue then do
      readFrom (← l.next .root s) args
    else if s = helpName then throw (helpOn args)
    else
      match Subcommand.ofName? s with
      | some c => do
        let after ← readAfter c args
        let before ← l.settle
        return ⟨before, c, after⟩
      | none => do
        readFrom (← l.next .root s) args

/-- The invocation that arguments, without the name of the program, ask for. -/
def parse (args : List String) : Except Refusal Invocation :=
  (readFrom {} args).map Parts.invocation

/-! ## The text in the log -/

open Text (quoted quotedName quotedList bracketed shownOption)

/-- Names and texts of a record, between braces. -/
def shownRecord (name : String) (fields : List (String × String)) : String :=
  name ++ " \x7b " ++ ", ".intercalate (fields.map fun (k, v) => k ++ ": " ++ v) ++ " \x7d"

def shownBool (b : Bool) : String := if b then "true" else "false"

def shownPath (p : Path) : String := quotedName p.text

def shownSelection (s : Selection) : String :=
  shownRecord "SelectionArgs" [("versions", quotedList s.versions),
    ("service", shownOption quoted s.service), ("project", shownOption quoted s.project)]

def shownListing (l : Listing) : String :=
  shownRecord "ListArgs" [("service", shownOption quoted l.service),
    ("project", shownOption quoted l.project),
    ("hide_no_traffic", shownOption shownBool l.hideNoTraffic)]

def shownOperation : Operation → String
  | .start s => "Start(" ++ shownSelection s ++ ")"
  | .stop s => "Stop(" ++ shownSelection s ++ ")"
  | .delete s => "Delete(" ++ shownSelection s ++ ")"
  | .list l => "List(" ++ shownListing l ++ ")"

def shownOptions (o : GcloudOptions) : String :=
  shownRecord "GcloudArgs" [("format", shownOption quoted o.outputFormat),
    ("verbosity", shownOption quoted o.verbosity),
    ("credential_file", shownOption shownPath o.credentialFile),
    ("flags_files", bracketed (o.flagsFiles.map shownPath)),
    ("metrics_environment", shownOption quoted o.metricsEnvironment),
    ("metrics_environment_version", shownOption quoted o.metricsEnvironmentVersion),
    ("show_structured_logs", shownOption quoted o.showStructuredLogs)]

def Invocation.shown (i : Invocation) : String :=
  shownRecord "Cli" [("command", shownOperation i.operation),
    ("sdk_home", shownOption shownPath i.sdkHome), ("config", shownOption shownPath i.config),
    ("gcloud", shownOptions i.options), ("json", shownBool i.json),
    ("verbose", toString i.verbosity)]

end AppVersions.CommandLine
