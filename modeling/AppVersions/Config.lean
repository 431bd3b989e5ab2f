-- Configuration files: options written in TOML, which lie under those of the command line.
import AppVersions.Host
import AppVersions.Options
import AppVersions.Toml.Record
import AppVersions.Traced

namespace AppVersions

/-- Why a configuration file was not taken: it could not be read, or the report on its text. -/
inductive ConfigError
  | unreadable (path : Path) (cause : IoError)
  | unfit (path : Path) (report : String)
  deriving DecidableEq

def ConfigError.message : ConfigError → String
  | .unreadable path cause =>
    "Failed to read config file at " ++ path.text ++ ": " ++ cause.message
  | .unfit path report => "Failed to parse config file at " ++ path.text ++ ": " ++ report

namespace Config

def loaded (p : Path) : Log.Entry where
  level := .debug
  target := "gaeops::config"
  message := "Loaded gcloud options from config file"
  fields := [("path", p.text)]

/-- The options that a text sets. -/
def parse (s : String) : Except Toml.Fault GcloudOptions := Toml.decode GcloudOptions.schema s

/-- The options of a configuration file. -/
def load (host : Host) (p : Path) : Run ConfigError GcloudOptions := do
  match host.readText p with
  | .error e => throw (.unreadable p e)
  | .ok contents =>
    match parse contents with
    | .error e => throw (.unfit p (e.message contents))
    | .ok options =>
      Traced.log (loaded p)
      return options

/-- The options of the configuration file, if there is one, under those of the command line. -/
def resolve (host : Host) (config : Option Path) (commandLine : GcloudOptions) :
    Run ConfigError GcloudOptions := do
  match config with
  | none => return GcloudOptions.unset.merge commandLine
  | some p => return (← load host p).merge commandLine

end Config

end AppVersions
