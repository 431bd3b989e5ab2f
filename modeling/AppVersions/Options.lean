-- The global options of gcloud, and layers of them: what the upper layer sets wins.
import AppVersions.Record

namespace AppVersions

/-- Options of every gcloud invocation; what is unset adds nothing to it. -/
structure GcloudOptions where
  metricsEnvironment : Option String := none
  metricsEnvironmentVersion : Option String := none
  credentialFile : Option Path := none
  flagsFiles : List Path := []
  outputFormat : Option String := none
  showStructuredLogs : Option String := none
  verbosity : Option String := none
  deriving DecidableEq, Repr

namespace GcloudOptions

/-- Nothing set. -/
def unset : GcloudOptions := {}

/-- `upper` laid over `lower`: a field that it sets wins, and its flags files replace all below if
there are any. -/
def merge (lower upper : GcloudOptions) : GcloudOptions where
  metricsEnvironment := upper.metricsEnvironment.or lower.metricsEnvironment
  metricsEnvironmentVersion := upper.metricsEnvironmentVersion.or lower.metricsEnvironmentVersion
  credentialFile := upper.credentialFile.or lower.credentialFile
  flagsFiles := if upper.flagsFiles.isEmpty then lower.flagsFiles else upper.flagsFiles
  outputFormat := upper.outputFormat.or lower.outputFormat
  showStructuredLogs := upper.showStructuredLogs.or lower.showStructuredLogs
  verbosity := upper.verbosity.or lower.verbosity

/-- The options that a stack of layers comes to, the lowest first. -/
def ofLayers (layers : List GcloudOptions) : GcloudOptions := layers.foldl merge unset

def schema : Schema GcloudOptions where
  name := "GcloudRunOptions"
  fields := [⟨"metrics_environment", .optional .text, true⟩,
    ⟨"metrics_environment_version", .optional .text, true⟩,
    ⟨"credential_file", .optional .path, true⟩, ⟨"flags_files", .many .path, true⟩,
    ⟨"output_format", .optional .text, true⟩, ⟨"show_structured_logs", .optional .text, true⟩,
    ⟨"verbosity", .optional .text, true⟩]
  toRecord o := (o.metricsEnvironment, o.metricsEnvironmentVersion, o.credentialFile, o.flagsFiles,
    o.outputFormat, o.showStructuredLogs, o.verbosity, ())
  ofRecord := fun (metricsEnvironment, metricsEnvironmentVersion, credentialFile, flagsFiles,
      outputFormat, showStructuredLogs, verbosity, ()) =>
    { metricsEnvironment, metricsEnvironmentVersion, credentialFile, flagsFiles, outputFormat,
      showStructuredLogs, verbosity }
  ofRecord_toRecord _ := rfl
  toRecord_ofRecord _ := rfl
  names_nodup := by decide

end GcloudOptions

end AppVersions
