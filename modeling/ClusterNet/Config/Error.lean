/-!
# Errors of the configuration

## Main definitions

* `Config.ConfigError` — what can be wrong with the configuration or with finding it.
-/

namespace ClusterNet

namespace Config

/-- What can be wrong with the configuration. -/
inductive ConfigError where
  /-- There is no directory for configurations. -/
  | directoryNotFound
  /-- There is no configuration file in any of the places. -/
  | fileNotFound
  /-- A region is not configured. -/
  | unknownRegion (name : String)
  /-- The configuration makes no sense. -/
  | invalid (reason : String)
  /-- The configuration could not be decoded. -/
  | yaml
  /-- The configuration could not be read. -/
  | io
deriving DecidableEq, Repr, Inhabited

/-- The wording of an error. -/
def ConfigError.message : ConfigError → String
  | directoryNotFound => "Config directory not found"
  | fileNotFound =>
    "Config file not found. Looked in:\n- TIERFLOW_CONFIG_PATH\n- ./tierflow.yaml\n" ++
      "- <config dir>/tierflow/config.yaml"
  | unknownRegion name => s!"Region not configured: {name}"
  | invalid reason => s!"Invalid configuration: {reason}"
  | yaml => "YAML error"
  | io => "IO error"

end Config

end ClusterNet
