import ClusterNet.Config.Reading
import ClusterNet.FileTree

/-!
# Finding the configuration

## Main definitions

* `Config.Environment` — what is set around the program;
* `Config.directory` — where the configurations of this program are;
* `Config.findFile` — the configuration file;
* `Config.load` — the configuration in it.

The file that the environment names wins if it exists, then one in the working directory, then one
in the directory for configurations.
-/

namespace ClusterNet

namespace Config

/-- What is set around the program. -/
structure Environment where
  /-- The path of the configuration file. -/
  configPath : Option String := none
  /-- The directory for the configurations of all programs. It counts if it starts at the root. -/
  configHome : Option String := none
  /-- The user's own directory. -/
  home : Option String := none
  /-- The files. -/
  tree : FileTree := {}
deriving Repr, Inhabited

/-- The directory for the configurations of all programs. -/
def Environment.allConfigs? (e : Environment) : Option String :=
  match e.configHome.filter isAbsolutePath with
  | some path => some path
  | none => e.home.map (joinPath · ".config")

/-- The directory for the configurations of this program. -/
def directory (e : Environment) : Except ConfigError String :=
  match e.allConfigs? with
  | some path => .ok (joinPath path "tierflow")
  | none => .error .directoryNotFound

/-- The places where a configuration file may be, in the order in which they count. -/
def places (e : Environment) : List String :=
  e.configPath.toList ++ [joinPath e.tree.workingDirectory "tierflow.yaml"] ++
    (match directory e with
      | .ok path => [joinPath path "config.yaml"]
      | .error _ => [])

/-- The configuration file. -/
def findFile (e : Environment) : Except ConfigError String :=
  match (places e).find? fun path => (e.tree.entry path).isThere with
  | some path => .ok path
  | none => .error .fileNotFound

/-- The configuration in the configuration file. -/
def load (e : Environment) : Except ConfigError ControllerConfig :=
  (findFile e).bind fun path =>
    match (e.tree.entry path).content? with
    | some content => ControllerConfig.ofYaml content
    | none => .error .io

end Config

end ClusterNet
