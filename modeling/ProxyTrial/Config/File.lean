import ProxyTrial.Config
import ProxyTrial.Files.TextFile
import ProxyTrial.Schema.Report
import ProxyTrial.Yaml.Data
/-!
# Configurations in files

A configuration is a YAML mapping.  A file without content stands for the
configuration that has every default.

Another reader of YAML can be put in place of `Yaml.read`: what is done about
its values and its faults depends on nothing else.
-/

namespace ProxyTrial

/-- Why a file gives no configuration. -/
inductive ConfigProblem where
  | unreadable (error : ReadError)
  | yaml (fault : Yaml.Fault)
  | notMapping
  | refused (refusal : Schema.Refusal)

/-- A file that gives no configuration. -/
structure ConfigError where
  path : Path
  problem : ConfigProblem

namespace ConfigError

/-- The wording of an error. -/
def message (e : ConfigError) : String :=
  match e.problem with
  | .unreadable error =>
    match error.refusal? with
    | some refusal =>
      if refusal.fault = .notFound then "Runner config file not found: " ++ e.path.shown
      else "Cannot read runner config '" ++ e.path.shown ++ "': " ++ refusal.message
    | none => error.message
  | .yaml (.flawed _) => "Invalid YAML in runner config '" ++ e.path.shown ++ "'"
  | .yaml fault => fault.message
  | .notMapping => e.path.shown ++ ": runner config must be a YAML mapping"
  | .refused (.invalid cs) =>
    "Invalid runner config '" ++ e.path.shown ++ "': " ++ Schema.report "RunnerConfig" cs
  | .refused (.failed f) => f.message

/-- Whether an error is a finding about the file, and not a breakdown of the
reading. -/
def isFinding (e : ConfigError) : Bool :=
  match e.problem with
  | .unreadable error => error.refusal?.isSome
  | .yaml (.flawed _) | .notMapping | .refused (.invalid _) => true
  | .yaml _ | .refused (.failed _) => false

end ConfigError

/-- The configuration that a text holds. -/
def RunConfig.ofText (s : String) (load : String → Yaml.Result Value := Yaml.read) :
    Except ConfigProblem RunConfig := do
  match ← (load s).mapError .yaml with
  | .null => (Schema.runConfig (.map [])).mapError .refused
  | .map es => (Schema.runConfig (.map es)).mapError .refused
  | _ => throw .notMapping

/-- The configuration in a file. -/
def FileSystem.readConfig (fs : FileSystem) (p : Path)
    (load : String → Yaml.Result Value := Yaml.read) : Except ConfigError RunConfig :=
  match fs.readText p with
  | .error e => .error ⟨p, .unreadable e⟩
  | .ok s => (RunConfig.ofText s load).mapError (⟨p, ·⟩)

end ProxyTrial
