import ActualState.Config.Yaml
import ActualState.Store.Disk

/-!
# Loading the settings

Settings from what stands at a path: no file means the defaults, and settings that are read from
a file have passed the check.
-/
namespace ActualState.Config

/-- Why settings are refused. -/
inductive Refusal where
  /-- There is something at the path, but no text can be read from it. -/
  | io
  | yaml (problem : YamlProblem)
  | invalid (problem : Invalid)
  deriving DecidableEq, Inhabited

/-- Checked settings from a text. -/
def ofYaml (s : String) : Except Refusal ListenerConfig :=
  match ofYamlText s with
  | .error p => .error (.yaml p)
  | .ok c =>
    match c.validate with
    | .error i => .error (.invalid i)
    | .ok () => .ok c

/-- Checked settings from what stands at a path. -/
def load : Entry → Except Refusal ListenerConfig
  | .absent => .ok {}
  | .directory => .error .io
  | .file content =>
    match Text.Utf8.toString? content with
    | none => .error .io
    | some s => ofYaml s

end ActualState.Config
