import ActualState.Json.Token
import ActualState.Mismatch
import ActualState.Decimal.Style

/-!
# Problems with a JSON text

A text is refused because it is no JSON, with a `Fault`, or because its value does not fit,
with a `Mismatch`.
-/
namespace ActualState.Json

/-- Why a text is refused. -/
inductive Problem where
  | fault (f : Fault)
  | mismatch (m : Mismatch)
  deriving DecidableEq, Inhabited

/-- The empty value is `null`, and doubles are written as JSON writes them. -/
def wording : Wording := ⟨"null", Decimal.jsonStyle.write⟩

/-- The message of a mismatch, where it has one. -/
def Problem.message : Problem → Option String
  | .fault _ => none
  | .mismatch m => m.message wording

end ActualState.Json
