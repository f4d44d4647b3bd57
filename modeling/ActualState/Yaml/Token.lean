/-!
# YAML tokens

The lexical units of a YAML text. Block structure, which is written by indentation alone, has
tokens of its own: where a block collection starts, where it ends, and where a key begins that
only the colon after it gives away.
-/
namespace ActualState.Yaml

/-- How a scalar is written. -/
inductive Style where
  | plain
  | singleQuoted
  | doubleQuoted
  | literal
  | folded
  deriving DecidableEq, Repr, Inhabited

/-- A lexical unit of a YAML text. -/
inductive Token where
  | streamEnd
  | version (major minor : Nat)
  | tagDirective (handle start : String)
  | documentStart
  | documentEnd
  | blockSequenceStart
  | blockMappingStart
  | blockEnd
  | flowSequenceStart
  | flowSequenceEnd
  | flowMappingStart
  | flowMappingEnd
  | blockEntry
  | flowEntry
  | key
  | value
  | alias (name : String)
  | anchor (name : String)
  | tag (handle suffix : String)
  | scalar (text : String) (style : Style)
  /-- The text goes on, but not as YAML. -/
  | invalid
  deriving DecidableEq, Repr, Inhabited

end ActualState.Yaml
