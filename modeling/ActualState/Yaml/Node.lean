import ActualState.Yaml.Token

/-!
# YAML trees

The structure of a YAML text, up to the first place where it stops being YAML. A collection that
is open at that place is not `whole`, and `missing` stands where a node was due, so the first
problem of the text is the first one met in a walk of the tree from the left.

An alias names its node by a number. Numbers are given to anchors in the order of the text; where
two nodes have one number, the later one is meant.
-/
namespace ActualState.Yaml

/-- A node as it is written, or what stands in its place. -/
inductive Node where
  | scalar (anchor : Option Nat) (text : String) (style : Style) (tag : Option String)
  | sequence (anchor : Option Nat) (items : List Node) (whole : Bool)
  | mapping (anchor : Option Nat) (entries : List (Node × Node)) (whole : Bool)
  | alias (number : Nat)
  | missing
  deriving Inhabited, Repr

namespace Node

/-- The number of a node's anchor. -/
def anchor? : Node → Option Nat
  | .scalar a _ _ _ | .sequence a _ _ | .mapping a _ _ => a
  | .alias _ | .missing => none

mutual

/-- Whether the text goes on to the end of the node. -/
def isWhole : Node → Bool
  | .scalar _ _ _ _ | .alias _ => true
  | .sequence _ items whole => whole && areWhole items
  | .mapping _ entries whole => whole && entriesWhole entries
  | .missing => false

/-- Whether the text goes on to the end of all elements. -/
def areWhole : List Node → Bool
  | [] => true
  | n :: ns => isWhole n && areWhole ns

/-- Whether the text goes on to the end of all entries. -/
def entriesWhole : List (Node × Node) → Bool
  | [] => true
  | (k, v) :: es => isWhole k && isWhole v && entriesWhole es

end

mutual

/-- The last node of a tree with an anchor number, in the order of the text. -/
def find? (number : Nat) : Node → Option Node
  | .sequence a items whole =>
    findItem? number items <|> if a = some number then some (.sequence a items whole) else none
  | .mapping a entries whole =>
    findEntry? number entries <|> if a = some number then some (.mapping a entries whole) else none
  | n => if n.anchor? = some number then some n else none

/-- The last such node among elements and below. -/
def findItem? (number : Nat) : List Node → Option Node
  | [] => none
  | n :: ns => findItem? number ns <|> find? number n

/-- The last such node among entries and below. -/
def findEntry? (number : Nat) : List (Node × Node) → Option Node
  | [] => none
  | (k, v) :: es => findEntry? number es <|> find? number v <|> find? number k

end

/-- An empty plain scalar, where a node may be left out. -/
def empty : Node := .scalar none "" .plain none

end Node

end ActualState.Yaml
