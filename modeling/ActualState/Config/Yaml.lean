import ActualState.Config.Fields
import ActualState.Decimal.Style
import ActualState.Text.Blank
import ActualState.Yaml.Document
import ActualState.Yaml.Plain

/-!
# Settings in YAML

Settings from a YAML text. A text of blanks, an empty document and a section without anything
after its name mean the defaults. A value that does not fit is reported with the path to it;
a text that is no YAML only counts once all values before that place fit.
-/
namespace ActualState.Config

open Yaml (Node Style plainValue)

/-- A node, and the names on the way to it, innermost first. -/
structure Located where
  path : List String
  node : Node
  deriving Inhabited

/-- Why a text is refused. -/
inductive YamlProblem where
  /-- It is no YAML, or more than one document. -/
  | malformed
  /-- A value does not fit. -/
  | mismatch (path : List String) (m : Mismatch)
  deriving DecidableEq, Inhabited

/-- The empty value is the unit value, and doubles are written in full. -/
def yamlWording : Wording := ⟨"unit value", Decimal.messageStyle.write⟩

/-- A path with a point between its names, followed by a colon. -/
def pathText (path : List String) : String :=
  if path.isEmpty then "" else ".".intercalate path.reverse ++ ": "

/-- The message of a mismatch, with the path to it. -/
def YamlProblem.message : YamlProblem → Option String
  | .malformed => none
  | .mismatch path m => (m.message yamlWording).map fun s => pathText path ++ s

/-- A tag of the core schema. -/
def coreTag (name : String) : String := "tag:yaml.org,2002:" ++ name

/-- A value does not fit. -/
def mismatchAt {α : Type} (path : List String) (m : Mismatch) : Except YamlProblem α :=
  .error (.mismatch path m)

/-- The node itself, or the node that an alias stands for. -/
def dealias (root : Node) : Node → Node
  | .alias n => (root.find? n).getD .missing
  | n => n

/-- What a scalar counts as where it does not fit; a mismatch of its own if it breaks its tag. -/
def scalarFound (text : String) (style : Style) (tag : Option String) : Except Mismatch Found :=
  let orElse (found : Option Found) (expected : String) : Except Mismatch Found :=
    match found with
    | some f => .ok f
    | none => .error (.wrongValue (.text text) expected)
  match tag with
  | none => .ok (if style = .plain then plainValue text else .text text)
  | some tag =>
    if tag = coreTag "bool" then orElse ((Yaml.boolean? text).map .boolean) "a boolean"
    else if tag = coreTag "int" then orElse (Yaml.integer? text) "an integer"
    else if tag = coreTag "float" then orElse ((Yaml.float? text).map .floating) "a float"
    else if tag = coreTag "null" then orElse (if Yaml.isNull text then some .unit else none) "null"
    else .ok (if tag.startsWith "!" && style = .plain then plainValue text else .text text)

/-- Something else was expected in the place of a node. -/
def unexpectedNode {α : Type} (path : List String) (expected : String) :
    Node → Except YamlProblem α
  | .scalar _ text style tag =>
    match scalarFound text style tag with
    | .ok found => mismatchAt path (.wrongType found expected)
    | .error m => mismatchAt path m
  | .sequence _ _ _ => mismatchAt path (.wrongType .sequence expected)
  | .mapping _ _ _ => mismatchAt path (.wrongType .map expected)
  | .alias _ | .missing => .error .malformed

/-- Whether a scalar is read for what it spells: a plain one is, and a literal one with a tag that
asks for it. -/
def isSpelled (tagName : String) (style : Style) (tag : Option String) : Bool :=
  style = .plain || (style = .literal && tag = some (coreTag tagName))

/-- The text of a scalar of any kind. -/
def textOf (expected : String) (path : List String) : Node → Except YamlProblem String
  | .scalar _ text _ _ => .ok text
  | n => unexpectedNode path expected n

/-- The value that a scalar of one kind spells. -/
def spelledOf {α : Type} (read : String → Option α) (tagName expected : String)
    (path : List String) (n : Node) : Except YamlProblem α :=
  match n with
  | .scalar _ text style tag =>
    match if isSpelled tagName style tag then read text else none with
    | some a => .ok a
    | none => unexpectedNode path expected n
  | n => unexpectedNode path expected n

/-- A natural below `2 ^ bits`. -/
def naturalOf (bits : Nat) (path : List String) (n : Node) : Except YamlProblem Nat := do
  let expected := "u" ++ toString bits
  let k ← spelledOf (fun s => (Yaml.natural? s).filter (· < 18446744073709551616)) "int" expected path n
  if k < Nat.pow 2 bits then return k else mismatchAt path (.wrongValue (.integer k) expected)

/-- Whether a scalar says that there is no value. -/
def isAbsent (path : List String) (text : String) (style : Style) (tag : Option String) :
    Except YamlProblem Bool :=
  if style ≠ .plain then .ok false
  else
    match tag with
    | none => .ok (text.isEmpty || Yaml.isNull text)
    | some tag =>
      if tag ≠ coreTag "null" then .ok false
      else if Yaml.isNull text then .ok true
      else mismatchAt path (.wrongValue (.text text) "null")

/-- A text that may be absent. -/
def optionalTextOf (path : List String) (n : Node) : Except YamlProblem (Option String) := do
  match n with
  | .scalar _ text style tag =>
    if ← isAbsent path.tail text style tag then return none
    else return some text
  | n => return some (← textOf "a string" path n)

/-- The last name on the way to the value of a key. Behind an alias it is not known. -/
def segment : Node → String
  | .scalar _ text _ _ => text
  | _ => "?"

/-- Every key is a text, and any value can be skipped once it is whole. -/
def yamlMembers (root : Node) (path : List String) : Members Node Located YamlProblem where
  name k := textOf "field identifier" path (dealias root k)
  skip v := if v.node.isWhole then .ok () else .error .malformed
  problem := .mismatch path

/-- A record of optional fields. Nothing at all stands for the starting value. -/
def recordOfNode (root : Node) {σ : Type} (title : String)
    (fields : List (Field Located YamlProblem σ)) (start : σ) (v : Located) :
    Except YamlProblem σ :=
  match dealias root v.node with
  | .mapping _ entries whole => do
    let members := entries.map fun (k, n) => (k, { path := segment k :: v.path, node := n : Located })
    let (_, s) ← Record.readMembers (yamlMembers root v.path) fields members [] start
    if whole then return s else throw .malformed
  | .scalar _ "" .plain _ => .ok start
  | n => unexpectedNode v.path title n

/-- Settings from the nodes of a tree. -/
def yamlSource (root : Node) : Source Located YamlProblem where
  text v := textOf "a string" v.path (dealias root v.node)
  optionalText v := optionalTextOf v.path (dealias root v.node)
  natural bits v := naturalOf bits v.path (dealias root v.node)
  flag v := spelledOf Yaml.boolean? "bool" "a boolean" v.path (dealias root v.node)
  record := recordOfNode root

/-- Settings from a document; a text without one means the defaults. -/
def ofDocument (d : Yaml.Document) : Except YamlProblem ListenerConfig := do
  let c ←
    match d.root with
    | none => .ok {}
    | some root => readListener (yamlSource root) ⟨[], root⟩
  if d.failed then throw .malformed else return c

/-- Settings from a text, unchecked. -/
def ofYamlText (s : String) : Except YamlProblem ListenerConfig :=
  if Text.isBlankText s then .ok {} else ofDocument (.ofText s)

end ActualState.Config
