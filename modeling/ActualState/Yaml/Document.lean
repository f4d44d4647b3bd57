import ActualState.Yaml.Lexer
import ActualState.Yaml.Node

/-!
# From tokens to a document

A `Builder` takes one token at a time. Some of them settle what was open before them: a node that
was left out is an empty scalar, and the elements of a sequence that is not indented end with the
first token that is no dash. After that the token means what it means there.
-/
namespace ActualState.Yaml

/-- How a sequence is written. -/
inductive SequenceForm where
  | block
  /-- As the value of a block mapping, no further in than its key. -/
  | level
  | flow
  deriving DecidableEq, Repr, Inhabited

/-- How a mapping is written. -/
inductive MappingForm where
  | block
  | flow
  /-- In braces, where an entry begins without a key of its own; what is there has no value. -/
  | bare
  /-- As an element of a flow sequence, without braces. -/
  | pair
  deriving DecidableEq, Repr, Inhabited

/-- An open collection: what it holds already, last one first. -/
inductive Frame where
  | sequence (form : SequenceForm) (anchor : Option Nat) (items : List Node)
  /-- A mapping whose next key is open. -/
  | key (form : MappingForm) (anchor : Option Nat) (entries : List (Node × Node))
  /-- A mapping where the value of a key is open. -/
  | value (form : MappingForm) (anchor : Option Nat) (entries : List (Node × Node)) (key : Node)
  deriving Inhabited, Repr

namespace Frame

/-- Whether a token shows that the node due here was left out. -/
def endsAt : Frame → Token → Bool
  | .sequence .block _ _, t => t = .blockEntry || t = .blockEnd
  | .sequence .level _ _, t => t = .blockEntry || t = .key || t = .value || t = .blockEnd
  | .sequence .flow _ _, _ => false
  | .key .block _ _, t | .value .block _ _ _, t => t = .key || t = .value || t = .blockEnd
  | .key .flow _ _, t => t = .value || t = .flowEntry || t = .flowMappingEnd
  | .key .pair _ _, t => t = .value || t = .flowEntry || t = .flowSequenceEnd
  | .value .flow _ _ _, t => t = .flowEntry || t = .flowMappingEnd
  | .value .pair _ _ _, t => t = .flowEntry || t = .flowSequenceEnd
  | .key .bare _ _, _ | .value .bare _ _ _, _ => false

/-- Whether a block collection may stand here. -/
def allowsBlock : Frame → Bool
  | .sequence form _ _ => form != .flow
  | .key form _ _ | .value form _ _ _ => form = .block

/-- Whether a sequence may begin here with a bare dash. -/
def allowsDash : Frame → Bool
  | .sequence _ _ _ => false
  | .key form _ _ | .value form _ _ _ => form = .block

end Frame

/-- What may stand before a node. -/
structure Properties where
  anchor : Option String := none
  tag : Option (String × String) := none
  deriving DecidableEq, Repr, Inhabited

/-- A text: its first document, and whether the text fails after it or goes on with another. The
root is none in a text without documents. -/
structure Document where
  root : Option Node
  failed : Bool
  deriving Inhabited, Repr

/-- What may come next. The collections around the place are held innermost first. -/
inductive Due where
  /-- The first document, or a directive. -/
  | document
  /-- After a directive, and whether there was a version. -/
  | directive (versioned : Bool)
  /-- After the marker that begins a document. -/
  | content
  /-- A node, which can be left out in its own way. -/
  | slot (frame : Frame) (around : List Frame)
  /-- A node after these properties of it. -/
  | node (properties : Properties) (around : List Frame)
  /-- After an element of a sequence; also where a block sequence begins. -/
  | entry (form : SequenceForm) (anchor : Option Nat) (items : List Node) (around : List Frame)
  /-- An element of a flow sequence, or its end. -/
  | flowItem (anchor : Option Nat) (items : List Node) (around : List Frame)
  /-- After a key: its colon, if it has one. -/
  | colon (form : MappingForm) (anchor : Option Nat) (entries : List (Node × Node)) (key : Node)
    (around : List Frame)
  /-- After an entry of a mapping; also where a block mapping begins. -/
  | nextKey (form : MappingForm) (anchor : Option Nat) (entries : List (Node × Node))
    (around : List Frame)
  /-- An entry of a flow mapping, or its end. -/
  | flowKey (anchor : Option Nat) (entries : List (Node × Node)) (around : List Frame)
  /-- After the first document. -/
  | finish (root : Node)
  /-- Nothing counts any more. -/
  | done (document : Document)
  deriving Inhabited, Repr

/-- Ends all collections around a node where the text stops being YAML. -/
def cut : List Frame → Node → Node
  | [], n => n
  | .sequence _ a items :: around, n => cut around (.sequence a (n :: items).reverse false)
  | .key _ a entries :: around, n =>
    cut around (.mapping a ((n, .missing) :: entries).reverse false)
  | .value _ a entries k :: around, n =>
    cut around (.mapping a ((k, n) :: entries).reverse false)

namespace Due

/-- What there is if the text stops being YAML here. -/
def broken : Due → Document
  | .document | .directive _ | .content => ⟨some .missing, true⟩
  | .slot frame around => ⟨some (cut (frame :: around) .missing), true⟩
  | .node _ around => ⟨some (cut around .missing), true⟩
  | .entry _ a items around | .flowItem a items around =>
    ⟨some (cut around (.sequence a items.reverse false)), true⟩
  | .colon form a entries k around => ⟨some (cut (.value form a entries k :: around) .missing), true⟩
  | .nextKey _ a entries around | .flowKey a entries around =>
    ⟨some (cut around (.mapping a entries.reverse false)), true⟩
  | .finish root => ⟨some root, true⟩
  | .done d => d

/-- The token does not belong here. -/
def fail (d : Due) : Due := .done d.broken

/-- Goes on after a node. -/
def close (n : Node) : List Frame → Due
  | [] => .finish n
  | .sequence form a items :: around => .entry form a (n :: items) around
  | .key form a entries :: around => .colon form a entries n around
  | .value .pair a entries k :: around =>
    match around with
    | .sequence form b items :: outer =>
      .entry form b (.mapping a ((k, n) :: entries).reverse true :: items) outer
    | _ => .nextKey .pair a ((k, n) :: entries) around
  | .value form a entries k :: around => .nextKey form a ((k, n) :: entries) around

/-- Takes a token after the first document. -/
def takeFinish (root : Node) (t : Token) : Due :=
  match t with
  | .documentEnd => .finish root
  | .streamEnd => .done ⟨some root, false⟩
  | _ => (Due.finish root).fail

/-- Takes a token after an entry of a mapping. -/
def takeNextKey (form : MappingForm) (a : Option Nat) (entries : List (Node × Node))
    (around : List Frame) (t : Token) : Due :=
  match form, t with
  | .block, .key => .slot (.key .block a entries) around
  | .block, .blockEnd => close (.mapping a entries.reverse true) around
  | .flow, .flowEntry | .bare, .flowEntry => .flowKey a entries around
  | .flow, .flowMappingEnd | .bare, .flowMappingEnd => close (.mapping a entries.reverse true) around
  | form, _ => (Due.nextKey form a entries around).fail

/-- Takes a token after an element of a block or flow sequence. -/
def takeEntry (form : SequenceForm) (a : Option Nat) (items : List Node) (around : List Frame)
    (t : Token) : Due :=
  match form, t with
  | .block, .blockEntry => .slot (.sequence .block a items) around
  | .block, .blockEnd | .flow, .flowSequenceEnd => close (.sequence a items.reverse true) around
  | .flow, .flowEntry => .flowItem a items around
  | form, _ => (Due.entry form a items around).fail

/-- Takes a token after a node that was just closed, of any kind but a sequence without
indentation. -/
def takeOuter (d : Due) (t : Token) : Due :=
  match d with
  | .nextKey form a entries around => takeNextKey form a entries around t
  | .entry form a items around => takeEntry form a items around t
  | .finish root => takeFinish root t
  | d => d.fail

/-- Takes a token after a key. -/
def takeColon (form : MappingForm) (a : Option Nat) (entries : List (Node × Node)) (k : Node)
    (around : List Frame) (t : Token) : Due :=
  if t = .value && form != .bare then .slot (.value form a entries k) around
  else takeOuter (close .empty (.value form a entries k :: around)) t

/-- Takes a token after a node. -/
def takeAfter (d : Due) (t : Token) : Due :=
  match d with
  | .colon form a entries k around => takeColon form a entries k around t
  | .entry .level a items around =>
    if t = .blockEntry then .slot (.sequence .level a items) around
    else
      match close (.sequence a items.reverse true) around with
      | .colon form b entries k outer => takeColon form b entries k outer t
      | d => takeOuter d t
  | d => takeOuter d t

end Due

/-- The handles that every document has. -/
def defaultHandles : List (String × String) := [("!", "!"), ("!!", "tag:yaml.org,2002:")]

/-- A document in the making. -/
structure Builder where
  due : Due := .document
  /-- The anchors so far, each with its number. -/
  anchors : List (String × Nat) := []
  /-- The handles of the document's own. -/
  handles : List (String × String) := []
  deriving Inhabited, Repr

namespace Builder

/-- Notes the anchor of a node that begins; its number is the number of names before it. -/
def define (b : Builder) : Option String → Option Nat × Builder
  | none => (none, b)
  | some name =>
    let n := b.anchors.length
    let anchors :=
      if b.anchors.any (·.1 == name) then
        b.anchors.map fun e => if e.1 == name then (name, n) else e
      else b.anchors ++ [(name, n)]
    (some n, { b with anchors })

/-- The tag that a handle and the rest of it stand for; a tag without a handle stands for
itself. -/
def resolve (b : Builder) : Option (String × String) → Option (Option String)
  | none => some none
  | some ("", tag) => some (some tag)
  | some (handle, rest) =>
    ((b.handles ++ defaultHandles).lookup handle).map fun start => some (start ++ rest)

/-- Goes on with what is due. -/
def goOn (b : Builder) (d : Due) : Builder := { b with due := d }

/-- Takes the token of a node, or after one that has properties only. -/
def takeNode (b : Builder) (p : Properties) (around : List Frame) (t : Token) : Builder :=
  let failed := b.goOn (Due.node p around).fail
  match b.resolve p.tag with
  | none => failed
  | some tag =>
    let (a, b') := b.define p.anchor
    let block := (around.head?.map Frame.allowsBlock).getD true
    let dash := (around.head?.map Frame.allowsDash).getD false
    match t with
    | .scalar s style => b'.goOn (Due.close (.scalar a s style (tag.filter (· ≠ "!"))) around)
    | .flowSequenceStart => b'.goOn (.flowItem a [] around)
    | .flowMappingStart => b'.goOn (.flowKey a [] around)
    | t =>
      if block && t = .blockSequenceStart then b'.goOn (.entry .block a [] around)
      else if block && t = .blockMappingStart then b'.goOn (.nextKey .block a [] around)
      else if dash && t = .blockEntry then b'.goOn (.slot (.sequence .level a []) around)
      else if p = {} then failed
      else b'.goOn ((Due.close (.scalar a "" .plain tag) around).takeAfter t)

/-- Takes a token where a node is due: a property of it, an alias, or the node. -/
def takeProperty (b : Builder) (p : Properties) (around : List Frame) (t : Token) : Builder :=
  match t, p with
  | .alias name, ⟨none, none⟩ =>
    match b.anchors.lookup name with
    | some n => b.goOn (Due.close (.alias n) around)
    | none => b.goOn (Due.node p around).fail
  | .anchor name, ⟨none, tag⟩ => b.goOn (.node ⟨some name, tag⟩ around)
  | .tag handle rest, ⟨anchor, none⟩ => b.goOn (.node ⟨anchor, some (handle, rest)⟩ around)
  | .invalid, _ => b.goOn (Due.node p around).fail
  | t, p => b.takeNode p around t

/-- Takes a directive. -/
def takeDirective (b : Builder) (versioned : Bool) (t : Token) : Builder :=
  match t with
  | .version major minor =>
    if versioned || major ≠ 1 || (minor ≠ 1 && minor ≠ 2) then b.goOn b.due.fail
    else b.goOn (.directive true)
  | .tagDirective handle start =>
    if b.handles.any (·.1 == handle) then b.goOn b.due.fail
    else { b with due := .directive versioned, handles := b.handles ++ [(handle, start)] }
  | .documentStart => b.goOn .content
  | _ => b.goOn b.due.fail

/-- Whether a token is a directive. -/
def isDirective : Token → Bool
  | .version _ _ | .tagDirective _ _ => true
  | _ => false

/-- Takes one token. -/
def step (b : Builder) (t : Token) : Builder :=
  if t = .invalid then b.goOn b.due.fail
  else
    match b.due with
    | .document =>
      if t = .streamEnd then b.goOn (.done ⟨none, false⟩)
      else if isDirective t || t = .documentStart then b.takeDirective false t
      else b.takeProperty {} [] t
    | .directive versioned => b.takeDirective versioned t
    | .content =>
      if isDirective t || t = .documentStart || t = .documentEnd || t = .streamEnd then
        b.goOn (Due.takeFinish .empty t)
      else b.takeProperty {} [] t
    | .slot frame around =>
      if frame.endsAt t then
        match frame with
        | .key .pair a entries => b.goOn (.colon .pair a entries .empty around)
        | frame => b.goOn ((Due.close .empty (frame :: around)).takeAfter t)
      else b.takeProperty {} (frame :: around) t
    | .node p around => b.takeProperty p around t
    | .flowItem a items around =>
      match t with
      | .key => b.goOn (.slot (.key .pair none []) (.sequence .flow a items :: around))
      | .flowSequenceEnd => b.goOn (Due.close (.sequence a items.reverse true) around)
      | t => b.takeProperty {} (.sequence .flow a items :: around) t
    | .flowKey a entries around =>
      match t with
      | .key => b.goOn (.slot (.key .flow a entries) around)
      | .flowMappingEnd => b.goOn (Due.close (.mapping a entries.reverse true) around)
      | t => b.takeProperty {} (.key .bare a entries :: around) t
    | d => b.goOn (d.takeAfter t)

end Builder

/-- The document that a sequence of tokens spells. -/
def Document.ofTokens (ts : List Token) : Document := (ts.foldl Builder.step {}).due.broken

/-- The first document of a text. -/
def Document.ofText (s : String) : Document := .ofTokens (tokens s.toList)

end ActualState.Yaml
