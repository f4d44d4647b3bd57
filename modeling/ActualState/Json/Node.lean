import ActualState.Json.Lexer

/-!
# JSON trees

The structure of a JSON text, up to the first place where it stops being JSON. Where the text
is sound, a `Node` is the value it spells. Where it is not, every container that is open at
that place ends `cut`, and the value that was due is `absent`; the first problem of the text
is then the first one met in a walk of the tree from the left.

A `Builder` takes one token at a time, as a `Lexer` takes one byte.
-/
namespace ActualState.Json

/-- How an array or an object ends: by its bracket, or by a token that does not belong
there (`none` at the end of the text), possibly right after a comma. -/
inductive Ending where
  | closed
  | cut (afterComma : Bool) (found : Option Token)
  deriving DecidableEq, Repr, Inhabited

/-- A JSON value as it is written, or what stands in its place. -/
inductive Node where
  | word (w : Word)
  | brokenWord (w : Word) (fault : Fault)
  | string (literal : Literal)
  | number (numeral : Numeral)
  | brokenNumber (fault : Fault)
  | array (elements : List Node) (ending : Ending)
  | object (members : List (Literal × Node)) (ending : Ending)
  /-- No value: another token, or the end of the text, stands where a value is due. -/
  | absent (found : Option Token)
  deriving Inhabited, Repr

/-- The fault of finding `found` where it does not belong. -/
def faultOf : Option Token → Fault
  | none => .ended
  | some _ => .malformed

/-- A text: its value, and whether anything stands after it. -/
structure Document where
  root : Node
  trailing : Bool
  deriving Inhabited, Repr

/-- An open container: what it holds already, last one first. -/
inductive Frame where
  | array (elements : List Node)
  | object (members : List (Literal × Node)) (key : Literal)
  deriving Inhabited, Repr

/-- What may come next. The containers around the place are held innermost first; an open
object whose key is due is held with the place itself. -/
inductive Builder where
  /-- A value. -/
  | value (around : List Frame)
  /-- The first element of an array, or its end. -/
  | element (around : List Frame)
  /-- After an element: a comma or the end of the array. -/
  | afterElement (elements : List Node) (around : List Frame)
  /-- A key; the object may end here only before its first one. -/
  | key (members : List (Literal × Node)) (around : List Frame)
  | colon (members : List (Literal × Node)) (key : Literal) (around : List Frame)
  /-- After a member: a comma or the end of the object. -/
  | afterMember (members : List (Literal × Node)) (around : List Frame)
  /-- The text is complete, or cut. -/
  | finished (document : Document)
  deriving Inhabited, Repr

namespace Builder

/-- Before the first token. -/
def start : Builder := .value []

/-- Goes on after a complete value. -/
def close (n : Node) : List Frame → Builder
  | [] => .finished ⟨n, false⟩
  | .array elements :: around => .afterElement (n :: elements) around
  | .object members name :: around => .afterMember ((name, n) :: members) around

/-- Ends all containers around a node that holds the first problem. -/
def cut (found : Option Token) (n : Node) : List Frame → Document
  | [] => ⟨n, false⟩
  | .array elements :: around =>
    cut found (.array (n :: elements).reverse (.cut false found)) around
  | .object members name :: around =>
    cut found (.object ((name, n) :: members).reverse (.cut false found)) around

/-- Takes a token where a value is due. -/
def takeValue (t : Token) (around : List Frame) : Builder :=
  match t with
  | .word w => close (.word w) around
  | .number n => close (.number n) around
  | .string ⟨items, none⟩ => close (.string ⟨items, none⟩) around
  | .string ⟨items, some f⟩ => .finished (cut (some t) (.string ⟨items, some f⟩) around)
  | .brokenWord w f => .finished (cut (some t) (.brokenWord w f) around)
  | .brokenNumber f => .finished (cut (some t) (.brokenNumber f) around)
  | .openArray => .element around
  | .openObject => .key [] around
  | .closeArray | .closeObject | .comma | .colon | .junk =>
    .finished (cut (some t) (.absent (some t)) around)

/-- Ends the array whose elements are given, and all around it. -/
def cutArray (elements : List Node) (afterComma : Bool) (found : Option Token)
    (around : List Frame) : Builder :=
  .finished (cut found (.array elements.reverse (.cut afterComma found)) around)

/-- Ends the object whose members are given, and all around it. -/
def cutObject (members : List (Literal × Node)) (afterComma : Bool) (found : Option Token)
    (around : List Frame) : Builder :=
  .finished (cut found (.object members.reverse (.cut afterComma found)) around)

/-- Takes one token. -/
def step (b : Builder) (t : Token) : Builder :=
  match b with
  | .value around => takeValue t around
  | .element around =>
    match t with
    | .closeArray => close (.array [] .closed) around
    | t => takeValue t (.array [] :: around)
  | .afterElement elements around =>
    match t with
    | .closeArray => close (.array elements.reverse .closed) around
    | .comma => .value (.array elements :: around)
    | t => cutArray elements false (some t) around
  | .key members around =>
    match t with
    | .string ⟨items, none⟩ => .colon members ⟨items, none⟩ around
    | .string ⟨items, some f⟩ =>
      .finished (cut (some t) (.absent (some t)) (.object members ⟨items, some f⟩ :: around))
    | .closeObject =>
      match members with
      | [] => close (.object [] .closed) around
      | _ :: _ => cutObject members true (some t) around
    | t => cutObject members (!members.isEmpty) (some t) around
  | .colon members name around =>
    match t with
    | .colon => .value (.object members name :: around)
    | t => .finished (cut (some t) (.absent (some t)) (.object members name :: around))
  | .afterMember members around =>
    match t with
    | .closeObject => close (.object members.reverse .closed) around
    | .comma => .key members around
    | t => cutObject members false (some t) around
  | .finished d => .finished { d with trailing := true }

/-- The document, if no token follows. -/
def finish : Builder → Document
  | .value (.array elements :: around) => cut none (.array elements.reverse (.cut true none)) around
  | .value around => cut none (.absent none) around
  | .element around => cut none (.array [] (.cut false none)) around
  | .afterElement elements around => cut none (.array elements.reverse (.cut false none)) around
  | .key members around =>
    cut none (.object members.reverse (.cut (!members.isEmpty) none)) around
  | .colon members name around => cut none (.absent none) (.object members name :: around)
  | .afterMember members around => cut none (.object members.reverse (.cut false none)) around
  | .finished d => d

/-- Takes a run of tokens. -/
def run (b : Builder) (ts : List Token) : Builder := ts.foldl step b

@[simp] theorem run_nil (b : Builder) : b.run [] = b := rfl

@[simp] theorem run_cons (b : Builder) (t : Token) (ts : List Token) :
    b.run (t :: ts) = (b.step t).run ts := rfl

theorem run_append (b : Builder) (ss ts : List Token) : b.run (ss ++ ts) = (b.run ss).run ts :=
  List.foldl_append

end Builder

/-- The document that a sequence of tokens spells. -/
def Document.ofTokens (ts : List Token) : Document := (Builder.start.run ts).finish

/-- The document that a text spells. -/
def Document.ofBytes (bs : List UInt8) : Document := Document.ofTokens (tokens bs)

end ActualState.Json
