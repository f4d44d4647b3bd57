import ActualState.Json.Node
import ActualState.Json.Number
import ActualState.Json.Problem
import ActualState.Record
import ActualState.Text.Utf8

/-!
# Reading typed values from JSON trees

Each reader walks its part of the tree from the left and answers with the first problem it
meets. A value that is skipped has to be well-formed, no more; a value that is read has to be
text where text is due, a number in range where a number is due, and so on.
-/
namespace ActualState.Json

/-- A reader of one value. -/
abbrev Reader (α : Type) := Node → Except Problem α

/-- The fault of a text, as a problem. -/
def throwFault {α : Type} (f : Fault) : Except Problem α := .error (.fault f)

/-- A mismatch, as a problem. -/
def throwMismatch {α : Type} (m : Mismatch) : Except Problem α := .error (.mismatch m)

/-- The lead units of surrogate pairs. -/
def isLead (u : Nat) : Bool := 0xD800 ≤ u && u ≤ 0xDBFF

/-- The trail units of surrogate pairs. -/
def isTrail (u : Nat) : Bool := 0xDC00 ≤ u && u ≤ 0xDFFF

/-- The code point of a surrogate pair. -/
def pairCodePoint (lead trail : Nat) : Nat := 0x10000 + (lead - 0xD800) * 0x400 + (trail - 0xDC00)

namespace Literal

/-- The bytes that items spell; a lead unit needs its trail unit right after it. `fault` is what
ended the literal, if the quote did not. -/
def bytes (fault : Option Fault) : List Item → Except Fault (List UInt8)
  | [] =>
    match fault with
    | none => .ok []
    | some f => .error f
  | .byte b :: r => (bytes fault r).map (b :: ·)
  | .unit u :: r =>
    if isTrail u then .error .malformed
    else if isLead u then
      match r with
      | .unit v :: r =>
        if isTrail v then
          (bytes fault r).map (Text.Utf8.encodeCodePoint (pairCodePoint u v) ++ ·)
        else .error .malformed
      | .byte _ :: _ => .error .malformed
      | [] => .error (fault.getD .malformed)
    else (bytes fault r).map (Text.Utf8.encodeCodePoint u ++ ·)

/-- The text of a literal. -/
def text (l : Literal) : Except Problem String :=
  match bytes l.fault l.items with
  | .error f => throwFault f
  | .ok bs =>
    match Text.Utf8.toString? bs with
    | some s => .ok s
    | none => throwFault .malformed

/-- A skipped literal only has to reach its closing quote. -/
def skip (l : Literal) : Except Problem Unit :=
  match l.fault with
  | none => .ok ()
  | some f => throwFault f

end Literal

/-- The value of a number literal in range. -/
def Numeral.value (n : Numeral) : Except Problem Number :=
  match n.value? with
  | some v => .ok v
  | none => throwFault .malformed

/-- How a container ends, seen by a reader that is through with its members. -/
def Ending.check : Ending → Except Problem Unit
  | .closed => .ok ()
  | .cut _ found => throwFault (faultOf found)

namespace Node

/-- The value that starts with a token. -/
def ofToken : Token → Node
  | .word w => .word w
  | .brokenWord w f => .brokenWord w f
  | .string l => .string l
  | .number n => .number n
  | .brokenNumber f => .brokenNumber f
  | .openArray => .array [] .closed
  | .openObject => .object [] .closed
  | t => .absent (some t)

/-- What stands here, for a message. -/
def found : Node → Except Problem Found
  | .word .null => .ok .unit
  | .word .true => .ok (.boolean true)
  | .word .false => .ok (.boolean false)
  | .brokenWord _ f | .brokenNumber f => throwFault f
  | .string l => l.text.map .text
  | .number n => n.value.map fun v =>
      match v with
      | .natural n => .integer n
      | .negative n => .integer (-n)
      | .double x => .floating x
  | .array _ _ => .ok .sequence
  | .object _ _ => .ok .map
  | .absent t => throwFault (faultOf t)

/-- Something else was expected here. -/
def unexpected {α : Type} (n : Node) (expected : String) : Except Problem α := do
  let f ← n.found
  throwMismatch (.wrongType f expected)

mutual

/-- A skipped value has to be well-formed; numbers and strings are not looked into. -/
def skip : Node → Except Problem Unit
  | .word _ | .number _ => .ok ()
  | .brokenWord _ f => throwFault f
  | .brokenNumber _ => throwFault .malformed
  | .string l => l.skip
  | .array elements ending => do
    skipAll elements
    ending.check
  | .object members ending => do
    skipMembers members
    ending.check
  | .absent t => throwFault (faultOf t)

/-- All of a run of skipped values. -/
def skipAll : List Node → Except Problem Unit
  | [] => .ok ()
  | n :: rest => do
    skip n
    skipAll rest

/-- All of a run of skipped members. -/
def skipMembers : List (Literal × Node) → Except Problem Unit
  | [] => .ok ()
  | (k, n) :: rest => do
    k.skip
    skip n
    skipMembers rest

end

end Node

/-- A text. -/
def readText : Reader String
  | .string l => l.text
  | n => n.unexpected "a string"

/-- Refuses a number where a natural below `2 ^ bits` is due. -/
def narrow (bits : Nat) (v : Number) : Except Problem Nat :=
  let expected := "u" ++ toString bits
  match v with
  | .natural n =>
    if n < Nat.pow 2 bits then .ok n else throwMismatch (.wrongValue (.integer n) expected)
  | .negative n => throwMismatch (.wrongValue (.integer (-n)) expected)
  | .double x => throwMismatch (.wrongType (.floating x) expected)

/-- A natural below `2 ^ bits`. -/
def readNatural (bits : Nat) : Reader Nat
  | .number n => do
    let v ← n.value
    narrow bits v
  | n => n.unexpected ("u" ++ toString bits)

/-- A double; integers are rounded to one. -/
def readDouble : Reader Float
  | .number n => n.value.map Number.toDouble
  | n => n.unexpected "f64"

/-- `null`. -/
def readUnit : Reader Unit
  | .word .null => .ok ()
  | n => n.unexpected "unit"

/-- A value, or `null` for none. -/
def readOption {α : Type} (read : Reader α) : Reader (Option α)
  | .word .null => .ok none
  | n => (read n).map some

/-- The elements of a list, in order. -/
def readAll {α : Type} (read : Reader α) : List Node → Except Problem (List α)
  | [] => .ok []
  | n :: rest => do
    let a ← read n
    let as ← readAll read rest
    return a :: as

/-- A list. -/
def readList {α : Type} (read : Reader α) : Reader (List α)
  | .array elements ending => do
    let as ← readAll read elements
    ending.check
    return as
  | n => n.unexpected "a sequence"

/-- The entries of a map, in order. -/
def readEntries {α : Type} (read : Reader α) :
    List (Literal × Node) → Except Problem (List (String × α))
  | [] => .ok []
  | (k, n) :: rest => do
    let name ← k.text
    let a ← read n
    let as ← readEntries read rest
    return (name, a) :: as

/-- A map, as its entries in the order of the text. -/
def readMap {α : Type} (read : Reader α) : Reader (List (String × α))
  | .object members ending => do
    let as ← readEntries read members
    ending.check
    return as
  | n => n.unexpected "a map"

/-- How JSON gives names to the members of a record. -/
def members : Members Literal Node Problem := ⟨Literal.text, Node.skip, .mismatch⟩

/-- Reads the fields of a record from bare values, in the order of the fields. `index` counts
the values read; the rest is what is left over. -/
def readPositional {σ : Type} (note : String) (ending : Ending) :
    Nat → List (Field Node Problem σ) → List Node → σ → Except Problem (List Node × σ)
  | _, [], rest, s => .ok (rest, s)
  | index, f :: fields, n :: rest, s => do
    let s ← f.store n s
    readPositional note ending (index + 1) fields rest s
  | index, f :: fields, [], s =>
    match ending with
    | .cut _ found => throwFault (faultOf found)
    | .closed =>
      if f.absence = .optional then readPositional note ending (index + 1) fields [] s
      else throwMismatch (.wrongLength index note)

/-- A list that holds a record has to end after its last field. -/
def checkEnd : List Node → Ending → Except Problem Unit
  | _ :: _, _ => throwFault .malformed
  | [], .closed => .ok ()
  | [], .cut true _ => throwFault .malformed
  | [], .cut false found => throwFault (faultOf found)

/-- A record, by the names of its fields or as a list of their values. `start` holds what
fields have that are not given. -/
def readRecord {σ : Type} (title : String) (fields : List (Field Node Problem σ)) (start : σ) :
    Reader σ
  | .object ms ending => do
    let (seen, s) ← Record.readMembers members fields ms [] start
    ending.check
    Record.complete .mismatch fields seen s
  | .array elements ending => do
    let (rest, s) ←
      readPositional (Record.lengthNote title fields.length) ending 0 fields elements start
    checkEnd rest ending
    return s
  | n => n.unexpected title

/-- One of a few names, alone or as the only key of an object over `null`. -/
def readVariant {α : Type} (variants : List (String × α)) : Reader α
  | .string l => do
    let name ← l.text
    choose name
  | .object [] .closed => throwFault .malformed
  | .object [] (.cut _ none) => throwFault .ended
  | .object [] (.cut _ (some t)) => (Node.ofToken t).unexpected "variant identifier"
  | .object ((k, n) :: rest) ending => do
    let name ← k.text
    let a ← choose name
    readUnit n
    match rest, ending with
    | [], .closed => return a
    | [], .cut false none => throwFault .ended
    | _, _ => throwFault .malformed
  | .absent none => throwFault .ended
  | _ => throwFault .malformed
where
  /-- The value with a name. -/
  choose (name : String) : Except Problem α :=
    match variants.lookup name with
    | some a => .ok a
    | none => throwMismatch (.unknownVariant name (variants.map (·.1)))

/-- Reads a whole text. -/
def read {α : Type} (reader : Reader α) (bs : List UInt8) : Except Problem α := do
  let d := Document.ofBytes bs
  let a ← reader d.root
  if d.trailing then throwFault .malformed
  return a

end ActualState.Json
