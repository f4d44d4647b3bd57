import ActualState.Json.Decode

/-!
# JSON values

A JSON value with the spelling forgotten. Reading keeps the last of several members with one
name and sorts members by name; it follows containers to a depth of 127.
-/
namespace ActualState.Json

/-- A JSON value. -/
inductive Value where
  | null
  | boolean (b : Bool)
  | number (n : Number)
  | string (s : String)
  | array (elements : List Value)
  | object (members : List (String × Value))
  deriving Inhabited

namespace Value

/-- A natural number. -/
def nat (n : Nat) : Value := .number (.natural n)

/-- An integer. -/
def int (n : Int) : Value :=
  match n with
  | .ofNat n => .number (.natural n)
  | .negSucc n => .number (.negative (n + 1))

/-- A double. -/
def double (x : Float) : Value := .number (.double x)

/-- A value that may be missing. -/
def option {α : Type} (f : α → Value) : Option α → Value
  | none => .null
  | some a => f a

/-- A list of values. -/
def list {α : Type} (f : α → Value) (as : List α) : Value := .array (as.map f)

/-- The member with a name, `null` if there is none. -/
def get (v : Value) (name : String) : Value :=
  match v with
  | .object ms => (ms.lookup name).getD .null
  | _ => .null

/-- Sets the member with a name in a list sorted by name. -/
def setMember (name : String) (v : Value) : List (String × Value) → List (String × Value)
  | [] => [(name, v)]
  | (n, w) :: rest =>
    if name = n then (name, v) :: rest
    else if name < n then (name, v) :: (n, w) :: rest
    else (n, w) :: setMember name v rest

/-- Members sorted by name, the last one of each name. -/
def sortMembers (ms : List (String × Value)) : List (String × Value) :=
  ms.foldl (fun acc m => setMember m.1 m.2 acc) []

mutual

/-- The value a tree spells, with at most `depth` levels of containers. -/
def ofNode (depth : Nat) : Node → Except Problem Value
  | .word .null => .ok .null
  | .word .true => .ok (.boolean true)
  | .word .false => .ok (.boolean false)
  | .brokenWord _ f | .brokenNumber f => throwFault f
  | .string l => l.text.map .string
  | .number n => n.value.map .number
  | .absent t => throwFault (faultOf t)
  | .array elements ending =>
    if depth = 0 then throwFault .malformed
    else do
      let vs ← ofNodes (depth - 1) elements
      ending.check
      return .array vs
  | .object members ending =>
    if depth = 0 then throwFault .malformed
    else do
      let ms ← ofMembers (depth - 1) members
      ending.check
      return .object (sortMembers ms)

/-- The values of elements in order. -/
def ofNodes (depth : Nat) : List Node → Except Problem (List Value)
  | [] => .ok []
  | n :: rest => do
    let v ← ofNode depth n
    let vs ← ofNodes depth rest
    return v :: vs

/-- The values of members in order. -/
def ofMembers (depth : Nat) : List (Literal × Node) → Except Problem (List (String × Value))
  | [] => .ok []
  | (k, n) :: rest => do
    let name ← k.text
    let v ← ofNode depth n
    let ms ← ofMembers depth rest
    return (name, v) :: ms

end

/-- The value of a text. -/
def ofBytes (bs : List UInt8) : Except Problem Value := Json.read (ofNode 127) bs

end Value

end ActualState.Json
