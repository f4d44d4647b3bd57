import ActualState.Mismatch

/-!
# Reading records by name

A record is read member by member in the order of the text. Each known field may be given once;
a member with an unknown name is skipped. What happens to a field that is not given is the
field's own business. The formats of this library share this part: `Members` is what a format
has to bring.
-/
namespace ActualState

/-- What becomes of a field that is not given. -/
inductive Absence where
  /-- Its absence is a mismatch. -/
  | required
  /-- The starting value stays. -/
  | optional
  /-- The starting value stays where fields have names; a list of bare values must have it. -/
  | optionalByName
  deriving DecidableEq, Repr, Inhabited

/-- A field of a record `σ`, read from values `ν` with problems `ε`. -/
structure Field (ν ε σ : Type) where
  name : String
  store : ν → σ → Except ε σ
  absence : Absence

/-- How a format gives names to the members of a record, and skips a value. -/
structure Members (κ ν ε : Type) where
  name : κ → Except ε String
  skip : ν → Except ε Unit
  problem : Mismatch → ε

namespace Record

variable {κ ν ε σ : Type}

/-- The field with a name. -/
def find? (fields : List (Field ν ε σ)) (name : String) : Option (Field ν ε σ) :=
  fields.find? fun f => f.name == name

/-- Reads members in order. `seen` are the known names given so far. -/
def readMembers (m : Members κ ν ε) (fields : List (Field ν ε σ)) :
    List (κ × ν) → List String → σ → Except ε (List String × σ)
  | [], seen, s => .ok (seen, s)
  | (k, v) :: rest, seen, s => do
    let name ← m.name k
    match find? fields name with
    | none =>
      m.skip v
      readMembers m fields rest seen s
    | some f =>
      if seen.contains f.name then throw (m.problem (.duplicateField f.name))
      else
        let s ← f.store v s
        readMembers m fields rest (f.name :: seen) s

/-- The first required field that was not given. -/
def missing? (fields : List (Field ν ε σ)) (seen : List String) : Option String :=
  (fields.find? fun f => f.absence == .required && !seen.contains f.name).map (·.name)

/-- The record, once all members are read. -/
def complete (problem : Mismatch → ε) (fields : List (Field ν ε σ)) (seen : List String) (s : σ) :
    Except ε σ :=
  match missing? fields seen with
  | some name => throw (problem (.missingField name))
  | none => .ok s

/-- "With so many elements", for a record written as a list. -/
def lengthNote (title : String) (count : Nat) : String :=
  title ++ " with " ++ toString count ++ (if count = 1 then " element" else " elements")

end Record

end ActualState
