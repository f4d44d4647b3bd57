import ActualState.Text.Quoted

/-!
# Values that do not fit

What can be wrong with a well-formed value that is read as a value of a certain type, and the
wording of it. A format brings its own word for the empty value and its own way to write
doubles; the rest of the wording is common.
-/
namespace ActualState

/-- What was found in the place of an expected value. -/
inductive Found where
  | unit
  | boolean (b : Bool)
  | integer (n : Int)
  /-- A natural past the 64-bit range. -/
  | wideNatural (n : Nat)
  /-- A negative integer past the 64-bit range. -/
  | wideInteger (n : Int)
  | floating (x : Float)
  | text (s : String)
  | sequence
  | map
  deriving DecidableEq, Inhabited

/-- Why a value does not fit. -/
inductive Mismatch where
  | wrongType (found : Found) (expected : String)
  | wrongValue (found : Found) (expected : String)
  | wrongLength (length : Nat) (expected : String)
  | unknownVariant (name : String) (known : List String)
  | missingField (name : String)
  | duplicateField (name : String)
  /-- A text of the right type that is no date, or a date that has no text. -/
  | unreadableDate
  deriving DecidableEq, Inhabited

/-- What a format has of its own in messages. -/
structure Wording where
  unit : String
  floating : Float → String

/-- A word between backticks. -/
def ticked (s : String) : String := "`" ++ s ++ "`"

/-- What was found, in words. -/
def Found.describe (w : Wording) : Found → String
  | .unit => w.unit
  | .boolean b => "boolean " ++ ticked (if b then "true" else "false")
  | .integer n => "integer " ++ ticked (toString n)
  | .wideNatural n => "integer " ++ ticked (toString n) ++ " as u128"
  | .wideInteger n => "integer " ++ ticked (toString n) ++ " as i128"
  | .floating x => "floating point " ++ ticked (w.floating x)
  | .text s => "string " ++ Text.Quoted.quote s
  | .sequence => "sequence"
  | .map => "map"

/-- The message for a mismatch; a date that fails has none of this library's wording. -/
def Mismatch.message (w : Wording) : Mismatch → Option String
  | .wrongType f e => some ("invalid type: " ++ f.describe w ++ ", expected " ++ e)
  | .wrongValue f e => some ("invalid value: " ++ f.describe w ++ ", expected " ++ e)
  | .wrongLength n e => some ("invalid length " ++ toString n ++ ", expected " ++ e)
  | .unknownVariant v known =>
    some ("unknown variant " ++ ticked v ++ ", expected one of " ++
      ", ".intercalate (known.map ticked))
  | .missingField f => some ("missing field " ++ ticked f)
  | .duplicateField f => some ("duplicate field " ++ ticked f)
  | .unreadableDate => none

end ActualState
