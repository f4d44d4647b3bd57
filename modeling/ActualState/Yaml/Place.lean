/-!
# Places in a YAML text

Characters by the part they play, and where in a text one is. Line breaks of all kinds that
count as one new line are read as `\n`; the two Unicode separators stay as they are.
-/
namespace ActualState.Yaml

/-- A line break. -/
def isBreak (c : Char) : Bool := c = '\n' || c = '\u2028' || c = '\u2029'

/-- A space or a tab. -/
def isBlank (c : Char) : Bool := c = ' ' || c = '\t'

/-- A letter, a digit, `-` or `_`. -/
def isWordChar (c : Char) : Bool :=
  ('a' ≤ c && c ≤ 'z') || ('A' ≤ c && c ≤ 'Z') || ('0' ≤ c && c ≤ '9') || c = '-' || c = '_'

/-- Whether a blank, a line break or the end of the text comes next. -/
def atGap : List Char → Bool
  | [] => true
  | c :: _ => isBlank c || isBreak c

/-- Whether a line break or the end of the text comes next. -/
def atLineEnd : List Char → Bool
  | [] => true
  | c :: _ => isBreak c

/-- Whether a document marker comes next; it counts as one only in column 0. -/
def atMarker : List Char → Bool
  | '-' :: '-' :: '-' :: r => atGap r
  | '.' :: '.' :: '.' :: r => atGap r
  | _ => false

/-- A character that a YAML text may hold. -/
def isAllowed (c : Char) : Bool :=
  let n := c.toNat
  n = 0x09 || n = 0x0A || n = 0x0D || (0x20 ≤ n && n ≤ 0x7E) || n = 0x85 ||
    (0xA0 ≤ n && n ≤ 0xD7FF) || (0xE000 ≤ n && n ≤ 0xFFFD) || 0x10000 ≤ n

/-- The text with one character for each line break. -/
def unifyBreaks : List Char → List Char
  | '\r' :: '\n' :: r => '\n' :: unifyBreaks r
  | '\r' :: r => '\n' :: unifyBreaks r
  | '\u0085' :: r => '\n' :: unifyBreaks r
  | c :: r => c :: unifyBreaks r
  | [] => []

/-- A place in a text, counted from 0. -/
structure Place where
  index : Nat := 0
  line : Nat := 0
  column : Nat := 0
  deriving DecidableEq, Repr, Inhabited

namespace Place

/-- The place after a character that ends no line. -/
def next (p : Place) : Place := ⟨p.index + 1, p.line, p.column + 1⟩

/-- The place after a run of such characters. -/
def skip (p : Place) (n : Nat) : Place := ⟨p.index + n, p.line, p.column + n⟩

/-- The place after a line break. -/
def nextLine (p : Place) : Place := ⟨p.index + 1, p.line + 1, 0⟩

end Place

/-- What is left of a text, and where it begins. -/
structure Rest where
  chars : List Char
  place : Place
  deriving DecidableEq, Repr, Inhabited

namespace Rest

/-- Past `n` characters of this line. -/
def skip (r : Rest) (n : Nat) : Rest := ⟨r.chars.drop n, r.place.skip n⟩

/-- Past a byte order mark that begins this line, if one does. -/
def skipMark (r : Rest) : Rest :=
  if r.place.column = 0 && r.chars.head? = some '\uFEFF' then r.skip 1 else r

/-- Past the blanks that come next. -/
def skipBlanks (r : Rest) : Rest := r.skip (r.chars.takeWhile isBlank).length

/-- Past a comment that begins here, if one does. -/
def skipComment (r : Rest) : Rest :=
  match r.chars with
  | '#' :: _ => r.skip (r.chars.takeWhile fun c => !isBreak c).length
  | _ => r

/-- Past a line break that comes next, if one does. -/
def skipBreak (r : Rest) : Rest :=
  match r.chars with
  | c :: cs => if isBreak c then ⟨cs, r.place.nextLine⟩ else r
  | [] => r

/-- The characters that come next and pass a test, and what is after them. -/
def span (r : Rest) (p : Char → Bool) : String × Rest :=
  let cs := r.chars.takeWhile p
  (String.ofList cs, r.skip cs.length)

end Rest

end ActualState.Yaml
