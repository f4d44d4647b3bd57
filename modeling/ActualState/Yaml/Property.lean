import ActualState.Text.Digits
import ActualState.Text.Utf8
import ActualState.Yaml.Place
import ActualState.Yaml.Token

/-!
# Anchors, tags and directives as they are written

What can stand before a node, and before a document. Every reader here begins at the indicator
of what it reads, and gives the token and what is after it, or none where the text breaks the
rules.
-/
namespace ActualState.Yaml

/-- Whether these characters may follow the name of an anchor. -/
def endsName (cs : List Char) : Bool :=
  atGap cs || "?:,]\x7d%@`".toList.contains (cs.headD ' ')

/-- Reads the name of an anchor or an alias. -/
def scanName (r : Rest) : Option (String × Rest) :=
  let (name, after) := (r.skip 1).span isWordChar
  if name.isEmpty || !endsName after.chars then none else some (name, after)

/-- A character that a tag may hold. Between angle brackets it may hold some more. -/
def isTagChar (verbatim : Bool) (c : Char) : Bool :=
  isWordChar c || ";/?:@&=+$.%!~*'()".toList.contains c || (verbatim && ",[]".toList.contains c)

/-- A byte of a tag, and whether it is written with a percent sign. -/
abbrev TagByte := UInt8 × Bool

/-- The bytes that the characters of a tag stand for. A percent sign needs two hex digits. -/
def tagBytes : List Char → Option (List TagByte)
  | '%' :: a :: b :: r =>
    match Text.hexDigit? (UInt8.ofNat a.toNat), Text.hexDigit? (UInt8.ofNat b.toNat) with
    | some h, some l => (tagBytes r).map ((UInt8.ofNat (h * 16 + l), true) :: ·)
    | _, _ => none
  | c :: r => if c = '%' then none else (tagBytes r).map ((UInt8.ofNat c.toNat, false) :: ·)
  | [] => some []

/-- How many bytes a character takes by its first one. -/
def leadWidth? (b : UInt8) : Option Nat :=
  if b < 0x80 then some 1
  else if b < 0xC0 then none
  else if b < 0xE0 then some 2
  else if b < 0xF0 then some 3
  else if b < 0xF8 then some 4
  else none

/-- Whether written-out bytes come in groups of the length that their first one asks for; `due`
more are due in the group that is open. -/
def isGrouped : Nat → List TagByte → Bool
  | due, [] => due = 0
  | 0, (b, escaped) :: r =>
    if escaped then
      match leadWidth? b with
      | some n => isGrouped (n - 1) r
      | none => false
    else isGrouped 0 r
  | due + 1, (b, escaped) :: r => escaped && Text.Utf8.isContinuation b && isGrouped due r

/-- The text of a tag, which ends before a zero byte. -/
def tagText (cs : List Char) : Option String := do
  let bs ← tagBytes cs
  if isGrouped 0 bs then
    some (Text.Utf8.decodeLossy ((bs.map Prod.fst).takeWhile (· ≠ 0)))
  else none

/-- Reads the characters of a tag. -/
def scanTagText (verbatim : Bool) (r : Rest) : Option (String × Rest) := do
  let (cs, after) := r.span (isTagChar verbatim)
  return (← tagText cs.toList, after)

/-- Reads characters of a tag, of which there must be some. -/
def scanSomeTagText (verbatim : Bool) (r : Rest) : Option (String × Rest) :=
  match r.chars with
  | c :: _ => if isTagChar verbatim c then scanTagText verbatim r else none
  | [] => none

/-- Reads a tag up to its end: in angle brackets, after a handle, or on its own. -/
def scanTagBody (r : Rest) : Option (Token × Rest) :=
  match r.chars with
  | '!' :: '<' :: _ => do
    let (text, after) ← scanSomeTagText true (r.skip 2)
    if after.chars.head? = some '>' then some (.tag "" text, after.skip 1) else none
  | _ => do
    let (word, after) := (r.skip 1).span isWordChar
    if after.chars.head? = some '!' then
      let (text, after) ← scanSomeTagText false (after.skip 1)
      return (.tag ("!" ++ word ++ "!") text, after)
    else
      let (text, after) ← scanTagText false (r.skip 1)
      return (if text.isEmpty then .tag "" "!" else .tag "!" text, after)

/-- Reads a tag. A gap must follow; in a flow collection a comma may. -/
def scanTag (flow : Bool) (r : Rest) : Option (Token × Rest) := do
  let (t, after) ← scanTagBody r
  if atGap after.chars || (flow && after.chars.head? = some ',') then some (t, after) else none

/-- Reads a number of up to nine digits. -/
def scanNumber (r : Rest) : Option (Nat × Rest) :=
  let (digits, after) := r.span Text.isDigit
  if 9 < digits.length then none
  else (Text.natural? 10 digits.toList).map fun n => (n, after)

/-- Reads the two numbers of a version. -/
def scanVersion (r : Rest) : Option (Token × Rest) := do
  let (major, after) ← scanNumber r
  if after.chars.head? = some '.' then
    let (minor, after) ← scanNumber (after.skip 1)
    return (.version major minor, after)
  else none

/-- Reads a handle for tags, and what it stands for. -/
def scanHandle (r : Rest) : Option (Token × Rest) := do
  if r.chars.head? ≠ some '!' then none
  else
    let (word, after) := (r.skip 1).span isWordChar
    let (handle, after) ←
      if after.chars.head? = some '!' then some ("!" ++ word ++ "!", after.skip 1)
      else if word.isEmpty then some ("!", after)
      else none
    if (after.chars.head?.map isBlank).getD false then
      let (start, after) ← scanSomeTagText true after.skipBlanks
      if atGap after.chars then some (.tagDirective handle start, after) else none
    else none

/-- Reads a directive with its whole line. -/
def scanDirective (r : Rest) : Option (Token × Rest) := do
  let (name, after) := (r.skip 1).span isWordChar
  if !atGap after.chars then none
  else
    let (t, after) ←
      match name with
      | "YAML" => scanVersion after.skipBlanks
      | "TAG" => scanHandle after.skipBlanks
      | _ => none
    let after := after.skipBlanks.skipComment
    if atLineEnd after.chars then some (t, after.skipBreak) else none

end ActualState.Yaml
