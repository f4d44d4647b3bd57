import ActualState.Text.Digits
import ActualState.Yaml.Place

/-!
# Scalars as they are written

The text of a scalar in each of its styles. Plain and quoted scalars may run over several
lines: a single line break between two words is read as a space, further ones are kept. Block
scalars are read line by line below their header.
-/
namespace ActualState.Yaml

/-- What stands between two words of a scalar: blanks on one line, or line breaks. The lists are
held last one first. -/
structure Gap where
  blanks : List Char := []
  broken : Bool := false
  /-- The first line break; none if the line was ended by a backslash. -/
  first : Option Char := none
  more : List Char := []
  deriving DecidableEq, Repr, Inhabited

namespace Gap

/-- The gap with one more blank; after a line break it is indentation. -/
def addBlank (g : Gap) (c : Char) : Gap := if g.broken then g else { g with blanks := c :: g.blanks }

/-- The gap with one more line break. -/
def addBreak (g : Gap) (c : Char) : Gap :=
  if g.broken then { g with more := c :: g.more } else { broken := true, first := some c }

/-- The gap after an escaped line break. -/
def escaped : Gap := { broken := true }

/-- What a gap is read as, last character first. -/
def text (g : Gap) : List Char :=
  if !g.broken then g.blanks
  else
    match g.first with
    | none => g.more
    | some '\n' => if g.more.isEmpty then [' '] else g.more
    | some c => g.more ++ [c]

end Gap

/-- A character that ends a plain scalar inside a flow collection. -/
def isFlowEnd (c : Char) : Bool := c = ',' || c = '[' || c = ']' || c = '{' || c = '}'

/-- Whether a colon before these characters has no business inside a flow collection. -/
def isStrayColon : List Char → Bool
  | c :: _ => isFlowEnd c || c = '?'
  | [] => false

/-- What a plain scalar comes to: its text, whether it ran into a new line after its last word,
and what is after it. -/
structure PlainText where
  text : String
  broken : Bool
  rest : Rest
  deriving DecidableEq, Repr, Inhabited

/-- Reads a plain scalar. `indent` is the least column of its further lines, `fresh` says whether
a word may begin here; the text so far is held last character first. A tab in the indentation,
or a stray colon, is an error. -/
def scanPlain (flow : Bool) (indent : Nat) (fresh : Bool) (acc : List Char) (gap : Gap) (p : Place) :
    List Char → Option PlainText
  | [] => some ⟨String.ofList acc.reverse, gap.broken, ⟨[], p⟩⟩
  | c :: r =>
    let stop : Option PlainText := some ⟨String.ofList acc.reverse, gap.broken, ⟨c :: r, p⟩⟩
    if isBlank c then
      if gap.broken && p.column < indent && c = '\t' then none
      else scanPlain flow indent true acc (gap.addBlank c) p.next r
    else if isBreak c then scanPlain flow indent true acc (gap.addBreak c) p.nextLine r
    else if fresh && ((!acc.isEmpty && !flow && p.column < indent) ||
        (p.column = 0 && atMarker (c :: r)) || c = '#') then stop
    else if flow && c = ':' && isStrayColon r then none
    else if (c = ':' && atGap r) || (flow && isFlowEnd c) then stop
    else scanPlain flow indent false (c :: (gap.text ++ acc)) {} p.next r

/-- The character that hex digits spell, if there is one. -/
def hexChar (ds : List Char) : Option Char := do
  let n ← Text.natural? 16 ds
  if (0xD800 ≤ n && n ≤ 0xDFFF) || 0x10FFFF < n then none else some (Char.ofNat n)

/-- The character that a one-letter escape stands for. -/
def escapeChar? : Char → Option Char
  | '0' => some '\x00'
  | 'a' => some '\x07'
  | 'b' => some '\x08'
  | 't' | '\t' => some '\t'
  | 'n' => some '\n'
  | 'v' => some '\x0b'
  | 'f' => some '\x0c'
  | 'r' => some '\r'
  | 'e' => some '\x1b'
  | ' ' => some ' '
  | '"' => some '"'
  | '/' => some '/'
  | '\\' => some '\\'
  | 'N' => some '\u0085'
  | '_' => some '\u00a0'
  | 'L' => some '\u2028'
  | 'P' => some '\u2029'
  | _ => none

/-- Reads a single-quoted scalar after its opening quote. -/
def scanSingle (acc : List Char) (gap : Gap) (p : Place) : List Char → Option (String × Rest)
  | [] => none
  | c :: r =>
    if p.column = 0 && atMarker (c :: r) then none
    else if isBlank c then scanSingle acc (gap.addBlank c) p.next r
    else if isBreak c then scanSingle acc (gap.addBreak c) p.nextLine r
    else
      let acc := gap.text ++ acc
      if c = '\'' then
        match r with
        | '\'' :: r => scanSingle ('\'' :: acc) {} (p.skip 2) r
        | r => some (String.ofList acc.reverse, ⟨r, p.next⟩)
      else scanSingle (c :: acc) {} p.next r

/-- Reads a double-quoted scalar after its opening quote. -/
def scanDouble (acc : List Char) (gap : Gap) (p : Place) : List Char → Option (String × Rest)
  | [] => none
  | '\\' :: 'x' :: a :: b :: r =>
    match hexChar [a, b] with
    | none => none
    | some c => scanDouble (c :: (gap.text ++ acc)) {} (p.skip 4) r
  | '\\' :: 'u' :: a :: b :: c :: d :: r =>
    match hexChar [a, b, c, d] with
    | none => none
    | some c => scanDouble (c :: (gap.text ++ acc)) {} (p.skip 6) r
  | '\\' :: 'U' :: a :: b :: c :: d :: e :: f :: g :: h :: r =>
    match hexChar [a, b, c, d, e, f, g, h] with
    | none => none
    | some c => scanDouble (c :: (gap.text ++ acc)) {} (p.skip 10) r
  | '\\' :: c :: r =>
    if isBreak c then scanDouble (gap.text ++ acc) .escaped p.next.nextLine r
    else
      match escapeChar? c with
      | none => none
      | some d => scanDouble (d :: (gap.text ++ acc)) {} (p.skip 2) r
  | ['\\'] => none
  | '"' :: r => some (String.ofList (gap.text ++ acc).reverse, ⟨r, p.next⟩)
  | c :: r =>
    if p.column = 0 && atMarker (c :: r) then none
    else if isBlank c then scanDouble acc (gap.addBlank c) p.next r
    else if isBreak c then scanDouble acc (gap.addBreak c) p.nextLine r
    else scanDouble (c :: (gap.text ++ acc)) {} p.next r

/-- What becomes of the line breaks that end a block scalar. -/
inductive Chomping where
  | clip
  | strip
  | keep
  deriving DecidableEq, Repr, Inhabited

/-- The header of a block scalar: its chomping, and its indentation if that is given. -/
structure BlockHeader where
  chomping : Chomping := .clip
  increment : Option Nat := none
  deriving DecidableEq, Repr, Inhabited

/-- The chomping that a sign stands for. -/
def chomping? : Char → Option Chomping
  | '+' => some .keep
  | '-' => some .strip
  | _ => none

/-- The indentation that a digit gives; zero is refused. -/
def increment? (c : Char) : Option Nat :=
  if '1' ≤ c && c ≤ '9' then some (c.toNat - 48) else none

/-- Reads the signs of a block header in either order. -/
def scanHeaderSigns (r : Rest) : Option (BlockHeader × Rest) :=
  match r.chars with
  | a :: b :: _ =>
    match chomping? a, increment? a, chomping? b, increment? b with
    | some k, _, _, some n => some (⟨k, some n⟩, r.skip 2)
    | some k, _, _, none => if b = '0' then none else some (⟨k, none⟩, r.skip 1)
    | none, some n, some k, _ => some (⟨k, some n⟩, r.skip 2)
    | none, some n, none, _ => some (⟨.clip, some n⟩, r.skip 1)
    | none, none, _, _ => if a = '0' then none else some ({}, r)
  | [a] =>
    match chomping? a, increment? a with
    | some k, _ => some (⟨k, none⟩, r.skip 1)
    | none, some n => some (⟨.clip, some n⟩, r.skip 1)
    | none, none => if a = '0' then none else some ({}, r)
  | [] => some ({}, r)

/-- Blank lines and indentation before a line of a block scalar. `indent` is 0 while the
indentation is not known; `widest` is the furthest column seen. -/
structure LeadIn where
  widest : Nat
  /-- The line breaks, last one first. -/
  breaks : List Char
  rest : Rest
  deriving DecidableEq, Repr, Inhabited

/-- Reads blank lines and indentation. A tab in the indentation is an error. -/
def scanLeadIn (indent widest : Nat) (breaks : List Char) (p : Place) : List Char → Option LeadIn
  | [] => some ⟨max widest p.column, breaks, ⟨[], p⟩⟩
  | c :: r =>
    let within := indent = 0 || p.column < indent
    if within && c = ' ' then scanLeadIn indent widest breaks p.next r
    else
      let widest := max widest p.column
      if within && c = '\t' then none
      else if isBreak c then scanLeadIn indent widest (c :: breaks) p.nextLine r
      else some ⟨widest, breaks, ⟨c :: r, p⟩⟩

/-- A block scalar in the making. Character lists are held last one first. -/
structure BlockText where
  acc : List Char := []
  /-- The break at the end of the line before. -/
  lineBreak : Option Char := none
  /-- Blank lines after it. -/
  blankLines : List Char := []
  /-- Whether the line before began with a blank. -/
  startedBlank : Bool := false
  deriving DecidableEq, Repr, Inhabited

/-- The text so far, with what separates it from a next line that begins with a blank or not. -/
def BlockText.join (b : BlockText) (folds : Bool) (blank : Bool) : List Char :=
  if folds && b.lineBreak = some '\n' && !b.startedBlank && !blank then
    if b.blankLines.isEmpty then ' ' :: b.acc else b.blankLines ++ b.acc
  else b.blankLines ++ (b.lineBreak.toList ++ b.acc)

/-- Reads the lines of a block scalar whose indentation is known, at most so many. -/
def scanBlockLines (folds : Bool) (indent : Nat) : Nat → BlockText → Rest → Option (BlockText × Rest)
  | 0, b, r => some (b, r)
  | fuel + 1, b, r =>
    match r.chars with
    | [] => some (b, r)
    | c :: _ =>
      if r.place.column ≠ indent then some (b, r)
      else
        let blank := isBlank c
        let line := r.chars.takeWhile fun c => !isBreak c
        let after := r.skip line.length
        let acc := line.reverse ++ b.join folds blank
        let lineBreak := after.chars.head?
        let next := after.skipBreak
        match scanLeadIn indent 0 [] next.place next.chars with
        | none => none
        | some l => scanBlockLines folds indent fuel ⟨acc, lineBreak, l.breaks, blank⟩ l.rest

/-- Reads a block scalar after its `|` or `>`; `least` is one more than the indentation around it,
0 at the top. -/
def scanBlock (folds : Bool) (least : Nat) (r : Rest) : Option (String × Rest) := do
  let (h, r) ← scanHeaderSigns r
  let r := r.skipBlanks.skipComment
  if !atLineEnd r.chars then none
  else
    let r := r.skipBreak
    let given : Nat :=
      match h.increment with
      | some n => least - 1 + n
      | none => 0
    let l ← scanLeadIn given 0 [] r.place r.chars
    let indent := if given = 0 then max (max l.widest least) 1 else given
    let start : BlockText := { blankLines := l.breaks }
    let (b, r) ← scanBlockLines folds indent l.rest.chars.length start l.rest
    let text :=
      match h.chomping with
      | .strip => b.acc
      | .clip => b.lineBreak.toList ++ b.acc
      | .keep => b.blankLines ++ (b.lineBreak.toList ++ b.acc)
    return (String.ofList text.reverse, r)

end ActualState.Yaml
