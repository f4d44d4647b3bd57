import ActualState.Yaml.Property
import ActualState.Yaml.Scalar

/-!
# From a YAML text to its tokens

A lexer takes one token at a time off a text. Two things make tokens appear that are not written
at their place: a line that is indented less ends block collections, and a colon makes a key of
what stands before it. A token that may yet turn out to be a key is held back until that is
settled, so `tokens` are those that were settled before the text stopped being YAML.
-/
namespace ActualState.Yaml

/-- A place where a key may have begun. -/
structure PendingKey where
  /-- How many tokens stand before it. -/
  number : Nat
  /-- Whether nothing but a key can stand there. -/
  required : Bool
  place : Place
  deriving DecidableEq, Repr, Inhabited

/-- The longest key whose colon is still looked for. -/
def maxKeyLength : Nat := 1024

/-- A text part way through. -/
structure Lexer where
  rest : Rest
  /-- The columns of the open block collections, innermost first. -/
  columns : List Nat := []
  /-- The pending key of this flow level. -/
  key : Option PendingKey := none
  /-- The pending keys of the flow levels around this one, innermost first. -/
  outerKeys : List (Option PendingKey) := []
  /-- Whether a key may begin here without a question mark. -/
  keyAllowed : Bool := true
  /-- The tokens that are held back. -/
  held : List Token := []
  /-- The number of tokens that are not. -/
  settled : Nat := 0
  ended : Bool := false
  deriving DecidableEq, Repr, Inhabited

namespace Lexer

/-- Before the first character. -/
def start (cs : List Char) : Lexer := { rest := ⟨cs, {}⟩ }

/-- Whether a flow collection is open. -/
def inFlow (l : Lexer) : Bool := !l.outerKeys.isEmpty

/-- One more than the innermost column, 0 without one. -/
def leastColumn (l : Lexer) : Nat :=
  match l.columns with
  | [] => 0
  | c :: _ => c + 1

/-- With another token. -/
def add (t : Token) (l : Lexer) : Lexer := { l with held := l.held ++ [t] }

/-- With another token of so many characters. -/
def addMark (t : Token) (width : Nat) (l : Lexer) : Lexer :=
  { l.add t with rest := l.rest.skip width }

/-- With a token that was read up to a place. -/
def addRead (read : Option (Token × Rest)) (l : Lexer) : Option Lexer :=
  read.map fun (t, r) => { l.add t with rest := r }

/-- Says whether a key may come next. -/
def allowKey (allowed : Bool) (l : Lexer) : Lexer := { l with keyAllowed := allowed }

/-- With tokens put in before the token with a number. -/
def insertAt (number : Nat) (ts : List Token) (l : Lexer) : Lexer :=
  let i := number - l.settled
  { l with held := l.held.take i ++ ts ++ l.held.drop i }

/-- Gives up the pending key of this level. -/
def dropKey (l : Lexer) : Option Lexer :=
  match l.key with
  | some k => if k.required then none else some { l with key := none }
  | none => some l

/-- Notes that a key may begin here. -/
def noteKey (l : Lexer) : Option Lexer :=
  if l.keyAllowed then do
    let l ← l.dropKey
    let required := !l.inFlow && l.columns.head? = some l.rest.place.column
    return { l with key := some ⟨l.settled + l.held.length, required, l.rest.place⟩ }
  else some l

/-- Whether a key that began at a place has become too long, or too many lines. -/
def isStale (l : Lexer) (k : PendingKey) : Bool :=
  k.place.line < l.rest.place.line || k.place.index + maxKeyLength < l.rest.place.index

/-- Gives up the pending keys that have become too long. -/
def dropStaleKeys (l : Lexer) : Option Lexer :=
  let keys := l.key :: l.outerKeys
  if keys.any fun k => (k.map fun k => l.isStale k && k.required).getD false then none
  else some { l with
    key := l.key.filter fun k => !l.isStale k
    outerKeys := l.outerKeys.map (·.filter fun k => !l.isStale k) }

/-- Ends the block collections whose column fails a test. -/
def closeWhile (p : Nat → Bool) (l : Lexer) : Lexer :=
  if l.inFlow then l
  else
    let closed := l.columns.takeWhile p
    { l with
      columns := l.columns.dropWhile p
      held := l.held ++ closed.map fun _ => Token.blockEnd }

/-- Begins a block collection at a column, if that is further in than the ones around it. -/
def openBlock (column : Nat) (l : Lexer) : Bool × Lexer :=
  if !l.inFlow && l.leastColumn ≤ column then (true, { l with columns := column :: l.columns })
  else (false, l)

/-- Begins a block collection here, or fails if none may begin or go on here. -/
def enterBlock (start : Token) (l : Lexer) : Option Lexer :=
  if l.inFlow then some l
  else if !l.keyAllowed then none
  else
    let (opened, l) := l.openBlock l.rest.place.column
    some (if opened then l.add start else l)

/-- Past blanks, comments and line breaks; at most so many lines. A tab counts as a blank where
no key may begin. -/
def skipGap : Nat → Lexer → Lexer
  | 0, l => l
  | fuel + 1, l =>
    let r := l.rest.skipMark
    let tabs := l.inFlow || !l.keyAllowed
    let r := r.skip (r.chars.takeWhile fun c => c = ' ' || (tabs && c = '\t')).length
    let r := r.skipComment
    match r.chars with
    | c :: _ =>
      if isBreak c then
        skipGap fuel { l with rest := r.skipBreak, keyAllowed := l.keyAllowed || !l.inFlow }
      else { l with rest := r }
    | [] => { l with rest := r }

/-- The end of the text. -/
def takeEnd (l : Lexer) : Option Lexer := do
  let p := l.rest.place
  let p := if p.column = 0 then p else ⟨p.index, p.line + 1, 0⟩
  let l ← ({ l with rest := ⟨l.rest.chars, p⟩ }.closeWhile fun _ => true).dropKey
  return { l.add .streamEnd with keyAllowed := false, ended := true }

/-- A directive. -/
def takeDirective (l : Lexer) : Option Lexer := do
  let l ← (l.closeWhile fun _ => true).dropKey
  (l.allowKey false).addRead (scanDirective l.rest)

/-- A document marker. -/
def takeMarker (t : Token) (l : Lexer) : Option Lexer := do
  let l ← (l.closeWhile fun _ => true).dropKey
  return (l.allowKey false).addMark t 3

/-- The opening bracket of a flow collection. -/
def takeFlowStart (t : Token) (l : Lexer) : Option Lexer := do
  let l ← l.noteKey
  return ({ l with key := none, outerKeys := l.key :: l.outerKeys }.allowKey true).addMark t 1

/-- The closing bracket of a flow collection. -/
def takeFlowEnd (t : Token) (l : Lexer) : Option Lexer := do
  let l ← l.dropKey
  let l :=
    match l.outerKeys with
    | k :: ks => { l with key := k, outerKeys := ks }
    | [] => l
  return (l.allowKey false).addMark t 1

/-- A comma. -/
def takeFlowEntry (l : Lexer) : Option Lexer := do
  let l ← l.dropKey
  return (l.allowKey true).addMark .flowEntry 1

/-- The dash before an element. -/
def takeBlockEntry (l : Lexer) : Option Lexer := do
  let l ← l.enterBlock .blockSequenceStart
  let l ← l.dropKey
  return (l.allowKey true).addMark .blockEntry 1

/-- The question mark before a key. -/
def takeKey (l : Lexer) : Option Lexer := do
  let l ← l.enterBlock .blockMappingStart
  let l ← l.dropKey
  return (l.allowKey !l.inFlow).addMark .key 1

/-- The colon before a value. It makes a key of what stands before it, if that may be one. -/
def takeValue (l : Lexer) : Option Lexer :=
  match l.key with
  | some k =>
    let (opened, l) := l.openBlock k.place.column
    let l := l.insertAt k.number (if opened then [.blockMappingStart, .key] else [.key])
    some (({ l with key := none }.allowKey false).addMark .value 1)
  | none => do
    let l ← l.enterBlock .blockMappingStart
    return (l.allowKey !l.inFlow).addMark .value 1

/-- Something that can be a key or begin one. -/
def takeAtom (read : Option (Token × Rest)) (l : Lexer) : Option Lexer := do
  let l ← l.noteKey
  (l.allowKey false).addRead read

/-- A quoted scalar. -/
def takeQuoted (style : Style) (scan : Place → List Char → Option (String × Rest)) (l : Lexer) :
    Option Lexer :=
  let r := l.rest.skip 1
  l.takeAtom ((scan r.place r.chars).map fun (s, after) => (.scalar s style, after))

/-- A block scalar. -/
def takeBlock (style : Style) (l : Lexer) : Option Lexer := do
  let l ← l.dropKey
  (l.allowKey true).addRead
    ((scanBlock (style = .folded) l.leastColumn (l.rest.skip 1)).map fun (s, after) =>
      (.scalar s style, after))

/-- A plain scalar. A key may begin on the line after it. -/
def takePlain (l : Lexer) : Option Lexer := do
  let l ← l.noteKey
  let t ← scanPlain l.inFlow l.leastColumn true [] {} l.rest.place l.rest.chars
  return { l.add (.scalar t.text .plain) with rest := t.rest, keyAllowed := t.broken }

/-- Whether a plain scalar may begin with these characters. -/
def beginsPlain (flow : Bool) : List Char → Bool
  | [] => false
  | c :: r =>
    if c = '-' then !(r.head?.map isBlank).getD false
    else if c = '?' || c = ':' then !flow && !atGap r
    else !isBlank c && !isBreak c && !",[]\x7b\x7d#&*!|>'\"%@`".toList.contains c

/-- The token that begins here. -/
def take (l : Lexer) : Option Lexer :=
  let r := l.rest
  let top := r.place.column = 0
  match r.chars with
  | [] => l.takeEnd
  | c :: cs =>
    if top && c = '%' then l.takeDirective
    else if top && atMarker r.chars then
      l.takeMarker (if c = '-' then .documentStart else .documentEnd)
    else if c = '[' then l.takeFlowStart .flowSequenceStart
    else if c = '{' then l.takeFlowStart .flowMappingStart
    else if c = ']' then l.takeFlowEnd .flowSequenceEnd
    else if c = '}' then l.takeFlowEnd .flowMappingEnd
    else if c = ',' then l.takeFlowEntry
    else if c = '-' && atGap cs then l.takeBlockEntry
    else if c = '?' && (l.inFlow || atGap cs) then l.takeKey
    else if c = ':' && (l.inFlow || atGap cs) then l.takeValue
    else if c = '*' then l.takeAtom ((scanName r).map fun (n, after) => (.alias n, after))
    else if c = '&' then l.takeAtom ((scanName r).map fun (n, after) => (.anchor n, after))
    else if c = '!' then l.takeAtom (scanTag l.inFlow r)
    else if c = '|' && !l.inFlow then l.takeBlock .literal
    else if c = '>' && !l.inFlow then l.takeBlock .folded
    else if c = '\'' then l.takeQuoted .singleQuoted (scanSingle [] {})
    else if c = '"' then l.takeQuoted .doubleQuoted (scanDouble [] {})
    else if beginsPlain l.inFlow r.chars then l.takePlain
    else none

/-- Takes the next token, whatever stands before it. -/
def advance (l : Lexer) : Option Lexer := do
  let l := l.skipGap (l.rest.chars.length + 1)
  let l ← l.dropStaleKeys
  (l.closeWhile fun column => l.rest.place.column < column).take

/-- The tokens that are held back no longer: those before every pending key. -/
def settle (l : Lexer) : List Token × Lexer :=
  let keys := (l.key :: l.outerKeys).filterMap fun k => k.map (·.number)
  let n := keys.foldl (fun n k => min n (k - l.settled)) l.held.length
  (l.held.take n, { l with held := l.held.drop n, settled := l.settled + n })

/-- The tokens from here on, at most so many steps. -/
def run : Nat → Lexer → List Token
  | 0, _ => [.invalid]
  | fuel + 1, l =>
    match l.advance.bind dropStaleKeys with
    | none => [.invalid]
    | some l =>
      let (ts, l) := l.settle
      if l.ended then ts else ts ++ run fuel l

end Lexer

/-- The tokens of a text. A byte order mark before it is no part of it. A text with a character
that YAML does not allow has none. -/
def tokens (cs : List Char) : List Token :=
  let cs := if cs.head? = some '\uFEFF' then cs.drop 1 else cs
  if cs.all isAllowed then
    let cs := unifyBreaks cs
    (Lexer.start cs).run (cs.length + 1)
  else [.invalid]

end ActualState.Yaml
