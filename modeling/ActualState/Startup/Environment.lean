import ActualState.Text.Blank

/-!
# Environment variables and the file that adds to them

A file of lines `NAME=value`, optionally with `export` before the name. A value may be quoted,
hold escapes, run over several lines within quotes, and use variables that are set already. A
variable that is set keeps its value. Reading stops at the first line that breaks the rules; the
lines before it count.
-/
namespace ActualState.Startup

/-- The variables that are set. -/
abbrev Environment := List (String × String)

/-- The value of a variable. -/
def Environment.get? (env : Environment) (name : String) : Option String := List.lookup name env

/-- Sets a variable that is not set. -/
def Environment.setDefault (env : Environment) (name value : String) : Environment :=
  if (env.get? name).isSome then env else (name, value) :: env

namespace EnvFile

/-- Where in a line one is, as far as its end is concerned. -/
inductive Quoting where
  | plain
  | blank
  | escape
  | weak
  | weakEscape
  | strong
  | strongEscape
  deriving DecidableEq, Repr, Inhabited

/-- Where one is after a character. -/
def Quoting.next (q : Quoting) (c : Char) : Quoting :=
  match q with
  | .plain | .blank =>
    if c = '\\' then .escape
    else if c = '"' then .weak
    else if c = '\'' then .strong
    else if q = .plain && Text.isBlank c && c ≠ '\n' && c ≠ '\r' then .blank
    else .plain
  | .escape => .plain
  | .weak => if c = '\\' then .weakEscape else if c = '"' then .plain else .weak
  | .weakEscape => .weak
  | .strong => if c = '\\' then .strongEscape else if c = '\'' then .plain else .strong
  | .strongEscape => .strong

/-- What is after the line that begins here. -/
def skipLine (cs : List Char) : List Char := (cs.dropWhile (· ≠ '\n')).drop 1

/-- A line, and what is after it. A line within quotes goes on after a line break; one that goes
on at the end of the text is broken. The characters before are held last one first. -/
def scanLine (q : Quoting) (acc : List Char) : List Char → Option (List Char × List Char)
  | [] => if q = .plain then some (acc.reverse, []) else none
  | c :: r =>
    if q = .blank && c = '#' then some (acc.reverse, skipLine r)
    else
      let q := q.next c
      if c = '\n' && q = .plain then
        some ((if acc.head? = some '\r' then acc.tail else acc).reverse, r)
      else scanLine q (c :: acc) r

/-- The part of a value that is being read. -/
inductive Part where
  | plain
  | weak
  | strong
  /-- After a backslash, within double quotes or not. -/
  | escape (quoted : Bool)
  /-- The name of a variable after a dollar sign, last character first. -/
  | name (quoted : Bool) (acc : List Char)
  /-- Such a name in braces. -/
  | braced (quoted : Bool) (acc : List Char)
  /-- After the value. -/
  | after
  | comment
  deriving DecidableEq, Repr, Inhabited

/-- The part of a value outside of names and escapes. -/
def Part.base (quoted : Bool) : Part := if quoted then .weak else .plain

/-- The characters of a variable, last one first; none if it is not set. -/
def variableText (env : Environment) (acc : List Char) : List Char :=
  ((env.get? (String.ofList acc.reverse)).getD "").toList.reverse

/-- A character of a variable's name: beyond ASCII, any that is not blank. -/
def isNameChar (c : Char) : Bool := c.isAlphanum || (0x80 ≤ c.toNat && !Text.isBlank c)

/-- The character that an escape stands for. -/
def escapeChar? (c : Char) : Option Char :=
  if c = 'n' then some '\n'
  else if "\\'\"$ ".toList.contains c then some c
  else none

/-- Takes one character of a value. The value so far is held last character first. -/
def stepValue (env : Environment) (part : Part) (out : List Char) (c : Char) :
    Option (Part × List Char) :=
  match part with
  | .comment => some (.comment, out)
  | .after =>
    if c = ' ' || c = '\t' then some (.after, out)
    else if c = '#' then some (.comment, out)
    else none
  | .escape quoted => (escapeChar? c).map fun d => (.base quoted, d :: out)
  | .strong => some (if c = '\'' then (.plain, out) else (.strong, c :: out))
  | .name quoted acc =>
    if isNameChar c then some (.name quoted (c :: acc), out)
    else if c = '{' && acc.isEmpty then some (.braced quoted [], out)
    else
      let out := variableText env acc ++ out
      some (if c = '$' then (.name quoted [], out) else (.base quoted, c :: out))
  | .braced quoted acc =>
    some (if c = '}' then (.base quoted, variableText env acc ++ out)
      else (.braced quoted (c :: acc), out))
  | .weak =>
    some (if c = '$' then (.name true [], out)
      else if c = '"' then (.plain, out)
      else if c = '\\' then (.escape true, out)
      else (.weak, c :: out))
  | .plain =>
    some (if c = '$' then (.name false [], out)
      else if c = '\'' then (.strong, out)
      else if c = '"' then (.weak, out)
      else if c = '\\' then (.escape false, out)
      else if c = ' ' || c = '\t' then (.after, out)
      else (.plain, c :: out))

/-- The rest of a value, from a part of it on. Quotes and braces must be closed. -/
def readValue (env : Environment) (part : Part) (out : List Char) : List Char → Option String
  | [] =>
    match part with
    | .plain | .escape false | .after | .comment => some (String.ofList out.reverse)
    | .name false acc => some (String.ofList (variableText env acc ++ out).reverse)
    | .weak | .strong | .escape true | .name true _ | .braced _ _ => none
  | c :: r =>
    match stepValue env part out c with
    | none => none
    | some (part, out) => readValue env part out r

/-- The name that a line begins with, and what is after it. -/
def readName (cs : List Char) : Option (String × List Char) :=
  match cs with
  | c :: _ =>
    if c.isAlpha || c = '_' then
      let isPart (c : Char) : Bool := c.isAlphanum || c = '_' || c = '.'
      some (String.ofList (cs.takeWhile isPart), (cs.dropWhile isPart).dropWhile Text.isBlank)
    else none
  | [] => none

/-- What is after an equals sign. -/
def afterEquals : List Char → Option (List Char)
  | '=' :: r => some (r.dropWhile Text.isBlank)
  | _ => none

/-- The name that a line sets, and where its value begins. The word `export` may stand before the
name, or be the name. -/
def readTarget (cs : List Char) : Option (String × List Char) := do
  let (name, rest) ← readName cs
  match afterEquals rest with
  | some value => return (name, value)
  | none =>
    if name = "export" then
      let (name, rest) ← readName rest
      return (name, ← afterEquals rest)
    else none

/-- What a line sets: nothing if it is blank or a comment. -/
def readLine (env : Environment) (line : List Char) : Option (Option (String × String)) :=
  let cs := (line.reverse.dropWhile Text.isBlank).reverse.dropWhile Text.isBlank
  if cs.isEmpty || cs.head? = some '#' then some none
  else do
    let (name, value) ← readTarget cs
    if value.head? = some '#' then return some (name, "")
    else return some (name, ← readValue env .plain [] value)

/-- Reads at most so many lines. -/
def loadLines (env : Environment) : Nat → List Char → Environment
  | 0, _ => env
  | fuel + 1, cs =>
    if cs.isEmpty then env
    else if (cs.takeWhile (· ≠ '\n')).dropWhile Text.isBlank |>.head? |>.any (· = '#') then
      loadLines env fuel (skipLine cs)
    else
      match scanLine .plain [] cs with
      | none => env
      | some (line, rest) =>
        match readLine env line with
        | none => env
        | some none => loadLines env fuel rest
        | some (some (name, value)) => loadLines (env.setDefault name value) fuel rest

/-- The environment with what a file adds to it. A byte order mark before the text is no part
of it. -/
def load (env : Environment) (text : String) : Environment :=
  let cs := text.toList
  loadLines env (cs.length + 1) (if cs.head? = some '\uFEFF' then cs.drop 1 else cs)

end EnvFile

end ActualState.Startup
