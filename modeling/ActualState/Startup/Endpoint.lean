import ActualState.Text.Digits

/-!
# Addresses to listen at

A host and a port, as in `0.0.0.0:8080` or `[::1]:80`. A host is an IPv4 address, also in the old
forms of one to four numbers in base 8, 10 or 16, an IPv6 address, or the name of this machine.
Only an address of this machine can be listened at.
-/
namespace ActualState.Startup

/-- A host. -/
inductive Host where
  | v4 (address : Nat)
  | v6 (groups : List Nat)
  deriving DecidableEq, Repr, Inhabited

/-- An address to listen at. -/
structure Endpoint where
  host : Host
  port : Nat
  deriving DecidableEq, Repr, Inhabited

/-- A port. -/
def port? (cs : List Char) : Option Nat :=
  (Text.natural? 10 (if cs.head? = some '+' then cs.drop 1 else cs)).filter (· < 65536)

/-- One number of an IPv4 address: `0x` begins one in base 16, `0` one in base 8. -/
def v4Number? : List Char → Option Nat
  | '0' :: 'x' :: r | '0' :: 'X' :: r => Text.natural? 16 r
  | '0' :: c :: r => Text.natural? 8 (c :: r)
  | cs => Text.natural? 10 cs

/-- The address that numbers make: one byte each, and the last number fills the rest. -/
def v4OfNumbers? (bytes acc : Nat) : List Nat → Option Nat
  | [] => none
  | [n] => if n < Nat.pow 256 bytes then some (acc * Nat.pow 256 bytes + n) else none
  | n :: rest =>
    match bytes with
    | b + 2 => if n < 256 then v4OfNumbers? (b + 1) (acc * 256 + n) rest else none
    | _ => none

/-- The characters between separators. -/
def splitChars (separator : Char) (cs : List Char) : List (List Char) :=
  cs.foldr (fun c acc =>
    if c = separator then [] :: acc
    else
      match acc with
      | [] => [[c]]
      | a :: rest => (c :: a) :: rest) [[]]

/-- An IPv4 address. -/
def v4? (cs : List Char) : Option Nat := do
  let numbers ← (splitChars '.' cs).mapM v4Number?
  v4OfNumbers? 4 0 numbers

/-- A group of an IPv6 address. -/
def group? (cs : List Char) : Option Nat := if 4 < cs.length then none else Text.natural? 16 cs

/-- Groups between colons; nothing at all is no groups. -/
def groups? (cs : List Char) : Option (List Nat) :=
  if cs.isEmpty then some [] else (splitChars ':' cs).mapM group?

/-- The two sides of the first double colon. -/
def splitDouble (acc : List Char) : List Char → Option (List Char × List Char)
  | ':' :: ':' :: r => some (acc.reverse, r)
  | c :: r => splitDouble (c :: acc) r
  | [] => none

/-- An IPv6 address; a double colon stands for as many zeros as are missing. -/
def v6? (cs : List Char) : Option (List Nat) :=
  match splitDouble [] cs with
  | none => (groups? cs).filter (·.length = 8)
  | some (a, b) => do
    let left ← groups? a
    let right ← groups? b
    if left.length + right.length < 8 then
      some (left ++ List.replicate (8 - left.length - right.length) 0 ++ right)
    else none

/-- A host that needs no look-up. -/
def host? (cs : List Char) : Option Host :=
  if String.ofList (cs.map Char.toLower) = "localhost" then some (.v4 0x7F000001)
  else ((v4? cs).map Host.v4) <|> ((v6? cs).map Host.v6)

/-- What is before and after the last colon. -/
def splitPort (cs : List Char) : Option (List Char × List Char) :=
  let r := cs.reverse
  match r.dropWhile (· ≠ ':') with
  | [] => none
  | _ :: before => some (before.reverse, (r.takeWhile (· ≠ ':')).reverse)

/-- An IPv6 address in brackets. -/
def bracketed? : List Char → Option (List Nat)
  | '[' :: r => if r.getLast? = some ']' then v6? r.dropLast else none
  | _ => none

namespace Endpoint

/-- The endpoint that a text names. -/
def parse? (s : String) : Option Endpoint := do
  let (host, port) ← splitPort s.toList
  let port ← port? port
  match bracketed? host with
  | some groups => return ⟨.v6 groups, port⟩
  | none => return ⟨← host? host, port⟩

/-- Whether this machine has the host's address: any address, or one of its own. -/
def isLocal (e : Endpoint) : Bool :=
  match e.host with
  | .v4 n => n = 0 || n / 16777216 = 127
  | .v6 groups => groups = List.replicate 8 0 || groups = List.replicate 7 0 ++ [1]

/-- Whether one can listen at what a text names. -/
def canBind (s : String) : Bool := (parse? s).any isLocal

end Endpoint

end ActualState.Startup
