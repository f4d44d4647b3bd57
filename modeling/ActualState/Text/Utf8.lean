/-!
# UTF-8

Characters as byte sequences and back. `encode` writes one to four bytes a character;
`pieces` reads bytes from the left, giving a character for each well-formed sequence and
`none` for each maximal piece of a broken one. `decode` accepts only text without broken
pieces; `decodeLossy` puts U+FFFD in the place of each.
-/
namespace ActualState.Text.Utf8

/-- The byte with value `n`. -/
abbrev byte (n : Nat) : UInt8 := UInt8.ofNat n

/-- The bytes of one character, by its code point. -/
def encodeCodePoint (n : Nat) : List UInt8 :=
  if n < 0x80 then [byte n]
  else if n < 0x800 then [byte (0xC0 + n / 64), byte (0x80 + n % 64)]
  else if n < 0x10000 then
    [byte (0xE0 + n / 4096), byte (0x80 + n / 64 % 64), byte (0x80 + n % 64)]
  else
    [byte (0xF0 + n / 262144), byte (0x80 + n / 4096 % 64), byte (0x80 + n / 64 % 64),
      byte (0x80 + n % 64)]

/-- The bytes of a character sequence. -/
def encode (cs : List Char) : List UInt8 :=
  cs.flatMap fun c => encodeCodePoint c.toNat

@[simp] theorem encode_nil : encode [] = [] := rfl

@[simp] theorem encode_cons (c : Char) (cs : List Char) :
    encode (c :: cs) = encodeCodePoint c.toNat ++ encode cs := rfl

@[simp] theorem encode_append (as bs : List Char) : encode (as ++ bs) = encode as ++ encode bs := by
  simp [encode]

/-- The bytes of a text. -/
def ofString (s : String) : List UInt8 := encode s.toList

/-- A continuation byte, `10xxxxxx`. -/
def isContinuation (b : UInt8) : Bool := 0x80 ≤ b && b ≤ 0xBF

/-- The second bytes allowed after the lead byte of a longer sequence: they exclude overlong
forms, surrogates and code points past U+10FFFF. -/
def isSecond (lead b : UInt8) : Bool :=
  if lead = 0xE0 then 0xA0 ≤ b && b ≤ 0xBF
  else if lead = 0xED then 0x80 ≤ b && b ≤ 0x9F
  else if lead = 0xF0 then 0x90 ≤ b && b ≤ 0xBF
  else if lead = 0xF4 then 0x80 ≤ b && b ≤ 0x8F
  else isContinuation b

/-- The payload bits of a continuation byte. -/
def low (b : UInt8) : Nat := b.toNat % 64

/-- Characters from the left; `none` stands for a maximal piece of a broken sequence. -/
def pieces : List UInt8 → List (Option Char)
  | [] => []
  | a :: r =>
    if a < 0x80 then some (Char.ofNat a.toNat) :: pieces r
    else if 0xC2 ≤ a && a ≤ 0xDF then
      match r with
      | [] => [none]
      | b :: r =>
        if isContinuation b then some (Char.ofNat (a.toNat % 32 * 64 + low b)) :: pieces r
        else none :: pieces (b :: r)
    else if 0xE0 ≤ a && a ≤ 0xEF then
      match r with
      | [] => [none]
      | [b] => if isSecond a b then [none] else none :: pieces [b]
      | b :: c :: r =>
        if isSecond a b then
          if isContinuation c then
            some (Char.ofNat (a.toNat % 16 * 4096 + low b * 64 + low c)) :: pieces r
          else none :: pieces (c :: r)
        else none :: pieces (b :: c :: r)
    else if 0xF0 ≤ a && a ≤ 0xF4 then
      match r with
      | [] => [none]
      | [b] => if isSecond a b then [none] else none :: pieces [b]
      | [b, c] =>
        if isSecond a b then
          if isContinuation c then [none] else none :: pieces [c]
        else none :: pieces [b, c]
      | b :: c :: d :: r =>
        if isSecond a b then
          if isContinuation c then
            if isContinuation d then
              some (Char.ofNat
                (a.toNat % 8 * 262144 + low b * 4096 + low c * 64 + low d)) :: pieces r
            else none :: pieces (d :: r)
          else none :: pieces (c :: d :: r)
        else none :: pieces (b :: c :: d :: r)
    else none :: pieces r

/-- All pieces as characters, if none is broken. -/
def whole : List (Option Char) → Option (List Char)
  | [] => some []
  | none :: _ => none
  | some c :: r => (whole r).map (c :: ·)

/-- The characters of well-formed bytes. -/
def decode (bs : List UInt8) : Option (List Char) := whole (pieces bs)

/-- The text of well-formed bytes. -/
def toString? (bs : List UInt8) : Option String := (decode bs).map String.ofList

/-- The text of any bytes, with U+FFFD for each broken piece. -/
def decodeLossy (bs : List UInt8) : String :=
  String.ofList ((pieces bs).map fun p => p.getD '\uFFFD')

end ActualState.Text.Utf8
