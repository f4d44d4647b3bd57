/-!
# Blank text

White space in the sense of Unicode, and text that holds nothing else.
-/
namespace ActualState.Text

/-- White space: the usual controls, the space, and the spaces and separators beyond ASCII. -/
def isBlank (c : Char) : Bool :=
  let n := c.toNat
  (0x09 ≤ n && n ≤ 0x0D) || n = 0x20 || n = 0x85 || n = 0xA0 || n = 0x1680 ||
    (0x2000 ≤ n && n ≤ 0x200A) || n = 0x2028 || n = 0x2029 || n = 0x202F || n = 0x205F ||
    n = 0x3000

/-- A text of white space only. -/
def isBlankText (s : String) : Bool := s.toList.all isBlank

end ActualState.Text
