/-!
# Blank characters

White space in the sense of Unicode, and the text that is left when it is cut off at both ends.
-/

namespace Telemetry.Text

def isBlank (c : Char) : Bool :=
  let n := c.toNat
  (0x09 ≤ n && n ≤ 0x0d) || n == 0x20 || n == 0x85 || n == 0xa0 || n == 0x1680 ||
    (0x2000 ≤ n && n ≤ 0x200a) || n == 0x2028 || n == 0x2029 || n == 0x202f || n == 0x205f ||
    n == 0x3000

/-- The characters between the first and the last one that is not blank. -/
def trimChars (cs : List Char) : List Char :=
  ((cs.dropWhile isBlank).reverse.dropWhile isBlank).reverse

def trim (s : String) : String :=
  String.ofList (trimChars s.toList)

/-- ASCII letters in lower case; every other character as it is. -/
def lower (s : String) : String :=
  String.ofList (s.toList.map Char.toLower)

end Telemetry.Text
