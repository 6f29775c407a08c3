import ServiceCli.Text.CodePoints

/-!
White space and its removal at both ends of a text.
-/
namespace ServiceCli.Text

/-- Code points with the property White_Space. -/
def whiteSpace : CodePoints where
  flips :=
    [0x9, 0xE, 0x20, 0x21, 0x85, 0x86, 0xA0, 0xA1, 0x1680, 0x1681, 0x2000, 0x200B, 0x2028, 0x202A,
     0x202F, 0x2030, 0x205F, 0x2060, 0x3000, 0x3001]

def isBlank (c : Char) : Bool := whiteSpace.holds c

/-- A text without the white space at its two ends. -/
def trim (cs : List Char) : List Char :=
  ((cs.dropWhile isBlank).reverse.dropWhile isBlank).reverse

end ServiceCli.Text
