/-!
# White space

`isBlank` is the White_Space property of Unicode, and `trim` removes such
characters at both ends of a text. The zero width space U+200B, the byte order
mark U+FEFF and the controls outside U+0009–U+000D are no white space.
-/

namespace TunnelControl.Text

/-- The White_Space property. -/
def isBlank (c : Char) : Bool :=
  let n := c.toNat
  (0x09 ≤ n && n ≤ 0x0D) || n == 0x20 || n == 0x85 || n == 0xA0 || n == 0x1680 ||
    (0x2000 ≤ n && n ≤ 0x200A) || n == 0x2028 || n == 0x2029 || n == 0x202F || n == 0x205F ||
    n == 0x3000

/-- The text without the white space at its end. -/
def dropBlankEnd (cs : List Char) : List Char :=
  (cs.reverse.dropWhile isBlank).reverse

/-- The text without the white space at either end. -/
def dropBlanks (cs : List Char) : List Char :=
  dropBlankEnd (cs.dropWhile isBlank)

def trimEnd (s : String) : String := String.ofList (dropBlankEnd s.toList)

def trim (s : String) : String := String.ofList (dropBlanks s.toList)

end TunnelControl.Text
