/-!
# Blank characters

White space in the sense of the Unicode standard: 25 characters, among them the no-break space
and the ideographic space, but neither the zero width space nor the byte order mark.

`trimEnd` removes blanks at the end of a text and `trim` at both ends; `allBlank` asks whether
anything else is left.
-/

namespace ServiceContract.Text

/-- The white space characters. -/
def isBlank (c : Char) : Bool :=
  let n := c.toNat
  (9 ≤ n && n ≤ 13) || n == 0x20 || n == 0x85 || n == 0xA0 || n == 0x1680 ||
    (0x2000 ≤ n && n ≤ 0x200A) || n == 0x2028 || n == 0x2029 || n == 0x202F || n == 0x205F ||
    n == 0x3000

/-- A text without the blanks at its end. -/
def trimEnd (s : String) : String :=
  String.ofList (s.toList.reverse.dropWhile isBlank).reverse

/-- A text without the blanks at its start and its end. -/
def trim (s : String) : String :=
  String.ofList ((s.toList.dropWhile isBlank).reverse.dropWhile isBlank).reverse

/-- Does a text hold blanks only? -/
def allBlank (s : String) : Bool :=
  s.toList.all isBlank

end ServiceContract.Text
