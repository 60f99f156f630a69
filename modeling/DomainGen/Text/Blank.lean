/-!
# White space

The characters that separate tokens and are trimmed from the ends of a text:
the Unicode white-space property.
-/

namespace DomainGen.Text

/-- White space: the ASCII blanks and line breaks, the next-line and no-break
space characters, and the space separators of other scripts. -/
def isBlank (c : Char) : Bool :=
  let code := c.toNat
  (9 ≤ code && code ≤ 13) || code == 0x20 || code == 0x85 || code == 0xA0 ||
    code == 0x1680 || (0x2000 ≤ code && code ≤ 0x200A) || code == 0x2028 ||
    code == 0x2029 || code == 0x202F || code == 0x205F || code == 0x3000

/-- A text without the white space at either end. -/
def trimBlanks (text : String) : String :=
  let left := text.toList.dropWhile isBlank
  String.ofList (left.reverse.dropWhile isBlank).reverse

end DomainGen.Text
