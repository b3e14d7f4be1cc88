/-! # Blanks

The characters that separate words and show nothing, in any script. -/

namespace LoginLoad
namespace Blank

/-- Whether a character is a blank. -/
def isIn (c : Char) : Bool :=
  let n := c.toNat
  9 ≤ n && n ≤ 13 || n = 0x20 || n = 0x85 || n = 0xA0 || n = 0x1680 || 0x2000 ≤ n && n ≤ 0x200A ||
    n = 0x2028 || n = 0x2029 || n = 0x202F || n = 0x205F || n = 0x3000

/-- Drops the blanks at both ends of a text. -/
def trim (text : List Char) : List Char := ((text.dropWhile isIn).reverse.dropWhile isIn).reverse

end Blank
end LoginLoad
