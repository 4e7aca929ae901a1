/-!
# Blanks and letter case

The blank characters are those of the Unicode property `White_Space`; letter case is that of ASCII.
-/

namespace Ambience.Text

/-- Whether a character has the property `White_Space`. -/
def isBlank (c : Char) : Bool :=
  let n := c.toNat
  (9 ≤ n && n ≤ 13) || n == 0x20 || n == 0x85 || n == 0xA0 || n == 0x1680 ||
    (0x2000 ≤ n && n ≤ 0x200A) || n == 0x2028 || n == 0x2029 || n == 0x202F || n == 0x205F ||
    n == 0x3000

/-- Characters without the blanks at either end. -/
def trimChars (text : List Char) : List Char :=
  ((text.dropWhile isBlank).reverse.dropWhile isBlank).reverse

/-- A text without the blanks at either end. -/
def trim (text : String) : String := String.ofList (trimChars text.toList)

/-- Whether two texts agree up to the case of ASCII letters. -/
def sameLetters (a b : String) : Bool := a.toList.map Char.toLower == b.toList.map Char.toLower

end Ambience.Text
