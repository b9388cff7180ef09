import LinePalette.Text.Basic

/-!
# Blanks

A blank is a character with the Unicode property `White_Space`.  The set is
small enough to be listed.  Trimming removes blanks at the ends of a text, and
the words of a text are its maximal runs of characters that are not blank.
-/

namespace LinePalette
namespace Text

def isBlank (c : Char) : Bool :=
  let n := c.toNat
  (9 ≤ n && n ≤ 13) || n == 0x20 || n == 0x85 || n == 0xA0 || n == 0x1680 ||
    (0x2000 ≤ n && n ≤ 0x200A) || n == 0x2028 || n == 0x2029 || n == 0x202F ||
    n == 0x205F || n == 0x3000

/-!
# Trimming
-/

def trimStart (text : Text) : Text := text.dropWhile isBlank

def trimEndWhile (drop : Char -> Bool) (text : Text) : Text :=
  (text.reverse.dropWhile drop).reverse

def trim (text : Text) : Text := trimEndWhile isBlank (trimStart text)

/-!
# Words
-/

def words (text : Text) : List Text :=
  (splitWhere isBlank text).filter (!·.isEmpty)

end Text
end LinePalette
