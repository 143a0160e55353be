import DocDispatch.Text.Pieces

/-!
# Text/Blank — the words of a text

A blank is a character with the Unicode property White_Space.  Words are the non-empty pieces
between blanks.
-/

namespace DocDispatch.Text

/-- The 25 characters with the property White_Space. -/
def isBlank (c : Char) : Bool :=
  let n := c.toNat
  (9 ≤ n && n ≤ 13) || n == 0x20 || n == 0x85 || n == 0xA0 || n == 0x1680 ||
    (0x2000 ≤ n && n ≤ 0x200A) || n == 0x2028 || n == 0x2029 || n == 0x202F || n == 0x205F ||
    n == 0x3000

/-- **The words of a text**, in order. -/
def words (cs : List Char) : List (List Char) :=
  (pieces isBlank cs).filter fun p => !p.isEmpty

end DocDispatch.Text
