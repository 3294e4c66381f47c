import GatherMap.Text.Printable

/-!
# White space

A character is *white space* when it has the Unicode property White_Space: the ASCII tab, line
feed, vertical tab, form feed, carriage return and space, the next line control, and the space
and line separators beyond ASCII, such as the no-break space and the ideographic space.

The table lists the code points where membership changes, in increasing order, following the
Unicode Character Database, version 16.0.
-/

namespace GatherMap.Text

/-- Code points where White_Space changes, starting with the first white space character. -/
def whiteSpaceBounds : Array Nat := #[
    0x9, 0xE, 0x20, 0x21, 0x85, 0x86, 0xA0, 0xA1, 0x1680, 0x1681,
    0x2000, 0x200B, 0x2028, 0x202A, 0x202F, 0x2030, 0x205F, 0x2060, 0x3000, 0x3001]

/-- Whether a character is white space. -/
def isWhiteSpace (c : Char) : Bool :=
  inBounds whiteSpaceBounds c.toNat

end GatherMap.Text
