import GatherMap.Code.Token
import GatherMap.Text.Escape

/-!
# Reading source text: errors and shared pieces

The two ways of reading source text into token trees (`Code.Scan`) share their errors, the
punctuation characters, the delimiters, and the measures of comments and raw string bodies.
Every measure counts characters from the start of a list of characters; `byteLength` turns a
count into the byte range a token's span records.
-/

namespace GatherMap.Code

/-- Why a text is not a sequence of token trees. -/
inductive ScanError where
  /-- A group is still open at the end of the text; it wants this closing delimiter. -/
  | unclosed (close : Char)
  /-- A closing delimiter that closes no open group. -/
  | unexpectedClose (close : Char)
  /-- A quoted literal that the text ends inside; it wants this closing quote. -/
  | unterminatedQuote (quote : Char)
  /-- A backslash at the very end of the text, inside a quoted literal. -/
  | unterminatedEscape
  /-- A character that starts no token. -/
  | unexpectedChar (c : Char)
  /-- A block comment that the text ends inside. -/
  | unterminatedComment
  /-- A raw string that the text ends inside. -/
  | unterminatedRaw
  /-- A raw string prefix and hash signs not followed by a quote. -/
  | rawWithoutQuote
  deriving DecidableEq, Repr, Inhabited

/-- The message for a text that cannot be read. -/
def ScanError.message : ScanError → String
  | .unclosed c => "unclosed delimiter, expected \x60" ++ c.toString ++ "\x60"
  | .unexpectedClose c => "unexpected closing delimiter \x60" ++ c.toString ++ "\x60"
  | .unterminatedQuote q => "unterminated literal, expected \x60" ++ q.toString ++ "\x60"
  | .unterminatedEscape => "unterminated escape"
  | .unexpectedChar c => "unexpected character " ++ Text.quoteChar c
  | .unterminatedComment => "unterminated block comment"
  | .unterminatedRaw => "unterminated raw string"
  | .rawWithoutQuote => "expected \x60\"\x60 in raw string"

namespace Scan

/-- Characters that are punctuation tokens of their own. -/
def isPunctChar (c : Char) : Bool := "~!@#$%^&*-=+|;:,<.>/?'".contains c

/-- Number of UTF-8 bytes of some characters. -/
def byteLength (cs : List Char) : Nat := cs.foldl (fun n c => n + c.utf8Size) 0

/-- Length of a block comment body after its opening `/*`, up to and including the `*/` that
closes it; comments nest. `none` if the text ends first. -/
def blockCommentLength : List Char → Nat → Nat → Option Nat
  | '*' :: '/' :: rest, depth, n =>
    if depth ≤ 1 then some (n + 2) else blockCommentLength rest (depth - 1) (n + 2)
  | '/' :: '*' :: rest, depth, n => blockCommentLength rest (depth + 1) (n + 2)
  | _ :: rest, depth, n => blockCommentLength rest depth (n + 1)
  | [], _, _ => none

/-- Length of a raw string body up to and including a quote followed by `hashes` hash signs.
`none` if the text ends first. -/
def rawBodyLength (hashes : Nat) : List Char → Nat → Option Nat
  | '"' :: rest, n =>
    if (rest.take hashes).length == hashes && (rest.take hashes).all (· == '#') then
      some (n + 1 + hashes)
    else rawBodyLength hashes rest (n + 1)
  | _ :: rest, n => rawBodyLength hashes rest (n + 1)
  | [], _ => none

/-- Whether the text starts with a comment. -/
def startsComment : List Char → Bool
  | '/' :: '/' :: _ | '/' :: '*' :: _ => true
  | _ => false

/-- The closing character of a delimiter. -/
def closeOf : Delimiter → Char
  | .paren => ')'
  | .bracket => ']'
  | .brace => '}'

/-- The delimiter a character opens, if it opens one. -/
def opening? : Char → Option Delimiter
  | '(' => some .paren
  | '[' => some .bracket
  | '{' => some .brace
  | _ => none

/-- The delimiter a character closes, if it closes one. -/
def closing? : Char → Option Delimiter
  | ')' => some .paren
  | ']' => some .bracket
  | '}' => some .brace
  | _ => none

end Scan

end GatherMap.Code
