import GatherMap.Text.GraphemeExtend

/-!
# Escaping characters in quoted text

Quoted text writes a character as itself when it is printable, and otherwise as an escape:
`\0`, `\t`, `\r`, `\n` and `\\` for those characters, `\u{hex}` (lowercase, no leading zeros)
for the rest. A grapheme extender is always escaped, since it would attach to the quote or
backslash before it. Whether the two quote characters are escaped depends on the quote that
surrounds the text.

Byte strings escape bytes instead: the printable ASCII range `0x20 … 0x7e` stands for itself,
a few control bytes have short escapes, and every other byte is written `\x` with two hex digits.
-/

namespace GatherMap.Text

/-- Lowercase hexadecimal digits of a number, without prefix. -/
def hexDigits (n : Nat) : String := String.ofList (Nat.toDigits 16 n)

/-- The escape `\u{hex}` of a character. -/
def unicodeEscape (c : Char) : String := "\\u\x7b" ++ hexDigits c.toNat ++ "\x7d"

/-- A character in quoted text, escaping `'` and `"` as asked. -/
def escapeChar (c : Char) (escapeSingle escapeDouble : Bool) : String :=
  if c = '\x00' then "\\0"
  else if c = '\t' then "\\t"
  else if c = '\r' then "\\r"
  else if c = '\n' then "\\n"
  else if c = '\\' then "\\\\"
  else if c = '"' then (if escapeDouble then "\\\"" else "\"")
  else if c = '\'' then (if escapeSingle then "\\'" else "'")
  else if isGraphemeExtend c then unicodeEscape c
  else if isPrintable c then c.toString
  else unicodeEscape c

/-- A character between single quotes: `'` is escaped, `"` is not. -/
def quoteChar (c : Char) : String := "'" ++ escapeChar c true false ++ "'"

/-- Text between double quotes: `"` is escaped, `'` is not. -/
def quoteString (s : String) : String :=
  "\"" ++ String.join (s.toList.map (escapeChar · false true)) ++ "\""

/-- Whether a character is an octal digit, which an escape `\0` must not precede. -/
def isOctalDigit (c : Char) : Bool := '0' ≤ c && c ≤ '7'

/-- Text between double quotes, where a NUL before an octal digit is written `\x00` so that the
two cannot be read as one escape. -/
def quoteStringSafe (s : String) : String :=
  let rec go : List Char → List String
    | [] => []
    | '\x00' :: rest =>
      (match rest with
        | d :: _ => if isOctalDigit d then "\\x00" else "\\0"
        | [] => "\\0") :: go rest
    | c :: rest => escapeChar c false true :: go rest
  "\"" ++ String.join (go s.toList) ++ "\""

/-- How a byte string spells the bytes that need an escape. -/
structure ByteEscapes where
  /-- Write NUL as `\x00` when an octal digit follows. -/
  guardNul : Bool
  /-- Use uppercase hex digits in `\x` escapes. -/
  upperHex : Bool
  deriving DecidableEq, Repr

/-- Two hex digits of a byte. -/
def byteHex (upper : Bool) (b : Nat) : String :=
  let digit (d : Nat) : Char :=
    if d < 10 then Char.ofNat (48 + d) else Char.ofNat ((if upper then 55 else 87) + d)
  String.ofList [digit (b / 16), digit (b % 16)]

/-- A byte string literal `b"..."`. -/
def quoteBytes (style : ByteEscapes) (bytes : List Nat) : String :=
  let rec go : List Nat → List String
    | [] => []
    | b :: rest =>
      let text :=
        if b = 0 then
          match rest with
          | d :: _ => if style.guardNul && 48 ≤ d && d ≤ 55 then "\\x00" else "\\0"
          | [] => "\\0"
        else if b = 9 then "\\t"
        else if b = 10 then "\\n"
        else if b = 13 then "\\r"
        else if b = 34 then "\\\""
        else if b = 92 then "\\\\"
        else if 32 ≤ b && b ≤ 126 then (Char.ofNat b).toString
        else "\\x" ++ byteHex style.upperHex b
      text :: go rest
  "b\"" ++ String.join (go bytes) ++ "\""

end GatherMap.Text
