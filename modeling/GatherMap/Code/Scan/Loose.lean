import GatherMap.Code.Scan.Basic
import GatherMap.Text.Alphabetic
import GatherMap.Text.Blank

/-!
# The loose reading of tokens

The loose reading takes the shape of a token from its first characters and checks little of
what follows:

* blanks are the Unicode white space; identifiers start with an alphabetic character or `_` and
  go on with alphanumeric characters and `_` (`r#name` is a raw identifier);
* a number starts with a decimal digit. After a base prefix (`0x`, `0o`, `0b`) it takes the
  digits of that base and underscores, however few; a decimal number takes a fraction when a
  digit follows its dot (or when nothing that could continue it does), and an exponent when a
  digit follows the `e` and its optional sign. Any number ends in an optional suffix, an
  identifier: `0b102` is `0b10` and `2`, and `1e+_5` is `1e`, `+` and `_5`;
* a quoted literal runs to its closing quote, a backslash taking the next character with it,
  whatever that character is;
* after `'`, a lifetime starts when an identifier follows that the next character does not close
  (`'ab'` is the lifetime `'ab` and a quote); otherwise a character literal runs to the next
  quote, and a quote that nothing closes is a punctuation character;
* a raw string prefix (`r`, `br`, `cr`) followed by `#` or a quote must go on with hash signs and
  a quote.

A punctuation character is joined to the next character whenever that one is punctuation too,
even the `/` of a comment; comments of every kind are skipped.
-/

namespace GatherMap.Code

namespace Scan.Loose

/-- Blank characters between tokens. -/
def isBlank (c : Char) : Bool := Text.isWhiteSpace c

/-- Whether an identifier may start with `c`. -/
def isIdentStart (c : Char) : Bool := Text.isAlphabetic c || c == '_'

/-- Whether `c` may stand in an identifier after its first character. -/
def isIdentContinue (c : Char) : Bool := Text.isAlphanumeric c || c == '_'

/-- Length of the identifier characters at the start. -/
def identTailLength (cs : List Char) : Nat := (cs.takeWhile isIdentContinue).length

/-- Length of a suffix after a literal: an identifier, or nothing. -/
def suffixLength : List Char → Nat
  | c :: rest => if isIdentStart c then 1 + identTailLength rest else 0
  | [] => 0

/-- Length of a quoted body up to and including the closing `close`; a backslash takes the next
character with it. -/
def quotedLength (close : Char) : List Char → Nat → Except ScanError Nat
  | ['\\'], _ => .error .unterminatedEscape
  | '\\' :: _ :: rest, n => quotedLength close rest (n + 2)
  | c :: rest, n => if c == close then .ok (n + 1) else quotedLength close rest (n + 1)
  | [], _ => .error (.unterminatedQuote close)

/-- A quoted literal after a prefix of `pre` characters (the opening quote included), with its
suffix. -/
def quoted (close : Char) (pre : Nat) (body : List Char) : Except ScanError Nat :=
  (quotedLength close body 0).map fun n => pre + n + suffixLength (body.drop n)

/-- A raw literal after a prefix of `pre` characters: hash signs, a quote, the body, a quote and
as many hash signs, then a suffix. -/
def raw (pre : Nat) (afterPrefix : List Char) : Except ScanError Nat :=
  let hashes := (afterPrefix.takeWhile (· == '#')).length
  match afterPrefix.drop hashes with
  | '"' :: body =>
    match rawBodyLength hashes body 0 with
    | some n => .ok (pre + hashes + 1 + n + suffixLength (body.drop n))
    | none => .error .unterminatedRaw
  | _ => .error .rawWithoutQuote

/-- Whether `c` is a digit in `base` (2, 8, 10 or 16). -/
def isDigitIn (base : Nat) (c : Char) : Bool :=
  if c.isDigit then c.toNat - '0'.toNat < base
  else base == 16 && (('a' ≤ c && c ≤ 'f') || ('A' ≤ c && c ≤ 'F'))

/-- Length of the digits of `base` and underscores at the start. -/
def digitsLength (base : Nat) (cs : List Char) : Nat :=
  (cs.takeWhile fun c => isDigitIn base c || c == '_').length

/-- Length of a decimal number's fraction: a dot and its digits, a dot alone when nothing that
could continue the number follows it, or nothing. -/
def fractionLength : List Char → Nat
  | '.' :: d :: rest =>
    if d.isDigit then 2 + digitsLength 10 rest
    else if d == '.' || isIdentStart d then 0
    else 1
  | ['.'] => 1
  | _ => 0

/-- Length of an exponent: `e` or `E`, an optional sign, and digits that start with a digit. -/
def exponentLength : List Char → Nat
  | e :: d :: rest =>
    if e != 'e' && e != 'E' then 0
    else if d.isDigit then 2 + digitsLength 10 rest
    else if d == '+' || d == '-' then
      match rest with
      | f :: more => if f.isDigit then 3 + digitsLength 10 more else 0
      | [] => 0
    else 0
  | _ => 0

/-- Length of a number at the start of the text, which starts with a decimal digit. -/
def numberLength (cs : List Char) : Nat :=
  let body := match cs with
    | '0' :: 'x' :: rest => 2 + digitsLength 16 rest
    | '0' :: 'o' :: rest => 2 + digitsLength 8 rest
    | '0' :: 'b' :: rest => 2 + digitsLength 2 rest
    | _ =>
      let whole := digitsLength 10 cs
      let mantissa := whole + fractionLength (cs.drop whole)
      mantissa + exponentLength (cs.drop mantissa)
  body + suffixLength (cs.drop body)

/-- The spacing of a punctuation character followed by `rest`. -/
def spacingBefore : List Char → Spacing
  | c :: _ => if isPunctChar c then .joint else .alone
  | [] => .alone

/-- Whether a raw string starts after a prefix: a hash sign or a quote comes next. -/
def opensRaw : List Char → Bool
  | '#' :: _ | '"' :: _ => true
  | _ => false

/-- A token that is not a delimiter, as a tree and its length in characters. -/
def leaf (cs : List Char) (pos : Nat) : Except ScanError (TokenTree × Nat) :=
  let spanOf (n : Nat) : Span := .range pos (pos + byteLength (cs.take n))
  let lit (r : Except ScanError Nat) : Except ScanError (TokenTree × Nat) :=
    r.map fun n => (.literal (String.ofList (cs.take n)) (spanOf n), n)
  let word (n : Nat) : Except ScanError (TokenTree × Nat) :=
    .ok (.ident (String.ofList (cs.take n)) (spanOf n), n)
  let mark (c : Char) (rest : List Char) : Except ScanError (TokenTree × Nat) :=
    .ok (.punct c (spacingBefore rest) (spanOf 1), 1)
  match cs with
  | 'r' :: '#' :: c :: rest =>
    if isIdentStart c then word (3 + identTailLength rest) else lit (raw 1 (cs.drop 1))
  | 'r' :: rest => if opensRaw rest then lit (raw 1 rest) else word (1 + identTailLength rest)
  | 'b' :: 'r' :: rest =>
    if opensRaw rest then lit (raw 2 rest) else word (2 + identTailLength rest)
  | 'c' :: 'r' :: rest =>
    if opensRaw rest then lit (raw 2 rest) else word (2 + identTailLength rest)
  | 'b' :: '"' :: body => lit (quoted '"' 2 body)
  | 'c' :: '"' :: body => lit (quoted '"' 2 body)
  | 'b' :: '\'' :: body => lit (quoted '\'' 2 body)
  | '"' :: body => lit (quoted '"' 1 body)
  | '\'' :: rest =>
    match rest with
    | c :: after =>
      if isIdentStart c && after.head? != some '\'' then .ok (.punct '\'' .joint (spanOf 1), 1)
      else
        match quoted '\'' 1 rest with
        | .ok n => lit (.ok n)
        | .error _ => mark '\'' rest
    | [] => mark '\'' rest
  | c :: rest =>
    if c.isDigit then lit (.ok (numberLength cs))
    else if isIdentStart c then word (1 + identTailLength rest)
    else if isPunctChar c then mark c rest
    else .error (.unexpectedChar c)
  | [] => .error (.unexpectedChar ' ')

/-- A comment at the start of the text and how many characters it takes; `none` when no comment
starts here. -/
def comment (cs : List Char) : Option (Except ScanError Nat) :=
  match cs with
  | '/' :: '/' :: _ => some (.ok (cs.takeWhile (· != '\n')).length)
  | '/' :: '*' :: rest =>
    match blockCommentLength rest 1 2 with
    | some n => some (.ok n)
    | none => some (.error .unterminatedComment)
  | _ => none

end Scan.Loose

end GatherMap.Code
