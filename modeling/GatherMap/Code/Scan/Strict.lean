import GatherMap.Code.Scan.Basic
import GatherMap.Text.Identifier
import GatherMap.Text.Blank

/-!
# The strict reading of tokens

The strict reading follows the language's lexical grammar closely. Blanks are the Unicode white
space and the two direction marks; identifiers are made of XID_Start and XID_Continue
characters; a string checks its escapes' shape only loosely but must close, and a character
literal is one character or one escape between quotes.

A token is read by trying, in order: a literal (strings, byte strings, C strings, bytes,
characters, floating-point and integer numbers, each with an optional suffix), a punctuation
character, an identifier. A punctuation character is joined to the next token when that token is
punctuation too and does not start a comment. Numbers follow the longest reading that stays a
number: `1.5` is one literal, `1..2` is `1`, two dots and `2`, and `1.x` is `1`, a dot and `x`.

A doc comment (`///`, `//!`, `/** */`, `/*! */`) stands for the attribute `#[doc = "…"]` (with a
`!` after the `#` for the inner forms), its text quoted as a string literal.
-/

namespace GatherMap.Code

namespace Scan.Strict

/-- Blank characters between tokens. -/
def isBlank (c : Char) : Bool := Text.isWhiteSpace c || c == '\u200E' || c == '\u200F'

/-- Length of the identifier characters at the start. -/
def identTailLength (cs : List Char) : Nat := (cs.takeWhile Text.isIdentContinue).length

/-- Length of a suffix after a literal: an identifier, or nothing. -/
def suffixLength : List Char → Nat
  | c :: rest => if Text.isIdentStart c then 1 + identTailLength rest else 0
  | [] => 0

/-- Length of a quoted body up to and including the closing `close`; a backslash takes the next
character with it. `none` if the text ends first. -/
def quotedLength (close : Char) : List Char → Nat → Option Nat
  | '\\' :: _ :: rest, n => quotedLength close rest (n + 2)
  | c :: rest, n => if c == close then some (n + 1) else quotedLength close rest (n + 1)
  | [], _ => none

/-- The result of trying to read one kind of token: not this kind, an error, or the number of
characters the token takes. -/
abbrev Attempt := Option (Except ScanError Nat)

/-- A cooked quoted literal after a prefix of `pre` characters, with its suffix. -/
def quoted (pre : Nat) (body : List Char) : Attempt :=
  match quotedLength '"' body 0 with
  | some n => some (.ok (pre + n + suffixLength (body.drop n)))
  | none => some (.error (.unterminatedQuote '"'))

/-- A raw literal after a prefix of `pre` characters: hash signs, a quote, the body, a quote and
as many hash signs. Not a raw literal unless the quote follows the hash signs. -/
def raw (pre : Nat) (afterPrefix : List Char) : Attempt :=
  let hashes := (afterPrefix.takeWhile (· == '#')).length
  match afterPrefix.drop hashes with
  | '"' :: body =>
    match rawBodyLength hashes body 0 with
    | some n =>
      let len := pre + hashes + 1 + n
      some (.ok (len + suffixLength (body.drop n)))
    | none => some (.error .unterminatedRaw)
  | _ => none

/-- A quoted character or byte after its opening quote: one character or an escape, then the
closing quote. Not a literal otherwise. -/
def charBodyLength : List Char → Option Nat
  | '\\' :: 'u' :: '{' :: rest =>
    let inner := (rest.takeWhile (· != '}')).length
    match rest.drop inner with
    | '}' :: '\'' :: _ => some (inner + 5)
    | _ => none
  | '\\' :: 'x' :: a :: b :: '\'' :: _ => if a.isHexDigit && b.isHexDigit then some 5 else none
  | '\\' :: _ :: '\'' :: _ => some 3
  | c :: '\'' :: _ => if c == '\'' || c == '\n' || c == '\r' || c == '\t' then none else some 2
  | _ => none

/-- A quoted character or byte after a prefix of `pre` characters (the opening quote included). -/
def quotedChar (pre : Nat) (body : List Char) : Attempt :=
  (charBodyLength body).map fun n => .ok (pre + n + suffixLength (body.drop n))

/-- Length of the digits of an integer in `base`, underscores included. A digit too large for
the base makes the text no number. -/
def digitsLength (base : Nat) : List Char → Nat → Bool → Option Nat
  | c :: rest, n, empty =>
    if c.isDigit then
      if c.toNat - '0'.toNat ≥ base then none else digitsLength base rest (n + 1) false
    else if ('a' ≤ c && c ≤ 'f') || ('A' ≤ c && c ≤ 'F') then
      if base ≤ 10 then (if empty then none else some n) else digitsLength base rest (n + 1) false
    else if c == '_' then
      if empty && base == 10 then none else digitsLength base rest (n + 1) empty
    else if empty then none else some n
  | [], n, empty => if empty then none else some n

/-- An integer: an optional base prefix, digits, an optional suffix. -/
def integer (cs : List Char) : Attempt :=
  let (pre, base) := match cs with
    | '0' :: 'x' :: _ => (2, 16)
    | '0' :: 'o' :: _ => (2, 8)
    | '0' :: 'b' :: _ => (2, 2)
    | _ => (0, 10)
  (digitsLength base (cs.drop pre) 0 true).map fun n =>
    .ok (pre + n + suffixLength (cs.drop (pre + n)))

/-- Length of the exponent digits after `e` and an optional sign; `none` without a digit. -/
def exponentLength : List Char → Nat → Bool → Bool → Option Nat
  | c :: rest, n, signed, hasDigit =>
    if c == '+' || c == '-' then
      if hasDigit then some n else if signed then none else exponentLength rest (n + 1) true false
    else if c.isDigit then exponentLength rest (n + 1) signed true
    else if c == '_' then exponentLength rest (n + 1) signed hasDigit
    else if hasDigit then some n else none
  | [], n, _, hasDigit => if hasDigit then some n else none

/-- Length of the decimal digits and underscores at the start. -/
def decimalLength (cs : List Char) : Nat := (cs.takeWhile fun c => c.isDigit || c == '_').length

/-- A floating-point number: digits, then a fraction (a dot not followed by a dot or an
identifier), an exponent, or both, then an optional suffix. -/
def float (cs : List Char) : Attempt :=
  match cs with
  | c :: rest =>
    if !c.isDigit then none else
    let whole := 1 + decimalLength rest
    let afterWhole := cs.drop whole
    -- the fraction
    let (fraction, dotted) := match afterWhole with
      | '.' :: next :: _ =>
        if next == '.' || Text.isIdentStart next then (0, false)
        else (1 + decimalLength (afterWhole.drop 1), true)
      | ['.'] => (1, true)
      | _ => (0, false)
    let blocked := match afterWhole with
      | '.' :: next :: _ => next == '.' || Text.isIdentStart next
      | _ => false
    if blocked then none else
    let mantissa := whole + fraction
    match cs.drop mantissa with
    | e :: afterE =>
      if e == 'e' || e == 'E' then
        match exponentLength afterE 0 false false with
        | some n =>
          let len := mantissa + 1 + n
          some (.ok (len + suffixLength (cs.drop len)))
        | none =>
          if dotted then some (.ok (mantissa + suffixLength (cs.drop mantissa))) else none
      else if dotted then some (.ok (mantissa + suffixLength (cs.drop mantissa))) else none
    | [] => if dotted then some (.ok mantissa) else none
  | [] => none

/-- A literal at the start of the text, with its length. -/
def literal (cs : List Char) : Attempt :=
  match cs with
  | '"' :: body => quoted 1 body
  | 'r' :: rest => raw 1 rest
  | 'b' :: '"' :: body => quoted 2 body
  | 'b' :: 'r' :: rest => raw 2 rest
  | 'c' :: '"' :: body => quoted 2 body
  | 'c' :: 'r' :: rest => raw 2 rest
  | 'b' :: '\'' :: body => quotedChar 2 body
  | '\'' :: body => quotedChar 1 body
  | _ => (float cs).orElse fun _ => integer cs

/-- Length of an identifier at the start, raw (`r#name`) or plain. -/
def identLength (cs : List Char) : Option Nat :=
  match cs with
  | 'r' :: '#' :: c :: rest => if Text.isIdentStart c then some (3 + identTailLength rest) else none
  | c :: rest => if Text.isIdentStart c then some (1 + identTailLength rest) else none
  | [] => none

/-- The spacing of a punctuation character followed by `rest`. -/
def spacingBefore (rest : List Char) : Spacing :=
  match rest with
  | c :: _ => if isPunctChar c && !startsComment rest then .joint else .alone
  | [] => .alone

/-- A token that is not a delimiter, as a tree and its length in characters. -/
def leaf (cs : List Char) (pos : Nat) : Except ScanError (TokenTree × Nat) :=
  let spanOf (n : Nat) : Span := .range pos (pos + byteLength (cs.take n))
  match literal cs with
  | some (.ok n) => .ok (.literal (String.ofList (cs.take n)) (spanOf n), n)
  | some (.error e) => .error e
  | none =>
    match cs with
    | [] => .error (.unexpectedChar ' ')
    | c :: rest =>
      if isPunctChar c && !startsComment cs then
        if c == '\'' then
          match identLength rest with
          | some n =>
            if (rest.drop n).head? == some '\'' then .error (.unexpectedChar c)
            else .ok (.punct c .joint (spanOf 1), 1)
          | none => .error (.unexpectedChar c)
        else .ok (.punct c (spacingBefore rest) (spanOf 1), 1)
      else
        match identLength cs with
        | some n => .ok (.ident (String.ofList (cs.take n)) (spanOf n), n)
        | none => .error (.unexpectedChar c)

/-! ### Comments -/

/-- The text of a line comment after its opening: up to the line's end, a carriage return
before the line feed left out. -/
def lineText (cs : List Char) : List Char :=
  let line := cs.takeWhile (· != '\n')
  if line.length < cs.length && line.getLast? == some '\r' then line.dropLast else line

/-- Whether a comment's text has a carriage return that no line feed follows. -/
def hasBareReturn : List Char → Bool
  | '\r' :: '\n' :: rest => hasBareReturn rest
  | '\r' :: _ => true
  | _ :: rest => hasBareReturn rest
  | [] => false

/-- The tokens of the attribute a doc comment stands for, all with the comment's span. -/
def docAttribute (inner : Bool) (text : List Char) (span : Span) : Tokens :=
  let doc : Tokens := [.ident "doc" span, .punct '=' .alone span,
    .literal (Text.quoteStringSafe (String.ofList text)) span]
  [.punct '#' .alone span] ++ (if inner then [.punct '!' .alone span] else []) ++
    [.group .bracket doc span]

/-- A comment at the start of the text: how many characters it takes and the tokens it stands
for (none for a plain comment). `none` when no comment starts here. -/
def comment (cs : List Char) (pos : Nat) : Option (Except ScanError (Nat × Tokens)) :=
  let spanOf (n : Nat) : Span := .range pos (pos + byteLength (cs.take n))
  let docLine (inner : Bool) (body : List Char) :=
    let text := lineText body
    if hasBareReturn text then some (.error (.unexpectedChar '/'))
    else some (.ok (3 + text.length, docAttribute inner text (spanOf (3 + text.length))))
  let docBlock (inner : Bool) :=
    match blockCommentLength (cs.drop 2) 1 2 with
    | some n =>
      let text := (cs.take (n - 2)).drop 3
      if hasBareReturn text then some (.error (.unexpectedChar '/'))
      else some (.ok (n, docAttribute inner text (spanOf n)))
    | none => some (.error .unterminatedComment)
  match cs with
  | '/' :: '/' :: '!' :: body => docLine true body
  | '/' :: '/' :: '/' :: '/' :: _ => some (.ok ((cs.takeWhile (· != '\n')).length, []))
  | '/' :: '/' :: '/' :: body => docLine false body
  | '/' :: '/' :: _ => some (.ok ((cs.takeWhile (· != '\n')).length, []))
  | '/' :: '*' :: '*' :: '/' :: _ => some (.ok (4, []))
  | '/' :: '*' :: '!' :: _ => docBlock true
  | '/' :: '*' :: '*' :: '*' :: _ =>
    match blockCommentLength (cs.drop 2) 1 2 with
    | some n => some (.ok (n, []))
    | none => some (.error .unterminatedComment)
  | '/' :: '*' :: '*' :: _ => docBlock false
  | '/' :: '*' :: _ =>
    match blockCommentLength (cs.drop 2) 1 2 with
    | some n => some (.ok (n, []))
    | none => some (.error .unterminatedComment)
  | _ => none

end Scan.Strict

end GatherMap.Code
