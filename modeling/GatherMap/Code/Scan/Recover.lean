import GatherMap.Code.Scan.Strict
import GatherMap.Text.Emoji

/-!
# Reading a program as the compiler does

The compiler reads a whole program before it looks at any part of it, and most mistakes in the
text do not stop it: it reports them and reads on, so that the rest of the program is checked
too. `read` follows it:

* the blanks between tokens are the pattern white space of the language, a narrower set than
  Unicode's white space: a no-break space or an ideographic space starts no token;
* a character that starts no token is reported ("unknown start of token: \u{20ac}") and left
  out, a run of the same character once; when it looks like a punctuation character or a
  delimiter (a minus sign, a fullwidth parenthesis) that token is read in its place;
* an emoji, at the start of an identifier or inside one, makes the identifier invalid. It is read
  as an identifier all the same, and reported only after names are resolved;
* a character or string literal is read to its closing quote and then checked. Each malformed
  escape is reported at the escape ("invalid unicode character escape"), and a character literal
  with more than one character at the literal, which stays a literal with no value;
* a number takes every decimal digit after a binary or octal prefix, so that a digit too large
  for its base is reported rather than ending it; a prefix with no digits, an exponent with no
  digits and a fraction or an exponent after a prefix are reported too, and such a number stays
  a literal with no value;
* a quote, a raw string or a block comment that the text does not close stops the reading.

The delimiters are read but not yet matched: a program's text is part of a larger one, so only
the caller knows which groups are open around it.
-/

namespace GatherMap.Code

namespace Scan.Recover

/-- Blank characters between tokens: the pattern white space of the language. -/
def isBlank (c : Char) : Bool :=
  c == ' ' || c == '\t' || c == '\n' || c == '\r' || c == '\x0B' || c == '\x0C' ||
    c == '\x85' || c == '‎' || c == '‏' || c == ' ' || c == ' '

/-- A character as a message quotes it: printable ASCII as itself, any other character as its
escape. -/
def shownChar (c : Char) : String :=
  if 0x20 ≤ c.toNat && c.toNat ≤ 0x7E then c.toString
  else match c with
    | '\t' => "\\t"
    | '\n' => "\\n"
    | '\r' => "\\r"
    | _ => Text.unicodeEscape c

/-- Characters that look like a punctuation character or a delimiter, and the one they look
like. -/
def lookalikes : List (Char × Char) :=
  [('‐', '-'), ('‑', '-'), ('‒', '-'), ('–', '-'), ('—', '-'),
   ('﹘', '-'), ('۔', '-'), ('⁃', '-'), ('˗', '-'), ('−', '-'),
   ('➖', '-'), ('－', '-'),
   ('؍', ','), ('٫', ','), ('‚', ','), ('¸', ','), ('，', ','),
   (';', ';'), ('；', ';'),
   ('։', ':'), ('܃', ':'), ('܄', ':'), ('᛬', ':'), ('︰', ':'),
   ('᠃', ':'), ('᠉', ':'), ('⁚', ':'), ('׃', ':'), ('˸', ':'),
   ('∶', ':'), ('：', ':'),
   ('！', '!'), ('ǃ', '!'), ('ⵑ', '!'),
   ('ʔ', '?'), ('ॽ', '?'), ('？', '?'),
   ('․', '.'), ('܁', '.'), ('܂', '.'), ('꘎', '.'), ('٠', '.'),
   ('۰', '.'), ('．', '.'),
   ('（', '('), ('❨', '('), ('❲', '('), ('〔', '('), ('﴾', '('),
   ('）', ')'), ('❩', ')'), ('❳', ')'), ('〕', ')'), ('﴿', ')'),
   ('［', '['), ('❰', '['), ('【', '['), ('〖', '['), ('〚', '['),
   ('］', ']'), ('❱', ']'), ('】', ']'), ('〗', ']'), ('〛', ']'),
   ('❴', '{'), ('｛', '{'), ('❵', '}'), ('｝', '}'),
   ('٭', '*'), ('⁎', '*'), ('∗', '*'), ('＊', '*'),
   ('᜵', '/'), ('⁁', '/'), ('∕', '/'), ('⁄', '/'), ('╱', '/'),
   ('⟋', '/'), ('⧸', '/'), ('〳', '/'), ('／', '/'),
   ('＆', '&'), ('᛭', '+'), ('➕', '+'), ('＋', '+'),
   ('‹', '<'), ('❮', '<'), ('˂', '<'), ('ᐸ', '<'), ('ᚲ', '<'),
   ('＜', '<'), ('᐀', '='), ('⹀', '='), ('゠', '='), ('꓿', '='),
   ('＝', '='), ('›', '>'), ('❯', '>'), ('˃', '>'), ('ᐳ', '>'),
   ('＞', '>'), ('ߺ', '_'), ('﹍', '_'), ('﹎', '_'), ('﹏', '_'),
   ('＿', '_')]

/-! ### Literals -/

/-- The kinds of quoted literals, which differ in the escapes and characters they allow. -/
inductive Quoted where
  | char
  | byte
  | str
  | byteStr
  | cStr
  deriving DecidableEq, Repr, Inhabited

namespace Quoted

/-- Whether the literal stands for bytes. -/
def isBytes (q : Quoted) : Bool := q == .byte || q == .byteStr

/-- Whether `\x` escapes above `\x7f` are allowed. -/
def highBytes (q : Quoted) : Bool := q.isBytes || q == .cStr

/-- How a message names the literal for a character it may not hold. -/
def nonAsciiName (q : Quoted) : String :=
  if q == .byte then "byte literal" else "byte string literal"

end Quoted

/-- One escape read after its backslash: how many characters it takes after the backslash, and
what is wrong with it, if anything. A problem about one character is reported at the last
character taken (`lastOnly`); others at the whole escape. `nul` when it stands for NUL. -/
structure Escape where
  length : Nat
  problem : Option String := none
  lastOnly : Bool := false
  nul : Bool := false
  deriving Inhabited

/-- The value of a hexadecimal digit. -/
def hexValue (c : Char) : Nat :=
  if c.isDigit then c.toNat - 48 else if c.toNat ≥ 97 then c.toNat - 87 else c.toNat - 55

/-- The rest of a unicode escape after `\u{` and its first digit, with the digits so far and
their value. -/
def unicodeRest (q : Quoted) : List Char → Nat → Nat → Nat → Escape
  | [], taken, _, _ => { length := taken, problem := some "unterminated unicode escape" }
  | c :: rest, taken, digits, value =>
    if c == '_' then unicodeRest q rest (taken + 1) digits value
    else if c == '}' then
      let taken := taken + 1
      if digits > 6 then { length := taken, problem := some "overlong unicode escape" }
      else if q.isBytes then { length := taken, problem := some "unicode escape in byte string" }
      else if value > 0x10FFFF || (0xD800 ≤ value && value ≤ 0xDFFF) then
        { length := taken, problem := some "invalid unicode character escape" }
      else { length := taken, nul := value == 0 }
    else if c.isHexDigit then
      let value := if digits < 6 then value * 16 + hexValue c else value
      unicodeRest q rest (taken + 1) (digits + 1) value
    else
      { length := taken + 1, lastOnly := true,
        problem := some ("invalid character in unicode escape: \x60" ++ shownChar c ++ "\x60") }

/-- Read an escape after its backslash. -/
def escape (q : Quoted) (cs : List Char) : Escape :=
  let invalid (n : Nat) (c : Char) : Escape :=
    { length := n, lastOnly := true,
      problem := some ("invalid character in numeric character escape: \x60" ++ shownChar c ++
        "\x60") }
  match cs with
  | [] => { length := 0, problem := some "invalid trailing slash in literal" }
  | c :: rest =>
    match c with
    | '"' | 'n' | 'r' | 't' | '\\' | '\'' => { length := 1 }
    | '0' => { length := 1, nul := true }
    | 'x' =>
      match rest with
      | [] => { length := 1, problem := some "numeric character escape is too short" }
      | h :: rest' =>
        if !h.isHexDigit then invalid 2 h else
        match rest' with
        | [] => { length := 2, problem := some "numeric character escape is too short" }
        | l :: _ =>
          if !l.isHexDigit then invalid 3 l else
          let value := hexValue h * 16 + hexValue l
          if value > 0x7F && !q.highBytes then
            { length := 3, problem := some "out of range hex escape" }
          else { length := 3, nul := value == 0 }
    | 'u' =>
      match rest with
      | '{' :: d :: more =>
        if d == '_' then { length := 3, problem := some "invalid start of unicode escape: \x60_\x60" }
        else if d == '}' then { length := 3, problem := some "empty unicode escape" }
        else if d.isHexDigit then unicodeRest q more 3 1 (hexValue d)
        else
          { length := 3, lastOnly := true,
            problem := some ("invalid character in unicode escape: \x60" ++ shownChar d ++ "\x60") }
      | ['{'] => { length := 2, problem := some "unterminated unicode escape" }
      | [] => { length := 1, problem := some "incorrect unicode escape sequence" }
      | _ :: _ => { length := 2, problem := some "incorrect unicode escape sequence" }
    | _ =>
      { length := 1, lastOnly := true,
        problem := some ("unknown " ++ (if q.isBytes then "byte" else "character") ++
          " escape: \x60" ++ shownChar c ++ "\x60") }

/-- A problem found in a literal: its message and the characters it covers, from the start of
the literal's body. -/
abbrev Problem := String × Nat × Nat

/-- The problem of an escape whose backslash is character `start` of a literal. -/
def escapeProblem (start : Nat) (e : Escape) : Option Problem :=
  e.problem.map fun m =>
    if e.lastOnly then (m, start + e.length, start + e.length + 1)
    else (m, start, start + e.length + 1)

/-- The problems of a string's body, from character `place`. -/
def stringProblems (q : Quoted) : List Char → Nat → List Problem
  | [], _ => []
  | c :: rest, place =>
    if c == '\\' && rest.head? == some '\n' then
      -- a line continuation: the blanks that follow are skipped
      let more := rest.drop 1
      let skipped := (more.takeWhile fun d => d == ' ' || d == '\t' || d == '\n' || d == '\r')
      stringProblems q (more.drop skipped.length) (place + 2 + skipped.length)
    else if c == '\\' then
      let e := escape q rest
      let here := match e.problem with
        | some _ => (escapeProblem place e).toList
        | none =>
          if e.nul && q == .cStr then
            [("null characters in C string literals are not supported", place,
              place + 1 + e.length)]
          else []
      here ++ stringProblems q (rest.drop e.length) (place + 1 + e.length)
    else
      let here : List Problem :=
        if c == '\r' then [("bare CR not allowed in string, use \x60\\r\x60 instead", place, place + 1)]
        else if q.isBytes && c.toNat ≥ 0x80 then
          [("non-ASCII character in " ++ q.nonAsciiName, place, place + 1)]
        else if q == .cStr && c.toNat == 0 then
          [("null characters in C string literals are not supported", place, place + 1)]
        else []
      here ++ stringProblems q rest (place + 1)
termination_by cs _ => cs.length
decreasing_by
  all_goals simp only [List.length_cons, List.length_drop]
  all_goals omega

/-- The problem of a character or byte literal's body, with the length of the whole literal
(quotes included) for the problems that cover it. -/
def charProblem (q : Quoted) (body : List Char) (whole : Nat) (offset : Nat) : Option Problem :=
  match body with
  | [] => some ("empty character literal", 0, whole)
  | c :: rest =>
    let first : Option Problem × Nat :=
      if c == '\\' then
        let e := escape q rest
        (escapeProblem offset e, 1 + e.length)
      else if c == '\n' || c == '\t' || c == '\'' then
        (some ((if q == .byte then "byte" else "character") ++ " constant must be escaped: \x60" ++
          shownChar c ++ "\x60", offset, offset + 1), 1)
      else if c == '\r' then
        (some ("character constant must be escaped: \x60\\r\x60", offset, offset + 1), 1)
      else if q == .byte && c.toNat ≥ 0x80 then
        (some ("non-ASCII character in " ++ q.nonAsciiName, offset, offset + 1), 1)
      else (none, 1)
    match first with
    | (some p, _) => some p
    | (none, n) =>
      if body.length > n then some ("character literal may only contain one codepoint", 0, whole)
      else none

/-- Length of a single-quoted body after its opening quote, up to and including the closing
quote; `none` when the quote is not closed before a comment, a line's end or the text's end. -/
def singleQuoted (cs : List Char) : Option Nat :=
  let rec loop : List Char → Nat → Option Nat
    | '\'' :: _, n => some (n + 1)
    | '/' :: _, _ => none
    | '\n' :: rest, n =>
      match rest with
      | '\'' :: _ => loop rest (n + 1)
      | _ => none
    | '\\' :: _ :: rest, n => loop rest (n + 2)
    | ['\\'], _ => none
    | _ :: rest, n => loop rest (n + 1)
    | [], _ => none
  match cs with
  | a :: '\'' :: _ => if a != '\\' then some 2 else loop cs 0
  | _ => loop cs 0

/-- The problems of a quoted literal's text: for each, its message and the byte range it covers
in the text, which starts place byte offset `pos`. -/
def literalProblems (text : List Char) (pos : Nat) : List (String × Span) :=
  let spanOf (lo hi : Nat) : Span :=
    .range (pos + byteLength (text.take lo)) (pos + byteLength (text.take hi))
  let inString (q : Quoted) (pre : Nat) :=
    let body := match Strict.quotedLength '"' (text.drop pre) 0 with
      | some n => (text.drop pre).take (n - 1)
      | none => []
    (stringProblems q body 0).map fun (m, lo, hi) => (m, spanOf (pre + lo) (pre + hi))
  let inChar (q : Quoted) (pre : Nat) :=
    let body := match singleQuoted (text.drop pre) with
      | some n => (text.drop pre).take (n - 1)
      | none => []
    (charProblem q body (pre + body.length + 1) pre).toList.map fun (m, lo, hi) =>
      (m, spanOf lo hi)
  match text with
  | '"' :: _ => inString .str 1
  | 'b' :: '"' :: _ => inString .byteStr 2
  | 'c' :: '"' :: _ => inString .cStr 2
  | '\'' :: _ => inChar .char 1
  | 'b' :: '\'' :: _ => inChar .byte 2
  | _ => []

/-! ### Numbers -/

/-- Length of the decimal digits and underscores at the start, and whether a digit is among
them. -/
def decimalRun (cs : List Char) : Nat × Bool :=
  let run := cs.takeWhile fun c => c.isDigit || c == '_'
  (run.length, run.any Char.isDigit)

/-- Length of the hexadecimal digits and underscores at the start, and whether a digit is among
them. -/
def hexRun (cs : List Char) : Nat × Bool :=
  let run := cs.takeWhile fun c => c.isHexDigit || c == '_'
  (run.length, run.any Char.isHexDigit)

/-- Length of an exponent's optional sign and digits after its `e`, and whether a digit is among
them. -/
def exponentRun : List Char → Nat × Bool
  | s :: rest =>
    if s == '+' || s == '-' then
      let (n, d) := decimalRun rest
      (1 + n, d)
    else decimalRun (s :: rest)
  | [] => (0, false)

/-- How the compiler reads a number: the base its prefix names, its length without a suffix,
whether it is a floating-point number, and whether its digits (for an integer) or its exponent's
digits (for a floating-point number) are missing. The digits are read whatever the base: a digit
too large for it is found only later. -/
structure NumberShape where
  base : Nat
  length : Nat
  float : Bool
  empty : Bool
  deriving Repr, Inhabited

/-- The rest of a number after `length` characters of digits: a fraction when a dot follows that
is not followed by a second dot or an identifier, an exponent, or neither. -/
def afterDigits (base length : Nat) : List Char → NumberShape
  | '.' :: next =>
    let second := next.head?.getD '\x00'
    if second == '.' || Text.isIdentStart second then ⟨base, length, false, false⟩
    else if second.isDigit then
      let (n, _) := decimalRun next
      match next.drop n with
      | e :: afterE =>
        if e == 'e' || e == 'E' then
          let (m, has) := exponentRun afterE
          ⟨base, length + n + m + 2, true, !has⟩
        else ⟨base, length + n + 1, true, false⟩
      | [] => ⟨base, length + n + 1, true, false⟩
    else ⟨base, length + 1, true, false⟩
  | e :: afterE =>
    if e == 'e' || e == 'E' then
      let (m, has) := exponentRun afterE
      ⟨base, length + m + 1, true, !has⟩
    else ⟨base, length, false, false⟩
  | [] => ⟨base, length, false, false⟩

/-- How the compiler reads the number at the start of a text that starts with a digit. -/
def numberShape : List Char → NumberShape
  | '0' :: b :: rest =>
    if b == 'b' || b == 'o' || b == 'x' then
      let base := if b == 'b' then 2 else if b == 'o' then 8 else 16
      let (n, digits) := if base == 16 then hexRun rest else decimalRun rest
      if digits then afterDigits base (n + 2) (rest.drop n) else ⟨base, n + 2, false, true⟩
    else if b.isDigit || b == '_' then
      let (n, _) := decimalRun (b :: rest)
      afterDigits 10 (n + 1) ((b :: rest).drop n)
    else if b == '.' || b == 'e' || b == 'E' then afterDigits 10 1 (b :: rest)
    else ⟨10, 1, false, false⟩
  | _ :: rest =>
    let (n, _) := decimalRun rest
    afterDigits 10 (n + 1) (rest.drop n)
  | [] => ⟨10, 0, false, false⟩

/-- The length of the number token at the start of a text that starts with a digit, its suffix
included. -/
def numberLength (cs : List Char) : Nat :=
  let s := numberShape cs
  s.length + Strict.suffixLength (cs.drop s.length)

/-- The problems the compiler reports as it reads the number at the start of a text: a prefix
with no digits after it, a digit too large for a binary or octal number (each one), an exponent
with no digits (at the whole token), and a fraction or exponent after a base prefix. A number
with a problem stands for no value. -/
def numberProblems (cs : List Char) : List Problem :=
  let s := numberShape cs
  let baseName := if s.base == 16 then "hexadecimal" else if s.base == 8 then "octal" else "binary"
  if s.float then
    (if s.empty then [("expected at least one digit in exponent", 0, numberLength cs)] else []) ++
    (if s.base != 10 then [(baseName ++ " float literal is not supported", 0, s.length)] else [])
  else if s.empty then [("no valid digits found for number", 0, s.length)]
  else if s.base == 2 || s.base == 8 then
    ((cs.take s.length).drop 2).zipIdx.filterMap fun (c, i) =>
      if c != '_' && c.toNat - 48 ≥ s.base then
        some ("invalid digit for a base " ++ toString s.base ++ " literal", i + 2, i + 3)
      else none
  else []

/-- Whether a literal's text is a number the compiler cannot read. -/
def malformedNumber (text : String) : Bool :=
  match text.toList with
  | c :: rest => c.isDigit && !(numberProblems (c :: rest)).isEmpty
  | [] => false

/-! ### Reading -/

/-- What the reading finds place one place of the text: a token, or a delimiter with its byte
offset. -/
inductive Piece where
  | token (t : TokenTree)
  | opening (d : Delimiter) (pos : Nat)
  | closing (d : Delimiter) (pos : Nat)
  deriving Inhabited

/-- What has been read so far. -/
structure State where
  pieces : Array Piece := #[]
  /-- Problems reported as the text is read, in order. -/
  errors : Array (String × Span) := #[]
  /-- Identifiers with emoji, reported after names are resolved. -/
  emoji : Array (String × Span) := #[]
  /-- Whether a no-break space was reported already: later ones are taken as blanks. -/
  noBreakSeen : Bool := false
  /-- A problem that stops the reading. -/
  fatal : Option (String × Span) := none
  deriving Inhabited

/-- Whether a character makes an identifier invalid: an emoji outside ASCII. -/
def isEmojiChar (c : Char) : Bool := c.toNat ≥ 0x80 && Text.isEmoji c

/-- Length of the characters an invalid identifier goes on with: identifier characters, emoji
and the zero-width joiner. -/
def invalidTail (cs : List Char) : Nat :=
  (cs.takeWhile fun c => Text.isIdentContinue c || isEmojiChar c || c == '‍').length

/-- A delimiter character, opening or closing. -/
def delimiterPiece (c : Char) (pos : Nat) : Option Piece :=
  match opening? c, closing? c with
  | some d, _ => some (.opening d pos)
  | _, some d => some (.closing d pos)
  | none, none => none

/-- Read the text from byte offset `pos`. -/
def read : List Char → Nat → State → State
  | [], _, st => st
  | c :: rest, pos, st =>
    let spanOf (n : Nat) : Span := .range pos (pos + byteLength ((c :: rest).take n))
    let next (n : Nat) (st' : State) : State :=
      read (rest.drop (n - 1)) (pos + byteLength ((c :: rest).take (max n 1))) st'
    let token (t : TokenTree) (n : Nat) : State :=
      next n { st with pieces := st.pieces.push (.token t) }
    -- a literal or comment left open runs past the end of the text
    let stop (message : String) : State := { st with fatal := some (message, .callSite) }
    if isBlank c || (c == ' ' && st.noBreakSeen) then next 1 st
    else match Strict.comment (c :: rest) pos with
    | some (.ok (n, ts)) => next n { st with pieces := st.pieces ++ (ts.map Piece.token).toArray }
    | some (.error _) => stop "unterminated block comment"
    | none =>
    match delimiterPiece c pos with
    | some p => next 1 { st with pieces := st.pieces.push p }
    | none =>
    -- a literal, read as the strict reading does except for single quotes
    let quotedLiteral (pre : Nat) (body : List Char) (suffix : Bool) : State :=
      match singleQuoted body with
      | some n =>
        let len := pre + n + (if suffix then Strict.suffixLength (body.drop n) else 0)
        let text := (c :: rest).take len
        let st' := { st with errors := st.errors ++ (literalProblems text pos).toArray }
        let lit := TokenTree.literal (String.ofList text) (spanOf len)
        next len { st' with pieces := st'.pieces.push (.token lit) }
      | none => stop (if pre == 2 then "unterminated byte constant" else "unterminated character literal")
    match c, rest with
    | 'b', '\'' :: body => quotedLiteral 2 body true
    | '\'', body =>
      let canBeLifetime := match body with
        | _ :: '\'' :: _ => false
        | a :: _ => Text.isIdentStart a || a.isDigit
        | [] => false
      if !canBeLifetime then quotedLiteral 1 body true
      else
        let n := 1 + Strict.identTailLength (body.drop 1)
        match body.drop n with
        | '\'' :: _ => quotedLiteral 1 body false
        | _ =>
          let lifetime := String.ofList (body.take n)
          let quote := TokenTree.punct '\'' .joint (spanOf 1)
          let name := TokenTree.ident lifetime
            (.range (pos + 1) (pos + 1 + byteLength (body.take n)))
          next (1 + n) { st with pieces := st.pieces ++ #[.token quote, .token name] }
    | _, _ =>
    if c.isDigit then
      let n := numberLength (c :: rest)
      let text := (c :: rest).take n
      let spanAt (lo hi : Nat) : Span :=
        .range (pos + byteLength (text.take lo)) (pos + byteLength (text.take hi))
      let problems := (numberProblems text).map fun (m, lo, hi) => (m, spanAt lo hi)
      let st' := { st with errors := st.errors ++ problems.toArray }
      next n { st' with pieces := st'.pieces.push (.token (.literal (String.ofList text) (spanOf n))) }
    else
    match Strict.literal (c :: rest) with
    | some (.ok n) =>
      let text := (c :: rest).take n
      let st' := { st with errors := st.errors ++ (literalProblems text pos).toArray }
      let lit := TokenTree.literal (String.ofList text) (spanOf n)
      next n { st' with pieces := st'.pieces.push (.token lit) }
    | some (.error (.unterminatedQuote _)) =>
      stop (match c with
        | 'b' => "unterminated double quote byte string"
        | 'c' => "unterminated C string"
        | _ => "unterminated double quote string")
    | some (.error _) => stop "unterminated raw string"
    | none =>
    if Scan.isPunctChar c then
      token (.punct c (Strict.spacingBefore rest) (spanOf 1)) 1
    else
    let invalidIdent (n : Nat) : State :=
      let name := String.ofList ((c :: rest).take n)
      let st' := { st with emoji := st.emoji.push (name, spanOf n) }
      next n { st' with pieces := st'.pieces.push (.token (.ident name (spanOf n))) }
    match Strict.identLength (c :: rest) with
    | some n =>
      match (c :: rest).drop n with
      | d :: _ => if isEmojiChar d then invalidIdent (n + invalidTail ((c :: rest).drop n)) else
        token (.ident (String.ofList ((c :: rest).take n)) (spanOf n)) n
      | [] => token (.ident (String.ofList ((c :: rest).take n)) (spanOf n)) n
    | none =>
    if isEmojiChar c && (lookalikes.lookup c).isNone then invalidIdent (1 + invalidTail rest)
    else
      -- a character that starts no token, with the same characters after it
      let n := 1 + (rest.takeWhile (· == c)).length
      let st' := { st with
        errors := st.errors.push ("unknown start of token: " ++ shownChar c, spanOf n),
        noBreakSeen := st.noBreakSeen || c == ' ' }
      match lookalikes.lookup c with
      | some d =>
        match delimiterPiece d pos with
        | some p => next n { st' with pieces := st'.pieces.push p }
        | none => next n { st' with pieces := st'.pieces.push (.token (.punct d .alone (spanOf 1))) }
      | none => next n st'
termination_by cs _ _ => cs.length
decreasing_by all_goals simp only [List.length_drop, List.length_cons]; omega

/-- Match the delimiters of pieces into groups; `none` when they do not match. -/
def assemble (pieces : List Piece) : Option Tokens :=
  let step (acc : Option (List (Delimiter × Nat × Array TokenTree) × Array TokenTree))
      (p : Piece) :=
    acc.bind fun (stack, current) =>
      match p with
      | .token t => some (stack, current.push t)
      | .opening d place => some ((d, place, current) :: stack, #[])
      | .closing d place =>
        match stack with
        | (d', start, outer) :: rest =>
          if d == d' then some (rest, outer.push (.group d current.toList (.range start (place + 1))))
          else none
        | [] => none
  match pieces.foldl step (some ([], #[])) with
  | some ([], current) => some current.toList
  | _ => none

/-- The delimiter characters of pieces, in order. -/
def delimiters (pieces : List Piece) : List Char :=
  pieces.filterMap fun p =>
    match p with
    | .opening d _ => some (match d with
      | .paren => '('
      | .bracket => '['
      | .brace => '\x7b')
    | .closing d _ => some (closeOf d)
    | .token _ => none

end Scan.Recover

/-- What the compiler's reading makes of a text: the pieces it reads, the problems it reports as
it reads, the identifiers with emoji it reports later, and the problem that stopped it. -/
def readRecovering (text : String) : Scan.Recover.State :=
  Scan.Recover.read text.toList 0 {}

end GatherMap.Code
