import GatherMap.Code.Token
import GatherMap.Text.Identifier

/-!
# What a literal token stands for

A literal token keeps its source text; `Literal.classify` reads that text back into a value.
Integers are digits in base 2, 8, 10 or 16 with optional underscores and an optional suffix that
is an identifier; a text that also reads as a floating-point number (a fraction or an exponent)
is not an integer. Characters and bytes are one character or one escape between single quotes;
strings are read with their escapes, and raw strings as written. A literal whose text follows
none of these rules is kept as it is. A minus sign before a number is read with it, as the
grammar does where a pattern or an option holds a negative literal.
-/

namespace GatherMap.Code

/-- What a literal token stands for. -/
inductive Literal where
  /-- An integer with its suffix (empty when there is none); `negative` when a minus sign was
  read with it. -/
  | int (negative : Bool) (value : Nat) (suffix : String)
  | float (suffix : String)
  | str (value : String)
  | byteStr (bytes : List Nat)
  /-- A C string with its bytes, when its text reads as one. -/
  | cStr (bytes : Option (List Nat))
  | byte (value : Nat)
  | char (value : Char)
  /-- A literal that follows no rule. -/
  | verbatim
  deriving DecidableEq, Repr, Inhabited

namespace Literal

/-- Whether a text is an identifier: a start character, then continue characters. -/
def isIdent : List Char → Bool
  | c :: rest => (c == '_' || Text.isIdentStart c) && rest.all Text.isIdentContinue
  | [] => false

/-- Whether a text may follow a literal as its suffix: nothing, or an identifier. -/
def suffixOk (s : List Char) : Bool := s.isEmpty || isIdent s

/-- The value of a digit character in bases up to 16. -/
def digitValue (c : Char) : Option Nat :=
  if c.isDigit then some (c.toNat - '0'.toNat)
  else if 'a' ≤ c && c ≤ 'f' then some (c.toNat - 'a'.toNat + 10)
  else if 'A' ≤ c && c ≤ 'F' then some (c.toNat - 'A'.toNat + 10)
  else none

/-- After an `e` in a decimal integer: whether the text is a floating-point exponent instead
(`none`), or where the suffix starts (`some`), counted from the `e`. -/
def exponentCheck (afterE : List Char) : Option Unit :=
  let body := afterE.dropWhile fun c => c == '_' || c.isDigit
  let digits := (afterE.takeWhile fun c => c == '_' || c.isDigit).any Char.isDigit
  match body with
  | c :: _ => if c == '-' || c == '+' then none
    else if digits && suffixOk body then none else some ()
  | [] => if digits then none else some ()

/-- The digits of an integer in `base` and the rest of the text; `none` when the text is no
integer in that base. -/
def intDigits (base : Nat) : List Char → Nat → Bool → Option (Nat × Bool × List Char)
  | [], acc, seen => some (acc, seen, [])
  | c :: rest, acc, seen =>
    if c == '_' then intDigits base rest acc seen
    else if c == '.' && base == 10 then none
    else if (c == 'e' || c == 'E') && base == 10 then
      (exponentCheck rest).map fun _ => (acc, seen, c :: rest)
    else match digitValue c with
      | some d =>
        if d ≥ 10 && base ≤ 10 then some (acc, seen, c :: rest)
        else if d ≥ base then none
        else intDigits base rest (acc * base + d) true
      | none => some (acc, seen, c :: rest)

/-- An unsigned integer literal: its value and suffix. -/
def parseInt (s : List Char) : Option (Nat × String) :=
  let (base, digits) := match s with
    | '0' :: 'x' :: rest => (16, rest)
    | '0' :: 'o' :: rest => (8, rest)
    | '0' :: 'b' :: rest => (2, rest)
    | _ => (10, s)
  match s with
  | c :: _ =>
    if !c.isDigit then none
    else match intDigits base digits 0 false with
      | some (value, true, suffix) =>
        if suffixOk suffix then some (value, String.ofList suffix) else none
      | _ => none
  | [] => none

/-- Reading a floating-point literal: digits, at most one dot, an optional exponent with an
optional sign; underscores anywhere. The result is the suffix. -/
def floatScan : List Char → Bool → Bool → Bool → Bool → Option (List Char)
  | [], _, hasE, _, hasExp => if hasE && !hasExp then none else some []
  | c :: rest, hasDot, hasE, hasSign, hasExp =>
    if c == '_' then floatScan rest hasDot hasE hasSign hasExp
    else if c.isDigit then floatScan rest hasDot hasE hasSign (hasExp || hasE)
    else if c == '.' then
      if hasE || hasDot then none else floatScan rest true hasE hasSign hasExp
    else if c == 'e' || c == 'E' then
      let next := (rest.dropWhile (· == '_')).head?.getD '\x00'
      if !(next == '-' || next == '+' || next.isDigit) then
        (if hasE && !hasExp then none else some (c :: rest))
      else if hasE then (if hasExp then some (c :: rest) else none)
      else floatScan rest hasDot true hasSign hasExp
    else if c == '-' || c == '+' then
      if hasSign || hasExp || !hasE then none else floatScan rest hasDot hasE true hasExp
    else if hasE && !hasExp then none else some (c :: rest)

/-- A floating-point literal: its suffix. -/
def parseFloat (s : List Char) : Option String :=
  match s with
  | c :: _ =>
    if !c.isDigit then none
    else match floatScan s false false false false with
      | some suffix => if suffixOk suffix then some (String.ofList suffix) else none
      | none => none
  | [] => none

/-- The value of the two hexadecimal digits of a `\\x` escape. -/
def hexPair (a b : Char) : Option Nat :=
  match digitValue a, digitValue b with
  | some x, some y => some (x * 16 + y)
  | _, _ => none

/-- The digits of a `\\u{…}` escape after its brace: one to six hexadecimal digits, underscores
after the first, then the closing brace. The value with the rest of the text. -/
def unicodeDigits : List Char → Nat → Nat → Option (Nat × List Char)
  | '}' :: rest, value, count => if count == 0 then none else some (value, rest)
  | '_' :: rest, value, count => if count == 0 then none else unicodeDigits rest value count
  | c :: rest, value, count =>
    match digitValue c with
    | some d => if count == 6 then none else unicodeDigits rest (value * 16 + d) (count + 1)
    | none => none
  | [], _, _ => none

/-- Whether a number is a Unicode scalar value: at most `0x10FFFF` and no surrogate. -/
def isScalar (v : Nat) : Bool := v ≤ 0x10FFFF && !(0xD800 ≤ v && v ≤ 0xDFFF)

/-- One character or escape at the start of quoted text, and the rest. In `bytes` mode a `\\x`
escape may go above `0x7f`, `\\u{…}` is not allowed, and a plain character must be ASCII. -/
def unescapeOne (bytes : Bool) : List Char → Option (Nat × List Char)
  | '\\' :: 'x' :: a :: b :: rest =>
    (hexPair a b).bind fun v => if bytes || v ≤ 0x7f then some (v, rest) else none
  | '\\' :: 'u' :: '{' :: rest =>
    if bytes then none
    else (unicodeDigits rest 0 0).bind fun (v, after) => if isScalar v then some (v, after) else none
  | '\\' :: 'n' :: rest => some (10, rest)
  | '\\' :: 'r' :: rest => some (13, rest)
  | '\\' :: 't' :: rest => some (9, rest)
  | '\\' :: '\\' :: rest => some (92, rest)
  | '\\' :: '0' :: rest => some (0, rest)
  | '\\' :: '\'' :: rest => some (39, rest)
  | '\\' :: '"' :: rest => some (34, rest)
  | '\\' :: _ => none
  | c :: rest => if bytes && c.toNat ≥ 0x80 then none else some (c.toNat, rest)
  | [] => none

/-- A character or byte literal after its opening quote. -/
def parseQuoted (bytes : Bool) (body : List Char) : Option Nat :=
  match unescapeOne bytes body with
  | some (v, '\'' :: suffix) => if suffixOk suffix then some v else none
  | _ => none

/-- Dropping a prefix never makes a list longer. -/
theorem length_dropWhile_le (p : Char → Bool) (l : List Char) :
    (l.dropWhile p).length ≤ l.length :=
  (List.dropWhile_suffix p).length_le

/-- How the text of a quoted literal becomes code units: what an escape at the start of some
text stands for and how much text it takes, and what a plain character stands for; none where
the literal does not allow them. -/
structure Units where
  escape : List Char → Option (List Nat × List Char)
  plain : Char → Option (List Nat)

/-- The units of a string: code points. -/
def Units.text : Units :=
  ⟨fun cs => (unescapeOne false cs).map fun (v, rest) => ([v], rest), fun c => some [c.toNat]⟩

/-- The units of a byte string: bytes, every character ASCII and no escape naming a code
point. -/
def Units.bytes : Units :=
  ⟨fun cs => (unescapeOne true cs).map fun (v, rest) => ([v], rest),
    fun c => if c.toNat ≥ 0x80 then none else some [c.toNat]⟩

/-- The bytes of a code point in UTF-8. -/
def codePointBytes (v : Nat) : List Nat := (String.singleton (Char.ofNat v)).toUTF8.toList.map (·.toNat)

/-- The units of a C string: bytes, a `\\x` escape giving any byte and every other character in
UTF-8. -/
def Units.cText : Units :=
  ⟨fun cs => match cs with
    | '\\' :: 'x' :: a :: b :: rest => (hexPair a b).map fun v => ([v], rest)
    | _ => (unescapeOne false cs).map fun (v, rest) => (codePointBytes v, rest),
   fun c => some (codePointBytes c.toNat)⟩

/-- The units of a cooked string body after its opening quote, and the text after its closing
quote: escapes are read, and a backslash before a line break skips the break and the blanks
after it. -/
def stringBody (u : Units) : List Char → List Nat → Option (List Nat × List Char)
  | [], _ => none
  | '"' :: rest, acc => some (acc.reverse, rest)
  | '\\' :: '\n' :: rest, acc | '\\' :: '\r' :: rest, acc =>
    stringBody u (rest.dropWhile fun c => c == ' ' || c == '\t' || c == '\n' || c == '\r') acc
  | '\r' :: '\n' :: rest, acc => stringBody u rest (10 :: acc)
  | '\r' :: _, _ => none
  | '\\' :: c :: rest, acc =>
    match u.escape ('\\' :: c :: rest) with
    | some (vs, after) =>
      -- the escape took at least the backslash and one more character
      if after.length < rest.length + 2 then stringBody u after (vs.reverse ++ acc)
      else none
    | none => none
  | c :: rest, acc =>
    match u.plain c with
    | some vs => stringBody u rest (vs.reverse ++ acc)
    | none => none
termination_by cs => cs.length
decreasing_by
  all_goals simp only [List.length_cons] at *
  all_goals first
    | omega
    | exact Nat.lt_of_le_of_lt (length_dropWhile_le _ _) (by omega)

/-- A raw string after its `r`: hash signs, a quote, the text, a quote, as many hash signs. -/
def rawBody (s : List Char) : Option String :=
  let hashes := (s.takeWhile (· == '#')).length
  match s.drop hashes with
  | '"' :: body =>
    let closing := '"' :: List.replicate hashes '#'
    let n := body.length
    let candidates := (List.range (n + 1)).filter fun i =>
      (body.drop i).take closing.length == closing
    match candidates.head? with
    | some i => if suffixOk (body.drop (i + closing.length)) then some (String.ofList (body.take i))
      else none
    | none => none
  | _ => none

/-- The bytes of some characters in UTF-8. -/
def utf8Bytes (cs : List Char) : List Nat := (String.ofList cs).toUTF8.toList.map (·.toNat)

/-- What a literal's source text stands for. -/
def classify (text : String) : Literal :=
  let s := text.toList
  match s with
  | '"' :: body =>
    match stringBody .text body [] with
    | some (v, suffix) => if suffixOk suffix then .str (String.ofList (v.map Char.ofNat)) else .verbatim
    | none => .verbatim
  | 'r' :: rest => match rawBody rest with
    | some v => .str v
    | none => .verbatim
  | 'b' :: '"' :: body =>
    match stringBody .bytes body [] with
    | some (v, suffix) => if suffixOk suffix then .byteStr v else .verbatim
    | none => .verbatim
  | 'b' :: 'r' :: rest => match rawBody rest with
    | some v =>
      let cs := v.toList
      if cs.all (fun c : Char => c.toNat < 0x80) then .byteStr (cs.map Char.toNat) else .verbatim
    | none => .verbatim
  | 'c' :: '"' :: body =>
    match stringBody .cText body [] with
    | some (v, suffix) => .cStr (if suffixOk suffix then some v else none)
    | none => .cStr none
  | 'c' :: 'r' :: rest => .cStr ((rawBody rest).map fun v => utf8Bytes v.toList)
  | 'b' :: '\'' :: body => match parseQuoted true body with
    | some v => .byte v
    | none => .verbatim
  | '\'' :: body => match parseQuoted false body with
    | some v => .char (Char.ofNat v)
    | none => .verbatim
  | _ =>
    let (negative, magnitude) := match s with
      | '-' :: rest => (true, rest)
      | _ => (false, s)
    match parseInt magnitude with
    | some (v, suffix) => .int negative v suffix
    | none => match parseFloat magnitude with
      | some suffix => .float suffix
      | none => .verbatim

end Literal

end GatherMap.Code
