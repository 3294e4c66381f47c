import GatherMap.Inline.Constant
import GatherMap.Text.Identifier

/-!
# Format strings

A format string (`format!("{:>5}|{:#x}", a, b)`) is text with placeholders. A placeholder names
its argument, by position or as the next one, and may give a *spec* after a colon:

    [[fill]align][sign]['#']['0'][width]['.' precision][kind]

* `align` is `<`, `^` or `>`, and `fill` the character that pads, a space by default; a number
  is aligned right by default, anything else left;
* `+` shows the sign of a number that is not negative too;
* `#` is the alternate form: `0x`, `0o` or `0b` before a number in another base, and the
  pretty debug form, one field a line with four spaces of indentation;
* `0` pads a number with zeros between its sign and its digits, whatever the alignment;
* the precision is the number of decimals of a floating-point number, rounded half to even
  from its exact value, and the most characters a string shows;
* the kind is nothing (`Display`), `?` (`Debug`, `x?` and `X?` with integers in base 16),
  `x`, `X`, `o`, `b` (the bits of an integer in base 16, 8 or 2, two's complement for a
  negative one) or `e`, `E` (a number in scientific notation).

A debug placeholder hands its spec on to the parts of a value: `{:5?}` pads the `1` of
`Some(1)`, not the whole text, and characters and strings are never padded in debug form.

`formatText` gives the text of a format string for the values of its arguments, or none when a
placeholder is outside this grammar or shows a value in a way its type does not allow.
-/

namespace GatherMap.Inline

/-- How a placeholder shows its value. -/
inductive FormatKind where
  | display
  | debug
  | lowerHex
  | upperHex
  | octal
  | binary
  | lowerExp
  | upperExp
  deriving DecidableEq, Repr, Inhabited

/-- The alignment of a padded value. -/
inductive Align where
  | left
  | center
  | right
  deriving DecidableEq, Repr, Inhabited

/-- The argument a placeholder, a width or a precision takes: the next one, one by position, or
one by name. -/
inductive ArgRef where
  | next
  | index (i : Nat)
  | name (n : String)
  deriving DecidableEq, Repr, Inhabited

/-- What a placeholder's spec asks for. A width or a precision is a number written in the
spec, or one an argument gives (`widthArg`, `precisionArg`). -/
structure FormatSpec where
  fill : Char := ' '
  align : Option Align := none
  plus : Bool := false
  alternate : Bool := false
  zero : Bool := false
  width : Option Nat := none
  widthArg : Option ArgRef := none
  precision : Option Nat := none
  precisionArg : Option ArgRef := none
  kind : FormatKind := .display
  /-- For a debug placeholder, whether integers are written in hexadecimal (`x?`), in upper
  case (`X?`). -/
  debugHex : Option Bool := none
  deriving Repr, Inhabited

/-- A piece of a format string: text, or a placeholder with the argument it shows, its spec, and
where it stands in the string (the index of its opening brace and its length in characters). -/
inductive FormatPiece where
  | text (s : String)
  | arg (ref : ArgRef) (spec : FormatSpec) (start length : Nat)
  deriving Repr, Inhabited

/-- The alignment an alignment character stands for. -/
def alignOf? : Char → Option Align
  | '<' => some .left
  | '^' => some .center
  | '>' => some .right
  | _ => none

/-- The leading decimal digits of some characters, as a number, and the rest. -/
def leadingNumber (cs : List Char) : Option Nat × List Char :=
  let digits := cs.takeWhile Char.isDigit
  if digits.isEmpty then (none, cs)
  else ((String.ofList digits).toNat?, cs.drop digits.length)

/-- Whether a character may start a name. -/
def nameStart (c : Char) : Bool := c.isAlpha || c == '_' || (c.toNat ≥ 0x80 && Text.isIdentStart c)

/-- Whether a character may continue a name. -/
def nameContinue (c : Char) : Bool :=
  c.isAlphanum || c == '_' || (c.toNat ≥ 0x80 && Text.isIdentContinue c)

/-- The argument a text names: nothing for the next one, digits for a position, or a name. -/
def argRefOf? (cs : List Char) : Option ArgRef :=
  match cs with
  | [] => some .next
  | c :: rest =>
    if cs.all Char.isDigit then (String.ofList cs).toNat?.map .index
    else if nameStart c && rest.all nameContinue then some (.name (String.ofList cs))
    else none

/-- A width or precision at the start of some characters: a number, or an argument by position
or name followed by `$`; with the rest. -/
def readCount (cs : List Char) : Option (Sum Nat ArgRef) × List Char :=
  let digits := cs.takeWhile Char.isDigit
  let word := cs.takeWhile nameContinue
  if !digits.isEmpty && (cs.drop digits.length).head? == some '$' then
    ((String.ofList digits).toNat?.map (Sum.inr ∘ .index), cs.drop (digits.length + 1))
  else if !digits.isEmpty then ((String.ofList digits).toNat?.map .inl, cs.drop digits.length)
  else if !word.isEmpty && (cs.drop word.length).head? == some '$' then
    ((argRefOf? word).map .inr, cs.drop (word.length + 1))
  else (none, cs)

/-- The spec after a placeholder's colon; none when it is outside the grammar. -/
def readSpec (cs : List Char) : Option FormatSpec :=
  let (fill, align, cs) := match cs with
    | f :: a :: rest =>
      match alignOf? a with
      | some al => (f, some al, rest)
      | none =>
        match alignOf? f with
        | some al => (' ', some al, a :: rest)
        | none => (' ', none, cs)
    | [a] =>
      match alignOf? a with
      | some al => (' ', some al, [])
      | none => (' ', none, cs)
    | [] => (' ', none, cs)
  let (plus, cs) := match cs with
    | '+' :: rest => (true, rest)
    | '-' :: rest => (false, rest)
    | _ => (false, cs)
  let (alternate, cs) := match cs with
    | '#' :: rest => (true, rest)
    | _ => (false, cs)
  let (zero, cs) := match cs with
    | '0' :: rest => (true, rest)
    | _ => (false, cs)
  let (width, cs) := readCount cs
  let (precision, cs, ok) := match cs with
    | '.' :: '*' :: rest => (some (Sum.inr ArgRef.next), rest, true)
    | '.' :: rest =>
      match readCount rest with
      | (some p, more) => (some p, more, true)
      | (none, more) => (none, more, false)
    | _ => (none, cs, true)
  let kind : Option FormatKind := match cs with
    | [] => some .display
    | ['?'] | ['x', '?'] | ['X', '?'] => some .debug
    | ['x'] => some .lowerHex
    | ['X'] => some .upperHex
    | ['o'] => some .octal
    | ['b'] => some .binary
    | ['e'] => some .lowerExp
    | ['E'] => some .upperExp
    | _ => none
  let number (c : Option (Sum Nat ArgRef)) : Option Nat := match c with
    | some (.inl n) => some n
    | _ => none
  let argument (c : Option (Sum Nat ArgRef)) : Option ArgRef := match c with
    | some (.inr r) => some r
    | _ => none
  if !ok then none else
  let debugHex : Option Bool := match cs with
    | ['x', '?'] => some false
    | ['X', '?'] => some true
    | _ => none
  kind.map fun k =>
    { fill, align, plus, alternate, zero, width := number width, widthArg := argument width,
      precision := number precision, precisionArg := argument precision, kind := k, debugHex }

/-- The pieces of a format string from the character at index `at_`; none when a placeholder
is outside the grammar. -/
def formatPieces (at_ : Nat) : List Char → Option (List FormatPiece)
  | [] => some []
  | '\x7b' :: '\x7b' :: rest => (FormatPiece.text "\x7b" :: ·) <$> formatPieces (at_ + 2) rest
  | '\x7d' :: '\x7d' :: rest => (FormatPiece.text "\x7d" :: ·) <$> formatPieces (at_ + 2) rest
  | '\x7b' :: rest =>
    let inside := rest.takeWhile (· != '\x7d')
    let after := rest.drop (inside.length + 1)
    if inside.length == rest.length then none else
    let position := inside.takeWhile (· != ':')
    let spec := (inside.drop (position.length + 1))
    match argRefOf? position, readSpec spec with
    | some r, some s =>
      (FormatPiece.arg r s at_ (inside.length + 2) :: ·) <$>
        formatPieces (at_ + inside.length + 2) after
    | _, _ => none
  | '\x7d' :: _ => none
  | c :: rest => (FormatPiece.text (String.singleton c) :: ·) <$> formatPieces (at_ + 1) rest
termination_by cs => cs.length
decreasing_by all_goals simp_all only [List.length_cons, List.length_drop]; omega

/-- A placeholder with the arguments it takes made explicit: the one it shows and those giving
its width and precision, each by position or by name. -/
structure Reference where
  value : ArgRef
  width : Option ArgRef
  precision : Option ArgRef
  start : Nat
  length : Nat
  /-- Whether the placeholder takes the next argument, for its value or its precision. -/
  implicit : Bool
  deriving Inhabited

/-- The placeholders of a format string with the next argument of each made a position: a
precision written `*` takes the next argument before the value does. -/
def references (pieces : List FormatPiece) : List Reference :=
  let step (acc : List Reference × Nat) (piece : FormatPiece) : List Reference × Nat :=
    let (out, next) := acc
    match piece with
    | .text _ => acc
    | .arg r spec start length =>
      let (precision, next, starred) := match spec.precisionArg with
        | some .next => (some (ArgRef.index next), next + 1, true)
        | p => (p, next, false)
      let (value, next, implicit) := match r with
        | .next => (ArgRef.index next, next + 1, true)
        | v => (v, next, starred)
      (out ++ [⟨value, spec.widthArg, precision, start, length, implicit⟩], next)
  (pieces.foldl step ([], 0)).1

/-! ### Showing values -/

/-- The digits of a number in a base up to 16, upper-case letters when `upper`. -/
def digitsIn (base : Nat) (upper : Bool) (n : Nat) : String :=
  let digit (d : Nat) : Char :=
    if d < 10 then Char.ofNat (48 + d) else Char.ofNat ((if upper then 55 else 87) + d)
  let rec go : Nat → Nat → List Char → List Char
    | 0, _, acc => acc
    | fuel + 1, k, acc => if k < base then digit k :: acc else go fuel (k / base) (digit (k % base) :: acc)
  String.ofList (go (n + 1) n [])

/-- A fraction written with `p` decimals, rounded half to even. -/
def fixedText (num den : Nat) (p : Nat) : String :=
  let scaled := Decimal.roundHalfEven (num * Nat.pow 10 p) den
  let s := toString scaled
  if p == 0 then s else
  let padded := String.ofList (List.replicate (p + 1 - min (p + 1) s.length) '0') ++ s
  let cs := padded.toList
  String.ofList (cs.take (cs.length - p)) ++ "." ++ String.ofList (cs.drop (cs.length - p))

/-- A positive value's decimal digits and exponent in scientific notation: the shortest that
reads back, or `p` decimals after the first digit rounded half to even. -/
def scientificText (num den : Nat) (shortest : Option (Nat × Int)) (p : Option Nat)
    (upper : Bool) : String :=
  let e := if upper then "E" else "e"
  match p, shortest with
  | none, some (digits, exp) =>
    let ds := toString digits
    let k : Int := ds.length - 1
    let mantissa := if ds.length == 1 then ds
      else String.ofList (ds.toList.take 1) ++ "." ++ String.ofList (ds.toList.drop 1)
    mantissa ++ e ++ toString (exp + k)
  | _, _ =>
    let p := p.getD 0
    -- the power of ten of the first digit, then the digits rounded at `p` decimals after it
    let lead := Decimal.leadingExp num den
    let guess : Int := (lead * 30103) / 100000
    let power : Int :=
      let reaches (k : Int) : Bool :=
        if k ≥ 0 then num ≥ den * Nat.pow 10 k.toNat else num * Nat.pow 10 (-k).toNat ≥ den
      if reaches (guess + 1) then guess + 1 else if reaches guess then guess else guess - 1
    let shift : Int := p - power
    let scaled := if shift ≥ 0 then Decimal.roundHalfEven (num * Nat.pow 10 shift.toNat) den
      else Decimal.roundHalfEven num (den * Nat.pow 10 (-shift).toNat)
    let (scaled, power) := if (toString scaled).length > p + 1 then (scaled / 10, power + 1)
      else (scaled, power)
    let ds := (toString scaled).toList
    let mantissa := if p == 0 then String.ofList ds
      else String.ofList (ds.take 1) ++ "." ++ String.ofList (ds.drop 1)
    mantissa ++ e ++ toString power

/-- Pad a text to the spec's width with its fill, aligned as asked or by default (`numeric`
aligns right). -/
def padded (spec : FormatSpec) (numeric : Bool) (text : String) : String :=
  let len := text.length
  match spec.width with
  | some w =>
    if len ≥ w then text else
    let gap := w - len
    let fill (n : Nat) := String.ofList (List.replicate n spec.fill)
    match spec.align.getD (if numeric then .right else .left) with
    | .left => text ++ fill gap
    | .right => fill gap ++ text
    | .center => fill (gap / 2) ++ text ++ fill (gap - gap / 2)
  | none => text

/-- A number from its sign, the prefix of its base and its digits: zero padding goes between
the prefix and the digits. -/
def numberText (spec : FormatSpec) (negative : Bool) (pre digits : String) : String :=
  let sign := if negative then "-" else if spec.plus then "+" else ""
  match spec.zero, spec.width with
  | true, some w =>
    let len := sign.length + pre.length + digits.length
    sign ++ pre ++ String.ofList (List.replicate (w - min w len) '0') ++ digits
  | _, _ => padded spec true (sign ++ pre ++ digits)

/-- The text of a floating-point value in decimal notation: its shortest form, or `precision`
decimals rounded half to even; `debug` writes a whole number with `.0` and large and small
numbers in scientific notation, as the debug form does. -/
def floatText (spec : FormatSpec) (debug : Bool) : Decimal.FloatValue → String
  | .nan => padded spec true "NaN"
  | .infinite s => numberText { spec with zero := false } s "" "inf"
  | .finite s b =>
    match spec.precision with
    | some p =>
      let (n, d) := b.fraction
      numberText spec s "" (fixedText n d p)
    | none =>
      let text := if debug then (Decimal.FloatValue.finite false b).debugText
        else (Decimal.FloatValue.finite false b).plainText
      numberText spec s "" text

/-- The debug text of a value under a spec. The library hands its formatter on to the parts of
a value, so the spec's flags, width and precision apply to each number, `bool` and `()` inside
it, and `x?` or `X?` writes its integers in hexadecimal; characters and strings are written
whole, without padding. With `alternate` the parts are written one a line, indented by
`indent + 4` spaces, each followed by a comma. -/
def debugWith (spec : FormatSpec) (indent : Nat) : Constant → String
  | .int t i =>
    match spec.debugHex with
    | some upper =>
      numberText spec false (if spec.alternate then "0x" else "")
        (digitsIn 16 upper (i % Int.pow 2 t.bits).toNat)
    | none => numberText spec (i < 0) "" (toString i.natAbs)
  | .float _ x => floatText spec true x
  | .bool b => padded spec false (if b then "true" else "false")
  | .tuple [] => padded spec false "()"
  | .tuple xs =>
    let parts := xs.attach.map fun ⟨x, _⟩ => debugWith spec (indent + 4) x
    if spec.alternate then lines "(" ")" parts
    else "(" ++ ", ".intercalate parts ++ (if parts.length == 1 then ",)" else ")")
  | .array xs =>
    let parts := xs.attach.map fun ⟨x, _⟩ => debugWith spec (indent + 4) x
    if spec.alternate && !parts.isEmpty then lines "[" "]" parts
    else "[" ++ ", ".intercalate parts ++ "]"
  | .some v => wrapped "Some" (debugWith spec (indent + 4) v)
  | .ok v => wrapped "Ok" (debugWith spec (indent + 4) v)
  | .err v => wrapped "Err" (debugWith spec (indent + 4) v)
  | .range lo hi closed =>
    (match lo with
      | .some v => debugWith spec indent v
      | .none => "") ++ (if closed then "..=" else "..") ++
    (match hi with
      | .some v => debugWith spec indent v
      | .none => "")
  | v => v.debugText
where
  /-- Parts one a line between an opening and a closing bracket. -/
  lines (opening closing : String) (parts : List String) : String :=
    let pad := String.ofList (List.replicate (indent + 4) ' ')
    opening ++ "\n" ++ String.join (parts.map fun p => pad ++ p ++ ",\n") ++
      String.ofList (List.replicate indent ' ') ++ closing
  /-- A variant with its one field. -/
  wrapped (name : String) (field : String) : String :=
    if spec.alternate then lines (name ++ "(") ")" [field] else name ++ "(" ++ field ++ ")"

/-- The text a placeholder shows for a value; none when its type does not allow the kind. -/
def formatValue (spec : FormatSpec) (v : Constant) : Option String :=
  match v, spec.kind with
  | .int _ i, .display => some (numberText spec (i < 0) "" (toString i.natAbs))
  | .int t i, .lowerHex | .int t i, .upperHex | .int t i, .octal | .int t i, .binary =>
    let (base, pre) := match spec.kind with
      | .lowerHex | .upperHex => (16, "0x")
      | .octal => (8, "0o")
      | _ => (2, "0b")
    let bits := (i % Int.pow 2 t.bits).toNat
    some (numberText spec false (if spec.alternate then pre else "")
      (digitsIn base (spec.kind == .upperHex) bits))
  | .int _ i, .lowerExp | .int _ i, .upperExp =>
    let n := i.natAbs
    let digits := (toString n).toList
    let trimmed := (digits.reverse.dropWhile (· == '0')).reverse
    let shortest := if n == 0 then (0, 0) else
      ((String.ofList trimmed).toNat?.getD 0, ((digits.length - trimmed.length : Nat) : Int))
    some (numberText spec (i < 0) ""
      (if n == 0 then "0" ++ (if spec.kind == .upperExp then "E" else "e") ++ "0"
       else scientificText n 1 (some shortest) spec.precision (spec.kind == .upperExp)))
  | .float _ x, .display => some (floatText spec false x)
  | .float _ x, .lowerExp | .float _ x, .upperExp =>
    match x with
    | .finite s b =>
      let (n, d) := b.fraction
      let upper := spec.kind == .upperExp
      if n == 0 then some (numberText spec s "" ("0" ++ (if upper then "E" else "e") ++ "0")) else
      let short := b.shortest
      some (numberText spec s "" (scientificText n d (some (short.digits, short.exp))
        spec.precision upper))
    | .nan => some (padded spec true "NaN")
    | .infinite s => some (numberText { spec with zero := false } s "" "inf")
  | .str s, .display =>
    let shown := match spec.precision with
      | some p => String.ofList (s.toList.take p)
      | none => s
    some (padded spec false shown)
  | .char c, .display => some (padded spec false (String.singleton c))
  | .bool b, .display => some (padded spec false (if b then "true" else "false"))
  | v, .debug => some (debugWith spec 0 v)
  | _, _ => none

/-- The value of the argument a reference names, among arguments in order, some named. -/
def argumentValue (args : List (Option String × Constant)) : ArgRef → Option Constant
  | .index i => args[i]?.map (·.2)
  | .name n => (args.find? (·.1 == some n)).map (·.2)
  | .next => none

/-- The text of a format string for the values of its arguments, in order and some named; none
when a placeholder is outside the grammar, names a missing argument, or shows a value its type
cannot show. -/
def formatText (text : String) (args : List (Option String × Constant)) : Option String := do
  let pieces ← formatPieces 0 text.toList
  let refs := references pieces
  let count (r : Option ArgRef) : Option (Option Nat) :=
    match r with
    | none => some none
    | some a =>
      match argumentValue args a with
      | some (.int _ n) => some (some n.toNat)
      | _ => none
  let shown ← refs.mapM fun r => do
    let v ← argumentValue args r.value
    let width ← count r.width
    let precision ← count r.precision
    pure (v, width, precision)
  let step (acc : Option (String × List (Constant × Option Nat × Option Nat)))
      (piece : FormatPiece) : Option (String × List (Constant × Option Nat × Option Nat)) := do
    let (out, rest) ← acc
    match piece, rest with
    | .text t, _ => pure (out ++ t, rest)
    | .arg _ spec _ _, (v, width, precision) :: more =>
      let w := width.orElse fun _ => spec.width
      let p := precision.orElse fun _ => spec.precision
      let spec := { spec with width := w, precision := p }
      let t ← formatValue spec v
      pure (out ++ t, more)
    | .arg _ _ _ _, [] => none
  (← pieces.foldl step (some ("", shown))).1 |> pure

end GatherMap.Inline
