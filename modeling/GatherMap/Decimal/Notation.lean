import GatherMap.Decimal.Shortest

/-!
# Writing a decimal

A decimal `digits × 10^exponent` is written positionally while the position of its point lies in
a range, and in scientific notation outside it: one digit, the other digits after a point, `e`
and the exponent of the leading digit. Positional text always has a point and at least one digit
after it. The *position of the point* is the exponent of the leading digit plus one, so `1.5`
has its point at 1 and `0.015` at -1.

A `Notation` records where positional text starts; it ends below `10^16` in every notation used
here. Values a program shows are positional from `1e-4`; numbers in JSON text from `1e-5`.
-/

namespace GatherMap.Decimal

/-- Where decimals are written positionally: when the position of the point is at least
`leastPoint` and at most 16. -/
structure Notation where
  leastPoint : Int
  deriving DecidableEq, Repr, Inhabited

namespace Notation

/-- Values a program shows: positional from `1e-4` up to below `1e16`. -/
def shown : Notation := ⟨-3⟩

/-- Numbers in JSON text: positional from `1e-5` up to below `1e16`. -/
def json : Notation := ⟨-4⟩

end Notation

/-- The digits of a number, without trailing zeros, and how many were removed. -/
def stripZeros (digits : Nat) : Nat → Nat × Nat
  | 0 => (digits, 0)
  | fuel + 1 =>
    if digits ≠ 0 && digits % 10 == 0 then
      let (d, k) := stripZeros (digits / 10) fuel
      (d, k + 1)
    else (digits, 0)

/-- The text of a decimal `digits × 10^exponent`, with a minus sign when `negative`. -/
def Notation.write (n : Notation) (negative : Bool) (digits : Nat) (exponent : Int) : String :=
  let (d, k) := stripZeros digits (toString digits).length
  let e := exponent + k
  let sign := if negative then "-" else ""
  if d == 0 then sign ++ "0.0" else
  let ds := (toString d).toList
  let len := ds.length
  -- the value is 0.ds × 10^(len + e)
  let point : Int := len + e
  if point > 16 || point < n.leastPoint then
    let mant := if len == 1 then ds else ds.take 1 ++ '.' :: ds.drop 1
    sign ++ String.ofList mant ++ "e" ++ toString (point - 1)
  else if e ≥ 0 then sign ++ String.ofList (ds ++ List.replicate e.toNat '0') ++ ".0"
  else if point > 0 then
    sign ++ String.ofList (ds.take point.toNat ++ '.' :: ds.drop point.toNat)
  else sign ++ "0." ++ String.ofList (List.replicate (-point).toNat '0' ++ ds)

/-- The digits and exponent of the text of an unsigned decimal number: digits with an optional
point, underscores between them ignored, and an optional exponent. -/
def textParts (text : String) : Option Dec :=
  let cs := text.toList.filter (· != '_')
  let mantissa := cs.takeWhile fun c => c.isDigit || c == '.'
  let rest := cs.drop mantissa.length
  let intPart := mantissa.takeWhile Char.isDigit
  let fracPart := (mantissa.drop (intPart.length + 1)).filter Char.isDigit
  let digits := (intPart ++ fracPart).foldl (fun acc c => acc * 10 + (c.toNat - '0'.toNat)) 0
  let exp : Option Int := match rest with
    | c :: more =>
      if c == 'e' || c == 'E' then
        let (neg, ds) := match more with
          | '-' :: ds => (true, ds)
          | '+' :: ds => (false, ds)
          | ds => (false, ds)
        let num := (ds.takeWhile Char.isDigit).foldl
          (fun acc c => acc * 10 + (c.toNat - '0'.toNat)) 0
        some (if neg then -(num : Int) else num)
      else some 0
    | [] => some 0
  exp.map fun x => ⟨digits, x - fracPart.length⟩

/-- The text of the value of format `f` nearest to a decimal: its shortest decimal that reads
back, or `inf` when the decimal is too large for the format. -/
def Notation.nearest (n : Notation) (f : Format) (negative : Bool) (value : Dec) : String :=
  let (num, den) := value.fraction
  if num == 0 then n.write negative 0 0 else
  match f.nearest num den with
  | some x =>
    let d := x.shortest
    n.write negative d.digits d.exp
  | none => if negative then "-inf" else "inf"

end GatherMap.Decimal
