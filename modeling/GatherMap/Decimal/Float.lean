import GatherMap.Decimal.Notation

/-!
# Binary floating-point values and their arithmetic

A value of a binary floating-point format is not a number, an infinity, or a finite value with a
sign; zero has a sign too. Every operation is computed exactly on fractions and the exact result
is rounded to the nearest value of the format, a tie going to the even mantissa, which is what
the standard asks of addition, subtraction, multiplication and division. The remainder `%`
truncates the quotient and is always exact.

The special cases follow the standard:

* a sum of two zeros is negative only when both are; any other exact zero sum is positive;
* `∞ - ∞`, `0 × ∞`, `0 / 0`, `∞ / ∞` and a remainder by zero or of an infinity are not numbers;
* a non-zero value divided by zero is an infinity with the sign of the quotient.

A value is shown by its shortest decimal (`Binary.shortest`), written by `Notation.shown`;
`NaN`, `inf` and `-inf` stand for the others.
-/

namespace GatherMap.Decimal

/-- The magnitude of a finite value as a fraction `num / den`. -/
def Binary.fraction (x : Binary) : Nat × Nat :=
  if x.q ≥ 0 then (x.m * Nat.pow 2 x.q.toNat, 1) else (x.m, Nat.pow 2 (-x.q).toNat)

/-- The value zero of every format. -/
def Binary.zero : Binary := ⟨0, 0, false⟩

/-- A value of a binary floating-point format. -/
inductive FloatValue where
  | nan
  | infinite (negative : Bool)
  /-- A finite value: its sign and its magnitude, zero when the mantissa is. -/
  | finite (negative : Bool) (x : Binary)
  deriving DecidableEq, Repr, Inhabited

namespace FloatValue

/-- The value of format `f` nearest to `num / den`, with a sign. -/
def round (f : Format) (negative : Bool) (num den : Nat) : FloatValue :=
  if num == 0 || den == 0 then finite negative Binary.zero
  else match f.nearest num den with
    | some x => finite negative (if x.m == 0 then Binary.zero else x)
    | none => infinite negative

/-- The value of format `f` nearest to a decimal. -/
def ofDec (f : Format) (negative : Bool) (d : Dec) : FloatValue :=
  let (num, den) := d.fraction
  round f negative num den

/-- The value of format `f` nearest to an integer. -/
def ofInt (f : Format) (i : Int) : FloatValue := round f (i < 0) i.natAbs 1

/-- Whether a value is zero, of either sign. -/
def isZero : FloatValue → Bool
  | finite _ x => x.m == 0
  | _ => false

/-- The value with the other sign. -/
def neg : FloatValue → FloatValue
  | nan => nan
  | infinite s => infinite (!s)
  | finite s x => finite (!s) x

/-- The sum of two values, rounded to format `f`. -/
def add (f : Format) : FloatValue → FloatValue → FloatValue
  | nan, _ | _, nan => nan
  | infinite s, infinite t => if s == t then infinite s else nan
  | infinite s, _ => infinite s
  | _, infinite t => infinite t
  | finite s x, finite t y =>
    let (n1, d1) := x.fraction
    let (n2, d2) := y.fraction
    let a : Int := if s then -((n1 * d2 : Nat) : Int) else (n1 * d2 : Nat)
    let b : Int := if t then -((n2 * d1 : Nat) : Int) else (n2 * d1 : Nat)
    let sum := a + b
    if sum == 0 then finite (s && t) Binary.zero
    else round f (sum < 0) sum.natAbs (d1 * d2)

/-- The difference of two values, rounded to format `f`. -/
def sub (f : Format) (a b : FloatValue) : FloatValue := add f a b.neg

/-- The product of two values, rounded to format `f`. -/
def mul (f : Format) : FloatValue → FloatValue → FloatValue
  | nan, _ | _, nan => nan
  | infinite s, infinite t => infinite (s != t)
  | infinite s, finite t y => if y.m == 0 then nan else infinite (s != t)
  | finite s x, infinite t => if x.m == 0 then nan else infinite (s != t)
  | finite s x, finite t y =>
    let (n1, d1) := x.fraction
    let (n2, d2) := y.fraction
    round f (s != t) (n1 * n2) (d1 * d2)

/-- The quotient of two values, rounded to format `f`. -/
def div (f : Format) : FloatValue → FloatValue → FloatValue
  | nan, _ | _, nan => nan
  | infinite _, infinite _ => nan
  | infinite s, finite t _ => infinite (s != t)
  | finite s _, infinite t => finite (s != t) Binary.zero
  | finite s x, finite t y =>
    if y.m == 0 then (if x.m == 0 then nan else infinite (s != t))
    else
      let (n1, d1) := x.fraction
      let (n2, d2) := y.fraction
      round f (s != t) (n1 * d2) (d1 * n2)

/-- The remainder of two values after a quotient truncated toward zero; it has the sign of the
dividend and is exact. -/
def rem (f : Format) : FloatValue → FloatValue → FloatValue
  | nan, _ | _, nan | infinite _, _ => nan
  | finite s x, infinite _ => finite s x
  | finite s x, finite _ y =>
    if y.m == 0 then nan
    else
      let (n1, d1) := x.fraction
      let (n2, d2) := y.fraction
      round f s ((n1 * d2) % (n2 * d1)) (d1 * d2)

/-- The signed fraction of a finite value. -/
def signedFraction (negative : Bool) (x : Binary) : Int × Nat :=
  let (n, d) := x.fraction
  (if negative then -(n : Int) else n, d)

/-- How two values compare; none when one is not a number. Zeros of both signs are equal. -/
def compare? : FloatValue → FloatValue → Option Ordering
  | nan, _ | _, nan => none
  | infinite s, infinite t =>
    some (if s == t then .eq else if s then .lt else .gt)
  | infinite s, finite _ _ => some (if s then .lt else .gt)
  | finite _ _, infinite t => some (if t then .gt else .lt)
  | finite s x, finite t y =>
    let (a, da) := signedFraction s x
    let (b, db) := signedFraction t y
    some (Ord.compare (a * (db : Int)) (b * (da : Int)))

/-- The value in format `f`, rounded when `f` is narrower than its own. -/
def convert (f : Format) : FloatValue → FloatValue
  | finite s x =>
    let (n, d) := x.fraction
    round f s n d
  | v => v

/-- The integer a value is cast to: truncated toward zero and held between `lo` and `hi`; not a
number gives zero. -/
def toIntWithin (lo hi : Int) : FloatValue → Int
  | nan => 0
  | infinite s => if s then lo else hi
  | finite s x =>
    let (n, d) := x.fraction
    let whole : Int := if s then -((n / d : Nat) : Int) else (n / d : Nat)
    max lo (min hi whole)

/-- The text a program shows for a value: its shortest decimal. -/
def debugText : FloatValue → String
  | nan => "NaN"
  | infinite s => if s then "-inf" else "inf"
  | finite s x =>
    let d := x.shortest
    Notation.shown.write s d.digits d.exp

/-- The plain text of a value: its shortest decimal written positionally, with no fraction part
when it is a whole number. -/
def plainText : FloatValue → String
  | nan => "NaN"
  | infinite s => if s then "-inf" else "inf"
  | finite s x =>
    let d := x.shortest
    let (digits, k) := stripZeros d.digits (toString d.digits).length
    let e := d.exp + k
    let sign := if s then "-" else ""
    if digits == 0 then sign ++ "0" else
    let ds := (toString digits).toList
    if e ≥ 0 then sign ++ String.ofList (ds ++ List.replicate e.toNat '0')
    else
      let point : Int := ds.length + e
      if point > 0 then
        sign ++ String.ofList (ds.take point.toNat ++ '.' :: ds.drop point.toNat)
      else sign ++ "0." ++ String.ofList (List.replicate (-point).toNat '0' ++ ds)

end FloatValue

end GatherMap.Decimal
