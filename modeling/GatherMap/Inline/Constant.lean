import GatherMap.Inline.Types
import GatherMap.Describe
import GatherMap.Decimal.Float

/-!
# Constant values and their texts

A program that uses an inline map shows the map's values in their structural text, and looks
keys up by constant expressions. A `Constant` is the value such an expression has: an integer
of its type, a floating-point value of its format, a boolean, a character, a string, a tuple,
an array (also what vectors, slices and byte strings hold), an option or result, or a range.
References and boxes are transparent: they show as what they point to.

The structural text of a value is the one a program prints for it: integers in decimal,
strings and characters quoted with their escapes, floating-point numbers in their shortest
form with at least one decimal (`NaN`, `inf`), tuples and arrays with their elements
separated by `, `, `Some(…)`, and ranges as their bounds around `..` or `..=`. The plain text,
which a conversion to a string gives, writes strings and characters as they are and numbers
without a trailing `.0`.
-/

namespace GatherMap.Inline

/-- The value of a constant expression. -/
inductive Constant where
  | int (t : IntType) (value : Int)
  /-- A floating-point value, of 32 bits when `single`. -/
  | float (single : Bool) (value : Decimal.FloatValue)
  | bool (value : Bool)
  | char (value : Char)
  | str (value : String)
  /-- A C string, by its bytes without the closing zero. -/
  | cStr (bytes : List Nat)
  | tuple (items : List Constant)
  | array (items : List Constant)
  | some (value : Constant)
  | none
  | ok (value : Constant)
  | err (value : Constant)
  /-- A range with its bounds; `closed` when it includes its upper bound. -/
  | range (lower upper : Option Constant) (closed : Bool)
  /-- A value of a library type that has no parts a program looks at, by the text its debug
  form shows, such as `TryFromIntError(())`. -/
  | record (text : String)
  deriving Repr, Inhabited

namespace Constant

/-- The unit value `()`. -/
def unit : Constant := tuple []

/-- A byte as an escaped ASCII text shows it: printable characters as themselves, the common
control characters and quotes with a backslash, and every other byte in hexadecimal. -/
def asciiEscape (b : Nat) : String :=
  let hex (d : Nat) : Char := if d < 10 then Char.ofNat (48 + d) else Char.ofNat (87 + d)
  match b with
  | 9 => "\\t"
  | 10 => "\\n"
  | 13 => "\\r"
  | 34 => "\\\""
  | 39 => "\\'"
  | 92 => "\\\\"
  | _ =>
    if 0x20 ≤ b && b < 0x7f then String.singleton (Char.ofNat b)
    else "\\x" ++ String.ofList [hex (b / 16 % 16), hex (b % 16)]

/-- The structural text of a value. -/
def debugText : Constant → String
  | int _ i => toString i
  | float _ v => v.debugText
  | bool b => if b then "true" else "false"
  | char c => Text.quoteChar c
  | str s => Text.quoteString s
  | cStr bytes => "\"" ++ String.join (bytes.map asciiEscape) ++ "\""
  | tuple [x] => "(" ++ debugText x ++ ",)"
  | tuple xs => "(" ++ ", ".intercalate (xs.attach.map fun ⟨x, _⟩ => debugText x) ++ ")"
  | array xs => listText (xs.attach.map fun ⟨x, _⟩ => debugText x)
  | some v => "Some(" ++ debugText v ++ ")"
  | none => "None"
  | ok v => "Ok(" ++ debugText v ++ ")"
  | err v => "Err(" ++ debugText v ++ ")"
  | range lo hi closed =>
    (match lo with
      | .some v => debugText v
      | .none => "") ++ (if closed then "..=" else "..") ++
    (match hi with
      | .some v => debugText v
      | .none => "")
  | record text => text

/-- The plain text of a scalar or string, as converting it to a string gives; none for other
values. -/
def plainText? : Constant → Option String
  | int _ i => Option.some (toString i)
  | float _ v => Option.some v.plainText
  | bool b => Option.some (if b then "true" else "false")
  | char c => Option.some (String.singleton c)
  | str s => Option.some s
  | _ => Option.none

end Constant

end GatherMap.Inline
