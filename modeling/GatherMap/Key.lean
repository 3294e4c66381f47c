/-!
# Key types and raw forms

A keyset holds keys of one primitive type: an unsigned or signed integer of 8, 16, 32 or 64 bits,
a boolean or a character. Every key has a *raw form*, its unsigned bit pattern of the type's
width: two's complement for signed integers, `0`/`1` for booleans and the code point for
characters. Bit extraction and equality work on raw forms; the natural order of a signed type is
the order of the integers, not of their bit patterns.

Raw forms are stored as `UInt64` whatever the width; a raw form of width `w` is always below
`2 ^ w`.
-/

namespace GatherMap

/-- Bit width of a raw form. -/
inductive Width where
  | w8
  | w16
  | w32
  | w64
  deriving DecidableEq, Repr, Inhabited

namespace Width

/-- Number of bits. -/
def bits : Width → Nat
  | w8 => 8
  | w16 => 16
  | w32 => 32
  | w64 => 64

/-- The width with `n` bits, if there is one. -/
def ofBits? : Nat → Option Width
  | 8 => some w8
  | 16 => some w16
  | 32 => some w32
  | 64 => some w64
  | _ => none

/-- All ones in the low `bits` bits. -/
def allOnes (w : Width) : UInt64 :=
  UInt64.ofNat (Nat.pow 2 w.bits - 1)

/-- Keep the low `bits` bits of a word. -/
def truncate (w : Width) (x : UInt64) : UInt64 :=
  x &&& w.allOnes

end Width

/-- The primitive types a key can have. `usize` and `isize` behave as 64-bit types. -/
inductive KeyType where
  | u8
  | u16
  | u32
  | u64
  | usize
  | i8
  | i16
  | i32
  | i64
  | isize
  | bool
  | char
  deriving DecidableEq, Repr, Inhabited

/-- A key as a value of its type: an integer, a boolean or a character. -/
inductive KeyValue where
  | int (value : Int)
  | bool (value : Bool)
  | char (value : Char)
  deriving DecidableEq, Repr, Inhabited

namespace KeyType

/-- All key types, in the order they are usually listed. -/
def all : List KeyType :=
  [u8, u16, u32, u64, usize, i8, i16, i32, i64, isize, bool, char]

/-- The type's name as written in source code. -/
def name : KeyType → String
  | u8 => "u8"
  | u16 => "u16"
  | u32 => "u32"
  | u64 => "u64"
  | usize => "usize"
  | i8 => "i8"
  | i16 => "i16"
  | i32 => "i32"
  | i64 => "i64"
  | isize => "isize"
  | bool => "bool"
  | char => "char"

/-- The key type with a given name. -/
def ofName? (s : String) : Option KeyType :=
  all.find? (·.name == s)

/-- Width of the raw form. -/
def width : KeyType → Width
  | u8 | i8 | bool => .w8
  | u16 | i16 => .w16
  | u32 | i32 | char => .w32
  | u64 | usize | i64 | isize => .w64

/-- Whether the type is a signed integer. -/
def isSigned : KeyType → Bool
  | i8 | i16 | i32 | i64 | isize => true
  | _ => false

/-- Whether the type is an integer type. -/
def isInteger : KeyType → Bool
  | bool | char => false
  | _ => true

/-- Least integer of an integer type. -/
def minInt (t : KeyType) : Int :=
  if t.isSigned then -Int.pow 2 (t.width.bits - 1) else 0

/-- Greatest integer of an integer type. -/
def maxInt (t : KeyType) : Int :=
  if t.isSigned then Int.pow 2 (t.width.bits - 1) - 1 else Int.pow 2 t.width.bits - 1

/-- The raw form of an integer of this type, if it is in range. -/
def rawOfInt? (t : KeyType) (i : Int) : Option UInt64 :=
  if t.isInteger && t.minInt ≤ i && i ≤ t.maxInt then
    some (UInt64.ofNat (i % Int.pow 2 t.width.bits).toNat)
  else none

/-- The integer whose raw form is `raw`. -/
def intOfRaw (t : KeyType) (raw : UInt64) : Int :=
  let n := raw.toNat
  if t.isSigned && n ≥ Nat.pow 2 (t.width.bits - 1) then (n : Int) - Int.pow 2 t.width.bits else n

/-- The raw form of a key value of this type; `none` if the value has another type or is out
of range. -/
def encode? (t : KeyType) : KeyValue → Option UInt64
  | .int i => t.rawOfInt? i
  | .bool b => if t = bool then some (if b then 1 else 0) else none
  | .char c => if t = char then some c.val.toUInt64 else none

/-- The key value whose raw form is `raw`. -/
def decode (t : KeyType) (raw : UInt64) : KeyValue :=
  match t with
  | bool => .bool (raw != 0)
  | char => .char (Char.ofNat raw.toNat)
  | _ => .int (t.intOfRaw raw)

end KeyType

/-- Number of set bits. -/
def popCount (x : UInt64) : Nat :=
  (List.range 64).foldl (fun n i => if (x >>> i.toUInt64) &&& 1 == 1 then n + 1 else n) 0

/-- Number of significant bits: the position of the highest set bit plus one, or `0`. -/
def bitLength (x : UInt64) : Nat :=
  (List.range 64).foldl (fun n i => if (x >>> i.toUInt64) &&& 1 == 1 then i + 1 else n) 0

/-- Lowercase hexadecimal with a `0x` prefix. -/
def hexText (n : Nat) : String :=
  "0x" ++ String.ofList (Nat.toDigits 16 n)

end GatherMap
