import GatherMap.Error

/-!
# Lookup tables of bucket offsets

A perfect-hash keyset keeps, for every packed index, the slot where that index's bucket starts.
Offsets are stored with the narrowest unsigned width that holds every slot number: a keyset of
`n` keys needs offsets up to `n`, so `n ≤ 255` fits 8 bits, `n ≤ 65535` fits 16 bits and
`n < 2 ^ 32` fits 32 bits.
-/

namespace GatherMap

/-- Bit width of the stored offsets. The widths are ordered: a narrower width comes first. -/
inductive OffsetWidth where
  | u8
  | u16
  | u32
  deriving DecidableEq, Repr, Inhabited

namespace OffsetWidth

/-- Number of bits. -/
def bits : OffsetWidth → Nat
  | u8 => 8
  | u16 => 16
  | u32 => 32

/-- The width's name. -/
def name : OffsetWidth → String
  | u8 => "U8"
  | u16 => "U16"
  | u32 => "U32"

/-- The width with a given name. -/
def ofName? : String → Option OffsetWidth
  | "U8" => some u8
  | "U16" => some u16
  | "U32" => some u32
  | _ => none

/-- The narrowest width whose largest value is at least `len`, if any. -/
def forLen? (len : Nat) : Option OffsetWidth :=
  if len < Nat.pow 2 8 then some u8
  else if len < Nat.pow 2 16 then some u16
  else if len < Nat.pow 2 32 then some u32
  else none

/-- Whether `len` slot numbers fit this width: the narrowest width for `len` is not wider. -/
def fits (w : OffsetWidth) (len : Nat) : Bool :=
  match forLen? len with
  | some needed => needed.bits ≤ w.bits
  | none => false

end OffsetWidth

/-- Bucket start offsets, stored at a fixed width. Every offset is below `2 ^ width.bits`. -/
structure LookupTable where
  width : OffsetWidth
  offsets : Array Nat
  deriving DecidableEq, Repr, Inhabited

namespace LookupTable

/-- Number of offsets. -/
def size (t : LookupTable) : Nat := t.offsets.size

/-- The offset at `index`; reading past the end is a fault. -/
def get (t : LookupTable) (index : Nat) : Except Fault Nat :=
  match t.offsets[index]? with
  | some offset => .ok offset
  | none => .error (.indexOutOfBounds t.size index)

/-- Store offsets at `width`. The first offset that does not fit gives `offsetOverflow`, with
the key count that offset stands for (`offset + 1`). -/
def narrow (offsets : Array Nat) (width : OffsetWidth) : Except BuildError LookupTable :=
  match offsets.find? (fun o => o ≥ Nat.pow 2 width.bits) with
  | some o => .error (.offsetOverflow (o + 1) width.bits)
  | none => .ok { width, offsets }

end LookupTable

end GatherMap
