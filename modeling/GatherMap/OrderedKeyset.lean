import GatherMap.Key
import GatherMap.Error
import GatherMap.Duplicates

/-!
# Ordered keysets

An ordered keyset keeps its keys sorted by an order and finds a key by binary search: the lower
bound is the first slot whose key is not less than the probe, and the probe is present if that
slot holds exactly the probe. Keys that the order cannot tell apart are duplicates, so every key
is alone in its class.

Besides the natural order of the key type (signed integers as integers), an order can compare
the keys in reverse, by raw form, by the number of set bits of the raw form, or by the quotient
or remainder of the raw form by a positive number.
-/

namespace GatherMap

/-- The orders a keyset can sort by. -/
inductive KeyOrder where
  /-- The order of the key type's values. -/
  | natural
  /-- The natural order reversed. -/
  | reverse
  /-- Raw forms as unsigned integers. -/
  | raw
  /-- The number of set bits of the raw form. -/
  | popcount
  /-- The raw form divided by a positive number. -/
  | quotient (divisor : Nat)
  /-- The raw form modulo a positive number. -/
  | remainder (divisor : Nat)
  deriving DecidableEq, Repr, Inhabited

namespace KeyOrder

/-- The natural "less than" of a key type on raw forms. -/
def naturalLess (t : KeyType) (a b : UInt64) : Bool :=
  if t.isSigned then decide (t.intOfRaw a < t.intOfRaw b) else decide (a < b)

/-- The order's "less than" on raw forms of type `t`. -/
def less (t : KeyType) : KeyOrder → UInt64 → UInt64 → Bool
  | natural, a, b => naturalLess t a b
  | reverse, a, b => naturalLess t b a
  | raw, a, b => decide (a < b)
  | popcount, a, b => decide (popCount a < popCount b)
  | quotient d, a, b => decide (a.toNat / d < b.toNat / d)
  | remainder d, a, b => decide (a.toNat % d < b.toNat % d)

end KeyOrder

/-- A keyset sorted by an order. `keys` holds raw forms in slot order. -/
structure OrderedKeyset where
  keyType : KeyType
  order : KeyOrder
  keys : Array UInt64
  deriving DecidableEq, Repr, Inhabited

namespace OrderedKeyset

/-- Number of keys. -/
def size (ks : OrderedKeyset) : Nat := ks.keys.size

/-- The first slot of `keys[base, base + len)` whose key is not `less` than `key`, assuming the
keys are sorted; the search halves `len` at every step. -/
def lowerBound (keys : Array UInt64) (less : UInt64 → UInt64 → Bool) (key : UInt64)
    (base len : Nat) : Nat :=
  if len = 0 then base
  else
    let half := len / 2
    let base := if less (keys[base + half]?.getD 0) key then base + (len - half) else base
    lowerBound keys less key base half
termination_by len
decreasing_by omega

/-- The slot of `raw` among `keys` sorted by `less`: its lower bound if that slot holds exactly
`raw`, else the key count. -/
def search (keys : Array UInt64) (less : UInt64 → UInt64 → Bool) (raw : UInt64) : Nat :=
  let position := lowerBound keys less raw 0 keys.size
  if keys[position]? == some raw then position else keys.size

/-- The slot of the key with raw form `raw`, or the key count if it is absent. -/
def find (ks : OrderedKeyset) (raw : UInt64) : Nat :=
  search ks.keys (ks.order.less ks.keyType) raw

/-- The keys sorted by `less`. Two keys that `less` cannot tell apart give `duplicateKey` with
their input positions. -/
def sortKeys (less : UInt64 → UInt64 → Bool) (raws : Array UInt64) :
    Except BuildError (Array UInt64) :=
  match findDuplicate? raws less with
  | some (a, b) => .error (.duplicateKey a b)
  | none => .ok ((sortPositions raws less).map (·.1)).toArray

/-- Sort the keys by `order`. -/
def ofKeys (t : KeyType) (order : KeyOrder) (raws : Array UInt64) :
    Except BuildError OrderedKeyset :=
  (sortKeys (order.less t) raws).map fun keys => { keyType := t, order, keys }

/-- Check keys given from outside: each key must be after the one before it. -/
def validate (ks : OrderedKeyset) : Except Invalid OrderedKeyset :=
  let less := ks.order.less ks.keyType
  match (ks.keys.toList.zip ks.keys.toList.tail).zipIdx.find? (fun ((a, b), _) => !less a b) with
  | some (_, index) => .error (.unsorted (index + 1))
  | none => .ok ks

end OrderedKeyset

end GatherMap
