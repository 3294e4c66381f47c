import GatherMap.PerfectKeyset
import GatherMap.OrderedKeyset

/-!
# Keysets

A keyset is a fixed set of keys, each with a slot: `find` answers the slot of a key, or the key
count for an absent key. It is either ordered (binary search) or perfect-hash (bit gathering);
both kinds answer through the same interface.
-/

namespace GatherMap

/-- A keyset of either kind. -/
inductive Keyset where
  | ordered (ks : OrderedKeyset)
  | perfect (ks : PerfectKeyset)
  deriving DecidableEq, Repr, Inhabited

namespace Keyset

/-- The type of the keys. -/
def keyType : Keyset → KeyType
  | ordered ks => ks.keyType
  | perfect ks => ks.keyType

/-- The raw keys in slot order. -/
def keys : Keyset → Array UInt64
  | ordered ks => ks.keys
  | perfect ks => ks.keys

/-- Number of keys. -/
def size (ks : Keyset) : Nat := ks.keys.size

/-- The slot of a raw key, or the key count if it is absent. -/
def find : Keyset → UInt64 → Except Fault Nat
  | ordered ks, raw => .ok (ks.find raw)
  | perfect ks, raw => ks.find raw

/-- Whether a raw key is present. -/
def contains (ks : Keyset) (raw : UInt64) : Except Fault Bool :=
  (ks.find raw).map (· != ks.size)

/-- Store a keyset and load it back: an ordered keyset is stored as its keys and its order, and
loading checks that the keys are sorted. -/
def reload : Keyset → Except Invalid Keyset
  | ordered ks => ks.validate.map ordered
  | perfect ks => ks.reload.map perfect

end Keyset

end GatherMap
