import GatherMap.LookupTable
import GatherMap.MaskSearch
import GatherMap.Placement
import GatherMap.Duplicates

/-!
# Perfect-hash keysets

A perfect-hash keyset finds a key in a constant number of steps: the gather of the key's raw form
is an index into the lookup table, which gives the start of the key's bucket, and the key is one
of the next `depth` slots. A key that is not among them is absent, and `find` answers the key
count.

Built keysets always answer; a keyset assembled from arbitrary parts can read its lookup table
past the end, which is a fault, until `validate` has accepted it.
-/

namespace GatherMap

/-- A keyset addressed by bit gathering. `keys` holds raw forms in slot order. -/
structure PerfectKeyset where
  keyType : KeyType
  keys : Array UInt64
  lookup : LookupTable
  gather : Gather
  depth : Nat
  deriving DecidableEq, Repr, Inhabited

namespace PerfectKeyset

/-- Number of keys. -/
def size (ks : PerfectKeyset) : Nat := ks.keys.size

/-- The mask of the gather. -/
def mask (ks : PerfectKeyset) : UInt64 := ks.gather.mask

/-- The slot of `raw` among the `depth` slots from `start`, or the key count. -/
def scanBucket (keys : Array UInt64) (start depth : Nat) (raw : UInt64) : Nat :=
  match (keys.extract start (start + depth)).findIdx? (· == raw) with
  | some offset => start + offset
  | none => keys.size

/-- The slot of the key with raw form `raw`, or the key count if it is absent. Reading the lookup
table past its end is a fault. -/
def find (ks : PerfectKeyset) (raw : UInt64) : Except Fault Nat := do
  let start ← ks.lookup.get (ks.gather.apply raw).toNat
  pure (scanBucket ks.keys start ks.depth raw)

/-- Place the keys for a gather and a bucket length, and store the bucket starts at `width`.
A gather of 64 bits has no table that fits a 64-bit index. -/
def assemble (t : KeyType) (raws : Array UInt64) (g : Gather) (longest : Nat)
    (width : OffsetWidth) : Except BuildError PerfectKeyset :=
  match g.outputLen? with
  | none => .error (.tableTooLarge g.weight 63)
  | some tableLen =>
    let slots := (Placement.place g raws.toList longest).toArray
    let starts := Placement.bucketStarts g slots tableLen
    (LookupTable.narrow starts width).map fun lookup =>
      { keyType := t, keys := slots, lookup, gather := g, depth := longest }

/-- The first pair of equal raw forms, by position. -/
def duplicate? (raws : Array UInt64) : Option (Nat × Nat) :=
  findDuplicate? raws (· < ·)

/-- Build a keyset with a given mask. Checks, in order: a zero depth, equal keys, a bucket
longer than `depth`, a key count that no offset width holds. The keyset's depth is its longest
bucket. -/
def withMask (t : KeyType) (raws : Array UInt64) (mask : UInt64) (depth : Nat) :
    Except BuildError PerfectKeyset :=
  if depth = 0 then .error .zeroDepth
  else match duplicate? raws with
    | some (a, b) => .error (.duplicateKey a b)
    | none =>
      let longest := MaskSearch.longestRun (MaskSearch.packedSorted t.width raws mask)
      if longest > depth then .error (.depthExceeded longest depth)
      else match OffsetWidth.forLen? raws.size with
        | none => .error (.offsetOverflow raws.size 32)
        | some width => assemble t raws (Gather.new t.width mask) longest width

/-- Check parts given from outside, in order: one offset per packed index, every offset below
the key count (below one for an empty keyset), a positive depth when there are keys, and every
key found at its own slot. -/
def validate (ks : PerfectKeyset) : Except Invalid PerfectKeyset :=
  if ks.gather.outputLen? != some ks.lookup.size then .error .lookupLength
  else if ks.lookup.offsets.any (· ≥ max ks.size 1) then .error .offsetPastEnd
  else if ks.size > 0 && ks.depth == 0 then .error .zeroDepth
  else
    let misplaced := ks.keys.toList.zipIdx.find? fun (raw, slot) =>
      match ks.find raw with
      | .ok found => found != slot
      | .error _ => true
    match misplaced with
    | some (_, slot) => .error (.misplacedKey slot)
    | none => .ok ks

/-- Load stored parts as deserialization does: a keyset is stored as its keys, its lookup table,
its mask and its depth, and loading rebuilds the gather from the mask before the checks of
`validate`. -/
def load (t : KeyType) (keys : Array UInt64) (lookup : LookupTable) (mask : UInt64)
    (depth : Nat) : Except Invalid PerfectKeyset :=
  validate { keyType := t, keys, lookup, gather := Gather.new t.width mask, depth }

/-- Store a keyset and load it back. -/
def reload (ks : PerfectKeyset) : Except Invalid PerfectKeyset :=
  load ks.keyType ks.keys ks.lookup ks.mask ks.depth

end PerfectKeyset

end GatherMap
