import GatherMap.Gather

/-!
# Placing keys into slots

Keys are grouped into buckets by packed index: a stable sort by packed index keeps keys of one
bucket in input order. The first bucket that holds `depth` keys is then moved to the end by a
rotation, so that a probe that starts in the last bucket and reads `depth` slots never runs past
the end of the keys. The lookup table records, for every packed index, the slot of the first key
of its bucket (slot `0` for an empty bucket).
-/

namespace GatherMap

namespace Placement

/-- Slot count up to and including the first bucket, other than the last one, that holds at least
`depth` keys; the whole length if there is none. `packed` is sorted. -/
def endOfFullBucket (packed : List UInt64) (depth : Nat) : Nat :=
  match packed with
  | [] => 0
  | first :: rest => go first 1 1 rest
where
  /-- Scan with the previous index, the current run length and the position of the next one. -/
  go (previous : UInt64) (run position : Nat) : List UInt64 → Nat
    | [] => position
    | current :: rest =>
      if current == previous then go current (run + 1) (position + 1) rest
      else if run ≥ depth then position
      else go current 1 (position + 1) rest

/-- Rotate a list left by `n ≤ length` places. -/
def rotate (xs : List α) (n : Nat) : List α := xs.drop n ++ xs.take n

/-- The raw keys in slot order: sorted stably by packed index, then the first full bucket
rotated to the end. -/
def place (g : Gather) (raws : List UInt64) (depth : Nat) : List UInt64 :=
  let sorted := raws.mergeSort (fun a b => g.apply a ≤ g.apply b)
  rotate sorted (endOfFullBucket (sorted.map g.apply) depth)

/-- For every packed index below `tableLen`, the slot of the first key with that index, or `0`
if there is none. -/
def bucketStarts (g : Gather) (slots : Array UInt64) (tableLen : Nat) : Array Nat :=
  slots.toList.zipIdx.reverse.foldl
    (fun starts (raw, i) => starts.set! (g.apply raw).toNat i) (Array.replicate tableLen 0)

end Placement

end GatherMap
