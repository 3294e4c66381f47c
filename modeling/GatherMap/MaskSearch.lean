import GatherMap.Gather
import GatherMap.Event

/-!
# Choosing a mask

The mask of a perfect-hash keyset decides the packed index, and so the bucket, of every key. The
search runs in two phases:

1. Start from all ones and clear bits from the top bit down, keeping each bit clear if the packed
   indices stay pairwise distinct. The result separates every key; its longest bucket is one key
   (none for an empty keyset).
2. While buckets may hold more than one key (`maxDepth > 1`) and the mask has more than
   `minWeight` bits, drop the bit whose removal leaves the fewest keys sharing a bucket with an
   earlier key, the lowest such bit on a tie. Stop before the first removal that would make a
   bucket longer than `maxDepth`.

Fewer mask bits mean a smaller lookup table; longer buckets mean more comparisons per lookup.
-/

namespace GatherMap

namespace MaskSearch

/-- Number of adjacent equal pairs in a sorted array: the elements equal to the one before. -/
def countDuplicates (sorted : Array UInt64) : Nat :=
  (sorted.foldl (fun (acc : Option UInt64 × Nat) x =>
    (some x, if acc.1 == some x then acc.2 + 1 else acc.2)) (none, 0)).2

/-- Length of the longest run of equal elements in a sorted array (`0` when empty). -/
def longestRun (sorted : Array UInt64) : Nat :=
  (sorted.foldl (fun (acc : Option UInt64 × Nat × Nat) x =>
    let current := if acc.1 == some x then acc.2.1 + 1 else 1
    (some x, current, max acc.2.2 current)) (none, 0, 0)).2.2

/-- The packed indices of `raws` under `mask`, sorted. -/
def packedSorted (w : Width) (raws : Array UInt64) (mask : UInt64) : Array UInt64 :=
  let g := Gather.new w mask
  (raws.map g.apply).mergeSort (· ≤ ·)

/-- `mask` without bit `bit`. -/
def clearBit (mask : UInt64) (bit : Nat) : UInt64 :=
  mask &&& ~~~((1 : UInt64) <<< bit.toUInt64)

/-- Whether bit `bit` of `mask` is set. -/
def testBit (mask : UInt64) (bit : Nat) : Bool :=
  (mask >>> bit.toUInt64) &&& 1 == 1

/-- Phase one's step: clear `bit` if the keys stay separated. -/
def separatingStep (w : Width) (raws : Array UInt64) (mask : UInt64) (bit : Nat) : UInt64 :=
  let candidate := clearBit mask bit
  if countDuplicates (packedSorted w raws candidate) == 0 then candidate else mask

/-- The mask of phase one: all ones, with every bit cleared, top bit first, that can be
cleared without two keys sharing a packed index. -/
def separatingMask (w : Width) (raws : Array UInt64) : UInt64 :=
  (List.range w.bits).reverse.foldl (separatingStep w raws) w.allOnes

/-- Among the set bits of `mask`, the removal that leaves the fewest duplicates; the lowest bit
wins a tie. Returns `mask` itself if it has no set bit. -/
def cheapestRemoval (w : Width) (raws : Array UInt64) (mask : UInt64) : UInt64 :=
  let step (best : UInt64 × Option Nat) (bit : Nat) : UInt64 × Option Nat :=
    if testBit mask bit then
      let candidate := clearBit mask bit
      let duplicates := countDuplicates (packedSorted w raws candidate)
      match best.2 with
      | some d => if duplicates < d then (candidate, some duplicates) else best
      | none => (candidate, some duplicates)
    else best
  ((List.range w.bits).foldl step (mask, none)).1

/-- Phase two, with `fuel` bounding the number of removals: the current mask and its longest
bucket, and the events so far, in reverse order. -/
def narrowLoop (w : Width) (raws : Array UInt64) (maxDepth minWeight : Nat) :
    Nat → UInt64 → Nat → List BuildEvent → UInt64 × Nat × List BuildEvent
  | 0, mask, longest, events => (mask, longest, events)
  | fuel + 1, mask, longest, events =>
    if maxDepth > 1 && popCount mask > minWeight then
      let candidate := cheapestRemoval w raws mask
      let candidateLongest := longestRun (packedSorted w raws candidate)
      if candidateLongest > maxDepth then
        (mask, longest, .keeping mask candidate candidateLongest :: events)
      else
        narrowLoop w raws maxDepth minWeight fuel candidate candidateLongest
          (.narrowed candidate candidateLongest :: events)
    else (mask, longest, events)

end MaskSearch

/-- The outcome of the mask search: the mask, its longest bucket, and the events in order. -/
structure MaskChoice where
  mask : UInt64
  longest : Nat
  events : List BuildEvent
  deriving Repr, Inhabited

open MaskSearch in
/-- Search a mask for the raw keys `raws` of width `w`. Every removal of phase two clears one of
at most `w.bits` bits, so `w.bits + 1` rounds are always enough. -/
def searchMask (w : Width) (raws : Array UInt64) (maxDepth minWeight : Nat) : MaskChoice :=
  let start := separatingMask w raws
  let first := BuildEvent.collisionFree start raws.size (popCount start)
  let longest := if raws.isEmpty then 0 else 1
  let (mask, longest, events) :=
    narrowLoop w raws maxDepth minWeight (w.bits + 1) start longest [first]
  { mask, longest
    events := (BuildEvent.finalMask mask (popCount mask) longest :: events).reverse }

end GatherMap
