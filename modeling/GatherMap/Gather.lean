import GatherMap.Key

/-!
# Gathering the bits of a mask

A *gather* for a mask moves the key bits selected by the mask into the low bits of the result.
It is computed as `((raw &&& mask) * coefficient) >>> gapBits &&& finalMask` at the key's width:
the multiplication shifts each run of consecutive mask bits by its own amount so that all runs
become adjacent, and the shift drops the bits below them.

This is not an exact bit compaction. When runs lie close together, carries of the multiplication
spill from one run into the next, so two keys that differ in masked bits can still share a packed
index. The mask search judges masks only by `apply`, so the packed index of a key is whatever
`apply` returns.
-/

namespace GatherMap

/-- A bit-gathering function for a fixed mask, with the parts that `apply` uses. -/
structure Gather where
  width : Width
  mask : UInt64
  coefficient : UInt64
  finalMask : UInt64
  gapBits : Nat
  deriving DecidableEq, Repr, Inhabited

namespace Gather

/-- All ones in the low `count` bits of a word of width `w`. -/
def lowBits (w : Width) (count : Nat) : UInt64 :=
  if count ≥ w.bits then w.allOnes else UInt64.ofNat (Nat.pow 2 count - 1)

/-- One step of the coefficient scan over bit `src`: the state is the coefficient so far, the
destination of the next mask bit and whether `src - 1` was a mask bit. -/
def coefficientStep (mask : UInt64) (state : UInt64 × Nat × Bool) (src : Nat) :
    UInt64 × Nat × Bool :=
  let (coefficient, dst, inRun) := state
  let set := (mask >>> src.toUInt64) &&& 1 == 1
  let coefficient :=
    if set && !inRun then coefficient ||| ((1 : UInt64) <<< (dst - src).toUInt64) else coefficient
  (coefficient, if set then dst + 1 else dst, set)

/-- The multiplier that moves every run of `mask` next to the runs below it. The run that starts
at bit `src` has to land at `dst`, the number of mask bits below `src` plus `gapBits`, so the run
start contributes `2 ^ (dst - src)`. -/
def packCoefficient (w : Width) (mask : UInt64) (gapBits : Nat) : UInt64 :=
  ((List.range w.bits).foldl (coefficientStep mask) (0, gapBits, false)).1

/-- Number of mask bits. -/
def weightOf (mask : UInt64) : Nat := popCount mask

/-- The gather for `mask` at width `w`. -/
def new (w : Width) (mask : UInt64) : Gather :=
  let weight := popCount mask
  let leadingZeros := w.bits - bitLength mask
  let gapBits := w.bits - weight - leadingZeros
  { width := w
    mask := mask
    coefficient := packCoefficient w mask gapBits
    finalMask := lowBits w weight
    gapBits := gapBits }

/-- The packed index of a raw key. -/
def apply (g : Gather) (raw : UInt64) : UInt64 :=
  (g.width.truncate ((raw &&& g.mask) * g.coefficient) >>> g.gapBits.toUInt64) &&& g.finalMask

/-- Number of bits in the output, the number of mask bits. -/
def weight (g : Gather) : Nat := popCount g.mask

/-- Number of distinct outputs, `2 ^ weight`, or `none` when that does not fit a 64-bit index. -/
def outputLen? (g : Gather) : Option Nat :=
  if g.weight < 64 then some (Nat.pow 2 g.weight) else none

end Gather

end GatherMap
