import GatherMap.Keyset

/-!
# Building keysets

A `Builder` holds the settings of keyset construction: the longest bucket a lookup may scan
(`maxDepth`), the largest key count that still gets an ordered keyset (`orderedThreshold`), the
mask weight below which narrowing stops (`minMaskWeight`), the most index bits a lookup table may
have (`maxMaskWeight`) and, optionally, a fixed offset width.

Building reports its decisions as `BuildEvent`s, also when it fails after making them.
-/

namespace GatherMap

/-- Settings of keyset construction. -/
structure Builder where
  maxDepth : Nat := 2
  orderedThreshold : Nat := 16
  minMaskWeight : Nat := 4
  maxMaskWeight : Nat := 24
  offsetWidth : Option OffsetWidth := none
  deriving DecidableEq, Repr, Inhabited

/-- A result together with the events that led to it. -/
structure Traced (α : Type) where
  value : α
  events : List BuildEvent := []
  deriving Repr

namespace Builder

/-- The settings used when none are given. -/
def default : Builder := {}

/-- The offset width for `len` keys: the fixed one if it holds them, else the narrowest. -/
def widthFor (b : Builder) (len : Nat) : Except BuildError OffsetWidth :=
  match b.offsetWidth with
  | some w => if w.fits len then .ok w else .error (.offsetOverflow len w.bits)
  | none =>
    match OffsetWidth.forLen? len with
    | some w => .ok w
    | none => .error (.offsetOverflow len 32)

/-- Build a perfect-hash keyset. Checks, in order: a zero depth, equal raw keys, the offset
width, then the mask search and the weight of its mask. -/
def buildPerfect (b : Builder) (t : KeyType) (raws : Array UInt64) :
    Traced (Except BuildError PerfectKeyset) :=
  if b.maxDepth = 0 then ⟨.error .zeroDepth, []⟩
  else match PerfectKeyset.duplicate? raws with
    | some (x, y) => ⟨.error (.duplicateKey x y), []⟩
    | none =>
      match b.widthFor raws.size with
      | .error e => ⟨.error e, []⟩
      | .ok width =>
        let choice := searchMask t.width raws b.maxDepth b.minMaskWeight
        let weight := popCount choice.mask
        if weight > b.maxMaskWeight then
          ⟨.error (.tableTooLarge weight b.maxMaskWeight), choice.events⟩
        else
          ⟨PerfectKeyset.assemble t raws (Gather.new t.width choice.mask) choice.longest width,
            choice.events⟩

/-- Build a keyset of the kind that suits the key count: ordered (by `order`) for at most
`orderedThreshold` keys, perfect-hash otherwise. -/
def buildKeyset (b : Builder) (t : KeyType) (order : KeyOrder) (raws : Array UInt64) :
    Traced (Except BuildError Keyset) :=
  if raws.size ≤ b.orderedThreshold then
    ⟨(OrderedKeyset.ofKeys t order raws).map .ordered,
      [.chooseOrdered raws.size b.orderedThreshold]⟩
  else
    let built := b.buildPerfect t raws
    ⟨built.value.map .perfect, .choosePerfect raws.size b.orderedThreshold :: built.events⟩

end Builder

end GatherMap
