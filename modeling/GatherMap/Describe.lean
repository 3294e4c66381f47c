import GatherMap.Builder
import GatherMap.Text.Escape

/-!
# Structural text of keysets and their parts

The structural text of a value names its type and lists its fields: `Name { field: value, … }`,
with `..` at the end when some fields are left out. Lists are `[a, b]`, maps `{k: v}`, and a
variant that wraps one value is `Variant(value)`. Keys are written as values of their type:
integers in decimal, booleans as words, characters between single quotes.
-/

namespace GatherMap

/-- A list in brackets. -/
def listText (items : List String) : String := "[" ++ ", ".intercalate items ++ "]"

/-- Key–value pairs in braces. -/
def mapText (pairs : List (String × String)) : String :=
  "\x7b" ++ ", ".intercalate (pairs.map fun (k, v) => k ++ ": " ++ v) ++ "\x7d"

/-- A value of `name` with named fields. -/
def recordText (name : String) (fields : List (String × String)) (more : Bool := false) :
    String :=
  name ++ " \x7b " ++ ", ".intercalate (fields.map fun (k, v) => k ++ ": " ++ v) ++
    (if more then ", .. \x7d" else " \x7d")

/-- The structural text of a key. -/
def KeyType.keyText (t : KeyType) (raw : UInt64) : String :=
  match t.decode raw with
  | .int i => toString i
  | .bool b => if b then "true" else "false"
  | .char c => Text.quoteChar c

/-- The keys of a keyset as a list. -/
def KeyType.keysText (t : KeyType) (keys : Array UInt64) : String :=
  listText (keys.toList.map t.keyText)

/-- The structural text of a gather, with its four parts. -/
def Gather.debugText (g : Gather) : String :=
  recordText "Pext" [("mask", toString g.mask.toNat), ("coefficient", toString g.coefficient.toNat),
    ("final_mask", toString g.finalMask.toNat), ("gap_bits", toString g.gapBits)]

/-- The structural text of an owned lookup table. -/
def LookupTable.debugText (t : LookupTable) : String :=
  t.width.name ++ "(Owned(" ++ listText (t.offsets.toList.map toString) ++ "))"

/-- The structural text of an ordered keyset: its keys. -/
def OrderedKeyset.debugText (ks : OrderedKeyset) : String :=
  recordText "OrderedKeyset" [("keys", ks.keyType.keysText ks.keys)] true

/-- The structural text of a perfect-hash keyset: its keys, mask and depth. -/
def PerfectKeyset.debugText (ks : PerfectKeyset) : String :=
  recordText "PextKeyset" [("keys", ks.keyType.keysText ks.keys),
    ("mask", toString ks.mask.toNat), ("depth", toString ks.depth)] true

/-- The structural text of a keyset; `wrapped` writes it as a variant of a keyset of either
kind. -/
def Keyset.debugText (wrapped : Bool) : Keyset → String
  | .ordered ks => if wrapped then "Ordered(" ++ ks.debugText ++ ")" else ks.debugText
  | .perfect ks => if wrapped then "Pext(" ++ ks.debugText ++ ")" else ks.debugText

/-- The structural text of builder settings. -/
def Builder.debugText (b : Builder) : String :=
  recordText "Builder" [("max_depth", toString b.maxDepth),
    ("ordered_threshold", toString b.orderedThreshold),
    ("min_mask_weight", toString b.minMaskWeight), ("max_mask_weight", toString b.maxMaskWeight),
    ("offset_width", match b.offsetWidth with
      | some w => "Some(" ++ w.name ++ ")"
      | none => "None")]

end GatherMap
