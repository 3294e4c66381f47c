import GatherMap.Code.Value
import GatherMap.Map

/-!
# Writing keysets and maps as code

Keysets and maps are written as calls of their `__from_raw_parts` constructors, so generated
code rebuilds the exact parts without searching a mask again. Tables are constant vectors: a
reference to static data (a byte string for bytes), or, from a mutable generator, an owned
vector.
-/

namespace GatherMap.Code

/-- A constant vector of the given elements; `bytes` is their byte form when they are bytes. -/
def constVec (bytes : Option (List Nat)) (items : List (Gen Tokens)) : Gen Tokens := do
  let cv ← usePath "pextmap::low_level::ConstVec"
  if ← isMutable then
    let v ← usePath "alloc::vec"
    let arr ← arrayOf items
    return cv ++ puncts "::" ++ [ident "from_vec", group .paren (v ++ puncts "!" ++ arr)]
  else
    let data ← match bytes with
      | some bs => byteString bs
      | none => do
        let arr ← arrayOf items
        pure (puncts "&" ++ arr)
    return cv ++ puncts "::" ++ [ident "from_static_ref", group .paren data]

/-- A call `callee :: name (args, …)`. -/
def callPath (callee : Tokens) (name : String) (args : List Tokens) : Tokens :=
  callee ++ puncts "::" ++ [ident name, group .paren (separated "," args)]

/-- The code of a key given by its raw form. -/
def keyValue (t : KeyType) (raw : UInt64) : Value :=
  match t.decode raw with
  | .int i => .int i
  | .bool b => .bool b
  | .char c => .char c

/-- The keys of a keyset, as a constant vector. Keys of type `u8` are bytes. -/
def keysPiece (t : KeyType) (keys : Array UInt64) : Gen Tokens :=
  constVec (if t = .u8 then some (keys.toList.map (·.toNat)) else none)
    (keys.toList.map fun raw => (keyValue t raw).piece)

/-- The code of a gather: its four parts. -/
def gatherPiece (g : Gather) : Gen Tokens := do
  let p ← usePath "pextmap::Pext"
  return callPath p "__from_raw_parts"
    [intTokens g.mask.toNat, intTokens g.coefficient.toNat, intTokens g.finalMask.toNat,
      intTokens g.gapBits]

/-- The code of a lookup table: its width's variant around the offsets. -/
def lookupPiece (t : LookupTable) : Gen Tokens := do
  let p ← usePath ("pextmap::low_level::LookupTable::" ++ t.width.name)
  let offsets := t.offsets.toList
  let table ← constVec (if t.width = .u8 then some offsets else none)
    (offsets.map fun (o : Nat) => pure (intTokens (Int.ofNat o)))
  return p ++ [group .paren table]

/-- The code of a perfect-hash keyset. -/
def perfectPiece (ks : PerfectKeyset) : Gen Tokens := do
  let p ← usePath "pextmap::PextKeyset"
  let keys ← keysPiece ks.keyType ks.keys
  let lookup ← lookupPiece ks.lookup
  let gather ← gatherPiece ks.gather
  return callPath p "__from_raw_parts" [keys, lookup, gather, intTokens ks.depth]

/-- The code of an ordered keyset in its natural order. -/
def orderedPiece (ks : OrderedKeyset) : Gen Tokens := do
  let p ← usePath "pextmap::OrderedKeyset"
  let keys ← keysPiece ks.keyType ks.keys
  let natural ← usePath "pextmap::Natural"
  return callPath p "__from_raw_parts" [keys, natural]

/-- The code of a keyset; `wrapped` writes it as a keyset of either kind. -/
def keysetPiece (wrapped : Bool) : Keyset → Gen Tokens
  | .ordered ks => do
    if wrapped then
      let v ← usePath "pextmap::AnyKeyset::Ordered"
      let inner ← orderedPiece ks
      return v ++ [group .paren inner]
    else orderedPiece ks
  | .perfect ks => do
    if wrapped then
      let v ← usePath "pextmap::AnyKeyset::Pext"
      let inner ← perfectPiece ks
      return v ++ [group .paren inner]
    else perfectPiece ks

/-- The code of a map whose values are written by `value`; `bytes` gives the values' byte form
when they are bytes. -/
def mapPiece (wrapped : Bool) (m : Map α) (value : α → Value) (bytes : Option (List Nat)) :
    Gen Tokens := do
  let p ← usePath "pextmap::Map"
  let ks ← keysetPiece wrapped m.keyset
  let values ← constVec bytes (m.values.toList.map fun v => (value v).piece)
  return callPath p "__from_raw_parts" [ks, values]

end GatherMap.Code
