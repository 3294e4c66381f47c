/-!
# Why building, checking or reading a keyset fails

Three kinds of failure, each with its own wording:

* `BuildError`: a keyset or map cannot be built from the given keys or entries;
* `Invalid`: stored parts of a keyset or map do not form a valid one;
* `Fault`: an operation was used outside its contract, such as reading an absent key with
  `Map.at`. A fault ends the operation with its message.

`BuildError` also has a structural text (`debug`, `alternateDebug`): the variant name and its
named fields, on one line or one field per line.
-/

namespace GatherMap

/-- Reasons a keyset or map cannot be built. -/
inductive BuildError where
  /-- The probe depth is zero. -/
  | zeroDepth
  /-- The keys at two input positions are equal. -/
  | duplicateKey (first second : Nat)
  /-- The given mask leaves a bucket longer than the probe depth. -/
  | depthExceeded (longest depth : Nat)
  /-- The lookup table would need more index bits than allowed. -/
  | tableTooLarge (weight limit : Nat)
  /-- The key count does not fit lookup offsets of the given bit width. -/
  | offsetOverflow (len width : Nat)
  /-- An entry's key is not in the keyset. -/
  | unknownKey (index : Nat)
  /-- An entry gives a second value for a key. -/
  | duplicateValue (index : Nat)
  /-- A slot of the keyset received no value. -/
  | missingValue (slot : Nat)
  /-- The number of values differs from the number of keys. -/
  | lengthMismatch (expected actual : Nat)
  deriving DecidableEq, Repr, Inhabited

namespace BuildError

/-- The variant's name. -/
def kind : BuildError → String
  | zeroDepth => "ZeroDepth"
  | duplicateKey .. => "DuplicateKey"
  | depthExceeded .. => "DepthExceeded"
  | tableTooLarge .. => "TableTooLarge"
  | offsetOverflow .. => "OffsetOverflow"
  | unknownKey .. => "UnknownKey"
  | duplicateValue .. => "DuplicateValue"
  | missingValue .. => "MissingValue"
  | lengthMismatch .. => "LengthMismatch"

/-- The named fields of the variant, in declaration order. -/
def fields : BuildError → List (String × Nat)
  | zeroDepth => []
  | duplicateKey a b => [("first", a), ("second", b)]
  | depthExceeded a b => [("longest", a), ("depth", b)]
  | tableTooLarge a b => [("weight", a), ("limit", b)]
  | offsetOverflow a b => [("len", a), ("width", b)]
  | unknownKey a => [("index", a)]
  | duplicateValue a => [("index", a)]
  | missingValue a => [("slot", a)]
  | lengthMismatch a b => [("expected", a), ("actual", b)]

/-- The human-readable message. -/
def message : BuildError → String
  | zeroDepth => "probe depth must be at least 1"
  | duplicateKey a b => s!"keys at positions {a} and {b} are equal"
  | depthExceeded a b => s!"the mask leaves a bucket of {a} keys, but the probe depth is {b}"
  | tableTooLarge a b => s!"the lookup table needs {a} index bits, more than the limit of {b}"
  | offsetOverflow a b => s!"{a} keys do not fit in {b}-bit lookup offsets"
  | unknownKey a => s!"entry {a} has a key outside of the keyset"
  | duplicateValue a => s!"entry {a} assigns a value to a key that already has one"
  | missingValue a => s!"slot {a} of the keyset has no value"
  | lengthMismatch a b => s!"expected {a} values, got {b}"

/-- The structural text on one line: `DuplicateKey { first: 1, second: 4 }`, or the bare name
of a variant without fields. -/
def debug (e : BuildError) : String :=
  match e.fields with
  | [] => e.kind
  | fs => e.kind ++ " \x7b " ++ ", ".intercalate (fs.map fun (n, v) => s!"{n}: {v}") ++ " \x7d"

/-- The structural text with one field per line, indented by four spaces, each followed by a
comma. -/
def alternateDebug (e : BuildError) : String :=
  match e.fields with
  | [] => e.kind
  | fs => e.kind ++ " \x7b\n" ++ String.join (fs.map fun (n, v) => s!"    {n}: {v},\n") ++ "\x7d"

/-- The variant with a given name and field values, if the name is a variant and the values
match its fields. -/
def ofParts? (kind : String) (values : List Nat) : Option BuildError :=
  match kind, values with
  | "ZeroDepth", [] => some zeroDepth
  | "DuplicateKey", [a, b] => some (duplicateKey a b)
  | "DepthExceeded", [a, b] => some (depthExceeded a b)
  | "TableTooLarge", [a, b] => some (tableTooLarge a b)
  | "OffsetOverflow", [a, b] => some (offsetOverflow a b)
  | "UnknownKey", [a] => some (unknownKey a)
  | "DuplicateValue", [a] => some (duplicateValue a)
  | "MissingValue", [a] => some (missingValue a)
  | "LengthMismatch", [a, b] => some (lengthMismatch a b)
  | _, _ => none

/-- The field names of the variant called `kind`. -/
def fieldNames (kind : String) : Option (List String) :=
  match kind with
  | "ZeroDepth" => some []
  | "DuplicateKey" => some ["first", "second"]
  | "DepthExceeded" => some ["longest", "depth"]
  | "TableTooLarge" => some ["weight", "limit"]
  | "OffsetOverflow" => some ["len", "width"]
  | "UnknownKey" | "DuplicateValue" => some ["index"]
  | "MissingValue" => some ["slot"]
  | "LengthMismatch" => some ["expected", "actual"]
  | _ => none

end BuildError

/-- Reasons stored parts do not form a valid keyset or map. -/
inductive Invalid where
  /-- The lookup table does not have one offset per packed index. -/
  | lookupLength
  /-- An offset of the lookup table is past the last key. -/
  | offsetPastEnd
  /-- A non-empty keyset has probe depth zero. -/
  | zeroDepth
  /-- The key in this slot is not found at the slot. -/
  | misplacedKey (slot : Nat)
  /-- The key at this position is not after the one before it. -/
  | unsorted (index : Nat)
  /-- The number of values differs from the number of keys. -/
  | valueCount (keys values : Nat)
  deriving DecidableEq, Repr, Inhabited

/-- The human-readable message. -/
def Invalid.message : Invalid → String
  | .lookupLength => "lookup table length is not 2^popcount(mask)"
  | .offsetPastEnd => "lookup table points past the end of the keys"
  | .zeroDepth => "zero depth for a non-empty keyset"
  | .misplacedKey i => s!"key {i} cannot be found at its own slot"
  | .unsorted i => s!"key {i} is not ordered after its predecessor"
  | .valueCount k v => s!"{v} values for {k} keys"

/-- Operations used outside their contract. -/
inductive Fault where
  /-- A table was read at an index past its end. -/
  | indexOutOfBounds (len index : Nat)
  /-- A map was asked for the value of an absent key. -/
  | keyNotFound
  /-- A map view was made from different numbers of keys and values. -/
  | valueCountMismatch (keys values : Nat)
  /-- A constructor that has no error result met a build error. -/
  | failedToBuild (what : String) (error : BuildError)
  deriving DecidableEq, Repr, Inhabited

/-- The message a fault ends with. -/
def Fault.message : Fault → String
  | .indexOutOfBounds l i => s!"index out of bounds: the len is {l} but the index is {i}"
  | .keyNotFound => "key not found"
  | .valueCountMismatch k v =>
    "assertion `left == right` failed: one value per key is required\n  left: " ++
      toString k ++ "\n right: " ++ toString v
  | .failedToBuild what e => s!"failed to build {what}: " ++ e.message

end GatherMap
