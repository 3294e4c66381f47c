import GatherMap.Builder

/-!
# Maps over keysets

A map stores one value per slot of its keyset: the value of a key is at the key's slot. Reading
an absent key gives nothing (`get?`) or a fault (`at`).

A map is built from entries by scattering each entry's value to its key's slot, in input order:
the first entry whose key is absent gives `unknownKey`, the first that reaches a filled slot gives
`duplicateValue`, and after all entries the first empty slot gives `missingValue`. A keyset whose
lookups can fault passes the fault on.
-/

namespace GatherMap

/-- Values indexed by the slots of a keyset. -/
structure Map (α : Type) where
  keyset : Keyset
  values : Array α
  deriving Repr

namespace Map

variable {α : Type}

/-- Number of values. -/
def size (m : Map α) : Nat := m.values.size

/-- The slot of a raw key, or the key count if it is absent. -/
def find (m : Map α) (raw : UInt64) : Except Fault Nat := m.keyset.find raw

/-- The value of a raw key, if the key is present. -/
def get? (m : Map α) (raw : UInt64) : Except Fault (Option α) :=
  (m.find raw).map (m.values[·]?)

/-- The value of a raw key; an absent key is a fault. -/
def value (m : Map α) (raw : UInt64) : Except Fault α := do
  match ← m.get? raw with
  | some v => pure v
  | none => throw .keyNotFound

/-- The probe paired with its value, if the key is present. -/
def getKeyValue? (m : Map α) (raw : UInt64) : Except Fault (Option (UInt64 × α)) :=
  (m.get? raw).map (·.map (raw, ·))

/-- Whether a raw key is present. -/
def contains (m : Map α) (raw : UInt64) : Except Fault Bool := m.keyset.contains raw

/-- Keys and values in slot order. -/
def entries (m : Map α) : List (UInt64 × α) := m.keyset.keys.toList.zip m.values.toList

/-- Scatter entries into slots, counting entries from `index`. -/
def scatter (ks : Keyset) : List (UInt64 × α) → Nat → Array (Option α) →
    Except Fault (Except BuildError (Array (Option α)))
  | [], _, slots => .ok (.ok slots)
  | (raw, v) :: rest, index, slots =>
    match ks.find raw with
    | .error f => .error f
    | .ok slot =>
      if slot < ks.size then
        match slots[slot]? with
        | some (some _) => .ok (.error (.duplicateValue index))
        | _ => scatter ks rest (index + 1) (slots.set! slot (some v))
      else .ok (.error (.unknownKey index))

/-- The values of filled slots, or `missingValue` for the first empty slot. -/
def collectSlots (slots : List (Option α)) (slot : Nat) : Except BuildError (List α) :=
  match slots with
  | [] => .ok []
  | some v :: rest => (collectSlots rest (slot + 1)).map (v :: ·)
  | none :: _ => .error (.missingValue slot)

/-- The map with the entries' values at their keys' slots. -/
def ofEntries (ks : Keyset) (entries : List (UInt64 × α)) :
    Except Fault (Except BuildError (Map α)) :=
  (scatter ks entries 0 (Array.replicate ks.size none)).map fun scattered =>
    scattered.bind fun slots =>
      (collectSlots slots.toList 0).map fun values => { keyset := ks, values := values.toArray }

/-- The map with values given in slot order; their number must be the key count. -/
def ofSlots (ks : Keyset) (values : Array α) : Except BuildError (Map α) :=
  if values.size = ks.size then .ok { keyset := ks, values }
  else .error (.lengthMismatch ks.size values.size)

/-- The map with the same value at every slot. -/
def withDefault (ks : Keyset) (value : α) : Map α :=
  { keyset := ks, values := Array.replicate ks.size value }

/-- A view of values beside a keyset; different counts of keys and values are a fault. -/
def view (ks : Keyset) (values : Array α) : Except Fault (Map α) :=
  if ks.size = values.size then .ok { keyset := ks, values }
  else .error (.valueCountMismatch ks.size values.size)

/-- Check stored parts: one value per key. -/
def validate (ks : Keyset) (values : Array α) : Except Invalid (Map α) :=
  if ks.size = values.size then .ok { keyset := ks, values }
  else .error (.valueCount ks.size values.size)

/-- The map as a view of its keyset and its values. -/
def asSpan (m : Map α) : Except Fault (Map α) := view m.keyset m.values

/-- Store a map and load it back: the keyset is loaded first, then the values are checked
against it. -/
def reload (m : Map α) : Except Invalid (Map α) := do
  let ks ← m.keyset.reload
  validate ks m.values

end Map

/-- Build a map from entries: a keyset over their keys of the kind that suits their number, in the
natural order, then the entries' values at their keys' slots. -/
def Builder.buildMap {α : Type} (b : Builder) (t : KeyType) (entries : List (UInt64 × α)) :
    Traced (Except Fault (Except BuildError (Map α))) :=
  let built := b.buildKeyset t .natural (entries.map (·.1)).toArray
  { value := match built.value with
      | .error e => .ok (.error e)
      | .ok ks => Map.ofEntries ks entries
    events := built.events }

end GatherMap
