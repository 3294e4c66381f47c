import GatherMap.Proofs.CodeReading
import GatherMap.Proofs.InlineReports

/-!
# Reading generated keysets and maps

Keysets and maps are written as calls of their `__from_raw_parts` constructors around their
parts: constant vectors of keys, offsets and values, the four words of a gather, and plain
numbers. This module reads such calls back and shows that the code of every structure whose
parts code can express reads back as the structure itself:

* `readsAs_constVec`: a constant vector, static or owned, reads back as its elements; a static
  table of bytes is read only from a byte string, so it is written as one;
* `readsAs_gatherPiece`, `readsAs_lookupPiece`: a gather and a lookup table read back field for
  field;
* `readsAs_perfectPiece`, `readsAs_orderedPiece`, `readsAs_keysetPiece`: so do keysets of either
  kind, wrapped in the variant of their kind or not;
* `readsAs_mapPiece`: a map reads back as its keyset with its values' meanings in slot order.
-/

namespace GatherMap.Proofs.KeysetReading

open GatherMap Code Literal Proofs.CodeReading

/-! ### Calls and numbers -/

/-- A call `f :: name (args, …)` of a function whose `f` is imported from `path`: the name and
the arguments. -/
def readCall (env : Env) (path : String) : Tokens → Option (String × List Tokens)
  | [.ident f _, .punct ':' _ _, .punct ':' _ _, .ident name _, .group .paren args _] =>
    if resolve env f = some path then some (name, items args) else none
  | _ => none

/-- A number below `bound`. -/
def readBelow (bound : Nat) (ts : Tokens) : Option Nat :=
  (readNat ts).filter (· < bound)

/-- A 64-bit word. -/
def readWord (ts : Tokens) : Option UInt64 :=
  (readBelow UInt64.size ts).map UInt64.ofNat

theorem item_ident (a : String) : Item [ident a] :=
  ⟨List.cons_ne_nil _ _, by simp [isComma, ident]⟩

theorem item_callPath (a name : String) (args : List Tokens) : Item (callPath [ident a] name args) :=
  ⟨by simp [callPath], by simp [callPath, isComma, puncts_colons, ident, group]⟩

theorem readCall_callPath {env : Env} {a path : String} (ha : resolve env a = some path)
    (name : String) {args : List Tokens} (hargs : ∀ t ∈ args, Item t) :
    readCall env path (callPath [ident a] name args) = some (name, args) := by
  simp [readCall, callPath, puncts_colons, ident, group, ha, items_separated hargs]

theorem intTokens_natCast (n : Nat) : intTokens (n : Int) = [literal (toString n)] := by
  simp only [intTokens, Int.natCast_nonneg, not_lt.mpr, if_false, Int.toNat_natCast]

theorem readNat_intTokens (n : Nat) : readNat (intTokens (n : Int)) = some n := by
  rw [intTokens_natCast]
  simp only [readNat, literal, literalNat, LiteralText.classify_toString]

theorem readWord_intTokens (x : UInt64) : readWord (intTokens (x.toNat : Int)) = some x := by
  simp [readWord, readBelow, readNat_intTokens, UInt64.toNat_lt_size]

/-- A number below the bound, written as a literal, reads back. -/
theorem readsAs_natTokens {bound n : Nat} (h : n < bound) :
    ReadsAs (fun _ => readBelow bound) (pure (intTokens (Int.ofNat n))) n :=
  runs_pure fun _ => ⟨by simp [readBelow, Int.ofNat_eq_natCast, readNat_intTokens, h],
    item_intTokens n⟩

/-! ### Keys -/

/-- The type the code of a key of type `t` is written at. -/
def keyShape : KeyType → Shape
  | .bool => .bool
  | .char => .char
  | _ => .int

/-- The key value that a value is, if it is one. -/
def keyValueOf? : Value → Option KeyValue
  | .int i => some (.int i)
  | .bool b => some (.bool b)
  | .char c => some (.char c)
  | _ => none

/-- A key of type `t`: the raw form of the value its code denotes. -/
def readKey (env : Env) (t : KeyType) (ts : Tokens) : Option UInt64 := do
  t.encode? (← keyValueOf? (← readValue env (keyShape t) ts))

/-- A raw key is the raw form of a value of its type. -/
def IsRaw (t : KeyType) (raw : UInt64) : Prop := ∃ v, t.encode? v = some raw

theorem hasShape_keyValue (t : KeyType) (raw : UInt64) : HasShape (keyValue t raw) (keyShape t) := by
  cases t <;> simp only [keyValue, KeyType.decode, keyShape]
  case bool => exact .bool _
  case char => exact .char _
  all_goals exact .int _

theorem keyValueOf?_keyValue (t : KeyType) (raw : UInt64) :
    keyValueOf? (keyValue t raw) = some (t.decode raw) := by
  unfold keyValue
  split <;> simp_all [keyValueOf?]

/-- **A key reads back as its raw form**, when it is the raw form of a value of its type. -/
theorem readsAs_keyValue {t : KeyType} {raw : UInt64} (h : IsRaw t raw) :
    ReadsAs (readKey · t) (keyValue t raw).piece raw := by
  obtain ⟨v, hv⟩ := h
  have hdecode : t.decode raw = v := (InlineReports.encode?_eq_some hv).2
  exact (readsAs_piece _ _ (hasShape_keyValue t raw)).imp fun env ts ⟨hread, hitem⟩ =>
    ⟨by simp [readKey, hread, keyValueOf?_keyValue, hdecode, hv], hitem⟩

/-- The raw form of a `u8` value is a byte. -/
theorem toNat_lt_of_isRaw_u8 {raw : UInt64} (h : IsRaw .u8 raw) : raw.toNat < 256 := by
  obtain ⟨v, hv⟩ := h
  simpa [Gather.Fits, KeyType.width, Width.bits] using (InlineReports.encode?_eq_some hv).1

/-! ### Constant vectors -/

/-- The elements of a static table: a table of bytes is a byte string, any other table a reference
to an array. -/
def readStatic {β : Type} (read : Tokens → Option β) (ofByte : Option (Nat → β)) :
    Tokens → Option (List β)
  | [.punct '&' _ _, .group .bracket inner _] =>
    match ofByte with
    | none => (items inner).mapM read
    | some _ => none
  | [.literal text _] =>
    match ofByte, classify text with
    | some f, .byteStr bytes => some (bytes.map f)
    | _, _ => none
  | _ => none

/-- The elements of an owned vector, written with `vec!`. -/
def readOwned {β : Type} (env : Env) (read : Tokens → Option β) : Tokens → Option (List β)
  | [.ident v _, .punct '!' _ _, .group .bracket inner _] =>
    if resolve env v = some "alloc::vec" then (items inner).mapM read else none
  | _ => none

/-- A constant vector, static or owned; `ofByte` reads a byte as an element when the elements
are bytes. -/
def readConstVec {β : Type} (env : Env) (read : Tokens → Option β) (ofByte : Option (Nat → β))
    (ts : Tokens) : Option (List β) :=
  match readCall env "pextmap::low_level::ConstVec" ts with
  | some ("from_static_ref", [data]) => readStatic read ofByte data
  | some ("from_vec", [data]) => readOwned env read data
  | _ => none

/-- A call of one argument, written out. -/
theorem readCall_single {env : Env} {a path : String} (ha : resolve env a = some path)
    (name : String) {data : Tokens} (hdata : Item data) :
    readCall env path ([ident a] ++ puncts "::" ++ [ident name, group .paren data]) =
      some (name, [data]) := by
  have hargs : ∀ t ∈ [data], Item t := by simpa using hdata
  exact readCall_callPath ha name hargs

/-- **A constant vector reads back as its elements**, from a generator of either mutability:
an owned vector, or a static table, which is a byte string of the elements' bytes when they are
bytes and a reference to an array otherwise. -/
theorem readsAs_constVec {β : Type} {read : Env → Tokens → Option β} {ofByte : Option (Nat → β)}
    {piece : β → Gen Tokens} {xs : List β} {bytes : Option (List Nat)}
    (h : ∀ x ∈ xs, ReadsAs read (piece x) x)
    (hbytes : ∀ bs, bytes = some bs → (∀ b ∈ bs, b < 256) ∧ ∃ f, ofByte = some f ∧ bs.map f = xs)
    (hnone : bytes = none → ofByte = none) :
    ReadsAs (fun env => readConstVec env (read env) ofByte) (constVec bytes (xs.map piece)) xs := by
  unfold constVec
  refine (runs_usePath _).bind fun cv => runs_isMutable.bind fun m => ?_
  cases m
  · simp only [Bool.false_eq_true, if_false]
    cases bytes with
    | none =>
      simp only [pure_bind]
      refine (runs_arrayOf h).bind fun arr => runs_pure fun env harray _ hcall => ?_
      obtain ⟨inner, harr, hitems⟩ := harray
      obtain ⟨a, hcv, ha⟩ := hcall
      subst hcv harr
      refine ⟨?_, item_callPath a _ [_]⟩
      unfold readConstVec
      rw [readCall_single ha _ ⟨by simp, by simp [isComma, puncts_amp, group]⟩]
      simp [readStatic, puncts_amp, group, hitems, hnone rfl]
    | some bs =>
      obtain ⟨hlt, f, hf, hmap⟩ := hbytes bs rfl
      refine (runs_byteString hlt).bind fun data => runs_pure fun env hbyteLit _ hcall => ?_
      obtain ⟨text, hdata, htext⟩ := hbyteLit
      obtain ⟨a, hcv, ha⟩ := hcall
      subst hcv hdata
      refine ⟨?_, item_callPath a _ [_]⟩
      unfold readConstVec
      rw [readCall_single ha _ ⟨by simp, by simp [isComma, literal]⟩]
      simp [readStatic, literal, hf, htext, hmap]
  · simp only [if_true]
    refine (runs_usePath _).bind fun v => (runs_arrayOf h).bind fun arr =>
      runs_pure fun env harray hvec _ hcall => ?_
    obtain ⟨inner, harr, hitems⟩ := harray
    obtain ⟨b, hv, hb⟩ := hvec
    obtain ⟨a, hcv, ha⟩ := hcall
    subst hcv hv harr
    refine ⟨?_, item_callPath a _ [_]⟩
    unfold readConstVec
    rw [readCall_single ha _ ⟨by simp, by simp [isComma, puncts_bang, ident, group]⟩]
    simp [readOwned, puncts_bang, ident, group, hb, hitems]

/-! ### Gathers and lookup tables -/

/-- A gather of width `w`: `Pext :: __from_raw_parts (mask, coefficient, final_mask, gap_bits)`. -/
def readGather (env : Env) (w : Width) (ts : Tokens) : Option Gather :=
  match readCall env "pextmap::Pext" ts with
  | some ("__from_raw_parts", [mask, coefficient, finalMask, gapBits]) => do
    return ⟨w, ← readWord mask, ← readWord coefficient, ← readWord finalMask, ← readNat gapBits⟩
  | _ => none

/-- The offset widths. -/
def offsetWidths : List OffsetWidth := [.u8, .u16, .u32]

/-- A lookup table: the variant of its width around a constant vector of offsets that fit the
width. -/
def readLookup (env : Env) : Tokens → Option LookupTable
  | [.ident v _, .group .paren table _] => do
    let w ← offsetWidths.find? fun w =>
      resolve env v == some ("pextmap::low_level::LookupTable::" ++ w.name)
    let offsets ← readConstVec env (readBelow (2 ^ w.bits)) (if w = .u8 then some id else none) table
    return ⟨w, offsets.toArray⟩
  | _ => none

/-- **A gather reads back as itself**, at its width. -/
theorem readsAs_gatherPiece (gt : Gather) : ReadsAs (readGather · gt.width) (gatherPiece gt) gt := by
  unfold gatherPiece
  refine (runs_usePath _).bind fun p => runs_pure fun env ⟨a, hp, ha⟩ => ?_
  subst hp
  refine ⟨?_, item_callPath a _ _⟩
  dsimp only
  unfold readGather
  rw [readCall_callPath ha _ (by simp [item_intTokens])]
  simp [readWord_intTokens, readNat_intTokens]

theorem find?_offsetWidths (env : Env) (v : String) (W : OffsetWidth)
    (hv : resolve env v = some ("pextmap::low_level::LookupTable::" ++ W.name)) :
    offsetWidths.find? (fun w => resolve env v == some ("pextmap::low_level::LookupTable::" ++ w.name)) =
      some W := by
  rw [hv]
  cases W <;> decide

/-- The offsets of a lookup table fit its width. -/
def LookupWritable (lt : LookupTable) : Prop := ∀ o ∈ lt.offsets, o < 2 ^ lt.width.bits

/-- The offsets of a table that fit its width read back, as a byte string for a width of one
byte. -/
theorem readsAs_offsets {lt : LookupTable} (h : LookupWritable lt) :
    ReadsAs (fun env => readConstVec env (readBelow (2 ^ lt.width.bits))
        (if lt.width = .u8 then some id else none))
      (constVec (if lt.width = .u8 then some lt.offsets.toList else none)
        (lt.offsets.toList.map fun o => pure (intTokens (Int.ofNat o)))) lt.offsets.toList := by
  refine readsAs_constVec (fun o ho => readsAs_natTokens (h o (by simpa using ho)))
    (fun bs hbs => ?_) (by split_ifs <;> simp)
  by_cases hw : lt.width = .u8
  · simp only [hw, if_true, Option.some.injEq] at hbs
    subst hbs
    refine ⟨fun b hb => ?_, id, by simp [hw]⟩
    simpa [hw, OffsetWidth.bits] using h b (by simpa using hb)
  · simp [hw] at hbs

/-- **A lookup table reads back as itself** when its offsets fit its width. -/
theorem readsAs_lookupPiece {lt : LookupTable} (h : LookupWritable lt) :
    ReadsAs readLookup (lookupPiece lt) lt := by
  unfold lookupPiece
  refine (runs_usePath _).bind fun p => (readsAs_offsets h).bind fun table =>
    runs_pure fun env ⟨htable, _⟩ ⟨a, hp, ha⟩ => ?_
  subst hp
  refine ⟨?_, by simp [Item, ident, group, isComma]⟩
  simp [readLookup, ident, group, find?_offsetWidths env a lt.width ha, htable]

/-! ### Keysets -/

/-- The keys of a keyset of type `t`; keys of type `u8` are bytes. -/
def readKeys (env : Env) (t : KeyType) : Tokens → Option (List UInt64) :=
  readConstVec env (readKey env t) (if t = .u8 then some UInt64.ofNat else none)

/-- A perfect-hash keyset of type `t`. -/
def readPerfect (env : Env) (t : KeyType) (ts : Tokens) : Option PerfectKeyset :=
  match readCall env "pextmap::PextKeyset" ts with
  | some ("__from_raw_parts", [keys, lookup, gather, depth]) => do
    return ⟨t, (← readKeys env t keys).toArray, ← readLookup env lookup,
      ← readGather env t.width gather, ← readNat depth⟩
  | _ => none

/-- An ordered keyset of type `t` in the natural order. -/
def readOrdered (env : Env) (t : KeyType) (ts : Tokens) : Option OrderedKeyset :=
  match readCall env "pextmap::OrderedKeyset" ts with
  | some ("__from_raw_parts", [keys, [.ident n _]]) =>
    if resolve env n = some "pextmap::Natural" then
      (readKeys env t keys).map fun keys => ⟨t, .natural, keys.toArray⟩
    else none
  | _ => none

/-- A keyset wrapped in the variant of its kind. -/
def readWrapped (env : Env) (t : KeyType) : Tokens → Option Keyset
  | [.ident v _, .group .paren inner _] =>
    if resolve env v = some "pextmap::AnyKeyset::Ordered" then (readOrdered env t inner).map .ordered
    else if resolve env v = some "pextmap::AnyKeyset::Pext" then
      (readPerfect env t inner).map .perfect
    else none
  | _ => none

/-- A keyset of type `t`, of either kind, wrapped or not. -/
def readKeyset (env : Env) (t : KeyType) (ts : Tokens) : Option Keyset :=
  readWrapped env t ts <|> (readPerfect env t ts).map .perfect <|>
    (readOrdered env t ts).map .ordered

/-- The keys of a keyset read back when each is the raw form of a value of the keys' type. -/
theorem readsAs_keysPiece {t : KeyType} {keys : Array UInt64} (h : ∀ raw ∈ keys, IsRaw t raw) :
    ReadsAs (readKeys · t) (keysPiece t keys) keys.toList := by
  unfold keysPiece
  refine readsAs_constVec (fun raw hraw => readsAs_keyValue (h raw (by simpa using hraw)))
    (fun bs hbs => ?_) (by split_ifs <;> simp)
  by_cases ht : t = .u8
  · subst ht
    simp only [if_true, Option.some.injEq] at hbs
    subst hbs
    refine ⟨fun b hb => ?_, UInt64.ofNat, rfl, by simp [Function.comp_def]⟩
    obtain ⟨raw, hraw, rfl⟩ := List.mem_map.mp hb
    exact toNat_lt_of_isRaw_u8 (h raw (by simpa using hraw))
  · simp [ht] at hbs

/-- What the code of a perfect-hash keyset needs to denote it: keys of its type, offsets that fit
the table's width, and a gather of the keys' width. -/
structure PerfectWritable (ks : PerfectKeyset) : Prop where
  keys : ∀ raw ∈ ks.keys, IsRaw ks.keyType raw
  lookup : LookupWritable ks.lookup
  width : ks.gather.width = ks.keyType.width

/-- What the code of an ordered keyset needs to denote it: keys of its type, in the natural
order, the only order the code names. -/
structure OrderedWritable (ks : OrderedKeyset) : Prop where
  keys : ∀ raw ∈ ks.keys, IsRaw ks.keyType raw
  natural : ks.order = .natural

/-- What the code of a keyset needs to denote it. -/
def KeysetWritable : Keyset → Prop
  | .ordered ks => OrderedWritable ks
  | .perfect ks => PerfectWritable ks

theorem readsAs_perfectPiece {ks : PerfectKeyset} (h : PerfectWritable ks) :
    ReadsAs (readPerfect · ks.keyType) (perfectPiece ks) ks := by
  unfold perfectPiece
  refine (runs_usePath _).bind fun p => (readsAs_keysPiece h.keys).bind fun keys =>
    (readsAs_lookupPiece h.lookup).bind fun lookup => (readsAs_gatherPiece ks.gather).bind
      fun gather => runs_pure fun env ⟨hg, hgi⟩ ⟨hl, hli⟩ ⟨hk, hki⟩ ⟨a, hp, ha⟩ => ?_
  subst hp
  refine ⟨?_, item_callPath a _ _⟩
  rw [h.width] at hg
  dsimp only at hg hk ⊢
  unfold readPerfect
  rw [readCall_callPath ha _ (by simp [hgi, hli, hki, item_intTokens])]
  simp [hk, hl, hg, readNat_intTokens]

theorem readsAs_orderedPiece {ks : OrderedKeyset} (h : OrderedWritable ks) :
    ReadsAs (readOrdered · ks.keyType) (orderedPiece ks) ks := by
  unfold orderedPiece
  refine (runs_usePath _).bind fun p => (readsAs_keysPiece h.keys).bind fun keys =>
    (runs_usePath _).bind fun natural =>
      runs_pure fun env ⟨n, hn, hnat⟩ ⟨hk, hki⟩ ⟨a, hp, ha⟩ => ?_
  subst hp hn
  refine ⟨?_, item_callPath a _ _⟩
  dsimp only at hk ⊢
  unfold readOrdered
  rw [readCall_callPath ha _ (by simp [hki, item_ident])]
  obtain ⟨-, hnatural⟩ := h
  cases ks
  dsimp only at hnatural hk ⊢
  subst hnatural
  simp [ident, hnat, hk]

/-! ### A keyset of either kind -/

section Calls

variable {env : Env} {ts : Tokens} {x : String × List Tokens}

/-- A call is a call of one function: its head alias names one path. -/
theorem readCall_eq_none_of_ne {p q : String} (hp : readCall env p ts = some x) (hne : p ≠ q) :
    readCall env q ts = none := by
  unfold readCall at hp ⊢
  split at hp
  · rename_i f name args
    split_ifs at hp with hf
    simp [hf, hne]
  · cases hp

/-- A call is not a wrapped keyset. -/
theorem readWrapped_of_readCall {p : String} (t : KeyType) (hp : readCall env p ts = some x) :
    readWrapped env t ts = none := by
  unfold readCall at hp
  split at hp
  · rfl
  · cases hp

theorem readCall_of_readPerfect {t : KeyType} {ks : PerfectKeyset} (h : readPerfect env t ts = some ks) :
    ∃ x, readCall env "pextmap::PextKeyset" ts = some x := by
  unfold readPerfect at h
  split at h
  · exact ⟨_, ‹_›⟩
  · cases h

theorem readCall_of_readOrdered {t : KeyType} {ks : OrderedKeyset}
    (h : readOrdered env t ts = some ks) : ∃ x, readCall env "pextmap::OrderedKeyset" ts = some x := by
  unfold readOrdered at h
  split at h
  · exact ⟨_, ‹_›⟩
  · cases h

end Calls

/-- **A keyset reads back as itself**, wrapped in the variant of its kind or not. -/
theorem readsAs_keysetPiece (wrapped : Bool) {k : Keyset} (h : KeysetWritable k) :
    ReadsAs (readKeyset · k.keyType) (keysetPiece wrapped k) k := by
  cases k with
  | ordered ks =>
    have hks := readsAs_orderedPiece h
    cases wrapped
    · refine hks.imp fun env ts hinner => ⟨?_, hinner.2⟩
      have hread := hinner.1
      obtain ⟨x, hcall⟩ := readCall_of_readOrdered hread
      have hperfect : readPerfect env ks.keyType ts = none := by
        unfold readPerfect
        rw [readCall_eq_none_of_ne hcall (by decide)]
      simp [readKeyset, Keyset.keyType, readWrapped_of_readCall _ hcall, hperfect, hread]
    · refine (runs_usePath _).bind fun v => hks.bind fun inner =>
        runs_pure fun env hinner hpath => ?_
      have hread := hinner.1
      obtain ⟨a, hv, ha⟩ := hpath
      subst hv
      exact ⟨by simp [readKeyset, readWrapped, Keyset.keyType, ident, group, ha, hread],
        by simp, by simp [isComma, ident, group]⟩
  | perfect ks =>
    have hks := readsAs_perfectPiece h
    cases wrapped
    · refine hks.imp fun env ts hinner => ⟨?_, hinner.2⟩
      have hread := hinner.1
      obtain ⟨x, hcall⟩ := readCall_of_readPerfect hread
      simp [readKeyset, Keyset.keyType, readWrapped_of_readCall _ hcall, hread]
    · refine (runs_usePath _).bind fun v => hks.bind fun inner =>
        runs_pure fun env hinner hpath => ?_
      have hread := hinner.1
      obtain ⟨a, hv, ha⟩ := hpath
      subst hv
      exact ⟨by simp [readKeyset, readWrapped, Keyset.keyType, ident, group, ha, hread],
        by simp, by simp [isComma, ident, group]⟩

/-! ### Maps -/

/-- A byte read as a value of type `s`, if the values are bytes. -/
def byteValue : Shape → Option (Nat → Value)
  | .byte => some fun b => .int b
  | _ => none

/-- A map with keys of type `t` and values of type `s`. -/
def readMap (env : Env) (t : KeyType) (s : Shape) (ts : Tokens) : Option (Map Value) :=
  match readCall env "pextmap::Map" ts with
  | some ("__from_raw_parts", [keyset, values]) => do
    return ⟨← readKeyset env t keyset,
      (← readConstVec env (readValue env s) (byteValue s) values).toArray⟩
  | _ => none

/-- The values' byte form is given exactly for values of type `u8`, and spells them. -/
def ByteForm (s : Shape) (bytes : Option (List Nat)) (vs : List Value) : Prop :=
  match bytes with
  | none => s ≠ .byte
  | some bs => s = .byte ∧ bs.map (fun b : Nat => Value.int b) = vs

/-- The map with `f` applied to every value. -/
def mapValues {α β : Type} (f : α → β) (m : Map α) : Map β := ⟨m.keyset, m.values.map f⟩

/-- A map with its values mapped finds every key in the same slot. -/
theorem find_mapValues {α β : Type} (f : α → β) (m : Map α) (raw : UInt64) :
    (mapValues f m).find raw = m.find raw := rfl

/-- A map with its values mapped answers every key with the mapped value. -/
theorem get?_mapValues {α β : Type} (f : α → β) (m : Map α) (raw : UInt64) :
    (mapValues f m).get? raw = (m.get? raw).map (Option.map f) := by
  unfold Map.get?
  rw [find_mapValues]
  cases m.find raw <;> simp [Except.map, mapValues]

/-- The values of a map read back as their meanings, as a byte string exactly for bytes. -/
theorem readsAs_values {α : Type} {values : Array α} {value : α → Value} {s : Shape}
    {bytes : Option (List Nat)} (hvalues : ∀ v ∈ values, HasShape (value v) s)
    (hbytes : ByteForm s bytes (values.toList.map value)) :
    ReadsAs (fun env => readConstVec env (readValue env s) (byteValue s))
      (constVec bytes (values.toList.map fun v => (value v).piece)) (values.toList.map value) := by
  have hshape : ∀ v ∈ values.toList.map value, HasShape v s := by
    intro v hv
    obtain ⟨x, hx, rfl⟩ := List.mem_map.mp hv
    exact hvalues x (by simpa using hx)
  rw [show (values.toList.map fun v => (value v).piece) =
    (values.toList.map value).map Value.piece by simp [Function.comp_def]]
  refine readsAs_constVec (fun v hv => readsAs_piece v s (hshape v hv)) (fun bs hbs => ?_)
    (fun hnone => ?_)
  · subst hbs
    obtain ⟨rfl, hmap⟩ := hbytes
    refine ⟨fun b hb => ?_, _, rfl, hmap⟩
    have hv : HasShape (.int b) .byte := hshape _ (hmap ▸ List.mem_map_of_mem hb)
    cases hv with | byte _ h256 => exact_mod_cast h256
  · subst hnone
    cases s <;> simp_all [ByteForm, byteValue]

/-- **A map reads back as its keyset with its values' meanings**, in slot order. -/
theorem readsAs_mapPiece {α : Type} (wrapped : Bool) {m : Map α} {value : α → Value} {s : Shape}
    {bytes : Option (List Nat)} (hks : KeysetWritable m.keyset)
    (hvalues : ∀ v ∈ m.values, HasShape (value v) s)
    (hbytes : ByteForm s bytes (m.values.toList.map value)) :
    ReadsAs (readMap · m.keyset.keyType s) (mapPiece wrapped m value bytes) (mapValues value m) := by
  unfold mapPiece
  refine (runs_usePath _).bind fun p => (readsAs_keysetPiece wrapped hks).bind fun ks =>
    (readsAs_values hvalues hbytes).bind fun values =>
      runs_pure fun env ⟨hv, hvi⟩ ⟨hk, hki⟩ ⟨a, hp, ha⟩ => ?_
  subst hp
  refine ⟨?_, item_callPath a _ _⟩
  dsimp only at hv hk ⊢
  unfold readMap
  rw [readCall_callPath ha _ (by simp [hvi, hki])]
  simp [hk, hv, mapValues]
  rw [← Array.toList_map, Array.toArray_toList]

end GatherMap.Proofs.KeysetReading
