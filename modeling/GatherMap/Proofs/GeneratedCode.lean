import GatherMap.Proofs.KeysetReading
import GatherMap.Proofs.MapBuild

/-!
# Generated code denotes what it was generated from

`Generator.generate` writes a block: the import lines of the paths the code asked for, then the
code. Read under the aliases those lines declare, the code of a value is the value, and the
code of a gather, a lookup table, a keyset or a map is the structure itself, field for field,
from a generator of either mutability:

* `blockReads_generate`: the block around a piece reads as the piece does, since its import lines
  name every alias, each once;
* `buildPerfect_writable`, `ofKeys_writable`, `buildKeyset_writable`: every keyset the builder
  makes from raw forms of values of the key type is one whose parts code can express;
* `generated_code_reads_back`: together, what the generated code of every such structure denotes.
-/

namespace GatherMap.Proofs.GeneratedCode

open GatherMap Code Proofs.CodeReading Proofs.KeysetReading

/-- Generated code: a block whose import lines give each path once, under distinct aliases,
around code that `read` reads as `a` under those imports. -/
def BlockReads {α : Type} (read : Env → Tokens → Option α) (code : Tokens) (a : α) : Prop :=
  ∃ crates env body, code = [group .brace (Imports.externFor crates env ++
      env.flatMap (Imports.useOf crates) ++ body)] ∧
    (env.map (·.2)).Nodup ∧ read env body = some a

/-- **The block around a piece reads as the piece does.** -/
theorem blockReads_generate {α : Type} {read : Env → Tokens → Option α} {x : Gen Tokens} {a : α}
    {g : Generator} (hg : Imports.Reachable g) (h : ReadsAs read x a) :
    BlockReads read (Generator.generate g x) a := by
  have hc := Imports.Reachable.consistent (hg.trans (h.preserves g))
  exact ⟨_, _, _, Imports.generate_eq g x hc, Imports.sortedImports_aliases_nodup hc,
    (h.holds g _ (resolves_sortedImports hc)).1⟩

/-! ### Built keysets can be written -/

theorem narrow_writable {offsets : Array Nat} {W : OffsetWidth} {lt : LookupTable}
    (h : LookupTable.narrow offsets W = .ok lt) : LookupWritable lt := by
  unfold LookupTable.narrow at h
  split at h
  · cases h
  · rename_i hnone
    cases h
    intro o ho
    have hlt := Array.find?_eq_none.mp hnone o ho
    simpa [Nat.pow_eq] using hlt

theorem assemble_writable {t : KeyType} {raws : Array UInt64} {g : Gather} {longest : Nat}
    {W : OffsetWidth} {ks : PerfectKeyset} (h : PerfectKeyset.assemble t raws g longest W = .ok ks) :
    LookupWritable ks.lookup := by
  unfold PerfectKeyset.assemble at h
  split at h
  · cases h
  · obtain ⟨lookup, hnarrow, rfl⟩ := MapBuild.map_eq_ok_iff.mp h
    exact narrow_writable hnarrow

section Built

variable {b : Builder} {t : KeyType} {raws : Array UInt64}

theorem fits_of_isRaw (hraws : ∀ raw ∈ raws, IsRaw t raw) : ∀ raw ∈ raws, Gather.Fits t.width raw :=
  fun raw hraw => by
    obtain ⟨v, hv⟩ := hraws raw hraw
    exact (InlineReports.encode?_eq_some hv).1

/-- A perfect-hash keyset built from raw forms of values of the key type can be written. -/
theorem buildPerfect_writable (hraws : ∀ raw ∈ raws, IsRaw t raw) {ks : PerfectKeyset}
    (h : (b.buildPerfect t raws).value = .ok ks) : ks.keyType = t ∧ PerfectWritable ks := by
  obtain ⟨hgather, -, hbuilt⟩ := PerfectBuild.buildPerfect_builtFrom (fits_of_isRaw hraws) h
  obtain ⟨-, -, W, hassemble⟩ := PerfectBuild.buildPerfect_eq_ok h
  obtain ⟨-, -, htype, -⟩ := PerfectBuild.assemble_eq_ok hassemble
  refine ⟨htype, fun raw hraw => ?_, assemble_writable hassemble, ?_⟩
  · rw [htype]
    exact hraws raw (by simpa using hbuilt.perm.subset (by simpa using hraw))
  · rw [hgather, htype]
    rfl

/-- An ordered keyset of raw forms of values of the key type, in the natural order, can be
written. -/
theorem ofKeys_writable (hraws : ∀ raw ∈ raws, IsRaw t raw) {ks : OrderedKeyset}
    (h : OrderedKeyset.ofKeys t .natural raws = .ok ks) : ks.keyType = t ∧ OrderedWritable ks := by
  obtain ⟨sorted, hsort, rfl⟩ := MapBuild.map_eq_ok_iff.mp h
  refine ⟨rfl, fun raw hraw => hraws raw ?_, rfl⟩
  simpa using (Ordered.sortKeys_perm hsort).subset (by simpa using hraw)

/-- A keyset the builder makes in the natural order can be written, of either kind. -/
theorem buildKeyset_writable (hraws : ∀ raw ∈ raws, IsRaw t raw) {k : Keyset}
    (h : (b.buildKeyset t .natural raws).value = .ok k) : k.keyType = t ∧ KeysetWritable k := by
  unfold Builder.buildKeyset at h
  split at h
  · obtain ⟨ks, hks, rfl⟩ := MapBuild.map_eq_ok_iff.mp h
    exact ofKeys_writable hraws hks
  · obtain ⟨ks, hks, rfl⟩ := MapBuild.map_eq_ok_iff.mp h
    exact buildPerfect_writable hraws hks

end Built

/-! ### What generated code denotes -/

/-- **Generated code denotes what it was generated from.** From every generator a history of
calls reaches, of either mutability: the code of a value reads back as the value, at every type
it has; the builder makes keysets whose parts code can express from raw forms of values of the
key type; the code of every gather, of every lookup table whose offsets fit its width and of
every keyset whose parts code can express, wrapped in the variant of its kind or not, reads back
as itself, field for field; and the code of a map over such a keyset, with values of one type
and a byte form given exactly for bytes, reads back as the keyset with the values' meanings in
slot order, which finds every key in the same slot and answers it with its value's meaning.
Static tables and slices of bytes are read only from byte strings, so they are written as byte
strings of the same bytes. -/
theorem generated_code_reads_back {g : Generator} (hg : Imports.Reachable g) :
    (∀ v s, HasShape v s → BlockReads (readValue · s) (Generator.generate g v.piece) v) ∧
    (∀ (b : Builder) t raws, (∀ raw ∈ raws, IsRaw t raw) →
      (∀ ks, (b.buildPerfect t raws).value = .ok ks → ks.keyType = t ∧ PerfectWritable ks) ∧
      (∀ ks, OrderedKeyset.ofKeys t .natural raws = .ok ks →
        ks.keyType = t ∧ OrderedWritable ks) ∧
      (∀ k, (b.buildKeyset t .natural raws).value = .ok k → k.keyType = t ∧ KeysetWritable k)) ∧
    (∀ gt : Gather,
      BlockReads (readGather · gt.width) (Generator.generate g (gatherPiece gt)) gt) ∧
    (∀ lt, LookupWritable lt → BlockReads readLookup (Generator.generate g (lookupPiece lt)) lt) ∧
    (∀ wrapped k, KeysetWritable k →
      BlockReads (readKeyset · k.keyType) (Generator.generate g (keysetPiece wrapped k)) k) ∧
    (∀ {α : Type} wrapped (m : Map α) value s bytes, KeysetWritable m.keyset →
      (∀ v ∈ m.values, HasShape (value v) s) → ByteForm s bytes (m.values.toList.map value) →
      BlockReads (readMap · m.keyset.keyType s)
          (Generator.generate g (mapPiece wrapped m value bytes)) (mapValues value m) ∧
        ∀ raw, (mapValues value m).find raw = m.find raw ∧
          (mapValues value m).get? raw = (m.get? raw).map (Option.map value)) :=
  ⟨fun v s hs => blockReads_generate hg (readsAs_piece v s hs),
    fun _ _ _ hraws => ⟨fun _ => buildPerfect_writable hraws, fun _ => ofKeys_writable hraws,
      fun _ => buildKeyset_writable hraws⟩,
    fun gt => blockReads_generate hg (readsAs_gatherPiece gt),
    fun _ hlt => blockReads_generate hg (readsAs_lookupPiece hlt),
    fun wrapped _ hk => blockReads_generate hg (readsAs_keysetPiece wrapped hk),
    fun wrapped m value _ _ hks hvalues hbytes =>
      ⟨blockReads_generate hg (readsAs_mapPiece wrapped hks hvalues hbytes),
        fun raw => ⟨find_mapValues value m raw, get?_mapValues value m raw⟩⟩⟩

/-- The keys `1` and `2` of type `u8`, as an ordered keyset wrapped in its variant. -/
theorem wrapped_byte_keyset_reads_back :
    Imports.Reachable ({} : Generator) ∧ KeysetWritable (.ordered ⟨.u8, .natural, #[1, 2]⟩) ∧
      BlockReads (readKeyset · .u8)
        (Generator.generate {} (keysetPiece true (.ordered ⟨.u8, .natural, #[1, 2]⟩)))
        (.ordered ⟨.u8, .natural, #[1, 2]⟩) := by
  have hw : KeysetWritable (.ordered ⟨.u8, .natural, #[1, 2]⟩) := by
    refine ⟨fun raw hraw => ?_, rfl⟩
    simp only [List.mem_toArray, List.mem_cons, List.not_mem_nil, or_false] at hraw
    rcases hraw with rfl | rfl
    · exact ⟨.int 1, by decide⟩
    · exact ⟨.int 2, by decide⟩
  exact ⟨.refl, hw,
    (generated_code_reads_back .refl).2.2.2.2.1 true (.ordered ⟨.u8, .natural, #[1, 2]⟩) hw⟩

end GatherMap.Proofs.GeneratedCode
