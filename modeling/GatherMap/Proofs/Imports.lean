import GatherMap.Code.Keyset
import GatherMap.Proofs.Gather

/-!
# The imports of generated code

Every path that generated code names is imported once, under an alias, at the top of the block
that `Generator.generate` writes. The generator is driven by three calls: `setCrate` maps a crate
name to the tokens that name it, `setMutability` picks owned or static tables, and `path` hands
out the alias of a path. Writing a value or a keyset as code only makes `path` calls
(`Preserves`). Over every history of such calls (`Reachable`):

* `Consistent`: the generator holds one alias per path, the aliases are pairwise distinct, each
  is `__` and the path's last segment, possibly with a number from `2` on (`IsAliasOf`), and it
  wants `alloc` exactly when some path lies in it; `Step.consistent` keeps this over each call;
* `path_run`, `mem_aliases_of_reaches`: a call returns the alias the generator keeps for the
  path, and an alias once handed out stays;
* `generate_eq`: the block is the `extern crate` line when a path lies in `alloc` and no crate
  path is set for it, the imports sorted by path, each rooted by `rootOf` (`_Alloc` for a path
  in `alloc`, else the crate's own tokens), then the value;
* `generated_imports`: so the block of a value, a keyset or a map (`preserves_mapPiece`) holds one
  `use` per path asked for, sorted by path, each under the alias every call for that path
  returned (`Block`).

Two kinds of block name `_Alloc` without declaring it. Once a path lies in `alloc`, the
generator maps `alloc` to `_Alloc` over any crate path set for it, but writes the `extern crate`
line only when none was set (`alloc_mapping_overwritten`). And a crate path set to the tokens
`_Alloc` roots its imports there with no such line (`configured_alloc_root_without_extern`).
-/

namespace GatherMap.Proofs.Imports

open GatherMap Code Generator

/-! ### Paths, aliases and roots -/

/-- The crate a path names: the text before its first `::`. -/
def crateOf (p : String) : String := (segments p).head?.getD p

/-- The alias first offered to a path: `__` and the path's last segment. -/
def aliasBase (p : String) : String := "__" ++ (segments p).getLast?.getD p

/-- An alias the generator can give `p`: its base, or the base followed by a number from `2`. -/
def IsAliasOf (p a : String) : Prop := a = aliasBase p ∨ ∃ n, 2 ≤ n ∧ a = aliasBase p ++ toString n

/-- The tokens that root an import from crate `name`: `_Alloc` for `alloc`, whatever crate path
is set for it; else the crate's own tokens. -/
def rootOf (crates : List (String × Tokens)) (name : String) : Tokens :=
  if name = "alloc" then [ident "_Alloc"] else crateTokens crates name

/-- The import of a path under its alias: `use`, the crate's root, the other segments, `as` and
the alias. -/
def useOf (crates : List (String × Tokens)) (e : String × String) : Tokens :=
  [ident "use"] ++ rootOf crates (crateOf e.1) ++
    (((segments e.1).drop 1).filter (· != "")).flatMap (fun s => puncts "::" ++ [ident s]) ++
    [ident "as", ident e.2] ++ puncts ";"

/-- The declaration of `alloc` as `_Alloc`: written when some import lies in `alloc` and no crate
path is set for it. -/
def externFor (crates : List (String × Tokens)) (imports : List (String × String)) : Tokens :=
  if imports.any (fun e => crateOf e.1 == "alloc") && (crates.lookup "alloc").isNone then
    [ident "extern", ident "crate", ident "alloc", ident "as", ident "_Alloc"] ++ puncts ";"
  else []

/-! ### Histories of calls -/

/-- One call on a generator. -/
inductive Step : Generator → Generator → Prop
  | setCrate (g : Generator) (name : String) (path : Tokens) : Step g (g.setCrate name path)
  | setMutability (g : Generator) (b : Bool) : Step g (g.setMutability b)
  | path (g : Generator) (p : String) : Step g ((Generator.path p).run g).2

/-- A generator some history of calls makes from a new one. -/
def Reachable (g : Generator) : Prop := Relation.ReflTransGen Step {} g

/-- A piece of code whose effect on the generator is a history of calls. -/
def Preserves {α : Type} (x : Gen α) : Prop := ∀ g, Relation.ReflTransGen Step g (x.run g).2

/-- What every reachable generator keeps. -/
structure Consistent (g : Generator) : Prop where
  paths_nodup : (g.aliases.map (·.1)).Nodup
  aliases_nodup : (g.aliases.map (·.2)).Nodup
  isAliasOf : ∀ e ∈ g.aliases, IsAliasOf e.1 e.2
  allocWanted_iff : g.allocWanted = true ↔ ∃ e ∈ g.aliases, crateOf e.1 = "alloc"

/-! ### Lookups in a list of pairs -/

section Lookup

variable {α β : Type} [DecidableEq α] {l : List (α × β)} {a : α} {b : β}

theorem lookup_eq_none_iff_not_mem : l.lookup a = none ↔ a ∉ l.map (·.1) := by
  simp only [List.lookup_eq_none_iff, bne_iff_ne, ne_eq, List.mem_map, not_exists, not_and]
  exact ⟨fun h e he heq => h e he heq.symm, fun h e he heq => h e he heq.symm⟩

theorem mem_of_lookup_eq_some (h : l.lookup a = some b) : (a, b) ∈ l := by
  obtain ⟨l₁, l₂, rfl, -⟩ := List.lookup_eq_some_iff.mp h
  simp

end Lookup

/-! ### Segments of a path -/

theorem splitOnAux_ne_nil (s sep : String) (b i j : String.Pos.Raw) (r : List String) :
    String.splitOnAux s sep b i j r ≠ [] := by
  fun_induction String.splitOnAux s sep b i j r <;> simp_all

theorem segments_ne_nil (p : String) : segments p ≠ [] := by
  unfold segments String.splitOn
  rw [if_neg (by decide)]
  exact splitOnAux_ne_nil _ _ _ _ _ _

/-- The generator's test for a path into `alloc` reads the crate of the path. -/
theorem head?_segments_beq (p : String) :
    ((segments p).head? == some "alloc") = (crateOf p == "alloc") := by
  obtain ⟨x, xs, hx⟩ := List.exists_cons_of_ne_nil (segments_ne_nil p)
  simp [crateOf, hx]

/-! ### Handing out an alias -/

section FreeAlias

variable {taken : List String} {base : String}

/-- The alias handed out is the base, or the base followed by a number from `2`. -/
theorem freeAlias_eq (taken : List String) (base : String) :
    ∀ fuel suffix, freeAlias taken base fuel suffix = base ∨
      ∃ n, 2 ≤ n ∧ freeAlias taken base fuel suffix = base ++ toString n
  | 0, _ => Or.inl rfl
  | fuel + 1, suffix => by
    rw [freeAlias]
    by_cases hs : suffix < 2
    · simp only [hs, ↓reduceIte]
      split
      · exact freeAlias_eq taken base fuel _
      · exact Or.inl rfl
    · simp only [hs, ↓reduceIte]
      split
      · exact freeAlias_eq taken base fuel _
      · exact Or.inr ⟨suffix, by omega, rfl⟩

/-- Numbered aliases differ from the base and from each other. -/
theorem append_toString_injective (base : String) {m n : Nat}
    (h : base ++ toString m = base ++ toString n) : m = n := by
  rw [← String.toList_inj, String.toList_append, String.toList_append] at h
  exact Nat.repr_inj.mp (String.toList_inj.mp (List.append_cancel_left h))

theorem append_toString_ne (base : String) (n : Nat) : base ++ toString n ≠ base := by
  intro h
  apply Nat.repr_ne_empty (n := n)
  rw [← String.toList_inj, String.toList_append] at h
  rw [← String.toList_inj]
  exact List.append_right_eq_self.mp h

/-- From a numbered suffix on, the search for a free alias either finds one or finds every
number it tries taken. -/
theorem freeAlias_numbered (fuel : Nat) {suffix : Nat} (hs : 2 ≤ suffix) :
    freeAlias taken base fuel suffix ∉ taken ∨
      ∀ i < fuel, base ++ toString (suffix + i) ∈ taken := by
  induction fuel generalizing suffix with
  | zero => exact Or.inr fun i hi => absurd hi (Nat.not_lt_zero i)
  | succ fuel ih =>
    have hnum : ¬ suffix < 2 := by omega
    rw [freeAlias]
    simp only [hnum, ↓reduceIte]
    split
    · rename_i htaken
      rw [show max suffix 1 + 1 = suffix + 1 by omega]
      rcases @ih (suffix + 1) (by omega) with hfree | hall
      · exact Or.inl hfree
      · refine Or.inr fun i hi => ?_
        rcases i with _ | i
        · simpa using htaken
        · have := hall i (by omega)
          rwa [show suffix + 1 + i = suffix + (i + 1) by omega] at this
    · rename_i hfree
      exact Or.inl (by simpa using hfree)

/-- **Enough attempts always find a free alias**: of the base and the first `k + 1` numbered
aliases, `k` taken ones cannot hold them all. -/
theorem freeAlias_not_mem (taken : List String) (base : String) :
    freeAlias taken base (taken.length + 2) 0 ∉ taken := by
  rw [freeAlias]
  simp only [show (0 : Nat) < 2 by decide, ↓reduceIte]
  split
  · rename_i hbase
    rcases @freeAlias_numbered taken base (taken.length + 1) (max 0 1 + 1) (by omega)
      with hfree | hall
    · exact hfree
    · exfalso
      have hsub : (base :: (List.range (taken.length + 1)).map
          (fun i => base ++ toString (2 + i))) ⊆ taken := by
        intro x hx
        rcases List.mem_cons.mp hx with rfl | hx
        · simpa using hbase
        · obtain ⟨i, hi, rfl⟩ := List.mem_map.mp hx
          exact hall i (List.mem_range.mp hi)
      have hnodup : (base :: (List.range (taken.length + 1)).map
          (fun i => base ++ toString (2 + i))).Nodup := by
        refine List.nodup_cons.mpr ⟨?_, (List.nodup_range).map fun i j h => ?_⟩
        · simp only [List.mem_map, not_exists, not_and]
          exact fun i _ h => append_toString_ne base (2 + i) h
        · have := append_toString_injective base h
          omega
      have hlen := (hnodup.subperm hsub).length_le
      simp at hlen
  · rename_i hfree
    simpa using hfree

end FreeAlias

/-! ### One call -/

section Calls

variable {g g' : Generator} {p a : String}

/-- The alias a path gets on its first request. -/
def freshAlias (g : Generator) (p : String) : String :=
  freeAlias (g.aliases.map (·.2)) (aliasBase p) ((g.aliases.map (·.2)).length + 2) 0

theorem freshAlias_isAliasOf (g : Generator) (p : String) : IsAliasOf p (freshAlias g p) :=
  freeAlias_eq _ _ _ _

theorem freshAlias_not_mem (g : Generator) (p : String) :
    freshAlias g p ∉ g.aliases.map (·.2) :=
  freeAlias_not_mem _ _

theorem path_run_of_lookup_some (h : g.aliases.lookup p = some a) :
    (Generator.path p).run g = ([ident a], g) := by
  simp [Generator.path, h]
  rfl

theorem path_run_of_lookup_none (h : g.aliases.lookup p = none) :
    (Generator.path p).run g = ([ident (freshAlias g p)],
      { g with aliases := g.aliases ++ [(p, freshAlias g p)],
               allocWanted := g.allocWanted || crateOf p == "alloc" }) := by
  simp [Generator.path, h, freshAlias, aliasBase, head?_segments_beq]
  rfl

/-- **A call returns the alias the generator then keeps for the path.** -/
theorem path_run (g : Generator) (p : String) :
    ∃ a, ((Generator.path p).run g).1 = [ident a] ∧ (p, a) ∈ ((Generator.path p).run g).2.aliases := by
  cases hl : g.aliases.lookup p with
  | some a =>
    rw [path_run_of_lookup_some hl]
    exact ⟨a, rfl, mem_of_lookup_eq_some hl⟩
  | none =>
    rw [path_run_of_lookup_none hl]
    exact ⟨freshAlias g p, rfl, by simp⟩

/-- A call keeps the aliases handed out, and adds at most the one of its path. -/
theorem mem_aliases_path {e : String × String} :
    e ∈ ((Generator.path p).run g).2.aliases ↔ e ∈ g.aliases ∨ e = (p, freshAlias g p) ∧
      g.aliases.lookup p = none := by
  cases hl : g.aliases.lookup p with
  | some a =>
    rw [path_run_of_lookup_some hl]
    simp
  | none =>
    rw [path_run_of_lookup_none hl]
    simp

theorem Step.aliases_subset (h : Step g g') : g.aliases ⊆ g'.aliases := by
  cases h with
  | setCrate => exact List.Subset.refl _
  | setMutability => exact List.Subset.refl _
  | path p => exact fun e he => mem_aliases_path.mpr (Or.inl he)

/-- An alias once handed out stays. -/
theorem mem_aliases_of_reaches (h : Relation.ReflTransGen Step g g') {e : String × String}
    (he : e ∈ g.aliases) : e ∈ g'.aliases := by
  induction h with
  | refl => exact he
  | tail _ hstep ih => exact hstep.aliases_subset ih

/-! ### What every reachable generator keeps -/

theorem consistent_new : Consistent {} :=
  ⟨List.nodup_nil, List.nodup_nil, fun _ he => absurd he List.not_mem_nil,
    by simp⟩

/-- A call keeps the generator consistent: a new path and its new alias are both unused. -/
theorem consistent_path (hg : Consistent g) (p : String) :
    Consistent ((Generator.path p).run g).2 := by
  cases hl : g.aliases.lookup p with
  | some a =>
    rw [path_run_of_lookup_some hl]
    exact hg
  | none =>
    rw [path_run_of_lookup_none hl]
    have hnew : p ∉ g.aliases.map (·.1) := lookup_eq_none_iff_not_mem.mp hl
    have hfree := freshAlias_not_mem g p
    refine ⟨?_, ?_, ?_, ?_⟩
    · rw [List.map_append, List.map_singleton, ← List.concat_eq_append, List.nodup_concat]
      exact ⟨hnew, hg.paths_nodup⟩
    · rw [List.map_append, List.map_singleton, ← List.concat_eq_append, List.nodup_concat]
      exact ⟨hfree, hg.aliases_nodup⟩
    · intro e he
      rcases List.mem_append.mp he with he | he
      · exact hg.isAliasOf e he
      · rw [List.mem_singleton.mp he]
        exact freshAlias_isAliasOf g p
    · simp [hg.allocWanted_iff, or_comm]

/-- **Each call keeps the generator consistent.** -/
theorem Step.consistent (h : Step g g') (hg : Consistent g) : Consistent g' := by
  cases h with
  | setCrate => exact ⟨hg.paths_nodup, hg.aliases_nodup, hg.isAliasOf, hg.allocWanted_iff⟩
  | setMutability => exact ⟨hg.paths_nodup, hg.aliases_nodup, hg.isAliasOf, hg.allocWanted_iff⟩
  | path p => exact consistent_path hg p

theorem Reachable.consistent (h : Reachable g) : Consistent g := by
  induction h with
  | refl => exact consistent_new
  | tail _ hstep ih => exact hstep.consistent ih

/-- **Every alias of a reachable generator was handed out by a call for its path**, at a
reachable generator from which the history goes on. -/
theorem Reachable.exists_request (h : Reachable g) {e : String × String} (he : e ∈ g.aliases) :
    ∃ g₀, Reachable g₀ ∧ Relation.ReflTransGen Step ((Generator.path e.1).run g₀).2 g := by
  induction h with
  | refl => exact absurd he List.not_mem_nil
  | @tail b c hb hstep ih =>
    cases hstep with
    | setCrate name ts =>
      obtain ⟨g₀, h₀, hrun⟩ := ih he
      exact ⟨g₀, h₀, hrun.tail (.setCrate _ name ts)⟩
    | setMutability m =>
      obtain ⟨g₀, h₀, hrun⟩ := ih he
      exact ⟨g₀, h₀, hrun.tail (.setMutability _ m)⟩
    | path p =>
      rcases mem_aliases_path.mp he with he | ⟨rfl, -⟩
      · obtain ⟨g₀, h₀, hrun⟩ := ih he
        exact ⟨g₀, h₀, hrun.tail (.path _ p)⟩
      · exact ⟨b, hb, .refl⟩

end Calls

/-! ### Pieces of code make only calls -/

section Pieces

theorem preserves_pure {α : Type} (a : α) : Preserves (pure a : Gen α) := fun _ => .refl

theorem Preserves.bind {α β : Type} {x : Gen α} {f : α → Gen β} (hx : Preserves x)
    (hf : ∀ a, Preserves (f a)) : Preserves (x >>= f) :=
  fun g => (hx g).trans (hf _ _)

theorem preserves_usePath (p : String) : Preserves (usePath p) := fun g => .single (.path g p)

theorem preserves_isMutable : Preserves isMutable := fun _ => .refl

theorem preserves_byteString (bytes : List Nat) : Preserves (byteString bytes) := fun _ => .refl

theorem preserves_mapM {α β : Type} {f : α → Gen β} :
    ∀ {l : List α}, (∀ a ∈ l, Preserves (f a)) → Preserves (l.mapM f)
  | [], _ => by
    rw [List.mapM_nil]
    exact preserves_pure _
  | a :: l, h => by
    rw [List.mapM_cons]
    exact (h a List.mem_cons_self).bind fun _ =>
      (preserves_mapM fun b hb => h b (List.mem_cons_of_mem a hb)).bind fun _ => preserves_pure _

theorem preserves_arrayOf {pieces : List (Gen Tokens)} (h : ∀ x ∈ pieces, Preserves x) :
    Preserves (arrayOf pieces) := by
  unfold arrayOf
  exact (preserves_mapM h).bind fun _ => preserves_pure _

/-- The pieces of the elements of a list of values. -/
theorem preserves_attach_map {items : List Value} (h : ∀ v ∈ items, Preserves v.piece) :
    ∀ x ∈ items.attach.map (fun ⟨v, _⟩ => v.piece), Preserves x := by
  intro x hx
  obtain ⟨⟨v, hv⟩, -, rfl⟩ := List.mem_map.mp hx
  exact h v hv

/-- **Writing a value only asks for paths.** The induction follows `Value.piece`; the elements of a
list come through the induction hypothesis. -/
theorem preserves_piece (v : Value) : Preserves v.piece := by
  induction v using Value.piece.induct <;> rw [Value.piece]
  case case6 => exact (preserves_usePath _).bind fun _ => preserves_pure _
  case case7 => exact preserves_usePath _
  case case8 v ih => exact (preserves_usePath _).bind fun _ => ih.bind fun _ => preserves_pure _
  case case9 bytes =>
    exact (preserves_usePath _).bind fun _ => (preserves_byteString bytes).bind fun _ =>
      preserves_pure _
  case case10 items ih =>
    exact (preserves_usePath _).bind fun _ => (preserves_arrayOf (preserves_attach_map ih)).bind
      fun _ => preserves_pure _
  case case11 bytes => exact preserves_byteString bytes
  case case12 items ih =>
    exact (preserves_arrayOf (preserves_attach_map ih)).bind fun _ => preserves_pure _
  case case13 items ih => exact preserves_arrayOf (preserves_attach_map ih)
  case case14 v ih => exact ih.bind fun _ => preserves_pure _
  case case15 items ih =>
    exact (preserves_mapM fun ⟨v, hv⟩ _ => ih v hv).bind fun _ => preserves_pure _
  all_goals exact preserves_pure _

theorem preserves_constVec (bytes : Option (List Nat)) {items : List (Gen Tokens)}
    (h : ∀ x ∈ items, Preserves x) : Preserves (constVec bytes items) := by
  unfold constVec
  refine (preserves_usePath _).bind fun _ => preserves_isMutable.bind fun m => ?_
  cases m
  · simp only [Bool.false_eq_true, ↓reduceIte]
    cases bytes with
    | some bs => exact (preserves_byteString bs).bind fun _ => preserves_pure _
    | none =>
      exact (preserves_arrayOf h).bind fun _ => (preserves_pure _).bind fun _ => preserves_pure _
  · exact (preserves_usePath _).bind fun _ => (preserves_arrayOf h).bind fun _ => preserves_pure _

theorem preserves_keysPiece (t : KeyType) (keys : Array UInt64) : Preserves (keysPiece t keys) := by
  refine preserves_constVec _ fun x hx => ?_
  obtain ⟨raw, -, rfl⟩ := List.mem_map.mp hx
  exact preserves_piece _

theorem preserves_gatherPiece (g : Gather) : Preserves (gatherPiece g) :=
  (preserves_usePath _).bind fun _ => preserves_pure _

theorem preserves_lookupPiece (t : LookupTable) : Preserves (lookupPiece t) := by
  refine (preserves_usePath _).bind fun _ => (preserves_constVec _ fun x hx => ?_).bind fun _ =>
    preserves_pure _
  obtain ⟨o, -, rfl⟩ := List.mem_map.mp hx
  exact preserves_pure _

theorem preserves_perfectPiece (ks : PerfectKeyset) : Preserves (perfectPiece ks) :=
  (preserves_usePath _).bind fun _ => (preserves_keysPiece _ _).bind fun _ =>
    (preserves_lookupPiece _).bind fun _ => (preserves_gatherPiece _).bind fun _ => preserves_pure _

theorem preserves_orderedPiece (ks : OrderedKeyset) : Preserves (orderedPiece ks) :=
  (preserves_usePath _).bind fun _ => (preserves_keysPiece _ _).bind fun _ =>
    (preserves_usePath _).bind fun _ => preserves_pure _

theorem preserves_keysetPiece (wrapped : Bool) (k : Keyset) : Preserves (keysetPiece wrapped k) := by
  cases k with
  | ordered ks =>
    cases wrapped
    · exact preserves_orderedPiece ks
    · exact (preserves_usePath _).bind fun _ => (preserves_orderedPiece ks).bind fun _ =>
        preserves_pure _
  | perfect ks =>
    cases wrapped
    · exact preserves_perfectPiece ks
    · exact (preserves_usePath _).bind fun _ => (preserves_perfectPiece ks).bind fun _ =>
        preserves_pure _

/-- **Writing a map only asks for paths.** -/
theorem preserves_mapPiece {α : Type} (wrapped : Bool) (m : Map α) (value : α → Value)
    (bytes : Option (List Nat)) : Preserves (mapPiece wrapped m value bytes) := by
  refine (preserves_usePath _).bind fun _ => (preserves_keysetPiece wrapped _).bind fun _ =>
    (preserves_constVec bytes fun x hx => ?_).bind fun _ => preserves_pure _
  obtain ⟨v, -, rfl⟩ := List.mem_map.mp hx
  exact preserves_piece _

end Pieces

/-! ### The block -/

section Block

variable {g : Generator} {e : String × String}

/-- The imports of a generator, sorted by path as the block writes them. -/
def sortedImports (g : Generator) : List (String × String) :=
  g.aliases.mergeSort (fun a b => !(b.1 < a.1))

theorem mem_sortedImports : e ∈ sortedImports g ↔ e ∈ g.aliases := List.mem_mergeSort

/-- **The imports are strictly sorted by path**: the sort keeps them in order, and no path is
imported twice. -/
theorem sortedImports_sorted (hc : Consistent g) :
    ((sortedImports g).map (·.1)).Pairwise (· < ·) := by
  have hle := @List.pairwise_mergeSort _ (fun a b : String × String => !(b.1 < a.1))
    (fun a b c hab hbc => by
      simp only [Bool.not_eq_true', decide_eq_false_iff_not, not_lt] at hab hbc ⊢
      exact le_trans hab hbc)
    (fun a b => by
      simp only [Bool.or_eq_true, Bool.not_eq_true', decide_eq_false_iff_not, not_lt]
      exact le_total a.1 b.1)
    g.aliases
  have hnodup : ((sortedImports g).map (·.1)).Nodup :=
    ((List.mergeSort_perm _ _).map _).nodup_iff.mpr hc.paths_nodup
  rw [List.Nodup, List.pairwise_map] at hnodup
  rw [List.pairwise_map]
  refine (hle.and hnodup).imp fun ⟨hab, hne⟩ => lt_of_le_of_ne ?_ hne
  simp only [Bool.not_eq_true', decide_eq_false_iff_not, not_lt] at hab
  exact hab

theorem sortedImports_aliases_nodup (hc : Consistent g) : ((sortedImports g).map (·.2)).Nodup :=
  ((List.mergeSort_perm _ _).map _).nodup_iff.mpr hc.aliases_nodup

/-- Whether the block declares `alloc`: the generator wants it and no crate path is set for it. -/
theorem any_sortedImports_alloc (hc : Consistent g) :
    (sortedImports g).any (fun e => crateOf e.1 == "alloc") = g.allocWanted := by
  apply Bool.eq_iff_iff.mpr
  simp only [List.any_eq_true, mem_sortedImports, beq_iff_eq]
  exact hc.allocWanted_iff.symm

/-- The root the block writes for an imported path is `rootOf`: a path in `alloc` makes the
generator want `alloc`, and so map it to `_Alloc`; that mapping hides no other crate. -/
theorem crateTokens_eq_rootOf (hc : Consistent g) (he : e ∈ g.aliases) :
    crateTokens (if g.allocWanted = true then ("alloc", [ident "_Alloc"]) :: g.crates
      else g.crates) (crateOf e.1) = rootOf g.crates (crateOf e.1) := by
  unfold rootOf
  by_cases hname : crateOf e.1 = "alloc"
  · have hwant : g.allocWanted = true := hc.allocWanted_iff.mpr ⟨e, he, hname⟩
    simp [hname, hwant, crateTokens]
  · have hne : (crateOf e.1 == "alloc") = false := beq_false_of_ne hname
    split <;> simp [crateTokens, List.lookup, hne]

/-- **The block of a consistent generator**: the declaration of `alloc` when it is needed, the
imports sorted by path, each under its root, then the value. -/
theorem generate_eq (g : Generator) (piece : Gen Tokens) (hc : Consistent (piece.run g).2) :
    generate g piece =
      [group .brace (externFor (piece.run g).2.crates (sortedImports (piece.run g).2) ++
        (sortedImports (piece.run g).2).flatMap (useOf (piece.run g).2.crates) ++
        (piece.run g).1)] := by
  unfold generate
  generalize piece.run g = r at hc ⊢
  obtain ⟨value, g'⟩ := r
  dsimp only at hc ⊢
  have hext : (if (g'.allocWanted && (g'.crates.lookup "alloc").isNone) = true then
      [ident "extern", ident "crate", ident "alloc", ident "as", ident "_Alloc"] ++ puncts ";"
      else []) = externFor g'.crates (sortedImports g') := by
    rw [externFor, any_sortedImports_alloc hc]
  have huse : (sortedImports g').flatMap (useItem (if g'.allocWanted = true then
      ("alloc", [ident "_Alloc"]) :: g'.crates else g'.crates)) =
      (sortedImports g').flatMap (useOf g'.crates) := by
    refine List.flatMap_congr fun e he => ?_
    rw [useItem, useOf, ← crateTokens_eq_rootOf hc (mem_sortedImports.mp he)]
    rfl
  rw [← hext, ← huse]
  rfl

/-- The block `out` written for the code `value`, after which the generator is `g'`. -/
structure Block (g' : Generator) (value out : Tokens) : Prop where
  /-- The declaration of `alloc` when it is needed, the imports, then the value. -/
  eq : out = [group .brace (externFor g'.crates (sortedImports g') ++
    (sortedImports g').flatMap (useOf g'.crates) ++ value)]
  /-- One import per path, sorted by path. -/
  sorted : ((sortedImports g').map (·.1)).Pairwise (· < ·)
  /-- No alias names two paths. -/
  aliases_nodup : ((sortedImports g').map (·.2)).Nodup
  /-- Each alias is `__` and its path's last segment, possibly with a number from `2`. -/
  isAliasOf : ∀ e ∈ sortedImports g', IsAliasOf e.1 e.2
  /-- Every call for a path on the way returned the alias that the path is imported under. -/
  returned : ∀ g₀ p, Relation.ReflTransGen Step ((Generator.path p).run g₀).2 g' →
    ∃ a, ((Generator.path p).run g₀).1 = [ident a] ∧ (p, a) ∈ sortedImports g'
  /-- Every import was asked for by a call on the way. -/
  requested : ∀ e ∈ sortedImports g', ∃ g₀, Reachable g₀ ∧
    Relation.ReflTransGen Step ((Generator.path e.1).run g₀).2 g'

/-- **The imports of generated code**: writing a piece that only asks for paths, on a generator
that a history of calls made, gives a block that imports each path asked for once, sorted by
path, under the alias that every call for it returned, with the crate roots of `rootOf` and the
declaration of `alloc` exactly when a path lies in it and no crate path is set for it. -/
theorem generated_imports {g : Generator} (hg : Reachable g) {piece : Gen Tokens}
    (hpiece : Preserves piece) : Block (piece.run g).2 (piece.run g).1 (generate g piece) := by
  have hreach : Reachable (piece.run g).2 := hg.trans (hpiece g)
  have hc := hreach.consistent
  refine ⟨generate_eq g piece hc, sortedImports_sorted hc, sortedImports_aliases_nodup hc,
    fun e he => hc.isAliasOf e (mem_sortedImports.mp he), fun g₀ p hrun => ?_,
    fun e he => hreach.exists_request (mem_sortedImports.mp he)⟩
  obtain ⟨a, ha, hmem⟩ := path_run g₀ p
  exact ⟨a, ha, mem_sortedImports.mpr (mem_aliases_of_reaches hrun hmem)⟩

theorem optional_string_block :
    Reachable (({} : Generator).setCrate "alloc" [ident "std"]) ∧
      Preserves (Value.present (.string "a")).piece ∧
      Block ((Value.present (.string "a")).piece.run
          (({} : Generator).setCrate "alloc" [ident "std"])).2
        ((Value.present (.string "a")).piece.run
          (({} : Generator).setCrate "alloc" [ident "std"])).1
        (generate (({} : Generator).setCrate "alloc" [ident "std"])
          (Value.present (.string "a")).piece) :=
  ⟨.single (.setCrate _ _ _), preserves_piece _,
    generated_imports (.single (.setCrate _ _ _)) (preserves_piece _)⟩

theorem segments_alloc_String :
    segments "alloc::string::String" = ["alloc", "string", "String"] := by
  simp +decide [segments, String.splitOn, String.splitOnAux]

/-- **A crate path set for `alloc` is overwritten**: a `String` value after `alloc` was mapped to
`std` is imported from `_Alloc`, and no `extern crate` line declares `_Alloc`. -/
theorem alloc_mapping_overwritten :
    TokenTree.renderAll (generate (({} : Generator).setCrate "alloc" [ident "std"])
      (Value.string "a").piece) =
      "\x7b use _Alloc :: string :: String as __String ; __String :: from (\"a\") \x7d" := by
  have hc : Consistent ((Value.string "a").piece.run
      (({} : Generator).setCrate "alloc" [ident "std"])).2 :=
    Reachable.consistent ((Relation.ReflTransGen.single (.setCrate _ _ _)).trans
      (preserves_piece _ _))
  have hrun : (Value.string "a").piece.run (({} : Generator).setCrate "alloc" [ident "std"]) =
      ([ident "__String"] ++ puncts "::" ++ [ident "from", group .paren [stringLiteral "a"]],
        { crates := [("alloc", [ident "std"])], aliases := [("alloc::string::String", "__String")],
          allocWanted := true }) := by
    rw [Value.piece]
    show (usePath "alloc::string::String" >>= fun p =>
      pure (p ++ puncts "::" ++ [ident "from", group .paren [stringLiteral "a"]])).run _ = _
    rw [StateT.run_bind, usePath, path_run_of_lookup_none rfl]
    simp [freshAlias, aliasBase, crateOf, segments_alloc_String, freeAlias, Generator.setCrate]
    rfl
  rw [generate_eq _ _ hc, hrun]
  simp [sortedImports, externFor, useOf, rootOf, crateOf, segments_alloc_String]
  decide +kernel

theorem segments_pextmap_Map : segments "pextmap::Map" = ["pextmap", "Map"] := by
  simp +decide [segments, String.splitOn, String.splitOnAux]

/-- A crate path set to `_Alloc` roots its imports there, with no `extern crate` line. -/
theorem configured_alloc_root_without_extern :
    TokenTree.renderAll (generate
      ((usePath "pextmap::Map").run (({} : Generator).setCrate "pextmap" [ident "_Alloc"])).2
      Value.unit.piece) = "{ use _Alloc :: Map as __Map ; () }" := by
  have hc : Consistent (Value.unit.piece.run
      ((usePath "pextmap::Map").run (({} : Generator).setCrate "pextmap" [ident "_Alloc"])).2).2 :=
    Reachable.consistent (((Relation.ReflTransGen.single (.setCrate _ _ _)).tail
      (.path _ "pextmap::Map")).trans (preserves_piece _ _))
  have hunit (g : Generator) : Value.unit.piece.run g = ([group .paren []], g) := by
    rw [Value.piece]
    rfl
  have hrun : (usePath "pextmap::Map").run (({} : Generator).setCrate "pextmap" [ident "_Alloc"]) =
      ([ident "__Map"],
        { crates := [("pextmap", [ident "_Alloc"])], aliases := [("pextmap::Map", "__Map")] }) := by
    rw [usePath, path_run_of_lookup_none rfl]
    simp [freshAlias, aliasBase, crateOf, segments_pextmap_Map, freeAlias, Generator.setCrate]
  rw [generate_eq _ _ hc, hunit, hrun]
  simp [sortedImports, externFor, useOf, rootOf, crateOf, segments_pextmap_Map]
  decide

end Block

end GatherMap.Proofs.Imports
