import GatherMap.Proofs.MaskChoice

/-!
# The masks of all settings lie on one chain

Phase two of the mask search repeats one move, the cheapest removal, from the mask that phase one
leaves. Neither the move nor its start reads the depth or the weight floor: these only decide
after how many moves the search stops. So the masks of all settings lie on one chain
`M₁, c M₁, c (c M₁), …` (`removalChain`), and each search stops at the first mask of the chain
where its test `Stops` holds. Bucket lengths along the chain may go up and down; what orders the
settings is only that deeper buckets and a lower floor make the test hold at fewer masks.

* `cheapestRemoval_submask`: a removal never sets a bit, so the chain only loses bits;
* `narrowLoop_removalChain`: a run of phase two walks the chain, past masks where the test
  fails, to the first one where it holds or as far as its rounds reach;
* `searchMask_stopsFirstAt`: the search returns the first mask of the chain where its test holds;
* `Stops.mono`: where deeper buckets and a lower floor stop, the other setting stops too;
* `search_masks_narrow_along_one_chain`: with more depth and less floor the search stops later on
  the chain, so its mask is a submask of the other one and its lookup table no larger.
-/

namespace GatherMap.Proofs.RemovalChain

open GatherMap MaskSearch Proofs.MaskChoice

variable {w : Width} {raws : Array UInt64}

/-! ### The chain -/

/-- The `k`-th mask of the chain: the mask of phase one after `k` cheapest removals. -/
def removalChain (w : Width) (raws : Array UInt64) (k : Nat) : UInt64 :=
  (cheapestRemoval w raws)^[k] (separatingMask w raws)

/-- `mask` is the `k`-th mask of the chain, and the first one of it where phase two stops. -/
def StopsFirstAt (w : Width) (raws : Array UInt64) (maxDepth minWeight k : Nat) (mask : UInt64) :
    Prop :=
  mask = removalChain w raws k ∧ Stops w raws maxDepth minWeight (removalChain w raws k) ∧
    ∀ i < k, ¬Stops w raws maxDepth minWeight (removalChain w raws i)

theorem removalChain_zero : removalChain w raws 0 = separatingMask w raws := rfl

theorem removalChain_succ (k : Nat) :
    removalChain w raws (k + 1) = cheapestRemoval w raws (removalChain w raws k) :=
  Function.iterate_succ_apply' _ k _

/-- **A removal never sets a bit**: it clears one set bit, or leaves a mask without set bits
as it is. -/
theorem cheapestRemoval_submask (w : Width) (raws : Array UInt64) (mask : UInt64) :
    Submask (cheapestRemoval w raws mask) mask := by
  obtain ⟨hheld, -⟩ := foldl_removalStep_held raws (List.range w.bits) (mask, none)
    (fun bit hbit => List.mem_range.mp hbit) (Or.inl ⟨rfl, rfl⟩)
  rw [cheapestRemoval_eq_foldl]
  rcases hheld with ⟨-, hsame⟩ | ⟨-, b, -, -, hclear⟩
  · rw [hsame]
    exact Submask.refl mask
  · rw [hclear]
    exact clearBit_submask mask b

/-- A later mask of the chain is a submask of an earlier one. -/
theorem removalChain_antitone {i j : Nat} (hij : i ≤ j) :
    Submask (removalChain w raws j) (removalChain w raws i) := by
  induction j, hij using Nat.le_induction with
  | base => exact Submask.refl _
  | succ j _ ih =>
    rw [removalChain_succ]
    exact (cheapestRemoval_submask w raws _).trans ih

theorem Submask.popCount_le {a b : UInt64} (h : Submask a b) : popCount a ≤ popCount b := by
  have hsub : (setBits a).Subperm (setBits b) :=
    (List.nodup_range.filter _).subperm fun i hi => by
      obtain ⟨hi64, hset⟩ := mem_setBits.mp hi
      exact mem_setBits.mpr ⟨hi64, h.testBit hi64 hset⟩
  rw [popCount_eq_length_setBits, popCount_eq_length_setBits]
  exact hsub.length_le

/-! ### Walking the chain -/

/-- **A run of phase two walks the chain.** From the `k`-th mask, `fuel` rounds end `j` masks
further on, past masks where the test fails, at the first one where it holds unless the rounds
run out first. -/
theorem narrowLoop_removalChain (w : Width) (raws : Array UInt64) (maxDepth minWeight : Nat)
    (fuel k longest : Nat) (events : List BuildEvent) :
    ∃ j ≤ fuel,
      (narrowLoop w raws maxDepth minWeight fuel (removalChain w raws k) longest events).1 =
        removalChain w raws (k + j) ∧
      ∀ i < j, ¬Stops w raws maxDepth minWeight (removalChain w raws (k + i)) := by
  induction fuel generalizing k longest events with
  | zero => exact ⟨0, le_rfl, rfl, fun i hi => absurd hi (Nat.not_lt_zero i)⟩
  | succ fuel ih =>
    rcases narrowLoop_succ w raws maxDepth minWeight fuel (removalChain w raws k) longest events
      with ⟨-, hmask, -⟩ | ⟨hgo, hweight, hle, events', hround⟩
    · exact ⟨0, Nat.zero_le _, hmask, fun i hi => absurd hi (Nat.not_lt_zero i)⟩
    · have hnot : ¬Stops w raws maxDepth minWeight (removalChain w raws k) := by
        unfold Stops
        omega
      rw [← removalChain_succ] at hround
      obtain ⟨j, hj, hmask, hbefore⟩ := ih (k + 1) _ events'
      refine ⟨j + 1, by omega, ?_, fun i hi => ?_⟩
      · rw [hround, hmask, Nat.add_right_comm, Nat.add_assoc]
      · cases i with
        | zero => exact hnot
        | succ i =>
          have := hbefore i (by omega)
          rwa [Nat.add_right_comm, Nat.add_assoc] at this

/-- **The search stops at the first mask of the chain where its test holds.** It has more rounds
than the mask of phase one has bits, so it never runs out of them first. -/
theorem searchMask_stopsFirstAt (w : Width) (raws : Array UInt64) (maxDepth minWeight : Nat) :
    ∃ k, StopsFirstAt w raws maxDepth minWeight k (searchMask w raws maxDepth minWeight).mask := by
  have hfirst := separatingMask_submask w raws
  have hmask := searchMask_mask w raws maxDepth minWeight
  have hstops : Stops w raws maxDepth minWeight (searchMask w raws maxDepth minWeight).mask := by
    rw [hmask]
    exact narrowLoop_stops _ _ _ hfirst (Nat.lt_succ_of_le (popCount_le_bits hfirst))
  obtain ⟨k, -, hchain, hbefore⟩ := narrowLoop_removalChain w raws maxDepth minWeight
    (w.bits + 1) 0 _ _
  rw [removalChain_zero, Nat.zero_add, ← hmask] at hchain
  simp only [Nat.zero_add] at hbefore
  exact ⟨k, hchain, hchain ▸ hstops, hbefore⟩

/-! ### Comparing settings -/

/-- **Deeper buckets and a lower floor stop less often**: where they stop, so does the other
setting. -/
theorem Stops.mono {d₁ d₂ w₁ w₂ : Nat} (hd : d₁ ≤ d₂) (hw : w₂ ≤ w₁) {mask : UInt64}
    (h : Stops w raws d₂ w₂ mask) : Stops w raws d₁ w₁ mask := by
  unfold Stops at *
  omega

/-- Of two first stops on the chain, the setting that stops less often stops later. -/
theorem StopsFirstAt.le {d₁ d₂ w₁ w₂ k₁ k₂ : Nat} {m₁ m₂ : UInt64} (hd : d₁ ≤ d₂) (hw : w₂ ≤ w₁)
    (h₁ : StopsFirstAt w raws d₁ w₁ k₁ m₁) (h₂ : StopsFirstAt w raws d₂ w₂ k₂ m₂) : k₁ ≤ k₂ := by
  by_contra hlt
  exact h₁.2.2 k₂ (by omega) (Stops.mono hd hw h₂.2.1)

/-- **The masks of all settings lie on one chain, and more depth or less floor stops later on
it.** For every two settings with `d₁ ≤ d₂` and `w₂ ≤ w₁`, the search stops for each at the
first mask of the chain of cheapest removals from the mask of phase one where its test holds;
the second stops no earlier, so its mask is a submask of the first one and has at most as many
bits: its lookup table, of `2 ^ popCount` entries, is no larger. -/
theorem search_masks_narrow_along_one_chain (w : Width) (raws : Array UInt64)
    {d₁ d₂ w₁ w₂ : Nat} (hd : d₁ ≤ d₂) (hw : w₂ ≤ w₁) :
    (∃ k₁ k₂, k₁ ≤ k₂ ∧ StopsFirstAt w raws d₁ w₁ k₁ (searchMask w raws d₁ w₁).mask ∧
      StopsFirstAt w raws d₂ w₂ k₂ (searchMask w raws d₂ w₂).mask) ∧
    Submask (searchMask w raws d₂ w₂).mask (searchMask w raws d₁ w₁).mask ∧
    popCount (searchMask w raws d₂ w₂).mask ≤ popCount (searchMask w raws d₁ w₁).mask := by
  obtain ⟨k₁, h₁⟩ := searchMask_stopsFirstAt w raws d₁ w₁
  obtain ⟨k₂, h₂⟩ := searchMask_stopsFirstAt w raws d₂ w₂
  have hle := h₁.le hd hw h₂
  have hsub : Submask (searchMask w raws d₂ w₂).mask (searchMask w raws d₁ w₁).mask := by
    rw [h₁.1, h₂.1]
    exact removalChain_antitone hle
  exact ⟨⟨k₁, k₂, hle, h₁, h₂⟩, hsub, Submask.popCount_le hsub⟩

/-- Thirteen one-byte keys searched with buckets of one key and a floor of four bits, and with
buckets of eight keys and no floor. -/
theorem search_masks_narrow_along_one_chain_u8 :
    let raws : Array UInt64 := #[0, 1, 2, 3, 5, 8, 13, 21, 34, 55, 89, 144, 233]
    1 ≤ 8 ∧ 0 ≤ 4 ∧
    (∃ k₁ k₂, k₁ ≤ k₂ ∧ StopsFirstAt .w8 raws 1 4 k₁ (searchMask .w8 raws 1 4).mask ∧
      StopsFirstAt .w8 raws 8 0 k₂ (searchMask .w8 raws 8 0).mask) ∧
    Submask (searchMask .w8 raws 8 0).mask (searchMask .w8 raws 1 4).mask ∧
    popCount (searchMask .w8 raws 8 0).mask ≤ popCount (searchMask .w8 raws 1 4).mask :=
  ⟨by decide, by decide, search_masks_narrow_along_one_chain .w8 _ (by decide) (by decide)⟩

end GatherMap.Proofs.RemovalChain
