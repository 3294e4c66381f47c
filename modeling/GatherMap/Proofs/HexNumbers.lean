import GatherMap.Samples
import GatherMap.Proofs.NarrowKeys
import GatherMap.Proofs.InputOrder

/-!
# Reading hexadecimal numbers through the digit map

`parseHex` reads text of one to eight bytes through the map of the 22 hexadecimal digits, shifting
a four-bit digit into a 32-bit word at each step. Its result is exactly the base-16 value of the
text when every character is a digit, and nothing otherwise:

* `hexDigitMap_built`: the digit map builds, and gives each digit's code point its value and every
  other probe nothing. Its code points lie below `2 ^ 7`, so the mask search keeps at most seven
  bits (`buildPerfect_eq_ok_of_lt_two_pow`) and the build cannot fail;
* `digitValue_eq`: so a character has a digit value exactly when it is an ASCII hexadecimal digit;
* `foldlM_digitValue`: the fold over the text fails at the first other character, and otherwise
  reads the digits in base 16 modulo `2 ^ 32`;
* `parseHex_eq_some_iff`: eight digits are below `16 ^ 8 = 2 ^ 32`, so nothing is cut off.
-/

namespace GatherMap.Proofs.HexNumbers

open GatherMap Samples Proofs.Gather Proofs.MapBuild Proofs.InputOrder Proofs.NarrowKeys

/-- The value of an ASCII hexadecimal digit, a letter counting alike in either case. -/
def hexDigitVal (c : Char) : Nat :=
  if c.isDigit then c.toNat - '0'.toNat
  else if c.isLower then c.toNat - 'a'.toNat + 10
  else c.toNat - 'A'.toNat + 10

/-- The entries the digit map is built from: code points and digit values. -/
def hexRawEntries : List (UInt64 × Nat) :=
  hexDigitEntries.map fun (c, d) => (c.toNat.toUInt64, d)

/-! ### The digit map -/

theorem hexRawEntries_keys_lt : ∀ raw ∈ hexRawEntries.map (·.1), raw.toNat < 2 ^ 7 := by
  simp [hexRawEntries, hexDigitEntries, List.range_succ]

theorem hexRawEntries_keys_nodup : (hexRawEntries.map (·.1)).Nodup := by decide

/-- **The digit map builds** and answers every probe by its entries. Its 22 keys are past the
ordered threshold, so it is a perfect-hash map. -/
theorem hexDigitMap_built : ∃ m, hexDigitMap = .ok m ∧ MapOf m hexRawEntries := by
  have hlt : ∀ raw ∈ (hexRawEntries.map (·.1)).toArray, raw.toNat < 2 ^ 7 := by
    simpa using hexRawEntries_keys_lt
  have hfit : ∀ raw ∈ (hexRawEntries.map (·.1)).toArray, Fits KeyType.char.width raw :=
    fun raw hraw => Nat.lt_of_lt_of_le (hlt raw hraw) (Nat.pow_le_pow_right (by decide) (by decide))
  obtain ⟨ks, hks⟩ := buildPerfect_eq_ok_of_lt_two_pow (b := Builder.default) (t := .char)
    (W := .u8) (by decide) (by decide) (by decide) hlt
    (by simpa using hexRawEntries_keys_nodup) (by decide) rfl
  have hkeyset : (Builder.default.buildKeyset .char .natural
      (hexRawEntries.map (·.1)).toArray).value = .ok (.perfect ks) := by
    rw [Builder.buildKeyset, if_neg (by decide)]
    simp only [hks]
    rfl
  obtain ⟨m, hm, -, hmap⟩ := buildMap_of_keyset_ok hfit hkeyset
  refine ⟨m, ?_, hmap⟩
  rw [hexDigitMap]
  exact congrArg expectBuilt hm

/-- The hexadecimal digits by code point: `0`–`9`, `a`–`f` and `A`–`F`. -/
theorem isHexDigit_iff {c : Char} : c.isHexDigit = true ↔
    (48 ≤ c.toNat ∧ c.toNat ≤ 57) ∨ (97 ≤ c.toNat ∧ c.toNat ≤ 102) ∨
      (65 ≤ c.toNat ∧ c.toNat ≤ 70) := by
  simp [Char.isHexDigit, Char.isDigit, UInt32.le_iff_toNat_le, ← Char.toNat_val, or_assoc]

theorem toNat_lt_of_isHexDigit {c : Char} (h : c.isHexDigit = true) : c.toNat < 128 := by
  have := isHexDigit_iff.mp h
  omega

/-- The entries give a character with a code point below `128` its digit value. -/
theorem lookup_hexRawEntries_of_lt : ∀ n < 128,
    hexRawEntries.lookup (Char.ofNat n).toNat.toUInt64 =
      if (Char.ofNat n).isHexDigit then some (hexDigitVal (Char.ofNat n)) else none := by
  decide

/-- **The entries give exactly the hexadecimal digits their values.** Above `127` no character
is a digit, and no code point of the entries is reached. -/
theorem lookup_hexRawEntries (c : Char) :
    hexRawEntries.lookup c.toNat.toUInt64 = if c.isHexDigit then some (hexDigitVal c) else none := by
  by_cases hc : c.toNat < 128
  · have hofNat : Char.ofNat c.toNat = c := Char.ofNat_toNat c
    rw [← hofNat]
    exact lookup_hexRawEntries_of_lt _ hc
  · have hkey : c.toNat.toUInt64 ∉ hexRawEntries.map (·.1) := by
      intro hmem
      have hlt := hexRawEntries_keys_lt _ hmem
      have hsize : c.toNat < 2 ^ 64 := Nat.lt_trans c.val.toNat_lt (by decide)
      rw [Nat.toUInt64_eq, UInt64.toNat_ofNat', Nat.mod_eq_of_lt hsize] at hlt
      omega
    have hdigit : c.isHexDigit = false := by
      cases h : c.isHexDigit
      · rfl
      · exact absurd (toNat_lt_of_isHexDigit h) hc
    rw [lookup_eq_none_of_not_mem hkey, hdigit]
    rfl

/-- **A character has a digit value exactly when it is a hexadecimal digit.** -/
theorem digitValue_eq (c : Char) :
    digitValue c = if c.isHexDigit then some (hexDigitVal c) else none := by
  obtain ⟨m, hm, hmap⟩ := hexDigitMap_built
  rw [digitValue, hm]
  dsimp only
  rw [get?_eq_lookup hmap hexRawEntries_keys_nodup, lookup_hexRawEntries]

/-! ### The fold over the text -/

theorem hexDigitVal_lt {c : Char} (h : c.isHexDigit = true) : hexDigitVal c < 16 := by
  have hrange := isHexDigit_iff.mp h
  have hdigit : c.isDigit = true ↔ 48 ≤ c.toNat ∧ c.toNat ≤ 57 := by
    simp [Char.isDigit, UInt32.le_iff_toNat_le, ← Char.toNat_val]
  have hlower : c.isLower = true ↔ 97 ≤ c.toNat ∧ c.toNat ≤ 122 := by
    simp [Char.isLower, UInt32.le_iff_toNat_le, ← Char.toNat_val]
  have h0 : '0'.toNat = 48 := rfl
  have ha : 'a'.toNat = 97 := rfl
  have hA : 'A'.toNat = 65 := rfl
  unfold hexDigitVal
  split_ifs with hd hl
  · have := hdigit.mp hd; omega
  · have := hlower.mp hl; omega
  · rw [hdigit] at hd
    rw [hlower] at hl
    omega

/-- The word the fold keeps: the digits read so far, modulo `2 ^ 32`. -/
theorem foldl_mod (l : List Char) (acc : Nat) :
    l.foldl (fun a c => a * 16 + hexDigitVal c) (acc % 2 ^ 32) % 2 ^ 32 =
      l.foldl (fun a c => a * 16 + hexDigitVal c) acc % 2 ^ 32 := by
  induction l generalizing acc with
  | nil => exact Nat.mod_mod _ _
  | cons c l ih =>
    simp only [List.foldl_cons]
    rw [← ih (acc * 16 + hexDigitVal c), ← ih (acc % 2 ^ 32 * 16 + hexDigitVal c)]
    congr 2
    rw [Nat.add_mod, Nat.mul_mod, Nat.mod_mod, ← Nat.mul_mod, ← Nat.add_mod]

/-- **The fold fails at the first character that is not a digit, and otherwise reads the digits
in base 16**, modulo `2 ^ 32`. -/
theorem foldlM_digitValue (l : List Char) {acc : Nat} (hacc : acc < 2 ^ 32) :
    l.foldlM (fun acc c => (digitValue c).map fun d => (acc * 16 + d) % Nat.pow 2 32) acc =
      if ∀ c ∈ l, c.isHexDigit = true then
        some (l.foldl (fun a c => a * 16 + hexDigitVal c) acc % 2 ^ 32)
      else none := by
  induction l generalizing acc with
  | nil =>
    rw [List.foldlM_nil, List.foldl_nil, if_pos (by simp), Nat.mod_eq_of_lt hacc]
    rfl
  | cons c l ih =>
    rw [List.foldlM_cons, digitValue_eq]
    by_cases hc : c.isHexDigit = true
    · have hnext : (acc * 16 + hexDigitVal c) % Nat.pow 2 32 < 2 ^ 32 := Nat.mod_lt _ (by decide)
      simp only [hc, if_true, Option.map_some, Option.bind_eq_bind, Option.bind_some, ih hnext,
        List.mem_cons, forall_eq_or_imp, true_and, List.foldl_cons, Nat.pow_eq]
      by_cases hall : ∀ c ∈ l, c.isHexDigit = true
      · rw [if_pos hall, if_pos hall, foldl_mod]
      · rw [if_neg hall, if_neg hall]
    · simp [hc]

/-- Reading digits in base 16 from the most significant one. -/
theorem foldl_eq_ofDigits (l : List Char) (acc : Nat) :
    l.foldl (fun a c => a * 16 + hexDigitVal c) acc =
      Nat.ofDigits 16 (l.reverse.map hexDigitVal) + acc * 16 ^ l.length := by
  induction l generalizing acc with
  | nil => simp
  | cons c l ih =>
    rw [List.foldl_cons, ih, List.reverse_cons, List.map_append, Nat.ofDigits_append]
    simp only [List.map_cons, List.map_nil, Nat.ofDigits_singleton, List.length_map,
      List.length_reverse, List.length_cons, Nat.pow_succ]
    ring

/-- Every character takes at least one byte. -/
theorem length_le_utf8ByteSize (s : String) : s.toList.length ≤ s.utf8ByteSize := by
  have h : ∀ l : List Char, l.length ≤ (String.ofList l).utf8ByteSize := by
    intro l
    induction l with
    | nil => simp
    | cons c l ih =>
      rw [String.ofList_cons, String.utf8ByteSize_append, String.utf8ByteSize_singleton]
      have := c.utf8Size_pos
      simp only [List.length_cons]
      omega
  simpa [String.ofList_toList] using h s.toList

/-! ### Reading a number -/

/-- **`parseHex` reads exactly the hexadecimal numerals of one to eight bytes, in base 16 and
without cutting off a digit**: it gives `n` exactly when the text is not empty, takes at most eight
bytes, holds only ASCII hexadecimal digits of either case, and `n` is the value of those digits read
in base 16. At most eight digits are read, and their value is below `16 ^ 8 = 2 ^ 32`. -/
theorem parseHex_eq_some_iff (s : String) (n : Nat) :
    parseHex s = some n ↔
      s ≠ "" ∧ s.utf8ByteSize ≤ 8 ∧ (∀ c ∈ s.toList, c.isHexDigit = true) ∧
        n = Nat.ofDigits 16 (s.toList.reverse.map hexDigitVal) := by
  by_cases hempty : s = ""
  · subst hempty
    simp [parseHex]
  by_cases hsize : s.utf8ByteSize ≤ 8
  · have hguard : (s.isEmpty || decide (s.utf8ByteSize > 8)) = false := by
      simp [hempty]
      omega
    rw [parseHex, if_neg (by simp [hguard]), foldlM_digitValue _ (by decide)]
    by_cases hall : ∀ c ∈ s.toList, c.isHexDigit = true
    · have hdigits : ∀ d ∈ s.toList.reverse.map hexDigitVal, d < 16 := by
        simp only [List.mem_map, List.mem_reverse]
        rintro d ⟨c, hc, rfl⟩
        exact hexDigitVal_lt (hall c hc)
      have hlen := length_le_utf8ByteSize s
      have hval : s.toList.foldl (fun a c => a * 16 + hexDigitVal c) 0 % 2 ^ 32 =
          Nat.ofDigits 16 (s.toList.reverse.map hexDigitVal) := by
        rw [foldl_eq_ofDigits, Nat.zero_mul, Nat.add_zero]
        apply Nat.mod_eq_of_lt
        calc Nat.ofDigits 16 (s.toList.reverse.map hexDigitVal)
            < 16 ^ (s.toList.reverse.map hexDigitVal).length :=
              Nat.ofDigits_lt_base_pow_length (by decide) hdigits
          _ ≤ 16 ^ 8 := Nat.pow_le_pow_right (by decide) (by simp; omega)
          _ = 2 ^ 32 := by norm_num
      rw [if_pos hall, hval, Option.some.injEq]
      exact ⟨fun h => ⟨hempty, hsize, hall, h.symm⟩, fun h => h.2.2.2.symm⟩
    · rw [if_neg hall]
      simp [hall]
  · have hguard : (s.isEmpty || decide (s.utf8ByteSize > 8)) = true := by
      simp
      omega
    rw [parseHex, if_pos (by simp [hguard])]
    simp [hsize]

end GatherMap.Proofs.HexNumbers
