import GatherMap.Proofs.InlineReports

/-!
# Evaluated keys stay inside the 128-bit signed range

Key expressions are evaluated over unbounded integers, where the macro computes on `i128`: an
integer literal that `i128` cannot hold is refused as "too large integer", and a negation computes
`-value` on an `i128`, which overflows for `i128::MIN` alone. The two readings agree because every
integer a key evaluates to is less than `2 ^ 127` in absolute value, a range closed under
negation:

* `byte_lt_of_classify`: a byte literal read from its text is below 256;
* `evalLiteral_int`, `evalKey_path_int`, `evalKey_neg_int`: a literal gives an integer only as an
  integer literal that passed the size check or as a byte, a path only as `T::MIN` or `T::MAX`,
  and a negation only by negating its operand's integer;
* `natAbs_lt_of_evalKey`: so every key tree, its negations and parentheses nested to any depth,
  evaluates to integers below `2 ^ 127` in absolute value;
* `key_integers_negate_in_i128`: such an integer is an `i128`, and negating it as one does not
  overflow.
-/

namespace GatherMap.Proofs.KeyRange

open GatherMap Inline Code

/-! ### Bytes read from literal text -/

theorem digitValue_lt {c : Char} {d : Nat} (h : Literal.digitValue c = some d) : d < 16 := by
  have h0 : '0'.toNat = 48 := rfl
  have h9 : '9'.toNat = 57 := rfl
  have ha : 'a'.toNat = 97 := rfl
  have hf : 'f'.toNat = 102 := rfl
  have hA : 'A'.toNat = 65 := rfl
  have hF : 'F'.toNat = 70 := rfl
  unfold Literal.digitValue at h
  split_ifs at h with hd hl hu <;> injection h with h
  · simp only [Char.isDigit, Bool.and_eq_true, decide_eq_true_eq, UInt32.le_iff_toNat_le,
      ge_iff_le, Char.toNat_val] at hd
    omega
  · simp only [Bool.and_eq_true, decide_eq_true_eq, Char.le_def, UInt32.le_iff_toNat_le,
      Char.toNat_val] at hl
    omega
  · simp only [Bool.and_eq_true, decide_eq_true_eq, Char.le_def, UInt32.le_iff_toNat_le,
      Char.toNat_val] at hu
    omega

theorem hexPair_lt {a b : Char} {v : Nat} (h : Literal.hexPair a b = some v) : v < 256 := by
  unfold Literal.hexPair at h
  split at h
  · next x y hx hy =>
    injection h with h
    have := digitValue_lt hx
    have := digitValue_lt hy
    omega
  · cases h

/-- In a byte literal, a character or an escape stands for a byte. A plain character must be ASCII,
the short escapes name fixed code points, and a byte has no code point escape. -/
theorem unescapeOne_bytes_lt {cs rest : List Char} {v : Nat}
    (h : Literal.unescapeOne true cs = some (v, rest)) : v < 256 := by
  unfold Literal.unescapeOne at h
  split at h
  case h_1 =>
    obtain ⟨w, hw, hv⟩ := Option.bind_eq_some_iff.mp h
    simp only [Bool.true_or, if_true, Option.some.injEq, Prod.mk.injEq] at hv
    exact hv.1 ▸ hexPair_lt hw
  case h_2 | h_10 | h_12 => simp at h
  case h_11 =>
    split_ifs at h with hc
    simp only [Option.some.injEq, Prod.mk.injEq] at h
    obtain ⟨rfl, -⟩ := h
    simp only [Bool.true_and, decide_eq_true_eq] at hc
    omega
  all_goals
    simp only [Option.some.injEq, Prod.mk.injEq] at h
    omega

theorem parseQuoted_bytes_lt {body : List Char} {v : Nat}
    (h : Literal.parseQuoted true body = some v) : v < 256 := by
  unfold Literal.parseQuoted at h
  split at h
  · next w suffix hw =>
    split_ifs at h
    injection h with h
    exact h ▸ unescapeOne_bytes_lt hw
  · cases h

/-- **A byte literal read from its text is below 256.** -/
theorem byte_lt_of_classify {text : String} {v : Nat} (h : Literal.classify text = .byte v) :
    v < 256 := by
  unfold Literal.classify at h
  dsimp only at h
  split at h
  case h_7 body =>
    split at h
    · next w hw =>
      injection h with h
      exact h ▸ parseQuoted_bytes_lt hw
    · cases h
  all_goals
    repeat' split at h
    all_goals cases h

/-! ### What each kind of key evaluates to -/

/-- A report computation run after another starts from the diagnostics the first left. -/
theorem run_bind_eq {α β : Type} (m : Report α) (f : α → Report β) (ds : List Diagnostic) :
    (m >>= f).run ds = (f (m.run ds).1).run (m.run ds).2 := rfl

/-- A literal evaluates to an integer only as an integer literal below `2 ^ 127`, read without its
sign, or as a byte. -/
theorem evalLiteral_int {lit : Literal} {tokens : Tokens} {ds : List Diagnostic} {k : TypedKey}
    {i : Int} (hk : ((evalLiteral lit tokens).run ds).1 = some k) (hi : k.value = .int i) :
    (∃ negative v suffix, lit = .int negative v suffix ∧ v < Nat.pow 2 127 ∧ i = v) ∨
      ∃ v, lit = .byte v ∧ i = v := by
  cases lit with
  | int negative v suffix =>
    simp only [evalLiteral, pure_bind] at hk
    repeat' split at hk
    all_goals cases hk
    all_goals
      cases hi
      exact .inl ⟨negative, v, suffix, rfl, by omega, rfl⟩
  | byte v =>
    cases hk
    cases hi
    exact .inr ⟨v, rfl, rfl⟩
  | char c =>
    cases hk
    cases hi
  | float _ | str _ | byteStr _ | cStr _ | verbatim => cases hk

/-- `2 ^ 127`, one past `i128::MAX`, is "too large integer". -/
example : ((evalLiteral (Literal.classify "170141183460469231731687303715884105728") []).run
    []).1 = none := rfl

/-- A negation evaluates to an integer only by negating the integer its operand evaluates to. -/
theorem evalKey_neg_int {inner : Expr} {tokens : Tokens} {ds : List Diagnostic} {k : TypedKey}
    {i : Int} (hk : ((evalKey (.neg inner tokens)).run ds).1 = some k) (hi : k.value = .int i) :
    ∃ k', ((evalKey inner).run ds).1 = some k' ∧ k'.value = .int (-i) := by
  rw [evalKey, run_bind_eq] at hk
  rcases hr : (evalKey inner).run ds with ⟨r, ds'⟩
  rw [hr] at hk
  cases r with
  | none => cases hk
  | some k' =>
    refine ⟨k', rfl, ?_⟩
    dsimp only at hk
    split at hk
    · next i' hv =>
      split_ifs at hk
      · cases hk
      · cases hk
        cases hi
        rw [hv, Int.neg_neg]
    · cases hk

/-- `T::MIN` and `T::MAX` give an integer only as the least or greatest integer of `T`. -/
theorem constantValue_int {typeName constant : String} {i : Int} {t : KeyType}
    (h : constantValue typeName constant = some (.int i, t)) : i = t.minInt ∨ i = t.maxInt := by
  unfold constantValue at h
  split at h
  · split_ifs at h <;> cases h
  · cases h
  · split_ifs at h
    · cases h
      exact .inl rfl
    · cases h
      exact .inr rfl
  · cases h

theorem pathConstant_int {path : String} {i : Int} {t : KeyType}
    (h : pathConstant path = some (.int i, t)) : i = t.minInt ∨ i = t.maxInt := by
  unfold pathConstant at h
  split at h
  · exact constantValue_int h
  · cases h

/-- A path evaluates to an integer only as `T::MIN` or `T::MAX` of an integer type. -/
theorem evalKey_path_int {qualified : Bool} {segments : List Segment} {tokens : Tokens}
    {ds : List Diagnostic} {k : TypedKey} {i : Int}
    (hk : ((evalKey (.path qualified segments tokens)).run ds).1 = some k)
    (hi : k.value = .int i) : ∃ t : KeyType, i = t.minInt ∨ i = t.maxInt := by
  rw [evalKey] at hk
  split_ifs at hk
  · cases hk
  · dsimp only at hk
    split at hk
    · next v t hc =>
      cases hk
      cases hi
      exact ⟨t, pathConstant_int hc⟩
    · cases hk

/-- Every key type's range lies within 64 bits. -/
theorem natAbs_minInt_le (t : KeyType) : t.minInt.natAbs ≤ Nat.pow 2 63 := by
  cases t <;> decide

theorem natAbs_maxInt_lt (t : KeyType) : t.maxInt.natAbs < Nat.pow 2 64 := by
  cases t <;> decide

/-! ### Key trees -/

/-- The key expressions the macro evaluates: literals read from their source text, `true` and
`false`, and parentheses, negations and paths over them, nested to any depth. -/
inductive KeyTree : Expr → Prop
  | lit (text : String) (tokens : Tokens) : KeyTree (.lit (Literal.classify text) tokens)
  | bool (b : Bool) (tokens : Tokens) : KeyTree (.bool b tokens)
  | paren {inner : Expr} (tokens : Tokens) : KeyTree inner → KeyTree (.paren inner tokens)
  | neg {inner : Expr} (tokens : Tokens) : KeyTree inner → KeyTree (.neg inner tokens)
  | path (qualified : Bool) (segments : List Segment) (tokens : Tokens) :
      KeyTree (.path qualified segments tokens)

/-- Every integer a key tree evaluates to is less than `2 ^ 127` in absolute value. The bound holds
at the leaves and is closed under negation. -/
theorem natAbs_lt_of_evalKey {e : Expr} (he : KeyTree e) (ds : List Diagnostic) {k : TypedKey}
    {i : Int} (hk : ((evalKey e).run ds).1 = some k) (hi : k.value = .int i) :
    i.natAbs < Nat.pow 2 127 := by
  have hpow : 256 ≤ Nat.pow 2 63 ∧ Nat.pow 2 63 < Nat.pow 2 64 ∧
      Nat.pow 2 64 < Nat.pow 2 127 := by
    decide
  induction he generalizing k i with
  | lit text tokens =>
    rw [evalKey] at hk
    rcases evalLiteral_int hk hi with ⟨negative, v, suffix, -, hv, rfl⟩ | ⟨v, hl, rfl⟩
    · simpa using hv
    · have := byte_lt_of_classify hl
      rw [Int.natAbs_natCast]
      omega
  | bool b tokens =>
    cases hk
    cases hi
  | paren tokens _ ih => exact ih hk hi
  | neg tokens _ ih =>
    obtain ⟨k', hk', hi'⟩ := evalKey_neg_int hk hi
    simpa using ih hk' hi'
  | path qualified segments tokens =>
    obtain ⟨t, rfl | rfl⟩ := evalKey_path_int hk hi
    · have := natAbs_minInt_le t
      omega
    · have := natAbs_maxInt_lt t
      omega

/-! ### Negation in 128 bits -/

/-- An integer below `2 ^ 127` in absolute value is an `i128`, and negating it as one does not
overflow: the 128-bit negation is the true one. -/
theorem i128_negation_exact {i : Int} (h : i.natAbs < Nat.pow 2 127) :
    (BitVec.ofInt 128 i).toInt = i ∧ (BitVec.ofInt 128 i).negOverflow = false ∧
      (-BitVec.ofInt 128 i).toInt = -i := by
  have hpow : ((Nat.pow 2 127 : Nat) : Int) = 2 ^ (128 - 1) := by norm_num
  have hval : (BitVec.ofInt 128 i).toInt = i :=
    BitVec.toInt_ofInt_eq_self (by decide) (by omega) (by omega)
  have hover : (BitVec.ofInt 128 i).negOverflow = false := by
    simp only [BitVec.negOverflow, hval, beq_eq_false_iff_ne]
    omega
  refine ⟨hval, hover, ?_⟩
  rw [BitVec.toInt_neg_of_not_negOverflow (by simp [hover]), hval]

/-- **Evaluated keys negate without overflow.** Every integer a key evaluates to, however deeply
its negations and parentheses nest, is less than `2 ^ 127` in absolute value (at most
`i128::MAX`); so it is an `i128`, and negating it as one, as every negation of a key does, does
not overflow. -/
theorem key_integers_negate_in_i128 {e : Expr} (he : KeyTree e) (ds : List Diagnostic)
    {k : TypedKey} {i : Int} (hk : ((evalKey e).run ds).1 = some k) (hi : k.value = .int i) :
    i.natAbs < Nat.pow 2 127 ∧ (BitVec.ofInt 128 i).toInt = i ∧
      (BitVec.ofInt 128 i).negOverflow = false ∧ (-BitVec.ofInt 128 i).toInt = -i := by
  have hbound := natAbs_lt_of_evalKey he ds hk hi
  exact ⟨hbound, i128_negation_exact hbound⟩

/-- The largest literal a key may be, negated: the least integer a key evaluates to. Its tokens
are left out, since they only place diagnostics. -/
theorem negated_largest_literal_in_i128 :
    KeyTree (.neg (.lit (Literal.classify "170141183460469231731687303715884105727") []) []) ∧
    ((evalKey (.neg (.lit (Literal.classify "170141183460469231731687303715884105727") [])
        [])).run []).1 =
      some ⟨.int (-170141183460469231731687303715884105727), none, .callSite⟩ ∧
    (⟨.int (-170141183460469231731687303715884105727), none, .callSite⟩ : TypedKey).value =
      .int (-170141183460469231731687303715884105727) ∧
    ((-170141183460469231731687303715884105727 : Int).natAbs < Nat.pow 2 127 ∧
      (BitVec.ofInt 128 (-170141183460469231731687303715884105727)).toInt =
        -170141183460469231731687303715884105727 ∧
      (BitVec.ofInt 128 (-170141183460469231731687303715884105727)).negOverflow = false ∧
      (-BitVec.ofInt 128 (-170141183460469231731687303715884105727)).toInt =
        -(-170141183460469231731687303715884105727)) := by
  have he := KeyTree.neg [] (KeyTree.lit "170141183460469231731687303715884105727" [])
  have hk : ((evalKey (.neg (.lit (Literal.classify "170141183460469231731687303715884105727") [])
      [])).run []).1 =
        some ⟨.int (-170141183460469231731687303715884105727), none, .callSite⟩ := rfl
  exact ⟨he, hk, rfl, key_integers_negate_in_i128 he [] hk rfl⟩

end GatherMap.Proofs.KeyRange
