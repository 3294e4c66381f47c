import GatherMap.Inline.Expand
import GatherMap.Proofs.Gather

/-!
# Inline maps report exactly when they expand to nothing

An inline map or keyset evaluates its keys, settles their type, converts them to raw forms and
builds, and every step reports the problems it finds as diagnostics. A report computation here
only ever adds diagnostics after those before it (`Appends`), so what it computes and adds can be
read off its run from nothing (`result`, `added`). The steps fail *loudly*: each adds a
diagnostic exactly when its result is a failure (`FailsLoudly`), and the rules for `pure`, a
report, a bind and a map over a list carry that through:

* `evalKey_failsLoudly`: a key expression of any shape is reported exactly when it has no value;
* `result_fits`: a key passes its check exactly when its own type, if any, is the key type and its
  value has a raw form of that type;
* `settleKeys_failsLoudly`, `build_failsLoudly`: settling the keys and building fail loudly;
* `encode?_eq_some`, `mem_range_iff`: a raw form of a value fits its type's width and reads back
  as the value, and a type's range is exactly the integers its raw forms read as;
* `outcome_tokens_ne_nil`: an inline map never expands to nothing;
* `inline_expansion_empty_iff_reported`: building reports something exactly when it gives no
  tokens, and settled keys all convert to the key type.
-/

namespace GatherMap.Proofs.InlineReports

open GatherMap Inline Code Proofs.Gather

/-! ### Report computations that only append -/

variable {α β : Type}

/-- What a report computation computes when run first. -/
def result (m : Report α) : α := (m.run []).1

/-- The diagnostics a report computation adds when run first. -/
def added (m : Report α) : List Diagnostic := (m.run []).2

/-- Run after any diagnostics, `m` keeps them and adds the same ones after them, and computes the
same result: what it does not depend on what was reported before. -/
def Appends (m : Report α) : Prop := ∀ ds, m.run ds = (result m, ds ++ added m)

@[simp] theorem result_pure (a : α) : result (pure a : Report α) = a := rfl
@[simp] theorem added_pure (a : α) : added (pure a : Report α) = [] := rfl
theorem appends_pure (a : α) : Appends (pure a : Report α) := fun ds => by
  show (a, ds) = (a, ds ++ [])
  rw [List.append_nil]

@[simp] theorem added_emitAt (message : String) (span : Span) :
    added (emitAt message span) = [⟨message, span, span⟩] := rfl
@[simp] theorem result_map_emitAt (a : α) (message : String) (span : Span) :
    result ((fun _ => a) <$> emitAt message span) = a := rfl
theorem appends_emitAt (message : String) (span : Span) : Appends (emitAt message span) :=
  fun _ => rfl

theorem added_emitOver (message : String) (tokens : Tokens) :
    added (emitOver message tokens) = [⟨message, firstSpan tokens, lastSpan tokens⟩] := rfl
theorem appends_emitOver (message : String) (tokens : Tokens) :
    Appends (emitOver message tokens) :=
  fun _ => rfl

section Bind

variable {m : Report α} {f : α → Report β}

theorem run_bind_of_appends (hm : Appends m) (hf : Appends (f (result m)))
    (ds : List Diagnostic) :
    (m >>= f).run ds = (result (f (result m)), ds ++ (added m ++ added (f (result m)))) := by
  rw [StateT.run_bind, hm ds]
  show (f (result m)).run (ds ++ added m) = _
  rw [hf, List.append_assoc]

theorem result_bind (hm : Appends m) (hf : Appends (f (result m))) :
    result (m >>= f) = result (f (result m)) := by
  rw [result, run_bind_of_appends hm hf]

theorem added_bind (hm : Appends m) (hf : Appends (f (result m))) :
    added (m >>= f) = added m ++ added (f (result m)) := by
  rw [added, run_bind_of_appends hm hf, List.nil_append]

theorem Appends.bind (hm : Appends m) (hf : Appends (f (result m))) : Appends (m >>= f) := by
  intro ds
  rw [run_bind_of_appends hm hf, result_bind hm hf, added_bind hm hf]

end Bind

section MapM

variable {f : α → Report β} {l : List α}

/-- Mapping runs the computations one after another: each adds its diagnostics after those of
the ones before. -/
theorem run_mapM (h : ∀ x ∈ l, Appends (f x)) (ds : List Diagnostic) :
    (l.mapM f).run ds =
      (l.map (fun x => result (f x)), ds ++ l.flatMap (fun x => added (f x))) := by
  induction l generalizing ds with
  | nil =>
    rw [List.mapM_nil, StateT.run_pure, List.flatMap_nil, List.append_nil]
    rfl
  | cons x xs ih =>
    have hx := h x (List.mem_cons_self ..)
    have hxs := ih (fun y hy => h y (List.mem_cons_of_mem x hy))
    simp only [List.mapM_cons, StateT.run_bind, hx ds, hxs]
    rw [List.map_cons, List.flatMap_cons, ← List.append_assoc]
    rfl

theorem result_mapM (h : ∀ x ∈ l, Appends (f x)) :
    result (l.mapM f) = l.map (fun x => result (f x)) := by
  rw [result, run_mapM h]

theorem added_mapM (h : ∀ x ∈ l, Appends (f x)) :
    added (l.mapM f) = l.flatMap (fun x => added (f x)) := by
  rw [added, run_mapM h, List.nil_append]

theorem appends_mapM (h : ∀ x ∈ l, Appends (f x)) : Appends (l.mapM f) := by
  intro ds
  rw [run_mapM h, result_mapM h, added_mapM h]

end MapM

/-! ### Failing loudly -/

/-- `m` appends its diagnostics to whatever came before, and adds some exactly when its result is
not `ok`. -/
structure FailsLoudly (ok : α → Bool) (m : Report α) : Prop where
  appends : Appends m
  loud : added m = [] ↔ ok (result m) = true

section Loud

variable {ok : α → Bool} {a : α}

theorem failsLoudly_pure (h : ok a = true) : FailsLoudly ok (pure a) :=
  ⟨appends_pure a, by simp [h]⟩

@[simp] theorem failsLoudly_pure_iff : FailsLoudly ok (pure a) ↔ ok a = true :=
  ⟨fun h => by simpa using h.loud, failsLoudly_pure⟩

/-- Reporting something and giving a failed result fails loudly. -/
theorem failsLoudly_report {m : Report Unit} (hm : Appends m) (hne : added m ≠ [])
    (h : ok a = false) : FailsLoudly ok (m >>= fun _ => pure a) := by
  refine ⟨hm.bind (appends_pure a), ?_⟩
  rw [added_bind hm (appends_pure a), result_bind hm (appends_pure a)]
  simp [hne, h]

theorem failsLoudly_emitAt (h : ok a = false) (message : String) (span : Span) :
    FailsLoudly ok (emitAt message span >>= fun _ => pure a) :=
  failsLoudly_report (appends_emitAt message span) (by simp) h

theorem failsLoudly_emitOver (h : ok a = false) (message : String) (tokens : Tokens) :
    FailsLoudly ok (emitOver message tokens >>= fun _ => pure a) :=
  failsLoudly_report (appends_emitOver message tokens) (by simp [added_emitOver]) h

/-- Reporting a problem and giving up fails loudly exactly when the result it gives is a failure
(written as `simp` leaves it). -/
@[simp] theorem failsLoudly_emitAt_iff (message : String) (span : Span) :
    FailsLoudly ok ((fun _ => a) <$> emitAt message span) ↔ ok a = false := by
  rw [← bind_pure_comp]
  refine ⟨fun h => ?_, fun h => failsLoudly_emitAt h message span⟩
  have hloud := h.loud
  rw [added_bind (appends_emitAt message span) (appends_pure a),
    result_bind (appends_emitAt message span) (appends_pure a)] at hloud
  simpa using hloud

/-- A computation that goes on after a first step that fails loudly fails loudly, when the rest
fails loudly after a good first result, and only appends and fails after a bad one. -/
theorem FailsLoudly.bind {ok' : β → Bool} {m : Report α} {f : α → Report β}
    (hm : FailsLoudly ok m) (hok : ok (result m) = true → FailsLoudly ok' (f (result m)))
    (hbad : ok (result m) = false →
      Appends (f (result m)) ∧ ok' (result (f (result m))) = false) :
    FailsLoudly ok' (m >>= f) := by
  cases hr : ok (result m) with
  | true =>
    have hf := hok hr
    refine ⟨hm.appends.bind hf.appends, ?_⟩
    rw [added_bind hm.appends hf.appends, result_bind hm.appends hf.appends, hm.loud.mpr hr,
      List.nil_append]
    exact hf.loud
  | false =>
    obtain ⟨hf, hfail⟩ := hbad hr
    refine ⟨hm.appends.bind hf, ?_⟩
    have hadded : added m ≠ [] := fun h => by simp [hm.loud.mp h] at hr
    rw [added_bind hm.appends hf, result_bind hm.appends hf]
    simp [hadded, hfail]

/-- Mapping computations that fail loudly fails loudly, and fails when one of them does. -/
theorem FailsLoudly.mapM {f : β → Report α} {l : List β} (h : ∀ x ∈ l, FailsLoudly ok (f x)) :
    FailsLoudly (·.all ok) (l.mapM f) := by
  have happ := fun x hx => (h x hx).appends
  refine ⟨appends_mapM happ, ?_⟩
  rw [added_mapM happ, result_mapM happ, List.flatMap_eq_nil_iff, List.all_map, List.all_eq_true]
  exact forall₂_congr fun x hx => (h x hx).loud

/-- Checking every item, giving up when one check fails and giving `a` otherwise, fails loudly when
the checks do. -/
theorem FailsLoudly.checkAll {ok : Option β → Bool} {m : Report (List Bool)}
    (hm : FailsLoudly (·.all id) m) (a : β) (hnone : ok none = false)
    (hsome : (result m).all id = true → ok (some a) = true) :
    FailsLoudly ok
      (m >>= fun fit => if (fit.any fun x => !x) = true then pure none else pure (some a)) := by
  refine hm.bind (fun hall => ?_) (fun hbad => ?_)
  · have hpass : ((result m).any fun x => !x) = false := by simpa [List.all_eq_true] using hall
    simp only [hpass, Bool.false_eq_true, if_false]
    exact failsLoudly_pure (hsome hall)
  · have hfail : ((result m).any fun x => !x) = true := by simpa [List.all_eq_false] using hbad
    simp only [hfail, if_true]
    exact ⟨appends_pure none, hnone⟩

/-- A computation that stops at a failed first step, and otherwise goes on with one that fails
loudly, fails loudly. -/
theorem FailsLoudly.bindSome {ok : Option β → Bool} {m : Report (Option α)}
    {f : Option α → Report (Option β)} (hm : FailsLoudly Option.isSome m)
    (hstop : f none = pure none) (hnone : ok none = false)
    (hsome : ∀ a, result m = some a → FailsLoudly ok (f (some a))) :
    FailsLoudly ok (m >>= f) := by
  refine hm.bind (fun hok => ?_) (fun hbad => ?_)
  · obtain ⟨a, ha⟩ := Option.isSome_iff_exists.mp hok
    rw [ha]
    exact hsome a ha
  · have hr : result m = none := by simpa using hbad
    rw [hr, hstop]
    exact ⟨appends_pure none, hnone⟩

end Loud

/-! ### Evaluating keys -/

/-- Evaluating a literal fails loudly: once the binds are gone, the suffix check and the size check
are one tree of branches. -/
theorem evalLiteral_failsLoudly (lit : Literal) (tokens : Tokens) :
    FailsLoudly Option.isSome (evalLiteral lit tokens) := by
  cases lit with
  | int negative v suffix =>
    simp only [evalLiteral, pure_bind]
    split
    · split
      · exact failsLoudly_emitOver (by rfl) _ _
      · exact failsLoudly_pure (by rfl)
    · split
      · split
        · exact failsLoudly_emitOver (by rfl) _ _
        · exact failsLoudly_pure (by rfl)
      · exact failsLoudly_emitOver (by rfl) _ _
  | byte v => exact failsLoudly_pure (by rfl)
  | char c => exact failsLoudly_pure (by rfl)
  | float suffix => exact failsLoudly_emitAt (by rfl) _ _
  | str _ | byteStr _ | cStr _ | verbatim => exact failsLoudly_emitAt (by rfl) _ _

theorem evalKey_failsLoudly (e : Expr) : FailsLoudly Option.isSome (evalKey e) := by
  fun_induction evalKey e with
  | case1 lit ts => exact evalLiteral_failsLoudly lit ts
  | case2 b ts => exact failsLoudly_pure (by rfl)
  | case3 inner ts ih => exact ih
  | case4 inner ts span ih =>
    refine FailsLoudly.bindSome ih rfl rfl fun k _ => ?_
    dsimp only
    split
    · split
      · exact failsLoudly_emitAt (by rfl) _ _
      · exact failsLoudly_pure (by rfl)
    · exact failsLoudly_emitAt (by rfl) _ _
  | case5 | case7 | case8 | case9 => exact failsLoudly_emitAt (by rfl) _ _
  | case6 => exact failsLoudly_pure (by rfl)

/-- Checking a key fails loudly: every branch ends in `pure true`, or reports and ends in
`pure false`. -/
theorem fits_failsLoudly (k : TypedKey) (t : KeyType) : FailsLoudly id (k.fits t) := by
  simp only [TypedKey.fits]
  repeat' split
  all_goals simp

/-- A key passes its check exactly when its own type, if any, is the key type and its value has a
raw form of that type. -/
theorem result_fits (k : TypedKey) (t : KeyType) :
    result (k.fits t) = (k.type.all (· == t) && (t.encode? k.value).isSome) := by
  simp only [TypedKey.fits]
  repeat' split
  all_goals simp_all [KeyType.encode?, KeyType.rawOfInt?]

/-- Settling keys fails loudly, for any reading of its result that fails on `none` and holds of
values that all fit their type. -/
theorem settleKeys_failsLoudly {ok : Option (KeyType × List TypedKey) → Bool}
    (hnone : ok none = false)
    (hsome : ∀ t values, (∀ k ∈ values, result (k.fits t) = true) → ok (some (t, values)) = true)
    (o : Options) (keys : List Expr) : FailsLoudly ok (settleKeys o keys) := by
  have hR := FailsLoudly.mapM fun e (_ : e ∈ keys) => evalKey_failsLoudly e
  have hcheck : ∀ t (values : List TypedKey), FailsLoudly (·.all id) (values.mapM (·.fits t)) ∧
      ((result (values.mapM (·.fits t))).all id = true → ok (some (t, values)) = true) := by
    intro t values
    have hfits := FailsLoudly.mapM fun k (_ : k ∈ values) => fits_failsLoudly k t
    refine ⟨hfits, fun hall => hsome t values fun k hk => ?_⟩
    rw [result_mapM fun k _ => (fits_failsLoudly k t).appends, List.all_map,
      List.all_eq_true] at hall
    exact hall k hk
  simp only [settleKeys, pure_bind]
  refine hR.bind (fun hok => ?_) (fun hbad => ?_)
  · have hfailed : (result (keys.mapM evalKey)).any Option.isNone = false :=
      List.any_eq_false.mpr fun x hx => by
        rw [Option.isNone_iff_eq_none, ← ne_eq, ← Option.isSome_iff_ne_none]
        exact List.all_eq_true.mp hok x hx
    simp only [hfailed, Bool.false_or]
    split
    · split
      · exact (hcheck _ _).1.checkAll _ hnone (hcheck _ _).2
      · exact failsLoudly_emitOver hnone _ _
    · split
      · exact (hcheck _ _).1.checkAll _ hnone (hcheck _ _).2
      · exact failsLoudly_emitAt hnone _ _
  · have hfailed : (result (keys.mapM evalKey)).any Option.isNone = true := by
      simpa [List.all_eq_false, List.any_eq_true] using hbad
    simp only [hfailed, Bool.true_or, Bool.not_true, if_true, Bool.false_eq_true, if_false]
    split
    · split
      · exact ⟨(hcheck _ _).1.appends.bind (appends_pure none), hnone⟩
      · exact ⟨(appends_emitOver _ _).bind (appends_pure none), hnone⟩
    · split
      · exact ⟨(hcheck _ _).1.appends.bind (appends_pure none), hnone⟩
      · exact ⟨appends_pure none, hnone⟩

/-- Settling keys fails loudly where a failure is giving no key type and values. -/
theorem settleKeys_failsLoudly_isSome (o : Options) (keys : List Expr) :
    FailsLoudly Option.isSome (settleKeys o keys) :=
  settleKeys_failsLoudly rfl (fun _ _ _ => rfl) o keys

/-! ### Raw forms of key values -/

/-- Every raw form of a type's width reads as an integer of the type's range. -/
theorem intOfRaw_mem_range {t : KeyType} {raw : UInt64} (h : Fits t.width raw) :
    t.minInt ≤ t.intOfRaw raw ∧ t.intOfRaw raw ≤ t.maxInt := by
  unfold Fits at h
  unfold KeyType.intOfRaw
  cases t <;> simp only [KeyType.minInt, KeyType.maxInt, KeyType.isSigned, KeyType.width,
    Width.bits] at h ⊢ <;> split_ifs <;> simp_all [Int.pow] <;> omega

/-- The raw form of an integer in range fits its type's width and reads back as the integer. -/
theorem rawOfInt?_eq_some {t : KeyType} {i : Int} {raw : UInt64} (h : t.rawOfInt? i = some raw) :
    Fits t.width raw ∧ t.intOfRaw raw = i := by
  unfold KeyType.rawOfInt? at h
  split at h
  · cases h
    cases t <;> simp_all [KeyType.minInt, KeyType.maxInt, KeyType.intOfRaw, KeyType.isSigned,
      KeyType.width, Width.bits, Fits, KeyType.isInteger] <;> omega
  · cases h

/-- **A type's range is exactly the integers its raw forms read as**: the range check agrees with
the conversion to the type, for every integer key type. -/
theorem mem_range_iff {t : KeyType} (ht : t.isInteger = true) (i : Int) :
    (t.minInt ≤ i ∧ i ≤ t.maxInt) ↔ ∃ raw, Fits t.width raw ∧ t.intOfRaw raw = i := by
  constructor
  · rintro ⟨hlo, hhi⟩
    have hraw : t.rawOfInt? i = some (UInt64.ofNat (i % Int.pow 2 t.width.bits).toNat) := by
      simp [KeyType.rawOfInt?, ht, hlo, hhi]
    exact ⟨_, rawOfInt?_eq_some hraw⟩
  · rintro ⟨raw, hfit, rfl⟩
    exact intOfRaw_mem_range hfit

theorem decode_of_isInteger {t : KeyType} (ht : t.isInteger = true) (raw : UInt64) :
    t.decode raw = .int (t.intOfRaw raw) := by
  cases t <;> simp_all [KeyType.isInteger, KeyType.decode]

/-- A key value's raw form fits its type's width and decodes to the value. -/
theorem encode?_eq_some {t : KeyType} {v : KeyValue} {raw : UInt64} (h : t.encode? v = some raw) :
    Fits t.width raw ∧ t.decode raw = v := by
  cases v with
  | int i =>
    have ht : t.isInteger = true := by
      by_contra hne
      simp [KeyType.encode?, KeyType.rawOfInt?, hne] at h
    obtain ⟨hfit, hint⟩ := rawOfInt?_eq_some h
    exact ⟨hfit, by rw [decode_of_isInteger ht, hint]⟩
  | bool b =>
    simp only [KeyType.encode?, Option.ite_none_right_eq_some, Option.some.injEq] at h
    obtain ⟨rfl, rfl⟩ := h
    cases b <;> simp [Fits, KeyType.width, Width.bits, KeyType.decode]
  | char c =>
    simp only [KeyType.encode?, Option.ite_none_right_eq_some, Option.some.injEq] at h
    obtain ⟨rfl, rfl⟩ := h
    refine ⟨?_, ?_⟩
    · simpa [Fits, KeyType.width, Width.bits] using c.val.toNat_lt
    · simp only [KeyType.decode, UInt32.toNat_toUInt64]
      exact congrArg KeyValue.char (Char.ofNat_toNat c)

/-- Only a `bool` value has a raw form of type `bool`. -/
theorem exists_bool_of_encode? {v : KeyValue} (h : (KeyType.bool.encode? v).isSome) :
    ∃ b, v = .bool b := by
  cases v <;> simp_all [KeyType.encode?, KeyType.rawOfInt?, KeyType.isInteger]

/-- Only a `char` value has a raw form of type `char`. -/
theorem exists_char_of_encode? {v : KeyValue} (h : (KeyType.char.encode? v).isSome) :
    ∃ c, v = .char c := by
  cases v <;> simp_all [KeyType.encode?, KeyType.rawOfInt?, KeyType.isInteger]

/-- **Settled keys all convert to their type**: when settling gives a key type and values, every
value has a raw form of that type, which fits the type's width and decodes to the value, so the
conversion before building never gives up. Settling gave values, so it reported nothing, so
every value passed its check. -/
theorem settleKeys_encodes (o : Options) (keys : List Expr) {t : KeyType}
    {values : List TypedKey} (h : result (settleKeys o keys) = some (t, values)) :
    ∀ k ∈ values, ∃ raw, t.encode? k.value = some raw ∧ Fits t.width raw ∧
      t.decode raw = k.value := by
  have hsome := settleKeys_failsLoudly_isSome o keys
  have hfit : FailsLoudly (fun r => r.any fun p => p.2.all fun k => result (k.fits p.1))
      (settleKeys o keys) :=
    settleKeys_failsLoudly rfl (fun t values h => by simpa [List.all_eq_true] using h) o keys
  have hquiet : added (settleKeys o keys) = [] := hsome.loud.mpr (by rw [h]; rfl)
  have hall := hfit.loud.mp hquiet
  rw [h] at hall
  intro k hk
  have hpass : result (k.fits t) = true := by
    simp only [Option.any_some, List.all_eq_true] at hall
    exact hall k hk
  rw [result_fits, Bool.and_eq_true] at hpass
  obtain ⟨raw, hraw⟩ := Option.isSome_iff_exists.mp hpass.2
  exact ⟨raw, hraw, encode?_eq_some hraw⟩

/-- A list converts all together when each of its items converts. -/
theorem exists_mapM_eq_some {f : α → Option β} :
    ∀ {l : List α}, (∀ x ∈ l, ∃ y, f x = some y) → ∃ ys, l.mapM f = some ys
  | [], _ => ⟨[], rfl⟩
  | x :: l, h => by
    obtain ⟨y, hy⟩ := h x List.mem_cons_self
    obtain ⟨ys, hys⟩ := exists_mapM_eq_some fun z hz => h z (List.mem_cons_of_mem x hz)
    exact ⟨y :: ys, by simp [hy, hys]⟩

/-- Settled keys convert to their type all together. -/
theorem settleKeys_convert (o : Options) (keys : List Expr) {t : KeyType}
    {values : List TypedKey} (h : result (settleKeys o keys) = some (t, values)) :
    ∃ raws, values.mapM (fun k => t.encode? k.value) = some raws :=
  exists_mapM_eq_some fun k hk => by
    obtain ⟨raw, hraw, -⟩ := settleKeys_encodes o keys h k hk
    exact ⟨raw, hraw⟩

/-! ### Building -/

/-- A build error is always reported: a duplicate at both keys, anything else at the call. -/
theorem reportBuildError_reports (keys : List Expr) (e : BuildError) :
    Appends (reportBuildError keys e) ∧ added (reportBuildError keys e) ≠ [] := by
  unfold reportBuildError
  split
  · refine ⟨(appends_emitOver _ _).bind (appends_emitOver _ _), ?_⟩
    rw [added_bind (appends_emitOver _ _) (appends_emitOver _ _), added_emitOver]
    simp
  · exact ⟨appends_emitAt _ _, by simp⟩

/-- Building fails loudly, for any reading of its result that fails on `none` and holds of every
keyset and every map. -/
theorem build_failsLoudly {ok : Option Outcome → Bool} (hnone : ok none = false)
    (hkeyset : ∀ o t ks, ok (some (.keyset o t ks)) = true)
    (hmap : ∀ o t m, ok (some (.map o t m)) = true) (kind : Kind) (input : Input) :
    FailsLoudly ok (build kind input) := by
  simp only [build]
  refine FailsLoudly.bindSome (settleKeys_failsLoudly_isSome _ _) rfl hnone fun ⟨t, values⟩ hsettled => ?_
  obtain ⟨raws, hraws⟩ := settleKeys_convert _ _ hsettled
  have hreport := reportBuildError_reports (input.entries.map (·.key))
  dsimp only
  rw [hraws]
  cases kind with
  | keyset =>
    dsimp only
    split
    · exact failsLoudly_pure (hkeyset _ _ _)
    · exact failsLoudly_report (hreport _).1 (hreport _).2 hnone
  | map =>
    dsimp only
    split
    · exact failsLoudly_pure (hmap _ _ _)
    · exact failsLoudly_report (hreport _).1 (hreport _).2 hnone
    · exact failsLoudly_emitAt hnone _ _

/-- Building fails loudly where a failure is giving no tokens: a built keyset or map is a block. -/
theorem build_failsLoudly_tokens (kind : Kind) (input : Input) :
    FailsLoudly (fun r => !((r.map Outcome.tokens).getD []).isEmpty) (build kind input) :=
  build_failsLoudly rfl (fun _ _ _ => rfl) (fun _ _ _ => rfl) kind input

/-- **An inline map or keyset never expands to nothing**: it is a syntax error, the problems
found, or the block that binds the built map or keyset. -/
theorem outcome_tokens_ne_nil (kind : Kind) (tokens : Tokens) :
    (outcome kind tokens).tokens ≠ [] := by
  unfold outcome
  split
  · simp [Outcome.tokens, puncts]
  · rename_i input _
    have hloud := (build_failsLoudly_tokens kind input).loud
    split
    · rename_i built hrun
      have hquiet : added (build kind input) = [] := by rw [added, hrun]
      simpa [result, hrun] using hloud.mp hquiet
    · rename_i r ds hnot hrun
      have hds : ds ≠ [] := by
        rintro rfl
        have hok := hloud.mp (by rw [added, hrun])
        rw [result, hrun] at hok
        cases r with
        | none => simp at hok
        | some built => exact hnot built rfl rfl
      obtain ⟨d, ds, rfl⟩ := List.exists_cons_of_ne_nil hds
      simp [Outcome.tokens, failureTokens]

/-! ### What an inline map reports -/

/-- **An inline map or keyset reports a problem exactly when it gives no tokens.** Building a
parsed input adds a diagnostic exactly when it has no keyset or map to expand to. Keys that
settle on a type all convert to it, since the range check is the type's own range and only
`bool` and `char` values pass as `bool` and `char`. -/
theorem inline_expansion_empty_iff_reported (kind : Kind) (input : Input) :
    (((build kind input).run []).2 ≠ [] ↔
      (((build kind input).run []).1.map Outcome.tokens).getD [] = []) ∧
    (∀ o keys ds t values, ((settleKeys o keys).run ds).1 = some (t, values) →
      ∀ k ∈ values, ∃ raw, t.encode? k.value = some raw ∧ Fits t.width raw ∧
        t.decode raw = k.value) ∧
    (∀ t : KeyType, t.isInteger = true → ∀ i : Int,
      ((t.minInt ≤ i ∧ i ≤ t.maxInt) ↔ ∃ raw, Fits t.width raw ∧ t.intOfRaw raw = i)) ∧
    (∀ (k : TypedKey) t ds,
      ((k.fits t).run ds).1 = (k.type.all (· == t) && (t.encode? k.value).isSome)) ∧
    (∀ (k : TypedKey) ds, ((k.fits .bool).run ds).1 = true → ∃ b, k.value = .bool b) ∧
    ∀ (k : TypedKey) ds, ((k.fits .char).run ds).1 = true → ∃ c, k.value = .char c := by
  have hfits : ∀ (k : TypedKey) t ds,
      ((k.fits t).run ds).1 = (k.type.all (· == t) && (t.encode? k.value).isSome) := by
    intro k t ds
    rw [(fits_failsLoudly k t).appends ds, result_fits]
  refine ⟨?_, fun o keys ds t values h => settleKeys_encodes o keys ?_,
    fun t ht i => mem_range_iff ht i, hfits, fun k ds h => ?_, fun k ds h => ?_⟩
  · show added (build kind input) ≠ [] ↔
      ((result (build kind input)).map Outcome.tokens).getD [] = []
    rw [Ne, (build_failsLoudly_tokens kind input).loud]
    simp
  · rw [← h, (settleKeys_failsLoudly_isSome o keys).appends ds]
  · rw [hfits, Bool.and_eq_true] at h
    exact exists_bool_of_encode? h.2
  · rw [hfits, Bool.and_eq_true] at h
    exact exists_char_of_encode? h.2

end GatherMap.Proofs.InlineReports
