import GatherMap.Code.Literal
import GatherMap.Text.Escape
import Mathlib

/-!
# Literal texts read back as their values

Generated code writes numbers, characters, strings and byte strings as literal tokens, through
`toString`, `Text.quoteChar`, `Text.quoteStringSafe` and `Text.quoteBytes`. The literal reader
`Literal.classify` gives each of these texts back its value:

* `classify_toString`: a number's decimal digits read back as the number;
* `classify_quoteChar`: a character literal reads back as its character, whether it is written as
  itself, with a short escape or as a `\u{…}` escape (`unescapeOne_escapeChar`);
* `classify_quoteStringSafe`: a string literal reads back as its string, the NUL before an octal
  digit included (`stringBody_quoteStringSafe_go`);
* `classify_quoteBytes`: a byte string literal reads back as its bytes, in either spelling of its
  escapes (`stringBody_quoteBytes_go`).

Each reading is proved one character at a time: the text a character or byte is written as is
read back as that code unit, leaving the rest of the text (`stringBody_escapeChar`,
`quoteBytes_go_cons`).
-/

namespace GatherMap.Proofs.LiteralText

open GatherMap Code Literal

/-! ### Decimal numbers -/

theorem isDigit_iff (c : Char) : c.isDigit = true ↔ 48 ≤ c.toNat ∧ c.toNat ≤ 57 := by
  simp [Char.isDigit, UInt32.le_iff_toNat_le, ← Char.toNat_val]

theorem intDigits_decimal : ∀ (l : List Char) (acc : Nat) (seen : Bool),
    (∀ c ∈ l, c.isDigit = true) →
    intDigits 10 l acc seen = some (Nat.ofDigitChars 10 l acc, seen || !l.isEmpty, [])
  | [], acc, seen, _ => by simp [intDigits, Nat.ofDigitChars]
  | c :: l, acc, seen, h => by
    have hc := (isDigit_iff c).mp (h c List.mem_cons_self)
    have hdv : digitValue c = some (c.toNat - 48) := by
      simp [digitValue, (isDigit_iff c).mpr hc]
    have hne : c ≠ '_' ∧ c ≠ '.' ∧ c ≠ 'e' ∧ c ≠ 'E' := by
      refine ⟨?_, ?_, ?_, ?_⟩ <;> rintro rfl <;> simp at hc
    have ih := intDigits_decimal l (acc * 10 + (c.toNat - 48)) true
      fun x hx => h x (List.mem_cons_of_mem c hx)
    have hlt : ¬ 10 ≤ c.toNat - 48 := by omega
    have hstep : Nat.ofDigitChars 10 (c :: l) acc =
        Nat.ofDigitChars 10 l (acc * 10 + (c.toNat - 48)) := by
      simp [Nat.ofDigitChars, Nat.mul_comm]
    rw [intDigits]
    simp [hne, hdv, hlt, ih, hstep]

theorem isDigit_of_mem_toDigits {n : Nat} {c : Char} (h : c ∈ Nat.toDigits 10 n) :
    c.isDigit = true :=
  Nat.isDigit_of_mem_toDigits (by decide) (by decide) h

/-- The decimal digits of a number read back as the number: a second character is a digit too, so
the text has no base prefix. -/
theorem parseInt_toDigits (n : Nat) :
    parseInt (Nat.toDigits 10 n) = some (n, "") := by
  have hdig := fun c (hc : c ∈ Nat.toDigits 10 n) => isDigit_of_mem_toDigits hc
  have hval := intDigits_decimal (Nat.toDigits 10 n) 0 false hdig
  rw [Nat.ofDigitChars_ten_toDigits] at hval
  obtain ⟨d, ds, hds⟩ := List.exists_cons_of_ne_nil (Nat.toDigits_ne_nil (n := n) (b := 10))
  rw [hds] at hval hdig ⊢
  have hd := hdig d List.mem_cons_self
  unfold parseInt
  cases ds with
  | nil => simp [hd, hval, suffixOk]
  | cons e es =>
    have he := (isDigit_iff e).mp (hdig e (by simp))
    have hx : e ≠ 'x' ∧ e ≠ 'o' ∧ e ≠ 'b' := by
      refine ⟨?_, ?_, ?_⟩ <;> rintro rfl <;> simp at he
    simp [hd, hval, hx, suffixOk]

/-- **A number's decimal digits read back as the number.** -/
theorem classify_toString (n : Nat) : classify (toString n) = .int false n "" := by
  obtain ⟨d, ds, hds⟩ := List.exists_cons_of_ne_nil (Nat.toDigits_ne_nil (n := n) (b := 10))
  have hd := (isDigit_iff d).mp (isDigit_of_mem_toDigits (by rw [hds]; exact List.mem_cons_self))
  have hint := parseInt_toDigits n
  unfold classify
  rw [Nat.toString_eq_ofList_toDigits, String.toList_ofList]
  rw [hds] at hint ⊢
  dsimp only
  split
  case h_9 =>
    have hdm : d ≠ '-' := by
      rintro rfl
      simp at hd
    simp [hdm, hint]
  all_goals
    rename_i heq
    rw [List.cons.injEq] at heq
    rw [heq.1] at hd
    simp at hd

/-! ### Hexadecimal digits -/

theorem digitValue_digitChar : ∀ k, k < 16 → digitValue (Nat.digitChar k) = some k
  | 0, _ | 1, _ | 2, _ | 3, _ | 4, _ | 5, _ | 6, _ | 7, _ | 8, _ | 9, _ | 10, _ | 11, _ | 12, _
  | 13, _ | 14, _ | 15, _ => by decide
  | _ + 16, h => absurd h (by omega)

theorem digitChar_ne_brace : ∀ k, k < 16 → Nat.digitChar k ≠ '}' ∧ Nat.digitChar k ≠ '_'
  | 0, _ | 1, _ | 2, _ | 3, _ | 4, _ | 5, _ | 6, _ | 7, _ | 8, _ | 9, _ | 10, _ | 11, _ | 12, _
  | 13, _ | 14, _ | 15, _ => by decide
  | _ + 16, h => absurd h (by omega)

/-- The value of hexadecimal digits, read from the most significant one. -/
def hexValue (value : Nat) (cs : List Char) : Nat :=
  cs.foldl (fun v c => v * 16 + (digitValue c).getD 0) value

/-- The hexadecimal digits of a number are digit characters below `16` that read back as the
number. -/
theorem toDigits_sixteen (n : Nat) :
    (∀ c ∈ Nat.toDigits 16 n, ∃ k < 16, c = Nat.digitChar k) ∧
      hexValue 0 (Nat.toDigits 16 n) = n := by
  induction n using Nat.strong_induction_on with
  | _ n ih =>
    rw [Nat.toDigits_eq_if (by decide)]
    split
    · rename_i hn
      refine ⟨fun c hc => ⟨n, hn, List.mem_singleton.mp hc⟩, ?_⟩
      simp [hexValue, digitValue_digitChar n hn]
    · rename_i hn
      obtain ⟨hmem, hval⟩ := ih (n / 16) (by omega)
      have hlast := digitValue_digitChar (n % 16) (Nat.mod_lt _ (by decide))
      refine ⟨fun c hc => ?_, ?_⟩
      · rcases List.mem_append.mp hc with hc | hc
        · exact hmem c hc
        · exact ⟨n % 16, Nat.mod_lt _ (by decide), List.mem_singleton.mp hc⟩
      · simp only [hexValue, List.foldl_append] at hval ⊢
        simp [hval, hlast]
        omega

/-- Reading the digits of a `\u{…}` escape: each hexadecimal digit is taken in turn. -/
theorem unicodeDigits_append : ∀ (cs rest : List Char) (value count : Nat),
    (∀ c ∈ cs, ∃ k < 16, c = Nat.digitChar k) → count + cs.length ≤ 6 →
    unicodeDigits (cs ++ rest) value count =
      unicodeDigits rest (hexValue value cs) (count + cs.length)
  | [], rest, value, count, _, _ => by simp [hexValue]
  | c :: cs, rest, value, count, h, hlen => by
    obtain ⟨k, hk, rfl⟩ := h c List.mem_cons_self
    obtain ⟨hbrace, hunder⟩ := digitChar_ne_brace k hk
    have ih := unicodeDigits_append cs rest (value * 16 + k) (count + 1)
      (fun x hx => h x (List.mem_cons_of_mem _ hx)) (by simp at hlen; omega)
    have hcount : (count == 6) = false := by simp at hlen ⊢; omega
    rw [List.cons_append, unicodeDigits]
    · simp only [digitValue_digitChar k hk, hcount, Bool.false_eq_true, ↓reduceIte, ih]
      simp [hexValue, digitValue_digitChar k hk, Nat.add_assoc, Nat.add_comm 1]
    · exact hbrace
    · exact hunder

/-! ### Escapes of characters -/

/-- A character's code point is a Unicode scalar value. -/
theorem toNat_valid (c : Char) : c.toNat < 55296 ∨ 57343 < c.toNat ∧ c.toNat < 1114112 := by
  have := c.valid
  rwa [UInt32.isValidChar, Nat.isValidChar, Char.toNat_val] at this

theorem isScalar_toNat (c : Char) : isScalar c.toNat = true := by
  have := toNat_valid c
  simp [isScalar]
  omega

theorem unicodeEscape_toList (c : Char) :
    (Text.unicodeEscape c).toList = '\\' :: 'u' :: '{' :: (Nat.toDigits 16 c.toNat ++ ['}']) := by
  simp [Text.unicodeEscape, Text.hexDigits]

/-- **A `\u{…}` escape reads back as its character.** -/
theorem unescapeOne_unicodeEscape (c : Char) (rest : List Char) :
    unescapeOne false ((Text.unicodeEscape c).toList ++ rest) = some (c.toNat, rest) := by
  obtain ⟨hmem, hval⟩ := toDigits_sixteen c.toNat
  have hlen : (Nat.toDigits 16 c.toNat).length ≤ 6 :=
    Nat.toDigits_length 16 _ 6 (by decide) (by have := toNat_valid c; omega)
  rw [unicodeEscape_toList, List.cons_append, List.cons_append, List.cons_append,
    List.append_assoc, List.singleton_append, unescapeOne]
  rw [unicodeDigits_append _ _ _ _ hmem (by omega), hval, unicodeDigits]
  simp [isScalar_toNat]

/-- A character other than a backslash stands for itself. -/
theorem unescapeOne_plain {c : Char} (hc : c ≠ '\\') (rest : List Char) :
    unescapeOne false (c :: rest) = some (c.toNat, rest) := by
  simp [unescapeOne, hc]

/-- **An escaped character reads back as itself**, whichever quotes are escaped. -/
theorem unescapeOne_escapeChar (c : Char) (sq dq : Bool) (rest : List Char) :
    unescapeOne false ((Text.escapeChar c sq dq).toList ++ rest) = some (c.toNat, rest) := by
  unfold Text.escapeChar
  split_ifs with h0 ht hr hn hb hq hdq ha hsq hg hp
  iterate 9 (subst_vars; simp [unescapeOne])
  · exact unescapeOne_unicodeEscape c rest
  · rw [Char.toString, String.toList_singleton, List.singleton_append]
    exact unescapeOne_plain hb rest
  · exact unescapeOne_unicodeEscape c rest

/-- **A character literal reads back as its character.** -/
theorem classify_quoteChar (c : Char) : classify (Text.quoteChar c) = .char c := by
  have htext : (Text.quoteChar c).toList =
      '\'' :: ((Text.escapeChar c true false).toList ++ ['\'']) := by
    simp [Text.quoteChar]
  unfold classify
  rw [htext]
  simp [parseQuoted, unescapeOne_escapeChar, suffixOk]

/-! ### Quoted text -/

section StringBody

variable {u : Units} {c : Char} {rest : List Char} {acc : List Nat}

/-- A character other than a quote, a backslash or a carriage return is read through `plain`. -/
theorem stringBody_plain {vs : List Nat} (h1 : c ≠ '"') (h2 : c ≠ '\\') (h3 : c ≠ '\r')
    (h : u.plain c = some vs) :
    stringBody u (c :: rest) acc = stringBody u rest (vs.reverse ++ acc) := by
  rw [stringBody]
  · simp [h]
  all_goals intros; simp_all

/-- A backslash before a character other than a line break starts an escape. -/
theorem stringBody_escape {vs : List Nat} {after : List Char} (hn : c ≠ '\n') (hr : c ≠ '\r')
    (h : u.escape ('\\' :: c :: rest) = some (vs, after)) (hlen : after.length < rest.length + 2) :
    stringBody u ('\\' :: c :: rest) acc = stringBody u after (vs.reverse ++ acc) := by
  rw [stringBody]
  · simp [h, hlen]
  all_goals intros; simp_all

/-- In text between double quotes, a character is written as itself (and is then no quote,
backslash or carriage return) or as an escape that does not continue a line. -/
theorem escapeChar_string_cases (c : Char) :
    ((Text.escapeChar c false true).toList = [c] ∧ c ≠ '"' ∧ c ≠ '\\' ∧ c ≠ '\r') ∨
      ∃ x more, (Text.escapeChar c false true).toList = '\\' :: x :: more ∧ x ≠ '\n' ∧
        x ≠ '\r' := by
  unfold Text.escapeChar
  split_ifs with h0 ht hr hn hb hq hdq ha hsq hg hp
  iterate 9 (subst_vars; simp_all)
  · exact Or.inr ⟨'u', _, unicodeEscape_toList c, by decide, by decide⟩
  · exact Or.inl ⟨by simp [Char.toString], hq, hb, hr⟩
  · exact Or.inr ⟨'u', _, unicodeEscape_toList c, by decide, by decide⟩

/-- An escape of a literal that reads one code unit through `unescapeOne`. -/
theorem stringBody_unescape {bytes : Bool} {x : Char} {more after : List Char} {v : Nat}
    (hu : ∀ cs, u.escape cs = (unescapeOne bytes cs).map fun (v, r) => ([v], r))
    (hn : x ≠ '\n') (hr : x ≠ '\r') (h : unescapeOne bytes ('\\' :: x :: more) = some (v, after))
    (hlen : after.length < more.length + 2) :
    stringBody u ('\\' :: x :: more) acc = stringBody u after (v :: acc) :=
  @stringBody_escape u x more acc [v] after hn hr (by simp [hu, h]) hlen

/-- **An escaped character in text reads back as its code point.** -/
theorem stringBody_escapeChar (c : Char) (rest : List Char) (acc : List Nat) :
    stringBody .text ((Text.escapeChar c false true).toList ++ rest) acc =
      stringBody .text rest (c.toNat :: acc) := by
  rcases escapeChar_string_cases c with ⟨htext, h1, h2, h3⟩ | ⟨x, more, htext, hn, hr⟩
  · rw [htext, List.singleton_append, stringBody_plain h1 h2 h3 rfl]
    rfl
  · have hesc := unescapeOne_escapeChar c false true rest
    rw [htext, List.cons_append, List.cons_append] at hesc ⊢
    exact stringBody_unescape (fun _ => rfl) hn hr hesc (by simp; omega)

/-- The NUL escapes `\0` and `\x00` read back as `0`, in text and in byte strings. -/
theorem stringBody_nul {bytes : Bool}
    (hu : ∀ cs, u.escape cs = (unescapeOne bytes cs).map fun (v, r) => ([v], r))
    (guarded : Bool) (rest : List Char) (acc : List Nat) :
    stringBody u ((if guarded then "\\x00" else "\\0").toList ++ rest) acc =
      stringBody u rest (0 :: acc) := by
  cases guarded
  · show stringBody u ('\\' :: '0' :: rest) acc = _
    exact stringBody_unescape hu (by decide) (by decide) (by simp [unescapeOne]) (by simp)
  · show stringBody u ('\\' :: 'x' :: '0' :: '0' :: rest) acc = _
    exact stringBody_unescape hu (by decide) (by decide)
      (by simp [unescapeOne, hexPair, digitValue]) (by simp; omega)

theorem toList_join_cons (s : String) (l : List String) :
    (String.join (s :: l)).toList = s.toList ++ (String.join l).toList := by
  simp [String.toList_join]

/-- The body of a string literal reads back as the string's code points. -/
theorem stringBody_quoteStringSafe_go : ∀ (l rest : List Char) (acc : List Nat),
    stringBody .text ((String.join (Text.quoteStringSafe.go l)).toList ++ '"' :: rest) acc =
      some (acc.reverse ++ l.map Char.toNat, rest)
  | [], rest, acc => by
    simp [Text.quoteStringSafe.go, stringBody]
  | c :: l, rest, acc => by
    by_cases hc : c = '\x00'
    · subst hc
      obtain ⟨guarded, hgo⟩ : ∃ guarded : Bool, Text.quoteStringSafe.go ('\x00' :: l) =
          (if guarded then "\\x00" else "\\0") :: Text.quoteStringSafe.go l := by
        cases l with
        | nil => exact ⟨false, rfl⟩
        | cons d l => exact ⟨Text.isOctalDigit d, by simp [Text.quoteStringSafe.go]⟩
      rw [hgo, toList_join_cons, List.append_assoc, stringBody_nul (fun _ => rfl),
        stringBody_quoteStringSafe_go l rest (0 :: acc)]
      simp
    · have hgo : Text.quoteStringSafe.go (c :: l) =
          Text.escapeChar c false true :: Text.quoteStringSafe.go l := by
        rw [Text.quoteStringSafe.go]
        exact hc
      rw [hgo, toList_join_cons, List.append_assoc, stringBody_escapeChar,
        stringBody_quoteStringSafe_go l rest (c.toNat :: acc)]
      simp

end StringBody

/-- **A string literal reads back as its string.** -/
theorem classify_quoteStringSafe (s : String) : classify (Text.quoteStringSafe s) = .str s := by
  have htext : (Text.quoteStringSafe s).toList =
      '"' :: ((String.join (Text.quoteStringSafe.go s.toList)).toList ++ ['"']) := by
    simp [Text.quoteStringSafe]
  have hbody := stringBody_quoteStringSafe_go s.toList [] []
  unfold classify
  rw [htext]
  simp only [hbody]
  simp [suffixOk, Function.comp_def, Char.ofNat_toNat]

/-! ### Byte strings -/

theorem digitValue_byteDigit (upper : Bool) : ∀ d, d < 16 →
    digitValue (if d < 10 then Char.ofNat (48 + d) else Char.ofNat ((if upper then 55 else 87) + d)) =
      some d
  | 0, _ | 1, _ | 2, _ | 3, _ | 4, _ | 5, _ | 6, _ | 7, _ | 8, _ | 9, _ | 10, _ | 11, _ | 12, _
  | 13, _ | 14, _ | 15, _ => by cases upper <;> decide
  | _ + 16, h => absurd h (by omega)

/-- The two hexadecimal digits of a byte read back as the byte. -/
theorem byteHex_toList (upper : Bool) {b : Nat} (hb : b < 256) :
    ∃ x y, (Text.byteHex upper b).toList = [x, y] ∧ hexPair x y = some b := by
  unfold Text.byteHex
  refine ⟨_, _, String.toList_ofList, ?_⟩
  rw [hexPair, digitValue_byteDigit upper (b / 16) (by omega),
    digitValue_byteDigit upper (b % 16) (by omega)]
  simp only [Option.some.injEq]
  omega

/-- The text of one byte reads back as the byte. -/
theorem quoteBytes_go_cons (style : Text.ByteEscapes) {b : Nat} (hb : b < 256) (l : List Nat) :
    ∃ t, Text.quoteBytes.go style (b :: l) = t :: Text.quoteBytes.go style l ∧
      ∀ more acc, stringBody .bytes (t.toList ++ more) acc = stringBody .bytes more (b :: acc) := by
  refine ⟨_, rfl, fun more acc => ?_⟩
  have hu : ∀ cs, Units.bytes.escape cs = (unescapeOne true cs).map fun (v, r) => ([v], r) :=
    fun _ => rfl
  split_ifs with h0 h9 h10 h13 h34 h92 hprint
  · subst h0
    split
    · split
      · exact stringBody_nul hu true more acc
      · exact stringBody_nul hu false more acc
    · exact stringBody_nul hu false more acc
  · subst h9
    show stringBody .bytes ('\\' :: 't' :: more) acc = _
    exact stringBody_unescape hu (by decide) (by decide) (by simp [unescapeOne]) (by simp)
  · subst h10
    show stringBody .bytes ('\\' :: 'n' :: more) acc = _
    exact stringBody_unescape hu (by decide) (by decide) (by simp [unescapeOne]) (by simp)
  · subst h13
    show stringBody .bytes ('\\' :: 'r' :: more) acc = _
    exact stringBody_unescape hu (by decide) (by decide) (by simp [unescapeOne]) (by simp)
  · subst h34
    show stringBody .bytes ('\\' :: '"' :: more) acc = _
    exact stringBody_unescape hu (by decide) (by decide) (by simp [unescapeOne]) (by simp)
  · subst h92
    show stringBody .bytes ('\\' :: '\\' :: more) acc = _
    exact stringBody_unescape hu (by decide) (by decide) (by simp [unescapeOne]) (by simp)
  · have hrange : 32 ≤ b ∧ b ≤ 126 := by simpa using hprint
    have hnat : (Char.ofNat b).toNat = b := by
      simp [Char.toNat_ofNat, Nat.isValidChar]
      omega
    have hne : ∀ c : Char, c.toNat ≠ b → Char.ofNat b ≠ c := fun c hc h => hc (h ▸ hnat)
    rw [Char.toString, String.toList_singleton, List.singleton_append,
      stringBody_plain (hne '"' (by simp; omega)) (hne '\\' (by simp; omega))
        (hne '\r' (by simp; omega)) (by simp only [Units.bytes, hnat]; rw [if_neg (by omega)])]
    rfl
  · obtain ⟨x, y, hxy, hpair⟩ := byteHex_toList style.upperHex hb
    rw [String.toList_append, hxy]
    show stringBody .bytes ('\\' :: 'x' :: x :: y :: more) acc = _
    exact stringBody_unescape hu (by decide) (by decide) (by simp [unescapeOne, hpair])
      (by simp; omega)

/-- The body of a byte string literal reads back as its bytes. -/
theorem stringBody_quoteBytes_go (style : Text.ByteEscapes) :
    ∀ (l : List Nat) (rest : List Char) (acc : List Nat), (∀ b ∈ l, b < 256) →
      stringBody .bytes ((String.join (Text.quoteBytes.go style l)).toList ++ '"' :: rest) acc =
        some (acc.reverse ++ l, rest)
  | [], rest, acc, _ => by simp [Text.quoteBytes.go, stringBody]
  | b :: l, rest, acc, hl => by
    obtain ⟨t, hgo, ht⟩ := quoteBytes_go_cons style (hl b List.mem_cons_self) l
    rw [hgo, toList_join_cons, List.append_assoc, ht,
      stringBody_quoteBytes_go style l rest (b :: acc) fun x hx => hl x (List.mem_cons_of_mem b hx)]
    simp

/-- **A byte string literal reads back as its bytes**, in either spelling of its escapes. -/
theorem classify_quoteBytes (style : Text.ByteEscapes) {bytes : List Nat}
    (hbytes : ∀ b ∈ bytes, b < 256) : classify (Text.quoteBytes style bytes) = .byteStr bytes := by
  have htext : (Text.quoteBytes style bytes).toList =
      'b' :: '"' :: ((String.join (Text.quoteBytes.go style bytes)).toList ++ ['"']) := by
    simp [Text.quoteBytes]
  have hbody := stringBody_quoteBytes_go style bytes [] [] hbytes
  unfold classify
  rw [htext]
  simp only [hbody]
  simp [suffixOk]

end GatherMap.Proofs.LiteralText
