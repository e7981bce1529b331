import LintDispatch.Proofs.Json.Reading
import LintDispatch.Proofs.Text.Utf8

/-!
# Reading strings and numbers
Every spelling of a string, a truth value or a natural number is read as that value. Strings are
read character by character: each spelling of a character is one or more turns of the loop, and they
leave the UTF-8 form of the character behind (`stringFrom_charText`). Of a number of any size it is
shown that its digits are taken (`numberDigits_apply`); a natural number below the limit of its type
is also gathered without loss.
-/

namespace LintDispatch.Json

variable {α : Type}

/-! ## Strings -/

/-- The byte stands for itself inside a string. -/
def IsPlain (b : UInt8) : Prop := b ≠ quote ∧ b ≠ backslash ∧ ¬b < 0x20

theorem isPlain_ofNat {n : Nat} (h : n < 256) (hq : n ≠ 34) (hb : n ≠ 92) (hc : 32 ≤ n) :
    IsPlain (UInt8.ofNat n) := by
  have hn : (UInt8.ofNat n).toNat = n := Utf8.toNat_ofNat h
  refine ⟨fun e => hq ?_, fun e => hb ?_, fun e => ?_⟩
  · rw [← hn, e]
    rfl
  · rw [← hn, e]
    rfl
  · rw [UInt8.lt_iff_toNat_lt, hn] at e
    exact absurd hc (Nat.not_le.mpr e)

theorem isPlain_of_mem_utf8EncodeChar {c : Char} (hc : 0x20 ≤ c.toNat) (hq : c ≠ '"')
    (hb : c ≠ '\\') : ∀ b ∈ String.utf8EncodeChar c, IsPlain b := by
  have hq : c.val.toNat ≠ 34 := fun e => hq (Char.ext (UInt32.toNat_inj.mp e))
  have hb : c.val.toNat ≠ 92 := fun e => hb (Char.ext (UInt32.toNat_inj.mp e))
  have hc : 32 ≤ c.val.toNat := hc
  have hv : c.val.toNat < 0xD800 ∨ 0xDFFF < c.val.toNat ∧ c.val.toNat < 0x110000 := c.valid
  rw [String.utf8EncodeChar]
  generalize c.val.toNat = v at hq hb hc hv ⊢
  have hcont (n : Nat) {bs : Bytes} (h : ∀ b ∈ bs, IsPlain b) :
      ∀ b ∈ UInt8.ofNat (n % 64 + 0x80) :: bs, IsPlain b :=
    List.forall_mem_cons.mpr ⟨isPlain_ofNat (by omega) (by omega) (by omega) (by omega), h⟩
  have hnil : ∀ b ∈ ([] : Bytes), IsPlain b := by simp
  split
  · exact List.forall_mem_singleton.mpr (isPlain_ofNat (by omega) hq hb hc)
  split
  · have hlead : IsPlain (UInt8.ofNat (v / 64 % 32 + 0xC0)) :=
      isPlain_ofNat (by omega) (by omega) (by omega) (by omega)
    exact List.forall_mem_cons.mpr ⟨hlead, hcont _ hnil⟩
  split
  · have hlead : IsPlain (UInt8.ofNat (v / 4096 % 16 + 0xE0)) :=
      isPlain_ofNat (by omega) (by omega) (by omega) (by omega)
    exact List.forall_mem_cons.mpr ⟨hlead, hcont _ (hcont _ hnil)⟩
  · have hlead : IsPlain (UInt8.ofNat (v / 262144 % 8 + 0xF0)) :=
      isPlain_ofNat (by omega) (by omega) (by omega) (by omega)
    exact List.forall_mem_cons.mpr ⟨hlead, hcont _ (hcont _ (hcont _ hnil))⟩

/-- Plain bytes are taken as they are. -/
theorem stringFrom_plain (rest : Bytes) :
    ∀ (t bound taken : Bytes) (i : Nat), (∀ b ∈ t, IsPlain b) → t.length ≤ bound.length →
      stringFrom bound taken ⟨i, t ++ rest⟩ =
        stringFrom (bound.drop t.length) (t.reverse ++ taken) ⟨i + t.length, rest⟩
  | [], _, _, _, _, _ => rfl
  | b :: t, [], _, _, _, hlen => absurd hlen (by simp)
  | b :: t, x :: bound, taken, i, h, hlen => by
    obtain ⟨⟨hq, hb, hc⟩, h⟩ := List.forall_mem_cons.mp h
    rw [stringFrom, bind_peek]
    simp only [List.cons_append, List.head?_cons, bind_take, beq_iff_eq, hq, hb, hc, if_false]
    rw [stringFrom_plain rest t bound (b :: taken) (i + 1) h (by simpa using hlen)]
    simp [Nat.add_assoc, Nat.add_comm 1]

theorem hexFour_apply {w x y z : UInt8} {n : Nat} (h : hexFour? w x y z = some n) (i : Nat)
    (rest : Bytes) : hexFour ⟨i, w :: x :: y :: z :: rest⟩ = .ok n ⟨i + 4, rest⟩ := by
  simp only [hexFour, h]

theorem pairByte_apply (b : UInt8) (i : Nat) (rest : Bytes) :
    pairByte b ⟨i, b :: rest⟩ = .ok () ⟨i + 1, rest⟩ := by
  rw [pairByte, bind_peek]
  simp only [List.head?_cons, bind_take, beq_self_eq_true, if_true]
  rfl

/-- The escape for a code point that is no half of a surrogate pair. -/
theorem escape_code {c : Char} {w x y z : UInt8} (h : hexFour? w x y z = some c.toNat) (i : Nat)
    (rest : Bytes) : escape ⟨i, 117 :: w :: x :: y :: z :: rest⟩ =
      .ok (String.utf8EncodeChar c) ⟨i + 5, rest⟩ := by
  have hv : c.toNat < 0xD800 ∨ 0xDFFF < c.toNat ∧ c.toNat < 0x110000 := c.valid
  have hlow : isLowSurrogate c.toNat = false := by
    simp only [isLowSurrogate, Bool.and_eq_false_iff, decide_eq_false_iff_not]
    omega
  have hhigh : isHighSurrogate c.toNat = false := by
    simp only [isHighSurrogate, Bool.and_eq_false_iff, decide_eq_false_iff_not]
    omega
  have hletter : simpleEscape? 117 = none := rfl
  rw [escape, bind_peek]
  simp only [List.head?_cons, bind_take, hletter, beq_self_eq_true, if_true]
  rw [unicodeEscape, bind_of_eq_ok (hexFour_apply h (i + 1) rest)]
  simp only [hlow, hhigh, Bool.false_eq_true, if_false, Char.ofNat_toNat]
  rfl

/-- The two escapes for the halves of a surrogate pair. -/
theorem escape_pair {c : Char} {w x y z w' x' y' z' : UInt8} {high low : Nat}
    (h : hexFour? w x y z = some high) (h' : hexFour? w' x' y' z' = some low)
    (hhigh : isHighSurrogate high = true) (hlow : isLowSurrogate low = true)
    (hc : c.toNat = surrogatePair high low) (i : Nat) (rest : Bytes) :
    escape ⟨i, 117 :: w :: x :: y :: z :: backslash :: 117 :: w' :: x' :: y' :: z' :: rest⟩ =
      .ok (String.utf8EncodeChar c) ⟨i + 11, rest⟩ := by
  have hnot : isLowSurrogate high = false := by
    simp only [isHighSurrogate, Bool.and_eq_true, decide_eq_true_eq] at hhigh
    simp only [isLowSurrogate, Bool.and_eq_false_iff, decide_eq_false_iff_not]
    omega
  have hletter : simpleEscape? 117 = none := rfl
  rw [escape, bind_peek]
  simp only [List.head?_cons, bind_take, hletter, beq_self_eq_true, if_true]
  rw [unicodeEscape, bind_of_eq_ok (hexFour_apply h (i + 1) _)]
  simp only [hnot, hhigh, Bool.false_eq_true, if_false, if_true]
  rw [bind_of_eq_ok (pairByte_apply backslash (i + 5) _),
    bind_of_eq_ok (pairByte_apply 117 (i + 6) _), bind_of_eq_ok (hexFour_apply h' (i + 7) rest)]
  simp only [hlow, if_true, ← hc, Char.ofNat_toNat]
  rfl

theorem escape_short {c : Char} {letter b : UInt8} (h : simpleEscape? letter = some b)
    (hc : c.toNat = b.toNat) (i : Nat) (rest : Bytes) :
    escape ⟨i, letter :: rest⟩ = .ok (String.utf8EncodeChar c) ⟨i + 1, rest⟩ := by
  have hb : b.toNat ≤ 0x7F := by
    unfold simpleEscape? at h
    split at h <;> cases h <;> decide
  have henc : String.utf8EncodeChar c = [b] := by
    have hc : c.val.toNat = b.toNat := hc
    rw [String.utf8EncodeChar, hc, if_pos hb, UInt8.ofNat_toNat]
  rw [escape, bind_peek]
  simp only [List.head?_cons, bind_take, h]
  rw [henc]
  rfl

theorem stringFrom_escape {u rest bs : Bytes} {i j : Nat}
    (h : escape ⟨i + 1, u⟩ = .ok bs ⟨j, rest⟩) (x : UInt8) (bound taken : Bytes) :
    stringFrom (x :: bound) taken ⟨i, backslash :: u⟩ =
      stringFrom bound (bs.reverse ++ taken) ⟨j, rest⟩ := by
  have hq : (backslash == quote) = false := rfl
  rw [stringFrom, bind_peek]
  simp only [List.head?_cons, bind_take, hq, beq_self_eq_true, if_true, Bool.false_eq_true,
    if_false]
  rw [bind_of_eq_ok h]

/-- Any spelling of a character leaves its UTF-8 form behind. Of the bound at least as much is left
as before the spelling, less its length. -/
theorem stringFrom_charText {c : Char} {t : Bytes} (h : CharText c t) {bound : Bytes} {m : Nat}
    (hm : t.length + m < bound.length) (taken : Bytes) (i : Nat) (rest : Bytes) :
    ∃ bound' : Bytes, m < bound'.length ∧ stringFrom bound taken ⟨i, t ++ rest⟩ =
      stringFrom bound' ((String.utf8EncodeChar c).reverse ++ taken) ⟨i + t.length, rest⟩ := by
  cases h with
  | plain control quote backslash =>
    refine ⟨bound.drop (String.utf8EncodeChar c).length, ?_, ?_⟩
    · rw [List.length_drop]
      omega
    · exact stringFrom_plain rest _ bound taken i
        (isPlain_of_mem_utf8EncodeChar control quote backslash) (by omega)
  | short escape char =>
    obtain ⟨x, bound, rfl⟩ := List.exists_cons_of_length_pos (show 0 < bound.length by omega)
    refine ⟨bound, by simp only [List.length_cons] at hm; omega, ?_⟩
    exact stringFrom_escape (escape_short escape char (i + 1) rest) x bound taken
  | code digits =>
    obtain ⟨x, bound, rfl⟩ := List.exists_cons_of_length_pos (show 0 < bound.length by omega)
    refine ⟨bound, by simp only [List.length_cons] at hm; omega, ?_⟩
    exact stringFrom_escape (escape_code digits (i + 1) rest) x bound taken
  | pair digits digits' isHigh isLow char =>
    obtain ⟨x, bound, rfl⟩ := List.exists_cons_of_length_pos (show 0 < bound.length by omega)
    have hescape := escape_pair digits digits' isHigh isLow char (i + 1) rest
    refine ⟨bound, by simp only [List.length_cons] at hm; omega, ?_⟩
    exact stringFrom_escape hescape x bound taken

theorem stringFrom_charsText {cs : List Char} {body : Bytes} (h : CharsText cs body) :
    ∀ {bound : Bytes} (taken : Bytes) (i : Nat) (rest : Bytes), body.length < bound.length →
      stringFrom bound taken ⟨i, body ++ quote :: rest⟩ =
        .ok (taken.reverse ++ cs.flatMap String.utf8EncodeChar) ⟨i + body.length + 1, rest⟩ := by
  induction h with
  | nil =>
    intro bound taken i rest hlen
    obtain ⟨x, bound, rfl⟩ := List.exists_cons_of_length_pos hlen
    rw [List.nil_append, stringFrom, bind_peek]
    simp only [List.head?_cons, bind_take, beq_self_eq_true, if_true, List.flatMap_nil,
      List.append_nil]
    rfl
  | @cons c cs t u head tail ih =>
    intro bound taken i rest hlen
    rw [List.length_append] at hlen
    obtain ⟨bound', hbound, heq⟩ := stringFrom_charText head hlen taken i (u ++ quote :: rest)
    rw [List.append_assoc, heq, ih _ _ _ hbound]
    simp [Nat.add_assoc]

/-- A string whose opening quote has been taken. -/
theorem stringBody_charsText {s : String} {body : Bytes} (h : CharsText s.toList body) (i : Nat)
    (rest : Bytes) :
    stringBody ⟨i, body ++ quote :: rest⟩ = .ok s ⟨i + body.length + 1, rest⟩ := by
  have hbytes : stringBytes ⟨i, body ++ quote :: rest⟩ =
      .ok (Bytes.ofString s) ⟨i + body.length + 1, rest⟩ := by
    rw [stringBytes, stringFrom_charsText h [] i rest (by simp)]
    rfl
  rw [stringBody, bind_of_eq_ok hbytes, Utf8.decode?_ofString]
  rfl

/-! ## Numbers -/

/-- No digit comes next. -/
def NoDigit (rest : Bytes) : Prop := ∀ b ∈ rest.head?, isDigit b = false

theorem digits_apply {ds rest : Bytes} (h : ∀ b ∈ ds, isDigit b = true) (hrest : NoDigit rest)
    (i : Nat) : digits ⟨i, ds ++ rest⟩ = .ok ds ⟨i + ds.length, rest⟩ := by
  have htake : rest.takeWhile isDigit = [] := by
    rcases rest with _ | ⟨b, rest⟩
    · rfl
    · exact List.takeWhile_cons_of_neg (by simpa using hrest b rfl)
  have hdrop : rest.dropWhile isDigit = rest := by
    rcases rest with _ | ⟨b, rest⟩
    · rfl
    · exact List.dropWhile_cons_of_neg (by simpa using hrest b rfl)
  simp only [digits, Cursor.skip, List.takeWhile_append_of_pos h, List.dropWhile_append_of_pos h,
    htake, hdrop, List.append_nil]

theorem Numerals.exists_cons {t : Bytes} (h : Numerals t) :
    ∃ d ds, t = d :: ds ∧ isDigit d = true ∧ ∀ b ∈ ds, isDigit b = true := by
  obtain ⟨d, ds, rfl⟩ := List.exists_cons_of_ne_nil h.1
  exact ⟨d, ds, rfl, h.2 d (by simp), fun b hb => h.2 b (by simp [hb])⟩

theorem wholeDigits_apply {whole rest : Bytes} (h : Whole whole) (hrest : NoDigit rest)
    (ended : Complaint) (i : Nat) :
    wholeDigits ended ⟨i, whole ++ rest⟩ = .ok whole ⟨i + whole.length, rest⟩ := by
  obtain ⟨hnum, hzero⟩ := h
  obtain ⟨d, ds, rfl, hd, hds⟩ := hnum.exists_cons
  rw [wholeDigits, bind_peek]
  simp only [List.cons_append, List.head?_cons, bind_take]
  by_cases h0 : d = 48
  · subst h0
    obtain rfl : ds = [] := by simpa using hzero rfl
    rw [if_pos (by rfl), List.nil_append, bind_peek]
    rcases rest with _ | ⟨b, rest⟩
    · rfl
    · simp only [List.head?_cons, hrest b rfl, Bool.false_eq_true, if_false]
      rfl
  · rw [if_neg (by simpa using h0), if_pos hd, bind_of_eq_ok (digits_apply hds hrest (i + 1))]
    refine ok_congr rest ?_
    rw [List.length_cons, Nat.add_assoc, Nat.add_comm 1]

theorem Fraction.noDigit {t rest : Bytes} (h : Fraction t) (hrest : NoDigit rest) :
    NoDigit (t ++ rest) := by
  rcases h with rfl | ⟨ds, -, rfl⟩
  · exact hrest
  · intro b hb
    obtain rfl : 46 = b := by simpa using hb
    rfl

theorem Exponent.noDigit {t rest : Bytes} (h : Exponent t) (hrest : NoDigit rest) :
    NoDigit (t ++ rest) := by
  rcases h with rfl | ⟨e, sign, ds, he, -, -, rfl⟩
  · exact hrest
  · intro b hb
    obtain rfl : e = b := by simpa using hb
    rcases he with rfl | rfl <;> rfl

theorem Follows.noDigit {rest : Bytes} (h : Follows rest) : NoDigit rest := by
  intro b hb
  rcases h b hb with hs | rfl | rfl | rfl
  · simp only [isSpace, Bool.or_eq_true, beq_iff_eq] at hs
    rcases hs with ((rfl | rfl) | rfl) | rfl <;> rfl
  · rfl
  · rfl
  · rfl

/-- Neither a point nor the letter of an exponent can follow a value. -/
theorem Follows.ne_of_mem {rest : Bytes} (h : Follows rest) :
    ∀ b ∈ rest.head?, b ≠ 46 ∧ b ≠ 101 ∧ b ≠ 69 := by
  intro b hb
  rcases h b hb with hs | rfl | rfl | rfl
  · simp only [isSpace, Bool.or_eq_true, beq_iff_eq] at hs
    rcases hs with ((rfl | rfl) | rfl) | rfl <;> decide
  · decide
  · decide
  · decide

theorem fraction?_apply {t rest : Bytes} (h : Fraction t) (hrest : NoDigit rest)
    (hpoint : ∀ b ∈ rest.head?, b ≠ 46) (ended : Complaint) (i : Nat) :
    ∃ ds, fraction? ended ⟨i, t ++ rest⟩ = .ok ds ⟨i + t.length, rest⟩ ∧ (t = [] ↔ ds = none) := by
  rcases h with rfl | ⟨ds, ⟨hne, hds⟩, rfl⟩
  · refine ⟨none, ?_, iff_of_true rfl rfl⟩
    rw [fraction?, List.nil_append, bind_peek]
    rcases rest with _ | ⟨b, rest⟩
    · rfl
    · have hb : b ≠ 46 := hpoint b rfl
      simp only [List.head?_cons, Option.some.injEq, hb, imp_self]
      rfl
  · refine ⟨some ds, ?_, by simp⟩
    have hfrac : fractionDigits ended ⟨i + 1, ds ++ rest⟩ = .ok ds ⟨i + 1 + ds.length, rest⟩ := by
      rw [fractionDigits, bind_of_eq_ok (digits_apply hds hrest (i + 1))]
      simp only [List.isEmpty_iff, hne, if_false]
      rfl
    rw [fraction?, bind_peek]
    simp only [List.cons_append, List.head?_cons, bind_take]
    rw [bind_of_eq_ok hfrac]
    refine ok_congr rest ?_
    rw [List.length_cons, Nat.add_assoc, Nat.add_comm 1]

theorem ne_of_isDigit {d b : UInt8} (h : isDigit d = true) (hb : isDigit b = false) : d ≠ b := by
  rintro rfl
  rw [h] at hb
  exact Bool.noConfusion hb

theorem exponentSign_apply {sign : Bytes} (h : sign = [] ∨ sign = [43] ∨ sign = [45]) {d : UInt8}
    (hd : isDigit d = true) (i : Nat) (rest : Bytes) :
    ∃ negative, exponentSign ⟨i, sign ++ d :: rest⟩ =
      .ok negative ⟨i + sign.length, d :: rest⟩ := by
  rcases h with rfl | rfl | rfl
  · refine ⟨false, ?_⟩
    have hplus : d ≠ 43 := ne_of_isDigit hd rfl
    have hminus : d ≠ 45 := ne_of_isDigit hd rfl
    rw [exponentSign, bind_peek]
    simp only [List.nil_append, List.head?_cons, Option.some.injEq, hplus, hminus, imp_self]
    rfl
  · exact ⟨false, rfl⟩
  · exact ⟨true, rfl⟩

theorem exponent?_apply {t rest : Bytes} (h : Exponent t) (hrest : NoDigit rest)
    (hletter : ∀ b ∈ rest.head?, b ≠ 101 ∧ b ≠ 69) (ended : Complaint) (i : Nat) :
    ∃ e, exponent? ended ⟨i, t ++ rest⟩ = .ok e ⟨i + t.length, rest⟩ ∧ (t = [] ↔ e = none) := by
  rcases h with rfl | ⟨e, sign, ds, he, hsign, hnum, rfl⟩
  · refine ⟨none, ?_, iff_of_true rfl rfl⟩
    rw [exponent?, List.nil_append, bind_peek]
    rcases rest with _ | ⟨b, rest⟩
    · rfl
    · obtain ⟨hb, hb'⟩ := hletter b rfl
      simp only [List.head?_cons, Option.some.injEq, hb, hb', imp_self]
      rfl
  · obtain ⟨d, ds, rfl, hd, hds⟩ := hnum.exists_cons
    obtain ⟨negative, hneg⟩ := exponentSign_apply hsign hd (i + 1) (ds ++ rest)
    refine ⟨some (negative, d :: ds), ?_, by simp⟩
    have hexp : exponentDigits ended ⟨i + 1, sign ++ d :: ds ++ rest⟩ =
        .ok (negative, d :: ds) ⟨i + 1 + (sign ++ d :: ds).length, rest⟩ := by
      rw [exponentDigits, List.append_assoc, List.cons_append, bind_of_eq_ok hneg, bind_peek]
      simp only [List.head?_cons, bind_take, hd, if_true]
      rw [bind_of_eq_ok (digits_apply hds hrest _)]
      refine ok_congr rest ?_
      simp only [List.length_append, List.length_cons, Nat.add_assoc, Nat.add_comm 1]
    rw [exponent?, bind_peek]
    rcases he with rfl | rfl
    all_goals
      simp only [List.cons_append, List.head?_cons, bind_take]
      rw [bind_of_eq_ok hexp]
      refine ok_congr rest ?_
      rw [List.length_cons, Nat.add_assoc, Nat.add_comm 1]

/-- The digits of a number without a sign. -/
theorem numberDigits_apply {whole fraction exponent rest : Bytes} (hw : Whole whole)
    (hf : Fraction fraction) (he : Exponent exponent) (hrest : Follows rest) (ended : Complaint)
    (i : Nat) :
    ∃ f e, numberDigits ended ⟨i, whole ++ fraction ++ exponent ++ rest⟩ =
        .ok ⟨whole, f, e⟩ ⟨i + (whole ++ fraction ++ exponent).length, rest⟩ ∧
      (fraction = [] ↔ f = none) ∧ (exponent = [] ↔ e = none) := by
  have hexp : NoDigit (exponent ++ rest) := he.noDigit hrest.noDigit
  have hpoint : ∀ b ∈ (exponent ++ rest).head?, b ≠ 46 := by
    rcases he with rfl | ⟨e, sign, ds, he, -, -, rfl⟩
    · exact fun b hb => (hrest.ne_of_mem b hb).1
    · intro b hb
      obtain rfl : e = b := by simpa using hb
      rcases he with rfl | rfl <;> decide
  obtain ⟨f, hfrac, hfnil⟩ := fraction?_apply hf hexp hpoint ended (i + whole.length)
  obtain ⟨e, hexponent, henil⟩ := exponent?_apply he hrest.noDigit
    (fun b hb => (hrest.ne_of_mem b hb).2) ended (i + whole.length + fraction.length)
  refine ⟨f, e, ?_, hfnil, henil⟩
  rw [List.append_assoc, List.append_assoc, numberDigits,
    bind_of_eq_ok (wholeDigits_apply hw (hf.noDigit hexp) ended i), bind_of_eq_ok hfrac,
    bind_of_eq_ok hexponent]
  refine ok_congr rest ?_
  simp only [List.length_append, Nat.add_assoc]

theorem minus_of_ne {b : UInt8} (h : b ≠ 45) (i : Nat) (rest : Bytes) :
    minus ⟨i, b :: rest⟩ = .ok false ⟨i, b :: rest⟩ := by
  rw [minus, bind_peek]
  simp only [List.head?_cons, Option.some.injEq, h, imp_self]
  rfl

/-- The value of digits grows with every digit. -/
theorem le_foldl_digits : ∀ (ds : Bytes) (n : Nat),
    n ≤ ds.foldl (fun n d => n * 10 + digitValue d) n
  | [], n => Nat.le_refl n
  | d :: ds, n => by
    have := le_foldl_digits ds (n * 10 + digitValue d)
    rw [List.foldl_cons]
    omega

/-- Digits whose value is below the limit are all gathered. -/
theorem gather_eq {limit : Nat} : ∀ (ds : Bytes) (n : Nat),
    ds.foldl (fun n d => n * 10 + digitValue d) n < limit →
      gather limit n ds = (ds.foldl (fun n d => n * 10 + digitValue d) n, ds.length)
  | [], _, _ => rfl
  | d :: ds, n, h => by
    rw [List.foldl_cons] at h
    have hlt : n * 10 + digitValue d < limit :=
      Nat.lt_of_le_of_lt (le_foldl_digits ds (n * 10 + digitValue d)) h
    rw [gather]
    simp only [hlt, if_true, gather_eq ds _ h]
    rfl

theorem number_natText {n : Nat} {t rest : Bytes} (h : NatText n t) (hn : n < significandLimit)
    (hrest : Follows rest) (i : Nat) :
    number ⟨i, t ++ rest⟩ = .ok (.int n) ⟨i + t.length, rest⟩ := by
  obtain ⟨hw, hval⟩ := h
  obtain ⟨f, e, hdig, hf, he⟩ :=
    numberDigits_apply hw (.inl rfl) (.inl rfl) hrest .endInValue i
  obtain rfl := hf.mp rfl
  obtain rfl := he.mp rfl
  simp only [List.append_nil] at hdig
  have hsig : Digits.significand ⟨t, none, none⟩ = (n, 0) := by
    have hg : gather significandLimit 0 t = (n, t.length) := by
      rw [gather_eq t 0 (by rw [hval]; exact hn), hval]
    simp [Digits.significand, hg, gather]
  have hnum : Digits.number? false ⟨t, none, none⟩ = .ok (.int n) := by
    simp [Digits.number?, hsig]
  obtain ⟨d, ds, rfl, hd, -⟩ := hw.1.exists_cons
  rw [number, List.cons_append, bind_of_eq_ok (minus_of_ne (ne_of_isDigit hd rfl) i (ds ++ rest))]
  rw [List.cons_append] at hdig
  rw [bind_of_eq_ok hdig, hnum]
  rfl

/-! ## Values -/

theorem reads_string {s : String} {t : Bytes} (h : StringText s t) (expected : String) :
    Reads (string expected) t s := by
  obtain ⟨body, hbody, rfl⟩ := h
  refine (skips_peekValue.bind _).reads fun i rest _ => ?_
  have htext : quote :: body ++ [quote] ++ rest = quote :: (body ++ quote :: rest) := by simp
  rw [htext, bind_peekValue rfl]
  simp only [beq_self_eq_true, if_true, bind_take]
  rw [stringBody_charsText hbody]
  simp [Nat.add_assoc, Nat.add_comm 1]

theorem reads_bool {b : Bool} {t : Bytes} (h : BoolText b t) : Reads bool t b := by
  obtain rfl := h
  refine (skips_peekValue.bind _).reads fun i rest _ => ?_
  cases b with
  | true =>
    rw [if_pos rfl, List.cons_append, bind_peekValue rfl, if_pos (by decide), bind_take, bind_word]
    rfl
  | false =>
    rw [if_neg Bool.false_ne_true, List.cons_append, bind_peekValue rfl, if_neg (by decide),
      if_pos (by decide), bind_take, bind_word]
    rfl

theorem NatText.exists_cons {n : Nat} {t : Bytes} (h : NatText n t) :
    ∃ d ds, t = d :: ds ∧ isDigit d = true := by
  obtain ⟨d, ds, ht, hd, -⟩ := h.1.1.exists_cons
  exact ⟨d, ds, ht, hd⟩

theorem isSpace_of_isDigit {b : UInt8} (h : isDigit b = true) : isSpace b = false := by
  have h32 : b ≠ 32 := ne_of_isDigit h rfl
  have h10 : b ≠ 10 := ne_of_isDigit h rfl
  have h9 : b ≠ 9 := ne_of_isDigit h rfl
  have h13 : b ≠ 13 := ne_of_isDigit h rfl
  simp [isSpace, h32, h10, h9, h13]

theorem reads_unsigned {n limit : Nat} {t : Bytes} (h : NatText n t) (hn : n < limit)
    (hlimit : limit ≤ significandLimit) (expected : String) :
    Reads (unsigned limit expected) t n := by
  refine (skips_peekValue.bind _).reads fun i rest hrest => ?_
  have hnum := number_natText h (Nat.lt_of_lt_of_le hn hlimit) hrest i
  obtain ⟨d, ds, rfl, hd⟩ := h.exists_cons
  have hstart : startsNumber d = true := by rw [startsNumber, hd, Bool.or_true]
  rw [List.cons_append] at hnum ⊢
  rw [bind_peekValue (isSpace_of_isDigit hd), if_pos hstart, bind_of_eq_ok hnum]
  have hrange : (0 : Int) ≤ n ∧ (n : Int) < limit := by omega
  simp only [hrange, and_self, if_true]
  rfl

theorem reads_byte {n : UInt8} {t : Bytes} (h : NatText n.toNat t) : Reads byte t n := by
  have := (reads_unsigned h n.toNat_lt (by decide) "u8").map UInt8.ofNat
  rwa [UInt8.ofNat_toNat] at this

theorem reads_word32 {n : UInt32} {t : Bytes} (h : NatText n.toNat t) : Reads word32 t n := by
  have := (reads_unsigned h n.toNat_lt (by decide) "u32").map UInt32.ofNat
  rwa [UInt32.ofNat_toNat] at this

/-- A value that may be null is read if its own text does not begin as null does. -/
theorem reads_optional {read : Reader α} {item : α → Bytes → Prop} {a : Option α} {t : Bytes}
    (h : NullableText item a t) (hread : ∀ value, item value t → Reads read t value)
    (hbegins : ∀ value, item value t → ∃ b u, t = b :: u ∧ isSpace b = false ∧ b ≠ 110) :
    Reads (optional read) t a := by
  refine (skips_peekToken.bind _).reads fun i rest hrest => ?_
  cases a with
  | none =>
    obtain rfl : t = 110 :: restOfNull := h
    rw [List.cons_append, bind_peekToken rfl]
    simp only [bind_take]
    rw [bind_word]
    rfl
  | some a =>
    have hval := hread a h i [] rest (by simp [Blanks]) hrest
    obtain ⟨b, u, rfl, hb, hne⟩ := hbegins a h
    rw [List.nil_append] at hval
    rw [List.cons_append] at hval ⊢
    rw [bind_peekToken hb]
    simp only [Option.some.injEq, hne, imp_self]
    rw [bind_of_eq_ok hval]
    rfl

theorem stringText_begins (s : String) {t : Bytes} (h : StringText s t) :
    ∃ b u, t = b :: u ∧ isSpace b = false ∧ b ≠ 110 := by
  obtain ⟨body, -, rfl⟩ := h
  exact ⟨quote, _, rfl, rfl, by decide⟩

theorem natText_begins (n : Nat) {t : Bytes} (h : NatText n t) :
    ∃ b u, t = b :: u ∧ isSpace b = false ∧ b ≠ 110 := by
  obtain ⟨d, ds, rfl, hd⟩ := h.exists_cons
  exact ⟨d, ds, rfl, isSpace_of_isDigit hd, ne_of_isDigit hd rfl⟩

theorem reads_optional_string {s : Option String} {t : Bytes} (h : NullableText StringText s t)
    (expected : String) : Reads (optional (string expected)) t s :=
  reads_optional h (fun _ hs => reads_string hs expected) fun s hs => stringText_begins s hs

theorem reads_optional_word32 {n : Option UInt32} {t : Bytes}
    (h : NullableText (fun n : UInt32 => NatText n.toNat) n t) : Reads (optional word32) t n :=
  reads_optional h (fun _ hn => reads_word32 hn) fun n hn => natText_begins n.toNat hn

end LintDispatch.Json
