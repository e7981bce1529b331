import LintDispatch.Proofs.Json.Scalars
import LintDispatch.Proofs.Json.Taken.Steps

/-!
# Strings and numbers that have been taken
Readers of strings, truth values, natural numbers and optional values take nothing but spellings of
what they answer with (`takes_string`, `takes_bool`, `takes_unsigned`, `takes_optional`).

A string is decoded before it is checked to be text, so bytes that stand for themselves are only
known to be characters once the whole string is (`Decodes.charsText`). The bytes of a character
cannot be parted by an escape, because an escape never begins with a byte that goes on with a
character (`Decodes.exists_of_continues`).
-/

namespace LintDispatch.Json

variable {α : Type}

/-! ## Strings -/

/-- The reader never succeeds. -/
def Refuses (read : Reader α) : Prop := ∀ c a c', read c ≠ .ok a c'

theorem Refuses.bind {β : Type} {read : Reader β} {k : β → Reader α} (h : ∀ b, Refuses (k b)) :
    Refuses (read >>= k) := by
  intro c a c' hread
  obtain ⟨b, c₁, -, hk⟩ := exists_of_bind_eq_ok hread
  exact h b c₁ a c' hk

/-- Nothing is read from a value of the wrong kind. -/
theorem refuses_unexpected (expected : String) (b : UInt8) :
    Refuses (unexpected expected b : Reader α) := by
  have hfail (what : Complaint) : Refuses (fail what : Reader α) := by
    intro c a c' h
    cases h
  unfold unexpected
  repeat' split
  all_goals
    repeat refine Refuses.bind fun _ => ?_
    exact hfail _

theorem hexFour_eq_ok {c c' : Cursor} {n : Nat} (h : hexFour c = .ok n c') :
    ∃ w x y z, hexFour? w x y z = some n ∧ c.rest = w :: x :: y :: z :: c'.rest := by
  unfold hexFour at h
  split at h
  · next w x y z rest hrest =>
    split at h
    · next n' hn =>
      cases h
      exact ⟨w, x, y, z, hn, hrest⟩
    · cases h
  · cases h

theorem pairByte_eq_ok {b : UInt8} {c c' : Cursor} (h : pairByte b c = .ok () c') :
    c.rest = b :: c'.rest := by
  obtain ⟨i, _ | ⟨x, rest⟩⟩ := c
  · cases h
  · rw [pairByte, bind_peek] at h
    simp only [List.head?_cons, bind_take] at h
    split at h
    · next heq =>
      cases h
      rw [beq_iff_eq.mp heq]
    · cases h

theorem charText_ofNat {w x y z : UInt8} {n : Nat} (h : hexFour? w x y z = some n)
    (hn : n.isValidChar) : CharText (Char.ofNat n) [backslash, 117, w, x, y, z] := by
  refine .code ?_
  rw [h, Char.toNat, Utf8.toNat_charOfNat hn]

theorem hexFour?_lt {w x y z : UInt8} {n : Nat} (h : hexFour? w x y z = some n) : n < 0x10000 := by
  have hdigit {b : UInt8} {d : Nat} (h : hexValue? b = some d) : d < 16 := by
    unfold hexValue? at h
    simp only [UInt8.le_iff_toNat_le] at h
    split at h
    · cases h; simp at *; omega
    split at h
    · cases h; simp at *; omega
    split at h
    · cases h; simp at *; omega
    · cases h
  simp only [hexFour?, Option.bind_eq_bind, Option.bind_eq_some_iff, Option.pure_def,
    Option.some.injEq] at h
  obtain ⟨a, ha, b, hb, c, hc, d, hd, rfl⟩ := h
  have := hdigit ha
  have := hdigit hb
  have := hdigit hc
  have := hdigit hd
  omega

theorem unicodeEscape_eq_ok {c c' : Cursor} {bs : Bytes} (h : unicodeEscape c = .ok bs c') :
    ∃ ch u, bs = String.utf8EncodeChar ch ∧ CharText ch (backslash :: 117 :: u) ∧
      c.rest = u ++ c'.rest := by
  obtain ⟨n, c₁, hhex, h⟩ := exists_of_bind_eq_ok h
  obtain ⟨w, x, y, z, hn, hrest⟩ := hexFour_eq_ok hhex
  have hlt := hexFour?_lt hn
  split at h
  · cases h
  split at h
  · next hhigh =>
    obtain ⟨_, c₂, hslash, h⟩ := exists_of_bind_eq_ok h
    obtain ⟨_, c₃, hletter, h⟩ := exists_of_bind_eq_ok h
    obtain ⟨low, c₄, hhex', h⟩ := exists_of_bind_eq_ok h
    obtain ⟨w', x', y', z', hlow, hrest'⟩ := hexFour_eq_ok hhex'
    split at h
    · next hislow =>
      obtain ⟨rfl, rfl⟩ := eq_of_pure_eq_ok h
      have hvalid : (surrogatePair n low).isValidChar := by
        simp only [isHighSurrogate, isLowSurrogate, Bool.and_eq_true, decide_eq_true_eq]
          at hhigh hislow
        unfold surrogatePair Nat.isValidChar
        omega
      refine ⟨_, _, rfl, .pair hn hlow hhigh hislow ?_, ?_⟩
      · rw [Char.toNat, Utf8.toNat_charOfNat hvalid]
      · rw [hrest, pairByte_eq_ok hslash, pairByte_eq_ok hletter, hrest']
        rfl
    · cases h
  · next hlow hhigh =>
    obtain ⟨rfl, rfl⟩ := eq_of_pure_eq_ok h
    refine ⟨_, [w, x, y, z], rfl, charText_ofNat hn ?_, hrest⟩
    simp only [isHighSurrogate, isLowSurrogate, Bool.and_eq_true, decide_eq_true_eq] at hhigh hlow
    unfold Nat.isValidChar
    omega

theorem escape_eq_ok {c c' : Cursor} {bs : Bytes} (h : escape c = .ok bs c') :
    ∃ ch u, bs = String.utf8EncodeChar ch ∧ CharText ch (backslash :: u) ∧
      c.rest = u ++ c'.rest := by
  obtain ⟨i, _ | ⟨letter, rest⟩⟩ := c
  · cases h
  rw [escape, bind_peek] at h
  simp only [List.head?_cons, bind_take] at h
  cases hletter : simpleEscape? letter with
  | some b =>
    rw [hletter] at h
    obtain ⟨rfl, rfl⟩ := eq_of_pure_eq_ok h
    have hb : b.toNat < 0x80 := by
      unfold simpleEscape? at hletter
      split at hletter <;> cases hletter <;> decide
    refine ⟨Char.ofNat b.toNat, [letter], (Utf8.utf8EncodeChar_one hb).symm, .short hletter ?_, rfl⟩
    rw [Char.toNat, Utf8.toNat_charOfNat (by omega)]
  | none =>
    rw [hletter] at h
    simp only at h
    split at h
    · next heq =>
      obtain ⟨ch, u, hbs, htext, hrest⟩ := unicodeEscape_eq_ok h
      rw [beq_iff_eq.mp heq]
      exact ⟨ch, 117 :: u, hbs, htext, congrArg _ hrest⟩
    · cases h

/-- What a string holds between its quotes and the bytes that are decoded from it: bytes that stand
for themselves and escapes. -/
inductive Decodes : Bytes → Bytes → Prop
  | nil : Decodes [] []
  | plain {b : UInt8} {bs t : Bytes} (plain : IsPlain b) (tail : Decodes bs t) :
      Decodes (b :: bs) (b :: t)
  | escape {c : Char} {u bs t : Bytes} (char : CharText c (backslash :: u)) (tail : Decodes bs t) :
      Decodes (String.utf8EncodeChar c ++ bs) (backslash :: u ++ t)

theorem stringFrom_eq_ok : ∀ {bound taken : Bytes} {c c' : Cursor} {bs : Bytes},
    stringFrom bound taken c = .ok bs c' → ∃ decoded body, bs = taken.reverse ++ decoded ∧
      Decodes decoded body ∧ c.rest = body ++ quote :: c'.rest
  | [], _, _, _, _, h => by cases h
  | _ :: _, _, ⟨_, []⟩, _, _, h => by cases h
  | _ :: bound, taken, ⟨i, b :: rest⟩, c', bs, h => by
    rw [stringFrom, bind_peek] at h
    simp only [List.head?_cons, bind_take] at h
    split at h
    · next hquote =>
      obtain ⟨rfl, rfl⟩ := eq_of_pure_eq_ok h
      exact ⟨[], [], by simp, .nil, by rw [beq_iff_eq.mp hquote]; rfl⟩
    next hquote =>
    split at h
    · next hslash =>
      obtain ⟨decoded, c₁, hescape, h⟩ := exists_of_bind_eq_ok h
      obtain ⟨c, u, rfl, hchar, hrest⟩ := escape_eq_ok hescape
      obtain ⟨more, body, rfl, hmore, hbody⟩ := stringFrom_eq_ok h
      refine ⟨_, _, ?_, .escape hchar hmore, ?_⟩
      · simp
      · rw [beq_iff_eq.mp hslash, show rest = u ++ c₁.rest from hrest, hbody]
        simp
    next hslash =>
    split at h
    · cases h
    · next hcontrol =>
      obtain ⟨more, body, rfl, hmore, hbody⟩ := stringFrom_eq_ok h
      refine ⟨_, _, ?_, .plain ⟨?_, ?_, hcontrol⟩ hmore, ?_⟩
      · simp
      · simpa using hquote
      · simpa using hslash
      · rw [show rest = body ++ quote :: c'.rest from hbody]
        rfl

/-- The bytes that go on with a character stand for themselves. -/
theorem Decodes.exists_of_continues : ∀ {k bs t : Bytes}, (∀ x ∈ k, Utf8.Continues x) →
    Decodes (k ++ bs) t → ∃ t', t = k ++ t' ∧ Decodes bs t'
  | [], _, t, _, h => ⟨t, rfl, h⟩
  | x :: k, bs, t, hk, h => by
    obtain ⟨hx, hk⟩ := List.forall_mem_cons.mp hk
    generalize heq : x :: k ++ bs = decoded at h
    cases h with
    | nil => cases heq
    | @plain b _ t _ tail =>
      obtain ⟨rfl, rfl⟩ := List.cons.inj heq
      obtain ⟨t', rfl, h⟩ := tail.exists_of_continues hk
      exact ⟨t', rfl, h⟩
    | @escape c =>
      obtain ⟨b, rest, hc, hb, -⟩ := Utf8.exists_utf8EncodeChar c
      rw [hc] at heq
      obtain ⟨rfl, -⟩ := List.cons.inj heq
      exact absurd hx hb

theorem toNat_of_isPlain {c : Char} {b : UInt8} {bs : Bytes} (hb : IsPlain b)
    (h : String.utf8EncodeChar c = b :: bs) : 0x20 ≤ c.toNat ∧ c ≠ '"' ∧ c ≠ '\\' := by
  obtain ⟨hquote, hslash, hcontrol⟩ := hb
  refine ⟨?_, ?_, ?_⟩
  · by_contra hc
    have hc : c.toNat < 0x20 := Nat.not_le.mp hc
    rw [Utf8.utf8EncodeChar_of_lt (by omega)] at h
    obtain ⟨rfl, -⟩ := List.cons.inj h
    refine hcontrol (UInt8.lt_iff_toNat_lt.mpr ?_)
    rw [Utf8.toNat_ofNat (by omega)]
    exact hc
  · rintro rfl
    exact hquote (List.cons.inj h).1.symm
  · rintro rfl
    exact hslash (List.cons.inj h).1.symm

/-- What decodes to characters spells them: a character stands for itself with all its bytes, or it
is escaped. -/
theorem Decodes.charsText : ∀ {cs : List Char} {t : Bytes},
    Decodes (cs.flatMap String.utf8EncodeChar) t → CharsText cs t
  | [], t, h => by
    generalize heq : [].flatMap String.utf8EncodeChar = decoded at h
    cases h with
    | nil => exact .nil
    | plain => cases heq
    | @escape c =>
      obtain ⟨b, bs, hc, -⟩ := Utf8.exists_utf8EncodeChar c
      rw [hc] at heq
      cases heq
  | c :: cs, t, h => by
    obtain ⟨b, k, hc, -, hk⟩ := Utf8.exists_utf8EncodeChar c
    generalize heq : (c :: cs).flatMap String.utf8EncodeChar = decoded at h
    rw [List.flatMap_cons] at heq
    cases h with
    | nil =>
      rw [hc] at heq
      cases heq
    | @plain b' bs t hplain tail =>
      rw [hc] at heq
      obtain ⟨rfl, rfl⟩ := List.cons.inj heq
      obtain ⟨t', rfl, htail⟩ := tail.exists_of_continues hk
      obtain ⟨hcontrol, hquote, hslash⟩ := toNat_of_isPlain hplain hc
      have hchar := CharText.plain hcontrol hquote hslash
      rw [hc] at hchar
      exact .cons hchar htail.charsText
    | @escape d u bs t hchar tail =>
      obtain ⟨rfl, rfl⟩ := Utf8.eq_of_utf8EncodeChar_append heq
      exact .cons hchar tail.charsText

/-- A string whose opening quote has been taken. -/
theorem stringBody_eq_ok {c c' : Cursor} {s : String} (h : stringBody c = .ok s c') :
    ∃ body, CharsText s.toList body ∧ c.rest = body ++ quote :: c'.rest := by
  obtain ⟨bs, c₁, hbytes, h⟩ := exists_of_bind_eq_ok h
  cases hs : Utf8.decode? bs with
  | none => rw [hs] at h; cases h
  | some s' =>
    rw [hs] at h
    obtain ⟨rfl, rfl⟩ := eq_of_pure_eq_ok h
    obtain ⟨decoded, body, hbs, hbody, hrest⟩ := stringFrom_eq_ok hbytes
    obtain rfl : Bytes.ofString s' = decoded := (Utf8.ofString_of_decode? hs).symm.trans hbs
    exact ⟨body, hbody.charsText, hrest⟩

theorem takes_string (expected : String) : Takes (string expected) StringText := by
  intro c c' s h
  obtain ⟨b, c₁, hpeek, h⟩ := exists_of_bind_eq_ok h
  obtain ⟨hb, before, hbefore, hrest⟩ := peekValue_eq_ok hpeek
  split at h
  · next hquote =>
    obtain ⟨_, c₂, htake, h⟩ := exists_of_bind_eq_ok h
    obtain ⟨body, hbody, hrest'⟩ := stringBody_eq_ok h
    refine ⟨_, ⟨before, _, hbefore, ⟨body, hbody, rfl⟩, rfl⟩, ?_⟩
    rw [hrest, rest_of_take_of_head hb htake, hrest', beq_iff_eq.mp hquote]
    simp
  · exact absurd h (refuses_unexpected _ _ _ _ _)

/-! ## Numbers -/

theorem digits_eq_ok {c c' : Cursor} {ds : Bytes} (h : digits c = .ok ds c') :
    (∀ b ∈ ds, isDigit b = true) ∧ c.rest = ds ++ c'.rest := by
  cases h
  exact ⟨fun b hb => List.all_eq_true.mp List.all_takeWhile b hb,
    List.takeWhile_append_dropWhile.symm⟩

theorem wholeDigits_eq_ok {ended : Complaint} {c c' : Cursor} {ds : Bytes}
    (h : wholeDigits ended c = .ok ds c') : Whole ds ∧ c.rest = ds ++ c'.rest := by
  obtain ⟨i, _ | ⟨b, rest⟩⟩ := c
  · cases h
  rw [wholeDigits, bind_peek] at h
  simp only [List.head?_cons, bind_take] at h
  split at h
  · next hzero =>
    obtain rfl : b = 48 := beq_iff_eq.mp hzero
    have hwhole : Whole [48] := ⟨⟨List.cons_ne_nil _ _, List.forall_mem_singleton.mpr rfl⟩, fun _ => rfl⟩
    rw [bind_peek] at h
    obtain _ | ⟨d, rest⟩ := rest
    · obtain ⟨rfl, rfl⟩ := eq_of_pure_eq_ok h
      exact ⟨hwhole, rfl⟩
    · simp only [List.head?_cons] at h
      split at h
      · cases h
      · obtain ⟨rfl, rfl⟩ := eq_of_pure_eq_ok h
        exact ⟨hwhole, rfl⟩
  next hzero =>
  split at h
  · next hdigit =>
    obtain ⟨more, c₁, hdigits, h⟩ := exists_of_bind_eq_ok h
    obtain ⟨hmore, hrest⟩ := digits_eq_ok hdigits
    obtain ⟨rfl, rfl⟩ := eq_of_pure_eq_ok h
    have hnumerals : Numerals (b :: more) :=
      ⟨List.cons_ne_nil _ _, List.forall_mem_cons.mpr ⟨hdigit, hmore⟩⟩
    refine ⟨⟨hnumerals, ?_⟩, congrArg _ hrest⟩
    intro hhead
    exact absurd (Option.some.inj hhead) (by simpa using hzero)
  · cases h

theorem fractionDigits_eq_ok {ended : Complaint} {c c' : Cursor} {ds : Bytes}
    (h : fractionDigits ended c = .ok ds c') : Numerals ds ∧ c.rest = ds ++ c'.rest := by
  obtain ⟨more, c₁, hdigits, h⟩ := exists_of_bind_eq_ok h
  obtain ⟨hmore, hrest⟩ := digits_eq_ok hdigits
  split at h
  · obtain ⟨b, c₂, -, h⟩ := exists_of_bind_eq_ok h
    cases b <;> cases h
  · next hne =>
    obtain ⟨rfl, rfl⟩ := eq_of_pure_eq_ok h
    exact ⟨⟨by simpa using hne, hmore⟩, hrest⟩

theorem fraction?_eq_ok {ended : Complaint} {c c' : Cursor} {ds : Option Bytes}
    (h : fraction? ended c = .ok ds c') :
    ∃ t, Fraction t ∧ (ds = none → t = []) ∧ c.rest = t ++ c'.rest := by
  obtain ⟨i, _ | ⟨b, rest⟩⟩ := c
  · obtain ⟨rfl, rfl⟩ := eq_of_pure_eq_ok h
    exact ⟨[], Or.inl rfl, fun _ => rfl, rfl⟩
  rw [fraction?, bind_peek] at h
  by_cases hb : b = 46
  · subst hb
    simp only [List.head?_cons, bind_take] at h
    obtain ⟨more, c₁, hfraction, h⟩ := exists_of_bind_eq_ok h
    obtain ⟨rfl, rfl⟩ := eq_of_pure_eq_ok h
    obtain ⟨hmore, hrest⟩ := fractionDigits_eq_ok hfraction
    exact ⟨46 :: more, Or.inr ⟨more, hmore, rfl⟩, fun hnone => absurd hnone (Option.some_ne_none _),
      congrArg _ hrest⟩
  · simp only [List.head?_cons, Option.some.injEq, hb, imp_self] at h
    obtain ⟨rfl, rfl⟩ := eq_of_pure_eq_ok h
    exact ⟨[], Or.inl rfl, fun _ => rfl, rfl⟩

theorem exponentSign_eq_ok {c c' : Cursor} {negative : Bool}
    (h : exponentSign c = .ok negative c') :
    ∃ sign, (sign = [] ∨ sign = [43] ∨ sign = [45]) ∧ c.rest = sign ++ c'.rest := by
  obtain ⟨i, _ | ⟨b, rest⟩⟩ := c
  · obtain ⟨rfl, rfl⟩ := eq_of_pure_eq_ok h
    exact ⟨[], by simp, rfl⟩
  rw [exponentSign, bind_peek] at h
  by_cases hplus : b = 43
  · subst hplus
    obtain ⟨rfl, rfl⟩ := eq_of_pure_eq_ok h
    exact ⟨[43], by simp, rfl⟩
  by_cases hminus : b = 45
  · subst hminus
    obtain ⟨rfl, rfl⟩ := eq_of_pure_eq_ok h
    exact ⟨[45], by simp, rfl⟩
  · simp only [List.head?_cons, Option.some.injEq, hplus, hminus, imp_self] at h
    obtain ⟨rfl, rfl⟩ := eq_of_pure_eq_ok h
    exact ⟨[], by simp, rfl⟩

theorem exponentDigits_eq_ok {ended : Complaint} {c c' : Cursor} {e : Bool × Bytes}
    (h : exponentDigits ended c = .ok e c') :
    ∃ sign ds, (sign = [] ∨ sign = [43] ∨ sign = [45]) ∧ Numerals ds ∧
      c.rest = sign ++ ds ++ c'.rest := by
  obtain ⟨negative, c₁, hsign, h⟩ := exists_of_bind_eq_ok h
  obtain ⟨sign, hs, hrest⟩ := exponentSign_eq_ok hsign
  obtain ⟨i, _ | ⟨b, rest⟩⟩ := c₁
  · cases h
  rw [bind_peek] at h
  simp only [List.head?_cons, bind_take] at h
  split at h
  · next hdigit =>
    obtain ⟨more, c₂, hdigits, h⟩ := exists_of_bind_eq_ok h
    obtain ⟨hmore, hrest'⟩ := digits_eq_ok hdigits
    obtain ⟨rfl, rfl⟩ := eq_of_pure_eq_ok h
    refine ⟨sign, b :: more, hs,
      ⟨List.cons_ne_nil _ _, List.forall_mem_cons.mpr ⟨hdigit, hmore⟩⟩, ?_⟩
    rw [hrest, show rest = more ++ c₂.rest from hrest']
    simp
  · cases h

theorem exponent?_eq_ok {ended : Complaint} {c c' : Cursor} {e : Option (Bool × Bytes)}
    (h : exponent? ended c = .ok e c') :
    ∃ t, Exponent t ∧ (e = none → t = []) ∧ c.rest = t ++ c'.rest := by
  obtain ⟨i, _ | ⟨b, rest⟩⟩ := c
  · obtain ⟨rfl, rfl⟩ := eq_of_pure_eq_ok h
    exact ⟨[], Or.inl rfl, fun _ => rfl, rfl⟩
  rw [exponent?, bind_peek] at h
  by_cases hb : b = 101 ∨ b = 69
  · obtain ⟨x, c₁, hdigits, h⟩ : ∃ x c₁, exponentDigits ended ⟨i + 1, rest⟩ = .ok x c₁ ∧
        (pure (some x) : Reader _) c₁ = .ok e c' := by
      rcases hb with rfl | rfl
      · exact exists_of_bind_eq_ok h
      · exact exists_of_bind_eq_ok h
    obtain ⟨rfl, rfl⟩ := eq_of_pure_eq_ok h
    obtain ⟨sign, ds, hs, hds, hrest⟩ := exponentDigits_eq_ok hdigits
    exact ⟨b :: sign ++ ds, Or.inr ⟨b, sign, ds, hb, hs, hds, rfl⟩,
      fun hnone => absurd hnone (Option.some_ne_none _), congrArg _ hrest⟩
  · rw [not_or] at hb
    simp only [List.head?_cons, Option.some.injEq, hb, imp_self] at h
    obtain ⟨rfl, rfl⟩ := eq_of_pure_eq_ok h
    exact ⟨[], Or.inl rfl, fun _ => rfl, rfl⟩

theorem numberDigits_eq_ok {ended : Complaint} {c c' : Cursor} {d : Digits}
    (h : numberDigits ended c = .ok d c') : ∃ fraction exponent, Whole d.whole ∧
      Fraction fraction ∧ Exponent exponent ∧ (d.fraction = none → fraction = []) ∧
      (d.exponent = none → exponent = []) ∧
      c.rest = d.whole ++ fraction ++ exponent ++ c'.rest := by
  obtain ⟨whole, c₁, hwhole, h⟩ := exists_of_bind_eq_ok h
  obtain ⟨f, c₂, hfraction, h⟩ := exists_of_bind_eq_ok h
  obtain ⟨e, c₃, hexponent, h⟩ := exists_of_bind_eq_ok h
  obtain ⟨rfl, rfl⟩ := eq_of_pure_eq_ok h
  obtain ⟨hw, hrest⟩ := wholeDigits_eq_ok hwhole
  obtain ⟨fraction, hf, hfnil, hrest'⟩ := fraction?_eq_ok hfraction
  obtain ⟨exponent, he, henil, hrest''⟩ := exponent?_eq_ok hexponent
  exact ⟨fraction, exponent, hw, hf, he, hfnil, henil, by rw [hrest, hrest', hrest'']; simp⟩

theorem minus_eq_ok {c c' : Cursor} {negative : Bool} (h : minus c = .ok negative c') :
    ∃ sign, (sign = [] ∨ sign = [45]) ∧ (negative = false → sign = []) ∧
      c.rest = sign ++ c'.rest := by
  obtain ⟨i, _ | ⟨b, rest⟩⟩ := c
  · obtain ⟨rfl, rfl⟩ := eq_of_pure_eq_ok h
    exact ⟨[], Or.inl rfl, fun _ => rfl, rfl⟩
  rw [minus, bind_peek] at h
  by_cases hb : b = 45
  · subst hb
    obtain ⟨rfl, rfl⟩ := eq_of_pure_eq_ok h
    exact ⟨[45], Or.inr rfl, fun hfalse => Bool.noConfusion hfalse, rfl⟩
  · simp only [List.head?_cons, Option.some.injEq, hb, imp_self] at h
    obtain ⟨rfl, rfl⟩ := eq_of_pure_eq_ok h
    exact ⟨[], Or.inl rfl, fun _ => rfl, rfl⟩

theorem gather_le (limit : Nat) : ∀ (ds : Bytes) (n : Nat), (gather limit n ds).2 ≤ ds.length
  | [], _ => Nat.le_refl 0
  | d :: ds, n => by
    rw [gather]
    simp only
    split
    · exact Nat.succ_le_succ (gather_le limit ds _)
    · exact Nat.zero_le _

/-- Digits that are all gathered have the value that is gathered. -/
theorem eq_of_gather {limit : Nat} : ∀ {ds : Bytes} {n : Nat}, (gather limit n ds).2 = ds.length →
    ds.foldl (fun n d => n * 10 + digitValue d) n = (gather limit n ds).1
  | [], _, _ => rfl
  | d :: ds, n, h => by
    rw [gather] at h ⊢
    simp only at h ⊢
    split at h
    · next hlt =>
      rw [if_pos hlt]
      exact eq_of_gather (Nat.succ.inj h)
    · exact absurd h (by simp)

/-- A significand below the limit stays there. -/
theorem gather_lt {limit : Nat} : ∀ (ds : Bytes) {n : Nat}, n < limit →
    (gather limit n ds).1 < limit
  | [], _, h => h
  | d :: ds, n, h => by
    rw [gather]
    split
    case isTrue hlt => exact gather_lt ds hlt
    case isFalse => exact h

theorem significand_whole (whole : Bytes) (exponent : Option (Bool × Bytes)) :
    Digits.significand ⟨whole, none, exponent⟩ = ((gather significandLimit 0 whole).1,
      ((whole.length - (gather significandLimit 0 whole).2 : Nat) : Int)) := by
  simp [Digits.significand, gather]

/-- Only digits without a point or an exponent make up an integer, and it fits 64 bits. -/
theorem number?_eq_int {negative : Bool} {d : Digits} {n : Int}
    (h : d.number? negative = .ok (.int n)) : (negative = true ↔ n < 0) ∧ d.fraction = none ∧
      d.exponent = none ∧ d.whole.foldl (fun n d => n * 10 + digitValue d) 0 = n.natAbs ∧
        -9223372036854775808 ≤ n ∧ n < 18446744073709551616 := by
  obtain ⟨whole, fraction, exponent⟩ := d
  unfold Digits.number? at h
  rcases exponent with _ | ⟨down, ds⟩
  · rcases fraction with _ | ds
    · simp only [significand_whole] at h
      split at h
      · split at h <;> cases h
      next hplaces =>
      have hle := gather_le significandLimit whole 0
      have hlt : (gather significandLimit 0 whole).1 < 18446744073709551616 :=
        gather_lt whole (show 0 < significandLimit by decide)
      have hused : (gather significandLimit 0 whole).2 = whole.length := by
        have hplaces := Int.ofNat_eq_zero.mp (not_not.mp hplaces)
        omega
      rw [← eq_of_gather hused] at h hlt
      generalize whole.foldl (fun n d => n * 10 + digitValue d) 0 = m at h hlt
      split at h
      · next hpositive =>
        obtain rfl := Number.int.inj (Except.ok.inj h)
        have hpositive : negative = false := by simpa using hpositive
        simp only [hpositive, Bool.false_eq_true, false_iff]
        exact ⟨by omega, trivial, trivial, by omega, by omega, by omega⟩
      · next hnegative =>
      split at h
      · split at h <;> cases h
      · next hzero =>
        obtain rfl := Number.int.inj (Except.ok.inj h)
        have hnegative : negative = true := by simpa using hnegative
        obtain ⟨hne, hfits⟩ := not_or.mp hzero
        have hfits : m ≤ 9223372036854775808 := Nat.not_lt.mp hfits
        exact ⟨iff_of_true hnegative (by omega), rfl, rfl, by omega, by omega, by omega⟩
    · simp only at h
      split at h <;> cases h
  · simp only at h
    split at h
    · split at h <;> cases h
    split at h
    · cases h
    · cases h

/-- Only digits without a sign, a point or an exponent make up a natural number. -/
theorem eq_of_number?_eq_int {negative : Bool} {d : Digits} {n : Int}
    (h : d.number? negative = .ok (.int n)) (hn : 0 ≤ n) : negative = false ∧ d.fraction = none ∧
      d.exponent = none ∧ d.whole.foldl (fun n d => n * 10 + digitValue d) 0 = n.toNat := by
  obtain ⟨hsign, hfraction, hexponent, hvalue, -⟩ := number?_eq_int h
  refine ⟨?_, hfraction, hexponent, by omega⟩
  exact Bool.eq_false_iff.mpr fun hnegative => absurd (hsign.mp hnegative) (Int.not_lt.mpr hn)

/-- A number that is an integer is one that its sign and its digits stand for. -/
theorem exists_of_number_eq_int {c c' : Cursor} {n : Int} (h : number c = .ok (.int n) c') :
    ∃ negative d c₁, minus c = .ok negative c₁ ∧ numberDigits .endInValue c₁ = .ok d c' ∧
      d.number? negative = .ok (.int n) := by
  obtain ⟨negative, c₁, hminus, h⟩ := exists_of_bind_eq_ok h
  obtain ⟨d, c₂, hdigits, h⟩ := exists_of_bind_eq_ok h
  cases hnumber : d.number? negative with
  | error unread => rw [hnumber] at h; cases h
  | ok n' =>
    rw [hnumber] at h
    obtain ⟨rfl, rfl⟩ := eq_of_pure_eq_ok h
    exact ⟨negative, d, c₁, hminus, hdigits, hnumber⟩

theorem number_eq_ok {c c' : Cursor} {n : Int} (h : number c = .ok (.int n) c') (hn : 0 ≤ n) :
    ∃ t, NatText n.toNat t ∧ c.rest = t ++ c'.rest := by
  obtain ⟨negative, d, c₁, hminus, hdigits, hnumber⟩ := exists_of_number_eq_int h
  obtain ⟨sign, -, hsign, hrest⟩ := minus_eq_ok hminus
  obtain ⟨fraction, exponent, hwhole, -, -, hf, he, hrest'⟩ := numberDigits_eq_ok hdigits
  obtain ⟨hnegative, hnone, hnone', hvalue⟩ := eq_of_number?_eq_int hnumber hn
  refine ⟨d.whole, ⟨hwhole, hvalue⟩, ?_⟩
  rw [hrest, hsign hnegative, hrest', hf hnone, he hnone']
  simp

/-! ## Values -/

theorem takes_unsigned (limit : Nat) (expected : String) :
    Takes (unsigned limit expected) fun n t => n < limit ∧ NatText n t := by
  intro c c' n h
  obtain ⟨b, c₁, hpeek, h⟩ := exists_of_bind_eq_ok h
  obtain ⟨-, before, hbefore, hrest⟩ := peekValue_eq_ok hpeek
  split at h
  · obtain ⟨number, c₂, hnumber, h⟩ := exists_of_bind_eq_ok h
    cases number with
    | float x => cases h
    | int n' =>
      simp only at h
      split at h
      · next hn =>
        obtain ⟨rfl, rfl⟩ := eq_of_pure_eq_ok h
        obtain ⟨t, ht, hrest'⟩ := number_eq_ok hnumber hn.1
        refine ⟨before ++ t, ⟨before, t, hbefore, ⟨by omega, ht⟩, rfl⟩, ?_⟩
        rw [hrest, hrest', List.append_assoc]
      · cases h
  · exact absurd h (refuses_unexpected _ _ _ _ _)

theorem takes_byte : Takes byte fun n t => NatText n.toNat t := by
  refine (takes_unsigned UInt8.size "u8").map fun n t h => h.mono fun t ht => ?_
  rw [Utf8.toNat_ofNat ht.1]
  exact ht.2

theorem takes_word32 : Takes word32 fun n t => NatText n.toNat t := by
  refine (takes_unsigned UInt32.size "u32").map fun n t h => h.mono fun t ht => ?_
  rw [UInt32.toNat_ofNat', Nat.mod_eq_of_lt ht.1]
  exact ht.2

theorem takes_bool : Takes bool BoolText := by
  intro c c' b h
  obtain ⟨x, c₁, hpeek, h⟩ := exists_of_bind_eq_ok h
  obtain ⟨hx, before, hbefore, hrest⟩ := peekValue_eq_ok hpeek
  split at h
  · next htrue =>
    obtain ⟨_, c₂, htake, h⟩ := exists_of_bind_eq_ok h
    obtain ⟨_, c₃, hword, h⟩ := exists_of_bind_eq_ok h
    obtain ⟨rfl, rfl⟩ := eq_of_pure_eq_ok h
    refine ⟨_, ⟨before, 116 :: restOfTrue, hbefore, rfl, rfl⟩, ?_⟩
    rw [hrest, rest_of_take_of_head hx htake, rest_of_word hword, beq_iff_eq.mp htrue]
    simp
  split at h
  · next hfalse =>
    obtain ⟨_, c₂, htake, h⟩ := exists_of_bind_eq_ok h
    obtain ⟨_, c₃, hword, h⟩ := exists_of_bind_eq_ok h
    obtain ⟨rfl, rfl⟩ := eq_of_pure_eq_ok h
    refine ⟨_, ⟨before, 102 :: restOfFalse, hbefore, rfl, rfl⟩, ?_⟩
    rw [hrest, rest_of_take_of_head hx htake, rest_of_word hword, beq_iff_eq.mp hfalse]
    simp
  · exact absurd h (refuses_unexpected _ _ _ _ _)

theorem takes_optional {read : Reader α} {item : α → Bytes → Prop} (hread : Takes read item) :
    Takes (optional read) (NullableText item) := by
  intro c c' a h
  obtain ⟨x, c₁, hpeek, h⟩ := exists_of_bind_eq_ok h
  obtain ⟨rfl, -, before, hbefore, hrest⟩ := peekToken_eq_ok hpeek
  by_cases hnull : c₁.rest.head? = some 110
  · rw [hnull] at h
    obtain ⟨_, c₂, htake, h⟩ := exists_of_bind_eq_ok h
    obtain ⟨_, c₃, hword, h⟩ := exists_of_bind_eq_ok h
    obtain ⟨rfl, rfl⟩ := eq_of_pure_eq_ok h
    refine ⟨_, ⟨before, 110 :: restOfNull, hbefore, rfl, rfl⟩, ?_⟩
    rw [hrest, rest_of_take_of_head hnull htake, rest_of_word hword]
    simp
  · simp only at h
    obtain ⟨value, c₂, hvalue, h⟩ := exists_of_bind_eq_ok h
    obtain ⟨rfl, rfl⟩ := eq_of_pure_eq_ok h
    obtain ⟨_, ⟨before', t, hbefore', ht, rfl⟩, hrest'⟩ := hread hvalue
    refine ⟨_, ⟨before ++ before', t, List.forall_mem_append.mpr ⟨hbefore, hbefore'⟩, ht, rfl⟩, ?_⟩
    rw [hrest, hrest']
    simp

end LintDispatch.Json
