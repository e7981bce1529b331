import LintDispatch.Proofs.Json.Skipping
import LintDispatch.Proofs.Json.Taken.Scalars
import LintDispatch.Relaxed.Value
import Mathlib.Data.List.TakeWhile

/-!
# How numbers are held
A number is written with a sign, digits, a fraction and an exponent (`unsignedLength_eq_ok`), or in
hexadecimal. In decimal it is held as an integer only if it is written with digits alone, and then
as the one that the digits stand for (`plain_of_numberValue`). A point or an exponent makes it a
double, whatever its value is.
-/

namespace LintDispatch.Relaxed

open Json (Value Number)

theorem exists_of_bind_eq_ok {α β : Type} {x : Except Fault α} {k : α → Except Fault β} {b : β}
    (h : x >>= k = .ok b) : ∃ a, x = .ok a ∧ k a = .ok b := by
  cases x with
  | error f => cases h
  | ok a => exact ⟨a, rfl, h⟩

/-! ## Spellings -/

/-- Decimal digits, at least one. -/
def Digits (ds : List Char) : Prop := ds ≠ [] ∧ ∀ d ∈ ds, d.isDigit = true

/-- The number that digits stand for. -/
def digitsValue (ds : List Char) : Nat := ds.foldl (fun n d => n * 10 + (d.toNat - 48)) 0

/-- The digits before a point; no zero stands before another digit. -/
def Whole (cs : List Char) : Prop := Digits cs ∧ (cs.head? = some '0' → cs = ['0'])

/-- A point and the digits after it, if there are any. -/
def Fraction (cs : List Char) : Prop := cs = [] ∨ ∃ ds, Digits ds ∧ cs = '.' :: ds

/-- An exponent, if there is one. -/
def Exponent (cs : List Char) : Prop :=
  cs = [] ∨ ∃ e sign ds, (e = 'e' ∨ e = 'E') ∧ (sign = [] ∨ sign = ['+'] ∨ sign = ['-']) ∧
    Digits ds ∧ cs = e :: sign ++ ds

theorem take_digitsLength (cs : List Char) :
    cs.take (digitsLength cs) = cs.takeWhile Char.isDigit :=
  (List.prefix_iff_eq_take.mp (List.takeWhile_prefix _)).symm

theorem digits_of_digitsLength {cs : List Char} (h : digitsLength cs ≠ 0) :
    Digits (cs.take (digitsLength cs)) := by
  rw [take_digitsLength]
  exact ⟨fun hnil => h (by rw [digitsLength, hnil]; rfl), fun d hd => List.mem_takeWhile_imp hd⟩

theorem fractionLength_eq_ok {i n : Nat} {cs : List Char} (h : fractionLength i cs = .ok n) :
    Fraction (cs.take n) := by
  unfold fractionLength at h
  split at h
  · next cs =>
    split at h
    · cases h
    · next hne =>
      obtain rfl := Except.ok.inj h
      rw [Nat.add_comm]
      exact Or.inr ⟨_, digits_of_digitsLength hne, rfl⟩
  · obtain rfl := Except.ok.inj h
    exact Or.inl rfl

theorem exponentLength_eq_ok {i n : Nat} {cs : List Char} (h : exponentLength i cs = .ok n) :
    Exponent (cs.take n) := by
  unfold exponentLength at h
  split at h
  · next e cs =>
    split at h
    · next he =>
      split at h
      · next s ds =>
        split at h
        · next hs =>
          split at h
          · cases h
          · next hne =>
            obtain rfl := Except.ok.inj h
            rw [Nat.add_comm]
            refine Or.inr ⟨e, [s], _, he, ?_, digits_of_digitsLength hne, rfl⟩
            rcases hs with rfl | rfl
            · exact Or.inr (Or.inl rfl)
            · exact Or.inr (Or.inr rfl)
        · split at h
          · cases h
          · next hne =>
            obtain rfl := Except.ok.inj h
            rw [Nat.add_comm]
            exact Or.inr ⟨e, [], _, he, Or.inl rfl, digits_of_digitsLength hne, rfl⟩
      · cases h
    · obtain rfl := Except.ok.inj h
      exact Or.inl rfl
  · obtain rfl := Except.ok.inj h
    exact Or.inl rfl

/-- A decimal number with this many digits before the point. -/
theorem decimal_eq_ok {i n whole : Nat} {cs : List Char}
    (h : unsignedLength.decimal i cs whole = .ok n) (hwhole : Whole (cs.take whole)) :
    ∃ whole fraction exponent, cs.take n = whole ++ fraction ++ exponent ∧ Whole whole ∧
      Fraction fraction ∧ Exponent exponent := by
  obtain ⟨f, hf, h⟩ := exists_of_bind_eq_ok h
  obtain ⟨e, he, h⟩ := exists_of_bind_eq_ok h
  obtain rfl := Except.ok.inj h
  refine ⟨_, _, _, ?_, hwhole, fractionLength_eq_ok hf, exponentLength_eq_ok he⟩
  rw [List.take_add, List.take_add]

/-- A number without its sign is in hexadecimal or in decimal. -/
theorem unsignedLength_eq_ok {i n : Nat} {cs : List Char} (h : unsignedLength i cs = .ok n) :
    (∃ x hs, (x = 'x' ∨ x = 'X') ∧ cs.take n = '0' :: x :: hs) ∨
      ∃ whole fraction exponent, cs.take n = whole ++ fraction ++ exponent ∧ Whole whole ∧
        Fraction fraction ∧ Exponent exponent := by
  have hzero : Whole ['0'] :=
    ⟨⟨List.cons_ne_nil _ _, List.forall_mem_singleton.mpr rfl⟩, fun _ => rfl⟩
  unfold unsignedLength at h
  split at h
  · next x hs =>
    split at h
    · next hx =>
      simp only at h
      split at h
      · cases h
      · obtain rfl := Except.ok.inj h
        rw [Nat.add_comm]
        exact Or.inl ⟨x, _, hx, rfl⟩
    · exact Or.inr (decimal_eq_ok h hzero)
  · exact Or.inr (decimal_eq_ok h hzero)
  · next hlong hshort =>
    simp only at h
    split at h
    · cases h
    · next hne =>
      refine Or.inr (decimal_eq_ok h ⟨digits_of_digitsLength hne, fun hhead => ?_⟩)
      rw [List.head?_take, if_neg hne] at hhead
      rcases cs with _ | ⟨c, _ | ⟨x, hs⟩⟩
      · cases hhead
      · obtain rfl := Option.some.inj hhead
        exact absurd rfl hshort
      · obtain rfl := Option.some.inj hhead
        exact absurd rfl (hlong x hs)

/-! ## Bytes of spellings -/

/-- The bytes of characters. -/
def bytes (cs : List Char) : Bytes := cs.map Char.toUInt8

theorem toNat_toUInt8 {c : Char} (h : c.toNat < 256) : c.toUInt8.toNat = c.toNat :=
  (UInt32.toNat_toUInt8 c.val).trans (Nat.mod_eq_of_lt h)

theorem isDigit_toUInt8 {c : Char} (h : c.isDigit = true) :
    Json.isDigit c.toUInt8 = true ∧ Json.digitValue c.toUInt8 = c.toNat - 48 := by
  obtain ⟨hlow, hhigh⟩ := Char.isDigit_iff_toNat.mp h
  have htoNat : c.toUInt8.toNat = c.toNat := toNat_toUInt8 (Nat.lt_of_le_of_lt hhigh (by decide))
  refine ⟨?_, by rw [Json.digitValue, htoNat]⟩
  simp only [Json.isDigit, Bool.and_eq_true, decide_eq_true_iff, UInt8.le_iff_toNat_le, htoNat]
  exact ⟨hlow, hhigh⟩

theorem Digits.numerals {ds : List Char} (h : Digits ds) : Json.Numerals (bytes ds) := by
  refine ⟨fun hnil => h.1 (List.map_eq_nil_iff.mp hnil), fun b hb => ?_⟩
  obtain ⟨d, hd, rfl⟩ := List.mem_map.mp hb
  exact (isDigit_toUInt8 (h.2 d hd)).1

theorem foldl_bytes {ds : List Char} (h : ∀ d ∈ ds, d.isDigit = true) (n : Nat) :
    (bytes ds).foldl (fun n d => n * 10 + Json.digitValue d) n =
      ds.foldl (fun n d => n * 10 + (d.toNat - 48)) n := by
  rw [bytes, List.foldl_map]
  exact List.foldl_ext _ _ n fun m d hd => by rw [(isDigit_toUInt8 (h d hd)).2]

theorem Whole.json {cs : List Char} (h : Whole cs) : Json.Whole (bytes cs) := by
  refine ⟨h.1.numerals, fun hhead => ?_⟩
  obtain ⟨d, ds, rfl⟩ := List.exists_cons_of_ne_nil h.1.1
  obtain ⟨-, hhigh⟩ := Char.isDigit_iff_toNat.mp (h.1.2 d List.mem_cons_self)
  have hzero : d.toNat = 48 := by
    rw [← toNat_toUInt8 (Nat.lt_of_le_of_lt hhigh (by decide)), Option.some.inj hhead]
    rfl
  rw [h.2 (congrArg some (Char.toNat_inj.mp hzero))]
  rfl

theorem Fraction.json {cs : List Char} (h : Fraction cs) : Json.Fraction (bytes cs) := by
  rcases h with rfl | ⟨ds, hds, rfl⟩
  · exact Or.inl rfl
  · exact Or.inr ⟨_, hds.numerals, rfl⟩

theorem Exponent.json {cs : List Char} (h : Exponent cs) : Json.Exponent (bytes cs) := by
  rcases h with rfl | ⟨e, sign, ds, he, hsign, hds, rfl⟩
  · exact Or.inl rfl
  · refine Or.inr ⟨e.toUInt8, bytes sign, bytes ds, ?_, ?_, hds.numerals, ?_⟩
    · rcases he with rfl | rfl
      · exact Or.inl rfl
      · exact Or.inr rfl
    · rcases hsign with rfl | rfl | rfl
      · exact Or.inl rfl
      · exact Or.inr (Or.inl rfl)
      · exact Or.inr (Or.inr rfl)
    · simp [bytes]

/-! ## Integers -/

/-- The text of a number is its sign and what the length of a number without one counts. -/
theorem number_eq_ok {c c' : Cursor} {s : String} (h : number c = .ok (.number s, c')) :
    ∃ sign rest i n, s.toList = sign ++ rest.take n ∧
      (sign = [] ∨ sign = ['+'] ∨ sign = ['-']) ∧ unsignedLength i rest = .ok n := by
  obtain ⟨n, hn, h⟩ := exists_of_bind_eq_ok h
  obtain rfl := Token.number.inj (Prod.mk.inj (Except.ok.inj h)).1
  rw [String.toList_ofList]
  split at hn
  · next rest hrest =>
    refine ⟨['+'], rest, _, n, ?_, Or.inr (Or.inl rfl), by rwa [hrest] at hn⟩
    rw [hrest, Nat.add_comm]
    rfl
  · next rest hrest =>
    refine ⟨['-'], rest, _, n, ?_, Or.inr (Or.inr rfl), by rwa [hrest] at hn⟩
    rw [hrest, Nat.add_comm]
    rfl
  · refine ⟨[], c.rest, _, n, ?_, Or.inl rfl, hn⟩
    rw [Nat.zero_add]
    rfl

/-- Only digits and a minus make up the text of an integer. -/
theorem digits_of_decimalNumber? {sign whole fraction exponent : List Char} {n : Int}
    (hsign : sign = [] ∨ sign = ['-']) (hwhole : Whole whole) (hfraction : Fraction fraction)
    (hexponent : Exponent exponent)
    (h : decimalNumber? (sign ++ (whole ++ fraction ++ exponent)) = some (.int n)) :
    fraction = [] ∧ exponent = [] ∧ digitsValue whole = n.natAbs := by
  unfold decimalNumber? at h
  split at h
  case h_2 => cases h
  next n' c hnumber =>
  obtain rfl := Option.some.inj h
  obtain ⟨negative, d, c₁, hminus, hdigits, hvalue⟩ := Json.exists_of_number_eq_int hnumber
  obtain ⟨i, hplace⟩ : ∃ i, c₁ = ⟨i, bytes whole ++ bytes fraction ++ bytes exponent ++ []⟩ := by
    obtain ⟨x, xs, rfl⟩ := List.exists_cons_of_ne_nil hwhole.1.1
    have hx := (isDigit_toUInt8 (hwhole.1.2 x List.mem_cons_self)).1
    have hsign : bytes sign = [] ∨ bytes sign = [45] := by
      rcases hsign with rfl | rfl
      · exact Or.inl rfl
      · exact Or.inr rfl
    obtain ⟨_, hminus'⟩ := Json.minus_apply hsign hx 0 (bytes (xs ++ fraction ++ exponent))
    have htext : List.map Char.toUInt8 (sign ++ (x :: xs ++ fraction ++ exponent)) =
        bytes sign ++ x.toUInt8 :: bytes (xs ++ fraction ++ exponent) := by simp [bytes]
    rw [htext, hminus'] at hminus
    obtain ⟨-, rfl⟩ := EStateM.Result.ok.inj hminus
    exact ⟨_, congrArg _ (by simp [bytes])⟩
  obtain ⟨f, e, hread, hf, he⟩ := Json.numberDigits_apply hwhole.json hfraction.json
    hexponent.json (Json.follows_of_blanks (List.forall_mem_nil _)) .endInValue i
  rw [hplace, hread] at hdigits
  obtain rfl := (EStateM.Result.ok.inj hdigits).1
  obtain ⟨-, hf', he', hwhole', -⟩ := Json.number?_eq_int hvalue
  refine ⟨List.map_eq_nil_iff.mp (hf.mpr hf'), List.map_eq_nil_iff.mp (he.mpr he'), ?_⟩
  rw [← hwhole', foldl_bytes hwhole.1.2]
  rfl

/-- A text that begins with a digit after its sign, and not like one in hexadecimal, is read in
decimal. A plus is left out. -/
theorem numberValue_of_decimal {s : String} {sign body : List Char}
    (htext : s.toList = sign ++ body) (hsign : sign = [] ∨ sign = ['+'] ∨ sign = ['-']) (hbody : ∃ d ∈ body.head?, d.isDigit = true)
    (hhex : ∀ x hs, x = 'x' ∨ x = 'X' → body ≠ '0' :: x :: hs) :
    numberValue s =
      ((decimalNumber? (sign.filter (· == '-') ++ body)).map Value.number).getD (.string s) := by
  obtain ⟨d, hd, hdigit⟩ := hbody
  obtain ⟨rest, rfl⟩ : ∃ rest, body = d :: rest := List.head?_eq_some_iff.mp hd
  have hminus : d ≠ '-' := by
    rintro rfl
    cases hdigit
  have hplus : d ≠ '+' := by
    rintro rfl
    cases hdigit
  rcases hsign with rfl | rfl | rfl
  all_goals
    simp only [numberValue, htext, List.nil_append, List.cons_append, List.head?_cons,
      beq_iff_eq, Option.some.injEq, hminus, hplus, Char.reduceEq, if_false, if_true,
      List.drop_succ_cons, List.drop_zero, List.filter_cons, List.filter_nil]
    split
    · next n hn =>
      split at hn
      · next hs heq => exact absurd heq (hhex _ hs (Or.inl rfl))
      · next hs heq => exact absurd heq (hhex _ hs (Or.inr rfl))
      · rw [hn]
        rfl
    · next hn =>
      split at hn
      · next hs heq => exact absurd heq (hhex _ hs (Or.inl rfl))
      · next hs heq => exact absurd heq (hhex _ hs (Or.inr rfl))
      · rw [hn]
        rfl

/-- The text is a sign and the decimal digits of a number. -/
def Plain (s : String) (n : Nat) : Prop :=
  ∃ sign ds, s.toList = sign ++ ds ∧ (sign = [] ∨ sign = ['+'] ∨ sign = ['-']) ∧ Digits ds ∧
    digitsValue ds = n

/-- A number in decimal that is held as an integer is written with its digits alone. -/
theorem plain_of_numberValue {c c' : Cursor} {s : String} {n : Int}
    (h : number c = .ok (.number s, c')) (hx : 'x' ∉ s.toList) (hX : 'X' ∉ s.toList)
    (hvalue : numberValue s = .number (.int n)) : Plain s n.natAbs := by
  obtain ⟨sign, rest, i, length, htext, hsign, hlength⟩ := number_eq_ok h
  have hhex (x : Char) (hs : List Char) (h : x = 'x' ∨ x = 'X') :
      rest.take length ≠ '0' :: x :: hs := by
    intro heq
    rw [htext, heq] at hx hX
    rcases h with rfl | rfl
    · exact hx (by simp)
    · exact hX (by simp)
  rcases unsignedLength_eq_ok hlength with
    ⟨x, hs, h, heq⟩ | ⟨whole, fraction, exponent, heq, hwhole, hfraction, hexponent⟩
  · exact absurd heq (hhex x hs h)
  rw [heq] at htext hhex
  have hhead : ∃ d ∈ (whole ++ fraction ++ exponent).head?, d.isDigit = true := by
    obtain ⟨d, ds, rfl⟩ := List.exists_cons_of_ne_nil hwhole.1.1
    exact ⟨d, rfl, hwhole.1.2 d List.mem_cons_self⟩
  rw [numberValue_of_decimal htext hsign hhead hhex] at hvalue
  obtain ⟨number, hnumber⟩ : ∃ number, decimalNumber? (sign.filter (· == '-') ++
      (whole ++ fraction ++ exponent)) = some number := by
    refine Option.ne_none_iff_exists'.mp fun hnone => ?_
    rw [hnone] at hvalue
    cases hvalue
  rw [hnumber] at hvalue
  obtain rfl := Value.number.inj hvalue
  have hminus : sign.filter (· == '-') = [] ∨ sign.filter (· == '-') = ['-'] := by
    rcases hsign with rfl | rfl | rfl
    · exact Or.inl rfl
    · exact Or.inl rfl
    · exact Or.inr rfl
  obtain ⟨rfl, rfl, hdigits⟩ :=
    digits_of_decimalNumber? hminus hwhole hfraction hexponent hnumber
  refine ⟨sign, whole, ?_, hsign, hwhole.1, hdigits⟩
  rw [htext, List.append_nil, List.append_nil]

end LintDispatch.Relaxed
