import LintDispatch.Proofs.Json.Writing
import LintDispatch.Proofs.Relaxed.Numbers

/-!
# What is written is read back
The text of a value on one line is read as the value. `Reads` says so of a text wherever it stands,
as long as nothing follows that could belong to it. Strings are read character by character
(`stringFrom_writeChar`), natural numbers that fit 64 bits as integers (`reads_nat`), and lists and
objects element by element, where an object comes back sorted (`reads_list`, `reads_object`). Two
steps for each character are enough.
-/

namespace LintDispatch.Relaxed

open Json (Value Number writeChar writeString writeBool hexDigit)

theorem bind_of_eq_ok {α β : Type} {x : Except Fault α} {a : α} (h : x = .ok a)
    (k : α → Except Fault β) : x >>= k = k a := by
  rw [h]
  rfl

/-- Nothing follows that could belong to a value: a comma, a bracket that closes, or the end. -/
inductive Closes : List Char → Prop
  | nil : Closes []
  | comma (cs : List Char) : Closes (',' :: cs)
  | bracket (cs : List Char) : Closes (']' :: cs)
  | brace (cs : List Char) : Closes ('\x7d' :: cs)

/-- The text is read as the value, wherever it stands. -/
def Reads (cs : List Char) (v : Value) : Prop :=
  ∀ i rest steps, Closes rest → 2 * cs.length ≤ steps → ∃ t c, t ≠ .closeBracket ∧
    next ⟨i, cs ++ rest⟩ = .ok ((some t, i), c) ∧
      valueOf steps t i c = .ok (v, ⟨i + cs.length, rest⟩)

theorem Reads.length_pos {cs : List Char} {v : Value} (h : Reads cs v) : 0 < cs.length := by
  refine List.length_pos_of_ne_nil fun hnil => ?_
  obtain ⟨t, c, -, hnext, -⟩ := h 0 [] (2 * cs.length) .nil (Nat.le_refl _)
  rw [hnil] at hnext
  cases hnext

/-! ## Tokens -/

/-- A token is next if it begins with no blank and no comment. -/
theorem next_of_token {ch : Char} {cs : List Char} {i : Nat} {t : Token} {c : Cursor}
    (hwhite : Text.isWhite ch = false) (hslash : ch ≠ '/')
    (h : token ⟨i, ch :: cs⟩ = .ok (t, c)) : next ⟨i, ch :: cs⟩ = .ok ((some t, i), c) := by
  have hskip : skipBlanks (ch :: cs) ⟨i, ch :: cs⟩ = .ok ⟨i, ch :: cs⟩ := by
    rw [skipBlanks]
    split
    · next heq => exact absurd (List.cons.inj heq).1 hslash
    · next heq => exact absurd (List.cons.inj heq).1 hslash
    · next heq =>
      obtain ⟨rfl, -⟩ := List.cons.inj heq
      rw [hwhite]
      rfl
    · rfl
  rw [next, bind_of_eq_ok hskip]
  simp only [List.isEmpty_cons, Bool.false_eq_true, if_false, h]
  rfl

theorem next_nil (i : Nat) : next ⟨i, []⟩ = .ok ((none, i), ⟨i, []⟩) := rfl

theorem next_punctuation {ch : Char} {t : Token} (h : punctuation? ch = some t) (i : Nat)
    (cs : List Char) : next ⟨i, ch :: cs⟩ = .ok ((some t, i), ⟨i + 1, cs⟩) := by
  have hch : Text.isWhite ch = false ∧ ch ≠ '/' := by
    unfold punctuation? at h
    split at h
    case h_7 => cases h
    all_goals exact ⟨by decide, by decide⟩
  refine next_of_token hch.1 hch.2 ?_
  simp only [token, h]
  rfl

theorem skipComma_comma (i : Nat) (cs : List Char) :
    skipComma ⟨i, ',' :: cs⟩ = .ok ⟨i + 1, cs⟩ := by
  rw [skipComma, next_punctuation (t := .comma) rfl]

theorem skipComma_of_ne {ch : Char} {t : Token} (h : punctuation? ch = some t) (ht : t ≠ .comma)
    (i : Nat) (cs : List Char) : skipComma ⟨i, ch :: cs⟩ = .ok ⟨i, ch :: cs⟩ := by
  rw [skipComma, next_punctuation h]
  cases t <;> simp at ht ⊢

/-! ## Strings -/

/-- A control character is read from its code point. -/
theorem escape_control {c : Char} (h : c.toNat < 0x20) (start : Nat) (rest : List Char) :
    escape '"' start ('u' :: '0' :: '0' :: hexDigit (c.toNat / 16) :: hexDigit (c.toNat % 16) ::
      rest) = .ok (some (c, 5)) := by
  have hhigh : (hexDigit (c.toNat / 16)).toNat < 128 :=
    Json.hexDigit_lt ⟨c.toNat / 16, by omega⟩
  have hlow : (hexDigit (c.toNat % 16)).toNat < 128 := Json.hexDigit_lt ⟨c.toNat % 16, by omega⟩
  have hhex : Json.hexFour? ('0').toUInt8 ('0').toUInt8 (hexDigit (c.toNat / 16)).toUInt8
      (hexDigit (c.toNat % 16)).toUInt8 = some c.toNat := Json.hexFour?_control ⟨c.toNat, h⟩
  have hzero : ('0').toNat < 128 := by decide
  have hsurrogate : Json.isHighSurrogate c.toNat = false ∧ Json.isLowSurrogate c.toNat = false := by
    simp only [Json.isHighSurrogate, Json.isLowSurrogate, Bool.and_eq_false_iff,
      decide_eq_false_iff_not]
    omega
  simp only [escape, unicodeEscape, fourHex?, hzero, hhigh, hlow, hhex, hsurrogate, and_self,
    if_true, Option.map_some, Bool.false_eq_true, if_false, Char.ofNat_toNat]

/-- A character of a string is read in one step. -/
theorem stringFrom_writeChar (start : Nat) (c x : Char) (bound taken rest : List Char) (i : Nat) :
    stringFrom '"' start (x :: bound) taken ⟨i, writeChar c ++ rest⟩ =
      stringFrom '"' start bound (c :: taken) ⟨i + (writeChar c).length, rest⟩ := by
  unfold writeChar
  simp only [beq_iff_eq]
  split
  case isTrue h => subst h; rfl
  case isFalse hquote =>
  split
  case isTrue h => subst h; rfl
  case isFalse hbackslash =>
  split
  case isTrue h => subst h; rfl
  split
  case isTrue h => subst h; rfl
  split
  case isTrue h => subst h; rfl
  split
  case isTrue h => subst h; rfl
  split
  case isTrue h => subst h; rfl
  split
  case isTrue h =>
    simp only [List.cons_append, List.nil_append]
    rw [stringFrom]
    simp only [escape_control h]
    rfl
  case isFalse =>
    rw [List.singleton_append, stringFrom]
    split
    · next heq => cases heq
    · next heq => exact absurd (List.cons.inj heq).1 hbackslash
    · next heq =>
      obtain ⟨rfl, -⟩ := List.cons.inj heq
      rw [if_neg hquote]
      rfl

theorem stringFrom_flatMap (start : Nat) : ∀ (cs bound taken rest : List Char) (i : Nat),
    cs.length < bound.length →
      stringFrom '"' start bound taken ⟨i, cs.flatMap writeChar ++ '"' :: rest⟩ =
        .ok (String.ofList (taken.reverse ++ cs), ⟨i + (cs.flatMap writeChar).length + 1, rest⟩)
  | [], x :: bound, taken, rest, i, _ => by
    rw [List.append_nil]
    rfl
  | c :: cs, x :: bound, taken, rest, i, h => by
    have ih := stringFrom_flatMap start cs bound (c :: taken) rest (i + (writeChar c).length)
      (Nat.lt_of_succ_lt_succ h)
    rw [List.flatMap_cons, List.append_assoc, stringFrom_writeChar, ih]
    simp [Nat.add_assoc]

theorem writeChar_length_pos (c : Char) : 0 < (writeChar c).length := by
  unfold writeChar
  repeat' split
  all_goals exact Nat.succ_pos _

theorem length_le_flatMap_writeChar (cs : List Char) :
    cs.length ≤ (cs.flatMap writeChar).length := by
  induction cs with
  | nil => exact Nat.le_refl 0
  | cons c cs ih =>
    have := writeChar_length_pos c
    rw [List.flatMap_cons, List.length_append, List.length_cons]
    omega

/-- A string is one token. -/
theorem next_writeString (s : String) (i : Nat) (rest : List Char) :
    next ⟨i, writeString s ++ rest⟩ =
      .ok ((some (.string s), i), ⟨i + (writeString s).length, rest⟩) := by
  have hshape : writeString s ++ rest = '"' :: (s.toList.flatMap writeChar ++ '"' :: rest) := by
    simp [writeString]
  have hlength := length_le_flatMap_writeChar s.toList
  have hstring := stringFrom_flatMap i s.toList (s.toList.flatMap writeChar ++ '"' :: rest) [] rest
    (i + 1) (by rw [List.length_append, List.length_cons]; omega)
  rw [List.reverse_nil, List.nil_append, String.ofList_toList] at hstring
  rw [hshape]
  refine next_of_token (by decide) (by decide) ?_
  have hindex : i + (writeString s).length = i + 1 + (s.toList.flatMap writeChar).length + 1 := by
    simp only [writeString, List.length_append, List.length_cons, List.length_nil]
    omega
  rw [hindex]
  exact bind_of_eq_ok hstring _

/-! ## Scalars -/

theorem exists_eq_succ_of_le {cs : List Char} {steps : Nat} (hne : cs ≠ []) (h : 2 * cs.length ≤ steps) :
    ∃ n, steps = n + 1 := by
  have := List.length_pos_of_ne_nil hne
  exact ⟨steps - 1, by omega⟩

theorem reads_string (s : String) : Reads (writeString s) (.string s) := by
  intro i rest steps _ hsteps
  obtain ⟨n, rfl⟩ := exists_eq_succ_of_le (by simp [writeString]) hsteps
  exact ⟨_, _, by simp, next_writeString s i rest, rfl⟩

theorem reads_null : Reads "null".toList .null := by
  intro i rest steps hrest hsteps
  obtain ⟨n, rfl⟩ := exists_eq_succ_of_le (by simp) hsteps
  refine ⟨.null, ⟨i + 4, rest⟩, by simp, next_of_token (by decide) (by decide) ?_, rfl⟩
  cases hrest <;> rfl

theorem reads_bool (b : Bool) : Reads (writeBool b) (.bool b) := by
  intro i rest steps hrest hsteps
  cases b with
  | true =>
    obtain ⟨n, rfl⟩ := exists_eq_succ_of_le (by simp [writeBool]) hsteps
    refine ⟨.bool true, ⟨i + 4, rest⟩, by simp, next_of_token (by decide) (by decide) ?_, rfl⟩
    cases hrest <;> rfl
  | false =>
    obtain ⟨n, rfl⟩ := exists_eq_succ_of_le (by simp [writeBool]) hsteps
    refine ⟨.bool false, ⟨i + 5, rest⟩, by simp, next_of_token (by decide) (by decide) ?_, rfl⟩
    cases hrest <;> rfl

/-! ## Natural numbers -/

/-- No digit follows, so digits are taken to their end. -/
theorem digitsLength_append {ds rest : List Char} (hds : ∀ d ∈ ds, d.isDigit = true)
    (hrest : Closes rest) : digitsLength (ds ++ rest) = ds.length := by
  have hnone : rest.takeWhile Char.isDigit = [] := by cases hrest <;> rfl
  rw [digitsLength, List.takeWhile_append_of_pos hds, hnone, List.append_nil]

theorem decimal_append {ds rest : List Char} (hrest : Closes rest) (i : Nat) :
    unsignedLength.decimal i (ds ++ rest) ds.length = .ok ds.length := by
  have hfraction (j : Nat) : fractionLength j rest = .ok 0 := by cases hrest <;> rfl
  have hexponent (j : Nat) : exponentLength j rest = .ok 0 := by cases hrest <;> rfl
  simp only [unsignedLength.decimal, List.drop_left, hfraction, bind_of_eq_ok rfl, Nat.add_zero,
    hexponent]
  rfl

/-- Digits that nothing follows are a number of their length. -/
theorem unsignedLength_append {ds rest : List Char} (hds : Whole ds) (hrest : Closes rest)
    (i : Nat) : unsignedLength i (ds ++ rest) = .ok ds.length := by
  obtain ⟨⟨hne, hdigits⟩, hzero⟩ := hds
  obtain ⟨d, ds, rfl⟩ := List.exists_cons_of_ne_nil hne
  have hdecimal : unsignedLength.decimal i (d :: ds ++ rest) (d :: ds).length = _ :=
    decimal_append hrest i
  unfold unsignedLength
  split
  · next x hs heq =>
    obtain ⟨rfl, htail⟩ := List.cons.inj heq
    obtain rfl : ds = [] := (List.cons.inj (hzero rfl)).2
    obtain rfl : rest = x :: hs := htail
    rw [if_neg]
    · exact hdecimal
    · rintro (rfl | rfl) <;> cases hrest
  · next heq =>
    obtain ⟨-, htail⟩ := List.cons.inj heq
    obtain ⟨rfl, rfl⟩ := List.append_eq_nil_iff.mp htail
    exact hdecimal
  · simp only [digitsLength_append hdigits hrest]
    rw [if_neg (by simp)]
    exact hdecimal

/-- A digit begins a number and no other token. -/
theorem token_of_isDigit {d : Char} (h : d.isDigit = true) (i : Nat) (cs : List Char) :
    Text.isWhite d = false ∧ d ≠ '/' ∧ token ⟨i, d :: cs⟩ = number ⟨i, d :: cs⟩ := by
  have hne {c : Char} (hc : c.isDigit = false) : d ≠ c := by
    rintro rfl
    rw [h] at hc
    cases hc
  have hpunctuation : punctuation? d = none := by
    unfold punctuation?
    split
    case h_7 => rfl
    all_goals exact absurd h (by decide)
  obtain ⟨hlow, hhigh⟩ := Char.isDigit_iff_toNat.mp h
  have hlow : 48 ≤ d.toNat := hlow
  have hhigh : d.toNat ≤ 57 := hhigh
  refine ⟨?_, hne rfl, ?_⟩
  · simp only [Text.isWhite, Bool.or_eq_false_iff, Bool.and_eq_false_iff, decide_eq_false_iff_not,
      beq_eq_false_iff_ne]
    omega
  · simp only [token, hpunctuation]
    rw [if_neg (not_or.mpr ⟨hne rfl, hne rfl⟩), if_neg (hne rfl), if_pos (Or.inr (Or.inr h))]

/-- Digits that nothing follows are one token. -/
theorem next_whole {ds rest : List Char} (hds : Whole ds) (hrest : Closes rest) (i : Nat) :
    next ⟨i, ds ++ rest⟩ =
      .ok ((some (.number (String.ofList ds)), i), ⟨i + ds.length, rest⟩) := by
  have hlength := unsignedLength_append hds hrest i
  obtain ⟨d, ds, rfl⟩ := List.exists_cons_of_ne_nil hds.1.1
  have hd := hds.1.2 d List.mem_cons_self
  obtain ⟨hwhite, hslash, htoken⟩ := token_of_isDigit hd i (ds ++ rest)
  refine next_of_token hwhite hslash (htoken.trans ?_)
  simp only [number]
  split
  · next heq =>
    obtain ⟨rfl, -⟩ := List.cons.inj heq
    cases hd
  · next heq =>
    obtain ⟨rfl, -⟩ := List.cons.inj heq
    cases hd
  · rw [Nat.add_zero, List.drop_zero, ← List.cons_append, bind_of_eq_ok hlength, Nat.zero_add,
      List.take_left]
    simp only [Cursor.advance, List.drop_left]
    rfl

theorem whole_toDigits (n : Nat) : Whole (Nat.toDigits 10 n) := by
  obtain ⟨-, hzero, -⟩ := Json.utf8_toDigits n
  refine ⟨⟨Nat.toDigits_ne_nil, fun d hd => ?_⟩, fun hhead => ?_⟩
  · exact Nat.isDigit_of_mem_toDigits (by decide) (by decide) hd
  obtain ⟨ds, hds⟩ := List.head?_eq_some_iff.mp hhead
  rw [hzero (by rw [hds]; rfl)]
  rfl

/-- The bytes of ASCII characters are their UTF-8 form. -/
theorem map_toUInt8_of_lt : ∀ {cs : List Char}, (∀ c ∈ cs, c.toNat < 128) →
    cs.map Char.toUInt8 = Json.utf8 cs
  | [], _ => rfl
  | c :: cs, h => by
    obtain ⟨hc, hcs⟩ := List.forall_mem_cons.mp h
    rw [Json.utf8_cons, Utf8.utf8EncodeChar_of_lt hc, List.map_cons, map_toUInt8_of_lt hcs]
    rfl

theorem numberValue_toDigits {n : Nat} (h : n < UInt64.size) :
    numberValue (String.ofList (Nat.toDigits 10 n)) = .nat n := by
  have hwhole := whole_toDigits n
  have hdigits := hwhole.1.2
  have hascii : ∀ d ∈ Nat.toDigits 10 n, d.toNat < 128 := fun d hd =>
    Nat.lt_of_le_of_lt (Char.isDigit_iff_toNat.mp (hdigits d hd)).2 (by decide)
  have hnumber : decimalNumber? (Nat.toDigits 10 n) = some (.int n) := by
    have htext := Json.natText_nat n
    rw [Json.compact_nat] at htext
    have hread := Json.number_natText htext h (Json.follows_of_blanks Json.blanks_nil) 0
    rw [List.append_nil] at hread
    rw [decimalNumber?, map_toUInt8_of_lt hascii, hread]
  have hhead : ∃ d ∈ (Nat.toDigits 10 n).head?, d.isDigit = true := by
    obtain ⟨d, ds, hds⟩ := List.exists_cons_of_ne_nil hwhole.1.1
    rw [hds] at hdigits ⊢
    exact ⟨d, rfl, hdigits d List.mem_cons_self⟩
  have hhex (x : Char) (hs : List Char) (hx : x = 'x' ∨ x = 'X') :
      Nat.toDigits 10 n ≠ '0' :: x :: hs := by
    intro heq
    have hdigit := hdigits x (by simp [heq])
    rcases hx with rfl | rfl <;> cases hdigit
  have htext : (String.ofList (Nat.toDigits 10 n)).toList = [] ++ Nat.toDigits 10 n :=
    String.toList_ofList
  rw [numberValue_of_decimal htext (Or.inl rfl) hhead hhex, List.filter_nil, List.nil_append,
    hnumber]
  rfl

theorem reads_nat {n : Nat} (h : n < UInt64.size) : Reads (Value.nat n).compact (.nat n) := by
  intro i rest steps hrest hsteps
  rw [Json.compact_nat] at hsteps ⊢
  obtain ⟨k, rfl⟩ := exists_eq_succ_of_le (whole_toDigits n).1.1 hsteps
  refine ⟨_, _, by simp, next_whole (whole_toDigits n) hrest i, ?_⟩
  rw [valueOf, numberValue_toDigits h]

/-! ## Lists -/

/-- An element that is read is one step of a list. -/
theorem elementsFrom_succ {steps start place : Nat} {taken : List Value} {c c₁ c₂ c₃ : Cursor}
    {t : Token} {v : Value} (ht : t ≠ .closeBracket) (hnext : next c = .ok ((some t, place), c₁))
    (hvalue : valueOf steps t place c₁ = .ok (v, c₂)) (hcomma : skipComma c₂ = .ok c₃) :
    elementsFrom (steps + 1) start taken c = elementsFrom steps start (v :: taken) c₃ := by
  rw [elementsFrom, bind_of_eq_ok hnext]
  split
  · next heq => cases heq
  · next heq =>
    cases heq
    exact absurd rfl ht
  · next heq =>
    cases heq
    rw [bind_of_eq_ok hvalue]
    exact bind_of_eq_ok hcomma _

theorem elementsFrom_close (steps start i : Nat) (taken : List Value) (rest : List Char) :
    elementsFrom (steps + 1) start taken ⟨i, ']' :: rest⟩ =
      .ok (.list taken.reverse, ⟨i + 1, rest⟩) := by
  rw [elementsFrom, bind_of_eq_ok (next_punctuation (t := .closeBracket) rfl i rest)]
  rfl

/-- After an element comes a comma and then the others, if there are any. -/
theorem exists_compactElements (v : Value) (vs : List Value) :
    ∃ sep, Value.compactElements (v :: vs) = v.compact ++ (sep ++ Value.compactElements vs) ∧
      (vs = [] ∧ sep = [] ∨ sep = [',']) := by
  cases vs with
  | nil => exact ⟨[], by simp [Value.compactElements], Or.inl ⟨rfl, rfl⟩⟩
  | cons w vs => exact ⟨[','], by simp [Value.compactElements], Or.inr rfl⟩

theorem elementsFrom_compact : ∀ {vs : List Value}, (∀ v ∈ vs, Reads v.compact v) →
    ∀ (steps start i : Nat) (taken : List Value) (rest : List Char),
      2 * (Value.compactElements vs).length + 1 ≤ steps →
        elementsFrom steps start taken ⟨i, Value.compactElements vs ++ ']' :: rest⟩ =
          .ok (.list (taken.reverse ++ vs), ⟨i + (Value.compactElements vs).length + 1, rest⟩)
  | [], _, steps + 1, start, i, taken, rest, _ => by
    rw [List.append_nil]
    exact elementsFrom_close steps start i taken rest
  | v :: vs, h, steps + 1, start, i, taken, rest, hsteps => by
    obtain ⟨hv, hvs⟩ := List.forall_mem_cons.mp h
    obtain ⟨sep, htext, hsep⟩ := exists_compactElements v vs
    have hpos := hv.length_pos
    have hlength : (Value.compactElements (v :: vs)).length =
        v.compact.length + (sep.length + (Value.compactElements vs).length) := by
      rw [htext, List.length_append, List.length_append]
    have hcloses : Closes (sep ++ (Value.compactElements vs ++ ']' :: rest)) := by
      rcases hsep with ⟨rfl, rfl⟩ | rfl
      · exact .bracket rest
      · exact .comma _
    have hcomma (j : Nat) :
        skipComma ⟨j, sep ++ (Value.compactElements vs ++ ']' :: rest)⟩ =
          .ok ⟨j + sep.length, Value.compactElements vs ++ ']' :: rest⟩ := by
      rcases hsep with ⟨rfl, rfl⟩ | rfl
      · exact skipComma_of_ne (t := .closeBracket) rfl (by simp) _ rest
      · exact skipComma_comma _ _
    obtain ⟨t, c, ht, hnext, hvalue⟩ := hv i _ steps hcloses (by omega)
    rw [htext, List.append_assoc, List.append_assoc, elementsFrom_succ ht hnext hvalue (hcomma _),
      elementsFrom_compact hvs steps start _ (v :: taken) rest (by omega)]
    simp [Nat.add_assoc]

theorem reads_list {vs : List Value} (h : ∀ v ∈ vs, Reads v.compact v) :
    Reads (Value.list vs).compact (.list vs) := by
  intro i rest steps _ hsteps
  have htext : (Value.list vs).compact = '[' :: (Value.compactElements vs ++ [']']) := by
    rw [Value.compact, List.cons_append]
  rw [htext] at hsteps ⊢
  obtain ⟨n, rfl⟩ := exists_eq_succ_of_le (List.cons_ne_nil _ _) hsteps
  simp only [List.length_cons, List.length_append, List.length_nil] at hsteps ⊢
  have helements := elementsFrom_compact h n i (i + 1) [] rest (by omega)
  refine ⟨.openBracket, ⟨i + 1, Value.compactElements vs ++ ']' :: rest⟩, by simp, ?_, ?_⟩
  · rw [List.cons_append, List.append_assoc]
    exact next_punctuation rfl i _
  · rw [valueOf, helements]
    simp [Nat.add_assoc, Nat.add_comm 1]

/-! ## Objects -/

/-- A field that is read is one step of an object. -/
theorem fieldsFrom_succ {steps start i j place : Nat} {taken : List (String × Value)}
    {c c₁ c₂ c₃ c₄ c₅ : Cursor} {k : String} {t : Token} {v : Value}
    (hkey : next c = .ok ((some (.string k), i), c₁))
    (hcolon : next c₁ = .ok ((some .colon, j), c₂)) (hnext : next c₂ = .ok ((some t, place), c₃))
    (hvalue : valueOf steps t place c₃ = .ok (v, c₄)) (hcomma : skipComma c₄ = .ok c₅) :
    fieldsFrom (steps + 1) start taken c = fieldsFrom steps start ((k, v) :: taken) c₅ := by
  rw [fieldsFrom, bind_of_eq_ok hkey]
  simp only [key?]
  rw [bind_of_eq_ok hcolon]
  simp only
  rw [bind_of_eq_ok hnext]
  simp only
  rw [bind_of_eq_ok hvalue]
  exact bind_of_eq_ok hcomma _

theorem fieldsFrom_close (steps start i : Nat) (taken : List (String × Value))
    (rest : List Char) : fieldsFrom (steps + 1) start taken ⟨i, '\x7d' :: rest⟩ =
      .ok (.object (sortFields taken.reverse), ⟨i + 1, rest⟩) := by
  rw [fieldsFrom, bind_of_eq_ok (next_punctuation (t := .closeBrace) rfl i rest)]
  rfl

/-- After a field comes a comma and then the others, if there are any. -/
theorem exists_compactFields (k : String) (v : Value) (fields : List (String × Value)) :
    ∃ sep, Value.compactFields ((k, v) :: fields) =
        writeString k ++ ':' :: (v.compact ++ (sep ++ Value.compactFields fields)) ∧
      (fields = [] ∧ sep = [] ∨ sep = [',']) := by
  cases fields with
  | nil => exact ⟨[], by simp [Value.compactFields], Or.inl ⟨rfl, rfl⟩⟩
  | cons f fields => exact ⟨[','], by simp [Value.compactFields], Or.inr rfl⟩

theorem fieldsFrom_compact : ∀ {fields : List (String × Value)},
    (∀ f ∈ fields, Reads f.2.compact f.2) →
      ∀ (steps start i : Nat) (taken : List (String × Value)) (rest : List Char),
        2 * (Value.compactFields fields).length + 1 ≤ steps →
          fieldsFrom steps start taken ⟨i, Value.compactFields fields ++ '\x7d' :: rest⟩ =
            .ok (.object (sortFields (taken.reverse ++ fields)),
              ⟨i + (Value.compactFields fields).length + 1, rest⟩)
  | [], _, steps + 1, start, i, taken, rest, _ => by
    rw [List.append_nil]
    exact fieldsFrom_close steps start i taken rest
  | (k, v) :: fields, h, steps + 1, start, i, taken, rest, hsteps => by
    have hv : Reads v.compact v := h (k, v) List.mem_cons_self
    have hfields := fun f hf => h f (List.mem_cons_of_mem (k, v) hf)
    obtain ⟨sep, htext, hsep⟩ := exists_compactFields k v fields
    have hpos := hv.length_pos
    have hlength : (Value.compactFields ((k, v) :: fields)).length = (writeString k).length + 1 +
        (v.compact.length + (sep.length + (Value.compactFields fields).length)) := by
      rw [htext]
      simp only [List.length_append, List.length_cons]
      omega
    have hcloses : Closes (sep ++ (Value.compactFields fields ++ '\x7d' :: rest)) := by
      rcases hsep with ⟨rfl, rfl⟩ | rfl
      · exact .brace rest
      · exact .comma _
    have hcomma (j : Nat) : skipComma ⟨j, sep ++ (Value.compactFields fields ++ '\x7d' :: rest)⟩ =
        .ok ⟨j + sep.length, Value.compactFields fields ++ '\x7d' :: rest⟩ := by
      rcases hsep with ⟨rfl, rfl⟩ | rfl
      · exact skipComma_of_ne (t := .closeBrace) rfl (by simp) _ rest
      · exact skipComma_comma _ _
    obtain ⟨t, c, ht, hnext, hvalue⟩ :=
      hv (i + (writeString k).length + 1) _ steps hcloses (by omega)
    simp only [htext, List.append_assoc, List.cons_append]
    rw [fieldsFrom_succ (next_writeString k i _) (next_punctuation rfl _ _) hnext hvalue (hcomma _),
      fieldsFrom_compact hfields steps start _ ((k, v) :: taken) rest (by omega)]
    simp [Nat.add_assoc, Nat.add_comm 1]

theorem reads_object {fields : List (String × Value)} (h : ∀ f ∈ fields, Reads f.2.compact f.2) :
    Reads (Value.object fields).compact (.object (sortFields fields)) := by
  intro i rest steps _ hsteps
  have htext : (Value.object fields).compact =
      '\x7b' :: (Value.compactFields fields ++ ['\x7d']) := by
    rw [Value.compact, List.cons_append]
  rw [htext] at hsteps ⊢
  obtain ⟨n, rfl⟩ := exists_eq_succ_of_le (List.cons_ne_nil _ _) hsteps
  simp only [List.length_cons, List.length_append, List.length_nil] at hsteps ⊢
  have hfields := fieldsFrom_compact h n i (i + 1) [] rest (by omega)
  refine ⟨.openBrace, ⟨i + 1, Value.compactFields fields ++ '\x7d' :: rest⟩, by simp, ?_, ?_⟩
  · rw [List.cons_append, List.append_assoc]
    exact next_punctuation rfl i _
  · rw [valueOf, hfields]
    simp [Nat.add_assoc, Nat.add_comm 1]

/-! ## Texts -/

/-- A text that is read as a value holds this value. -/
theorem parse_of_reads {cs : List Char} {v : Value} (h : Reads cs v) :
    parse (String.ofList cs) = .ok (some v) := by
  obtain ⟨t, c, -, hnext, hvalue⟩ := h 0 [] (enoughSteps cs.length) .nil
    (by rw [enoughSteps]; omega)
  rw [List.append_nil] at hnext
  rw [parse, String.toList_ofList]
  simp only [bind_of_eq_ok hnext, bind_of_eq_ok hvalue, bind_of_eq_ok (next_nil _)]
  rfl

end LintDispatch.Relaxed
