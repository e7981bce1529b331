import LintDispatch.Text.Utf8
import Mathlib.Data.List.Forall2

/-!
# Reading back what was written as UTF-8
A text is read back from its UTF-8 form (`decode?_ofString`). The decoder is at rest between two
characters, so it is enough that it cuts the bytes of one character off whatever follows
(`pieces_utf8EncodeChar_append`): the lead byte tells which bytes are awaited, and awaited bytes
complete the character (`piecesFrom_awaited`). What remains is arithmetic on the lead byte, one case
for each length of a character.

Nothing else reads as the text: bytes that are accepted are its UTF-8 form (`ofString_of_decode?`),
because a lead byte and the bytes that it promises are the UTF-8 form of a character
(`utf8EncodeChar_of_lead`).
-/

namespace LintDispatch.Utf8

/-- The byte is within the bounds. -/
def Within (range : UInt8 × UInt8) (b : UInt8) : Prop := range.1 ≤ b ∧ b ≤ range.2

/-- The bits of a code point after one more byte. -/
def extend (v : Nat) (b : UInt8) : Nat := v * 64 + (b.toNat - 0x80)

theorem piecesFrom_cons (d : Partial) (b : UInt8) (bs : Bytes) :
    piecesFrom [] d (b :: bs) = (d.feed b).2 ++ piecesFrom [] (d.feed b).1 bs := by
  rw [piecesFrom, piecesFrom_eq]
  simp

theorem feed_last {range : UInt8 × UInt8} {b : UInt8} (h : Within range b) (seen : Bytes)
    (v : Nat) : Partial.feed ⟨seen, v, [range]⟩ b = ({}, [.char (Char.ofNat (extend v b))]) := by
  obtain ⟨lo, hi⟩ := range
  exact if_pos h

theorem feed_inner {range : UInt8 × UInt8} {b : UInt8} (h : Within range b) (seen : Bytes) (v : Nat)
    (next : UInt8 × UInt8) (ranges : List (UInt8 × UInt8)) :
    Partial.feed ⟨seen, v, range :: next :: ranges⟩ b =
      (⟨seen ++ [b], extend v b, next :: ranges⟩, []) := by
  obtain ⟨lo, hi⟩ := range
  exact if_pos h

/-- Awaited bytes complete the character. -/
theorem piecesFrom_awaited (rest : Bytes) :
    ∀ {ranges : List (UInt8 × UInt8)} {bs : Bytes} (seen : Bytes) (v : Nat),
      List.Forall₂ Within ranges bs → bs ≠ [] →
      piecesFrom [] ⟨seen, v, ranges⟩ (bs ++ rest) =
        .char (Char.ofNat (bs.foldl extend v)) :: pieces rest
  | [], _, _, _, .nil, hne => absurd rfl hne
  | [_], [b], seen, v, .cons hb .nil, _ => by
    rw [List.cons_append, piecesFrom_cons, feed_last hb]
    rfl
  | _ :: _ :: _, b :: _ :: _, seen, v, .cons hb hbs, _ => by
    rw [List.cons_append, piecesFrom_cons, feed_inner hb, List.nil_append, List.foldl_cons]
    exact piecesFrom_awaited rest _ _ hbs (List.cons_ne_nil _ _)

/-- A lead byte and the bytes that it promises are a character. -/
theorem pieces_of_lead {b : UInt8} {v : Nat} {ranges : List (UInt8 × UInt8)} {bs : Bytes}
    (h : lead? b = some (v, ranges)) (hbs : List.Forall₂ Within ranges bs) (rest : Bytes) :
    pieces (b :: bs ++ rest) = .char (Char.ofNat (bs.foldl extend v)) :: pieces rest := by
  rw [pieces, List.cons_append, piecesFrom_cons]
  cases hbs with
  | nil =>
    have hfeed : Partial.feed {} b = ({}, [.char (Char.ofNat v)]) := by
      simp only [Partial.feed, Partial.begin, h]
    rw [hfeed]
    rfl
  | @cons range b' ranges bs hb hbs =>
    have hfeed : Partial.feed {} b = (⟨[b], v, range :: ranges⟩, []) := by
      simp only [Partial.feed, Partial.begin, h]
    rw [hfeed, List.nil_append]
    have hbs : List.Forall₂ Within (range :: ranges) (b' :: bs) := .cons hb hbs
    exact piecesFrom_awaited rest [b] v hbs (List.cons_ne_nil b' bs)

/-! ## Characters -/

theorem toNat_ofNat {n : Nat} (h : n < 256) : (UInt8.ofNat n).toNat = n := by
  rw [UInt8.toNat_ofNat', Nat.mod_eq_of_lt h]

theorem within_ofNat {lo hi : UInt8} {n : Nat} (hlo : lo.toNat ≤ n) (hhi : n ≤ hi.toNat) :
    Within (lo, hi) (UInt8.ofNat n) := by
  have hn : n < 256 := Nat.lt_of_le_of_lt hhi hi.toNat_lt
  constructor
  · rw [UInt8.le_iff_toNat_le, toNat_ofNat hn]
    exact hlo
  · rw [UInt8.le_iff_toNat_le, toNat_ofNat hn]
    exact hhi

theorem extend_ofNat (v : Nat) {n : Nat} (h : n < 64) :
    extend v (UInt8.ofNat (n + 0x80)) = v * 64 + n := by
  have hn : (UInt8.ofNat (n + 0x80)).toNat = n + 0x80 := toNat_ofNat (by omega)
  unfold extend
  rw [hn, Nat.add_sub_cancel]

/-- What the lead byte of a character of one, two, three or four bytes promises. -/
theorem lead?_one {n : Nat} (h : n < 128) : lead? (UInt8.ofNat n) = some (n, []) := by
  have hlt : UInt8.ofNat n < 0x80 := by
    rw [UInt8.lt_iff_toNat_lt, toNat_ofNat (by omega)]
    exact h
  rw [lead?, if_pos hlt, toNat_ofNat (by omega)]

theorem lead?_two {n : Nat} (h : 2 ≤ n) (h' : n < 32) :
    lead? (UInt8.ofNat (n + 0xC0)) = some (n, [(0x80, 0xBF)]) := by
  have := (by decide : ∀ k : Fin 32, 2 ≤ k.val →
    lead? (UInt8.ofNat (k.val + 0xC0)) = some (k.val, [(0x80, 0xBF)]))
  exact this ⟨n, h'⟩ h

theorem lead?_three {n : Nat} (h : n < 16) :
    lead? (UInt8.ofNat (n + 0xE0)) = some (n,
      [(if n = 0 then 0xA0 else 0x80, if n = 0xD then 0x9F else 0xBF), (0x80, 0xBF)]) := by
  have := (by decide : ∀ k : Fin 16, lead? (UInt8.ofNat (k.val + 0xE0)) = some (k.val,
    [(if k.val = 0 then 0xA0 else 0x80, if k.val = 0xD then 0x9F else 0xBF), (0x80, 0xBF)]))
  exact this ⟨n, h⟩

theorem lead?_four {n : Nat} (h : n < 5) :
    lead? (UInt8.ofNat (n + 0xF0)) = some (n,
      [(if n = 0 then 0x90 else 0x80, if n = 4 then 0x8F else 0xBF), (0x80, 0xBF),
        (0x80, 0xBF)]) := by
  have := (by decide : ∀ k : Fin 5, lead? (UInt8.ofNat (k.val + 0xF0)) = some (k.val,
    [(if k.val = 0 then 0x90 else 0x80, if k.val = 4 then 0x8F else 0xBF), (0x80, 0xBF),
      (0x80, 0xBF)]))
  exact this ⟨n, h⟩

/-- The bytes of a character are cut off what follows them. -/
theorem pieces_utf8EncodeChar_append (c : Char) (rest : Bytes) :
    pieces (String.utf8EncodeChar c ++ rest) = .char c :: pieces rest := by
  have hc : Char.ofNat c.val.toNat = c := Char.ofNat_toNat c
  have hv : c.val.toNat < 0xD800 ∨ 0xDFFF < c.val.toNat ∧ c.val.toNat < 0x110000 := c.valid
  rw [String.utf8EncodeChar]
  generalize c.val.toNat = v at hc hv ⊢
  have hlast : Within (0x80, 0xBF) (UInt8.ofNat (v % 64 + 0x80)) :=
    within_ofNat (by simp) (by simp; omega)
  split
  case isTrue h =>
    rw [pieces_of_lead (lead?_one (by omega)) .nil, List.foldl_nil, hc]
  split
  case isTrue h =>
    rw [pieces_of_lead (lead?_two (by omega) (by omega)) (.cons hlast .nil)]
    rw [List.foldl_cons, List.foldl_nil, extend_ofNat _ (by omega)]
    rw [show v / 64 % 32 * 64 + v % 64 = v by omega, hc]
  split
  case isTrue h =>
    have hnext : Within (if v / 4096 % 16 = 0 then 0xA0 else 0x80,
        if v / 4096 % 16 = 0xD then 0x9F else 0xBF) (UInt8.ofNat (v / 64 % 64 + 0x80)) := by
      split <;> split <;> exact within_ofNat (by simp <;> omega) (by simp; omega)
    rw [pieces_of_lead (lead?_three (by omega)) (.cons hnext (.cons hlast .nil))]
    rw [List.foldl_cons, List.foldl_cons, List.foldl_nil, extend_ofNat _ (by omega),
      extend_ofNat _ (by omega)]
    rw [show (v / 4096 % 16 * 64 + v / 64 % 64) * 64 + v % 64 = v by omega, hc]
  case isFalse h =>
    have hnext : Within (if v / 262144 % 8 = 0 then 0x90 else 0x80,
        if v / 262144 % 8 = 4 then 0x8F else 0xBF) (UInt8.ofNat (v / 4096 % 64 + 0x80)) := by
      split <;> split <;> exact within_ofNat (by simp <;> omega) (by simp; omega)
    have hmid : Within (0x80, 0xBF) (UInt8.ofNat (v / 64 % 64 + 0x80)) :=
      within_ofNat (by simp) (by simp; omega)
    rw [pieces_of_lead (lead?_four (by omega)) (.cons hnext (.cons hmid (.cons hlast .nil)))]
    rw [List.foldl_cons, List.foldl_cons, List.foldl_cons, List.foldl_nil,
      extend_ofNat _ (by omega), extend_ofNat _ (by omega), extend_ofNat _ (by omega)]
    rw [show ((v / 262144 % 8 * 64 + v / 4096 % 64) * 64 + v / 64 % 64) * 64 + v % 64 = v by omega,
      hc]

/-- The pieces of the UTF-8 form of characters are these characters. -/
theorem pieces_flatMap_utf8EncodeChar :
    ∀ cs : List Char, pieces (cs.flatMap String.utf8EncodeChar) = cs.map .char
  | [] => rfl
  | c :: cs => by
    rw [List.flatMap_cons, pieces_utf8EncodeChar_append, pieces_flatMap_utf8EncodeChar cs]
    rfl

/-- The UTF-8 form of a text is well-formed. -/
theorem isValid_ofString (s : String) : isValid (Bytes.ofString s) = true := by
  have hp : pieces (Bytes.ofString s) = s.toList.map .char :=
    pieces_flatMap_utf8EncodeChar s.toList
  rw [isValid, hp, List.all_map]
  simp

/-- The UTF-8 form of a text shows the text. -/
theorem lossy_ofString (s : String) : lossy (Bytes.ofString s) = s := by
  have hp : pieces (Bytes.ofString s) = s.toList.map .char :=
    pieces_flatMap_utf8EncodeChar s.toList
  rw [lossy, hp, List.map_map]
  simp [Function.comp_def, Piece.shown]

/-- The UTF-8 form of a text reads as the text. -/
theorem decode?_ofString (s : String) : decode? (Bytes.ofString s) = some s := by
  rw [decode?, if_pos (isValid_ofString s), lossy_ofString]

/-! ## Bytes that are well-formed -/

theorem utf8EncodeChar_of_lt {c : Char} (h : c.toNat < 128) :
    String.utf8EncodeChar c = [UInt8.ofNat c.toNat] := by
  have h : c.val.toNat ≤ 0x7F := Nat.le_of_lt_succ h
  rw [String.utf8EncodeChar, if_pos h]
  rfl

theorem toNat_charOfNat {n : Nat} (h : n < 0xD800 ∨ 0xDFFF < n ∧ n < 0x110000) :
    (Char.ofNat n).val.toNat = n := by
  have hv : n.isValidChar := h
  rw [Char.ofNat, dif_pos hv]
  rfl

theorem ofNat_eq {n : Nat} {b : UInt8} (h : n = b.toNat) : UInt8.ofNat n = b := by
  rw [h, UInt8.ofNat_toNat]

theorem Within.bounds {lo hi b : UInt8} (h : Within (lo, hi) b) :
    lo.toNat ≤ b.toNat ∧ b.toNat ≤ hi.toNat :=
  ⟨UInt8.le_iff_toNat_le.mp h.1, UInt8.le_iff_toNat_le.mp h.2⟩

theorem utf8EncodeChar_one {b : UInt8} (hb : b.toNat < 0x80) :
    String.utf8EncodeChar (Char.ofNat b.toNat) = [b] := by
  rw [String.utf8EncodeChar, toNat_charOfNat (by omega), if_pos (by omega), ofNat_eq rfl]

theorem utf8EncodeChar_two {b x : UInt8} {v : Nat} (hv : v + 0xC0 = b.toNat) (hlow : 2 ≤ v)
    (hhigh : v < 32) (hx : Within (0x80, 0xBF) x) :
    String.utf8EncodeChar (Char.ofNat (extend v x)) = [b, x] := by
  have hx : 0x80 ≤ x.toNat ∧ x.toNat ≤ 0xBF := hx.bounds
  unfold extend
  rw [String.utf8EncodeChar, toNat_charOfNat (by omega), if_neg (by omega), if_pos (by omega),
    ofNat_eq (show _ = b.toNat by omega), ofNat_eq (show _ = x.toNat by omega)]

theorem utf8EncodeChar_three {b x y : UInt8} {v : Nat} (hv : v + 0xE0 = b.toNat) (hhigh : v < 16)
    (hx : Within (if v = 0 then 0xA0 else 0x80, if v = 0xD then 0x9F else 0xBF) x)
    (hy : Within (0x80, 0xBF) y) :
    String.utf8EncodeChar (Char.ofNat (extend (extend v x) y)) = [b, x, y] := by
  have hx : 0x80 ≤ x.toNat ∧ x.toNat ≤ 0xBF ∧ (v = 0 → 0xA0 ≤ x.toNat) ∧
      (v = 0xD → x.toNat ≤ 0x9F) := by
    have := hx.bounds
    split at this <;> split at this <;> simp at this <;> omega
  have hy : 0x80 ≤ y.toNat ∧ y.toNat ≤ 0xBF := hy.bounds
  unfold extend
  rw [String.utf8EncodeChar, toNat_charOfNat (by omega), if_neg (by omega), if_neg (by omega),
    if_pos (by omega), ofNat_eq (show _ = b.toNat by omega), ofNat_eq (show _ = x.toNat by omega),
    ofNat_eq (show _ = y.toNat by omega)]

theorem utf8EncodeChar_four {b x y z : UInt8} {v : Nat} (hv : v + 0xF0 = b.toNat) (hhigh : v < 5)
    (hx : Within (if v = 0 then 0x90 else 0x80, if v = 4 then 0x8F else 0xBF) x)
    (hy : Within (0x80, 0xBF) y) (hz : Within (0x80, 0xBF) z) :
    String.utf8EncodeChar (Char.ofNat (extend (extend (extend v x) y) z)) = [b, x, y, z] := by
  have hx : 0x80 ≤ x.toNat ∧ x.toNat ≤ 0xBF ∧ (v = 0 → 0x90 ≤ x.toNat) ∧
      (v = 4 → x.toNat ≤ 0x8F) := by
    have := hx.bounds
    split at this <;> split at this <;> simp at this <;> omega
  have hy : 0x80 ≤ y.toNat ∧ y.toNat ≤ 0xBF := hy.bounds
  have hz : 0x80 ≤ z.toNat ∧ z.toNat ≤ 0xBF := hz.bounds
  unfold extend
  rw [String.utf8EncodeChar, toNat_charOfNat (by omega), if_neg (by omega), if_neg (by omega),
    if_neg (by omega), ofNat_eq (show _ = b.toNat by omega), ofNat_eq (show _ = x.toNat by omega),
    ofNat_eq (show _ = y.toNat by omega), ofNat_eq (show _ = z.toNat by omega)]

/-- The lead bytes of characters by the lengths of the characters. -/
theorem lead?_cases {b : UInt8} {v : Nat} {ranges : List (UInt8 × UInt8)}
    (h : lead? b = some (v, ranges)) :
    (v = b.toNat ∧ v < 0x80 ∧ ranges = []) ∨
    (v + 0xC0 = b.toNat ∧ 2 ≤ v ∧ v < 32 ∧ ranges = [(0x80, 0xBF)]) ∨
    (v + 0xE0 = b.toNat ∧ v < 16 ∧ ranges =
      [(if v = 0 then 0xA0 else 0x80, if v = 0xD then 0x9F else 0xBF), (0x80, 0xBF)]) ∨
    (v + 0xF0 = b.toNat ∧ v < 5 ∧ ranges =
      [(if v = 0 then 0x90 else 0x80, if v = 4 then 0x8F else 0xBF), (0x80, 0xBF),
        (0x80, 0xBF)]) := by
  have htable : ∀ n : Fin 256, ∀ p ∈ lead? (UInt8.ofNat n),
      (p.1 = n.val ∧ p.1 < 0x80 ∧ p.2 = []) ∨
      (p.1 + 0xC0 = n.val ∧ 2 ≤ p.1 ∧ p.1 < 32 ∧ p.2 = [(0x80, 0xBF)]) ∨
      (p.1 + 0xE0 = n.val ∧ p.1 < 16 ∧ p.2 =
        [(if p.1 = 0 then 0xA0 else 0x80, if p.1 = 0xD then 0x9F else 0xBF), (0x80, 0xBF)]) ∨
      (p.1 + 0xF0 = n.val ∧ p.1 < 5 ∧ p.2 =
        [(if p.1 = 0 then 0x90 else 0x80, if p.1 = 4 then 0x8F else 0xBF), (0x80, 0xBF),
          (0x80, 0xBF)]) := by
    decide +kernel
  refine htable ⟨b.toNat, b.toNat_lt⟩ (v, ranges) ?_
  rw [UInt8.ofNat_toNat, h]
  rfl

/-- A lead byte and the bytes that it promises are the UTF-8 form of the character they make up. -/
theorem utf8EncodeChar_of_lead {b : UInt8} {v : Nat} {ranges : List (UInt8 × UInt8)} {bs : Bytes}
    (h : lead? b = some (v, ranges)) (hbs : List.Forall₂ Within ranges bs) :
    String.utf8EncodeChar (Char.ofNat (bs.foldl extend v)) = b :: bs := by
  rcases lead?_cases h with ⟨rfl, hlt, rfl⟩ | ⟨hv, hlow, hhigh, rfl⟩ | ⟨hv, hhigh, rfl⟩ |
    ⟨hv, hhigh, rfl⟩
  · cases hbs
    exact utf8EncodeChar_one hlt
  · obtain _ | ⟨hx, _ | _⟩ := hbs
    exact utf8EncodeChar_two hv hlow hhigh hx
  · obtain _ | ⟨hx, _ | ⟨hy, _ | _⟩⟩ := hbs
    exact utf8EncodeChar_three hv hhigh hx hy
  · obtain _ | ⟨hx, _ | ⟨hy, _ | ⟨hz, _ | _⟩⟩⟩ := hbs
    exact utf8EncodeChar_four hv hhigh hx hy hz

/-- Unless the character is broken, the bytes that it awaits come next. -/
theorem exists_awaited : ∀ {ranges : List (UInt8 × UInt8)} {bs seen : Bytes} {v : Nat},
    ranges ≠ [] → (∀ x, .broken x ∉ piecesFrom [] ⟨seen, v, ranges⟩ bs) →
    ∃ ts rest, bs = ts ++ rest ∧ List.Forall₂ Within ranges ts
  | [], _, _, _, hne, _ => absurd rfl hne
  | range :: ranges, [], seen, v, _, h => absurd (List.mem_singleton.mpr rfl) (h seen)
  | range :: ranges, b :: bs, seen, v, _, h => by
    rw [piecesFrom_cons] at h
    by_cases hb : Within range b
    · cases ranges with
      | nil => exact ⟨[b], bs, rfl, .cons hb .nil⟩
      | cons next ranges =>
        rw [feed_inner hb] at h
        obtain ⟨ts, rest, rfl, hts⟩ := exists_awaited (List.cons_ne_nil next ranges) h
        exact ⟨b :: ts, rest, rfl, .cons hb hts⟩
    · have hbroken : .broken seen ∈ (Partial.feed ⟨seen, v, range :: ranges⟩ b).2 := by
        obtain ⟨lo, hi⟩ := range
        have hb : ¬(lo ≤ b ∧ b ≤ hi) := hb
        simp only [Partial.feed, hb, if_false]
        exact List.mem_cons_self
      exact absurd (List.mem_append_left _ hbroken) (h seen)

/-- Unless the first character is broken, its lead byte promises what comes next. -/
theorem exists_lead {b : UInt8} {bs : Bytes} (h : ∀ x, .broken x ∉ pieces (b :: bs)) :
    ∃ v ranges ts rest, lead? b = some (v, ranges) ∧ bs = ts ++ rest ∧
      List.Forall₂ Within ranges ts := by
  rw [pieces, piecesFrom_cons] at h
  obtain ⟨v, ranges, hlead⟩ : ∃ v ranges, lead? b = some (v, ranges) := by
    cases hlead : lead? b with
    | none =>
      have hbroken : .broken [b] ∈ (Partial.feed {} b).2 := by
        simp only [Partial.feed, Partial.begin, hlead]
        exact List.mem_singleton.mpr rfl
      exact absurd (List.mem_append_left _ hbroken) (h [b])
    | some p => exact ⟨p.1, p.2, rfl⟩
  cases ranges with
  | nil => exact ⟨v, [], [], bs, hlead, rfl, .nil⟩
  | cons range ranges =>
    have hfeed : Partial.feed {} b = (⟨[b], v, range :: ranges⟩, []) := by
      simp only [Partial.feed, Partial.begin, hlead]
    rw [hfeed] at h
    obtain ⟨ts, rest, heq, hts⟩ := exists_awaited (List.cons_ne_nil range ranges) h
    exact ⟨v, range :: ranges, ts, rest, hlead, heq, hts⟩

/-- Unless the first character is broken, the bytes begin with its UTF-8 form. -/
theorem exists_char {b : UInt8} {bs : Bytes} (h : ∀ x, .broken x ∉ pieces (b :: bs)) :
    ∃ c rest, b :: bs = String.utf8EncodeChar c ++ rest := by
  obtain ⟨v, ranges, ts, rest, hlead, rfl, hts⟩ := exists_lead h
  refine ⟨Char.ofNat (ts.foldl extend v), rest, ?_⟩
  rw [utf8EncodeChar_of_lead hlead hts]
  rfl

/-- Bytes without broken pieces are the UTF-8 form of characters. -/
theorem exists_chars (bs : Bytes) (h : ∀ x, .broken x ∉ pieces bs) :
    ∃ cs : List Char, bs = cs.flatMap String.utf8EncodeChar := by
  match bs with
  | [] => exact ⟨[], rfl⟩
  | b :: bs =>
    obtain ⟨c, rest, heq⟩ := exists_char h
    rw [heq, pieces_utf8EncodeChar_append] at h
    have hpos : 0 < (String.utf8EncodeChar c).length := by
      rw [String.length_utf8EncodeChar]
      exact c.utf8Size_pos
    have hlen : rest.length < (b :: bs).length := by
      rw [heq, List.length_append]
      omega
    obtain ⟨cs, rfl⟩ := exists_chars rest fun x hx => h x (List.mem_cons_of_mem _ hx)
    exact ⟨c :: cs, heq⟩
termination_by bs.length
decreasing_by
  simp only [List.length_cons] at hlen ⊢
  omega

/-- Bytes that read as a text are its UTF-8 form. -/
theorem ofString_of_decode? {bs : Bytes} {s : String} (h : decode? bs = some s) :
    bs = Bytes.ofString s := by
  by_cases hv : isValid bs = true
  · have hchar : ∀ x, .broken x ∉ pieces bs := by
      intro x hx
      have := List.all_eq_true.mp hv _ hx
      cases this
    obtain ⟨cs, rfl⟩ := exists_chars bs hchar
    have hcs : cs.flatMap String.utf8EncodeChar = Bytes.ofString (String.ofList cs) := by
      rw [Bytes.ofString, String.toList_ofList]
    rw [hcs, decode?_ofString] at h
    rw [hcs, Option.some.inj h]
  · rw [decode?, if_neg hv] at h
    cases h

/-! ## The bytes of a character -/

/-- A byte that goes on with a character. -/
def Continues (b : UInt8) : Prop := Within (0x80, 0xBF) b

theorem continues_ofNat (n : Nat) : Continues (UInt8.ofNat (n % 64 + 0x80)) :=
  within_ofNat (by simp) (by simp; omega)

theorem not_continues_ofNat {n : Nat} (h : n < 256) (hn : n < 0x80 ∨ 0xBF < n) :
    ¬Continues (UInt8.ofNat n) := by
  intro hc
  have := hc.bounds
  rw [toNat_ofNat h] at this
  simp at this
  omega

/-- The first byte of a character goes on with none, and the others do. -/
theorem exists_utf8EncodeChar (c : Char) : ∃ b bs, String.utf8EncodeChar c = b :: bs ∧
    ¬Continues b ∧ ∀ x ∈ bs, Continues x := by
  have hv : c.val.toNat < 0xD800 ∨ 0xDFFF < c.val.toNat ∧ c.val.toNat < 0x110000 := c.valid
  have hcons (n : Nat) {bs : Bytes} (h : ∀ x ∈ bs, Continues x) :
      ∀ x ∈ UInt8.ofNat (n % 64 + 0x80) :: bs, Continues x :=
    List.forall_mem_cons.mpr ⟨continues_ofNat n, h⟩
  have hnil : ∀ x ∈ ([] : Bytes), Continues x := by simp
  rw [String.utf8EncodeChar]
  generalize c.val.toNat = v at hv ⊢
  split
  · exact ⟨_, _, rfl, not_continues_ofNat (by omega) (by omega), hnil⟩
  split
  · exact ⟨_, _, rfl, not_continues_ofNat (by omega) (by omega), hcons _ hnil⟩
  split
  · exact ⟨_, _, rfl, not_continues_ofNat (by omega) (by omega), hcons _ (hcons _ hnil)⟩
  · exact ⟨_, _, rfl, not_continues_ofNat (by omega) (by omega),
      hcons _ (hcons _ (hcons _ hnil))⟩

/-- A character is cut off by its bytes alone. -/
theorem eq_of_utf8EncodeChar_append {c d : Char} {bs cs : Bytes}
    (h : String.utf8EncodeChar c ++ bs = String.utf8EncodeChar d ++ cs) : c = d ∧ bs = cs := by
  have hpieces := congrArg pieces h
  rw [pieces_utf8EncodeChar_append, pieces_utf8EncodeChar_append] at hpieces
  obtain rfl : c = d := Piece.char.inj (List.cons.inj hpieces).1
  exact ⟨rfl, List.append_cancel_left h⟩

/-- A byte below 128 is a character of its own: it is no part of a longer one. -/
theorem eq_of_mem_utf8EncodeChar {b : UInt8} {c : Char} (hb : b.toNat < 0x80)
    (h : b ∈ String.utf8EncodeChar c) : c = Char.ofNat b.toNat := by
  obtain ⟨first, others, heq, -, hothers⟩ := exists_utf8EncodeChar c
  rw [heq] at h
  rcases List.mem_cons.mp h with rfl | hmem
  · have hbytes : String.utf8EncodeChar c ++ [] =
        String.utf8EncodeChar (Char.ofNat b.toNat) ++ others := by
      rw [heq, utf8EncodeChar_one hb, List.append_nil]
      rfl
    exact (eq_of_utf8EncodeChar_append hbytes).1
  · have := (hothers b hmem).bounds
    simp at this
    omega

end LintDispatch.Utf8
