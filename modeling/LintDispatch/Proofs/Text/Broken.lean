import LintDispatch.Proofs.Text.Utf8
import Mathlib.Algebra.Ring.Int.Defs

/-!
# Broken stretches
Bytes fall into characters and broken stretches, and `Utf8.Cuts` says how without a decoder. Where a
character begins, it is cut off. Anywhere else the longest start of a character is cut off as
broken, or a single byte if it starts none. Bytes can be cut in one way only, and that is the way of
the decoder (`cuts_iff`).

A broken stretch has at most three bytes, and it is shown as one character of three bytes. So the
text that bytes are shown as is longer than the bytes, by what each of their broken stretches is
short of three (`utf8ByteSize_lossy`).
-/

namespace LintDispatch

namespace Utf8

/-- The bytes are the start of a character, or a whole one. -/
def Starts (bs : Bytes) : Prop := ∃ c, bs <+: String.utf8EncodeChar c

/-- Where `x` and then `rest` follow, `x` is a maximal ill-formed stretch. -/
structure Breaks (x rest : Bytes) : Prop where
  ne_nil : x ≠ []
  /-- No character begins here. -/
  no_char : ∀ c, ¬String.utf8EncodeChar c <+: x ++ rest
  starts : Starts x ∨ x.length = 1
  /-- No longer start of a character does. -/
  longest : ∀ y, y <+: x ++ rest → Starts y → y.length ≤ x.length

/-- The bytes are cut into these pieces. -/
inductive Cuts : Bytes → List Piece → Prop
  | nil : Cuts [] []
  | char {bs : Bytes} {ps : List Piece} (c : Char) (cuts : Cuts bs ps) :
      Cuts (String.utf8EncodeChar c ++ bs) (.char c :: ps)
  | broken {x bs : Bytes} {ps : List Piece} (breaks : Breaks x bs) (cuts : Cuts bs ps) :
      Cuts (x ++ bs) (.broken x :: ps)

/-! ## There is one cut -/

/-- A maximal stretch is no longer than another one at the same place. -/
theorem Breaks.length_le {x y rest rest' : Bytes} (hx : Breaks x rest) (hy : Breaks y rest')
    (heq : x ++ rest = y ++ rest') : x.length ≤ y.length := by
  rcases hx.starts with hstarts | hone
  · exact hy.longest x (heq ▸ List.prefix_append x rest) hstarts
  · rw [hone]
    exact List.length_pos_iff.mpr hy.ne_nil

theorem Cuts.unique {bs : Bytes} {ps : List Piece} (h : Cuts bs ps) :
    ∀ {qs : List Piece}, Cuts bs qs → qs = ps := by
  induction h with
  | nil =>
    intro qs h'
    generalize hbs : ([] : Bytes) = bs at h'
    cases h' with
    | nil => rfl
    | char c => exact absurd hbs.symm (by simp)
    | broken breaks => exact absurd hbs.symm (by simp [breaks.ne_nil])
  | @char bs ps c _ ih =>
    intro qs h'
    generalize hbs : String.utf8EncodeChar c ++ bs = bs' at h'
    cases h' with
    | nil => exact absurd hbs (by simp)
    | char c' cuts' =>
      obtain ⟨rfl, rfl⟩ := eq_of_utf8EncodeChar_append hbs
      rw [ih cuts']
    | broken breaks => exact absurd (hbs ▸ List.prefix_append _ bs) (breaks.no_char c)
  | @broken x bs ps breaks _ ih =>
    intro qs h'
    generalize hbs : x ++ bs = bs' at h'
    cases h' with
    | nil => exact absurd hbs (by simp [breaks.ne_nil])
    | char c => exact absurd (hbs ▸ List.prefix_append _ _) (breaks.no_char c)
    | broken breaks' cuts' =>
      have hlength := Nat.le_antisymm (breaks.length_le breaks' hbs)
        (breaks'.length_le breaks hbs.symm)
      obtain ⟨rfl, rfl⟩ := List.append_inj hbs hlength
      rw [ih cuts']

/-! ## The cut of the decoder -/

/-- A lead byte promises bytes that there are. -/
theorem le_of_lead {b : UInt8} {v : Nat} {ranges : List (UInt8 × UInt8)}
    (h : lead? b = some (v, ranges)) : ∀ range ∈ ranges, range.1 ≤ range.2 := by
  have hlater : (0x80 : UInt8) ≤ 0xBF := by decide
  rcases lead?_cases h with ⟨-, -, rfl⟩ | ⟨-, -, -, rfl⟩ | ⟨-, -, rfl⟩ | ⟨-, -, rfl⟩
  · exact List.forall_mem_nil _
  · exact List.forall_mem_singleton.mpr hlater
  · refine List.forall_mem_cons.mpr ⟨?_, List.forall_mem_singleton.mpr hlater⟩
    by_cases hlow : v = 0
    · subst hlow
      decide
    · rw [if_neg hlow]
      split <;> decide
  · refine List.forall_mem_cons.mpr ⟨?_, List.forall_mem_cons.mpr
      ⟨hlater, List.forall_mem_singleton.mpr hlater⟩⟩
    by_cases hlow : v = 0
    · subst hlow
      decide
    · rw [if_neg hlow]
      split <;> decide

/-- A character is its lead byte and the bytes that it promises. -/
theorem exists_lead_of_char (c : Char) : ∃ b v ranges ts,
    String.utf8EncodeChar c = b :: ts ∧ lead? b = some (v, ranges) ∧
      List.Forall₂ Within ranges ts := by
  obtain ⟨b, bs, hc, -⟩ := exists_utf8EncodeChar c
  have hpieces : pieces (b :: bs) = [.char c] := by
    have := pieces_utf8EncodeChar_append c []
    rwa [List.append_nil, hc] at this
  have hwhole : ∀ x, .broken x ∉ pieces (b :: bs) := by simp [hpieces]
  obtain ⟨v, ranges, ts, rest, hlead, rfl, hts⟩ := exists_lead hwhole
  -- the bytes promised are a character on their own, so nothing comes after them
  have heq : String.utf8EncodeChar (Char.ofNat (ts.foldl extend v)) ++ rest =
      String.utf8EncodeChar c ++ [] := by
    rw [utf8EncodeChar_of_lead hlead hts, hc, List.append_nil, List.cons_append]
  obtain ⟨-, rfl⟩ := eq_of_utf8EncodeChar_append heq
  exact ⟨b, v, ranges, ts, by rw [hc, List.append_nil], hlead, hts⟩

/-- The start of a character is a lead byte and some of the bytes that it promises. -/
theorem Starts.exists_lead {b : UInt8} {y : Bytes} (h : Starts (b :: y)) :
    ∃ v ranges, lead? b = some (v, ranges) ∧ y.length ≤ ranges.length ∧
      List.Forall₂ Within (ranges.take y.length) y := by
  obtain ⟨c, more, hc⟩ := h
  obtain ⟨b', v, ranges, ts, hc', hlead, hts⟩ := exists_lead_of_char c
  obtain ⟨rfl, rfl⟩ : b = b' ∧ y ++ more = ts := by simpa using hc.trans hc'
  refine ⟨v, ranges, hlead, ?_, List.forall₂_take_append _ _ _ hts⟩
  rw [hts.length_eq, List.length_append]
  exact Nat.le_add_right _ _

theorem starts_of_lead {b : UInt8} {v : Nat} {seen awaited : List (UInt8 × UInt8)} {ts : Bytes}
    (h : lead? b = some (v, seen ++ awaited)) (hts : List.Forall₂ Within seen ts) :
    Starts (b :: ts) := by
  have hrest : List.Forall₂ Within awaited (awaited.map Prod.fst) := by
    rw [List.forall₂_map_right_iff, List.forall₂_same]
    exact fun range hrange => ⟨UInt8.le_refl _, le_of_lead h range (List.mem_append_right _ hrange)⟩
  refine ⟨Char.ofNat ((ts ++ awaited.map Prod.fst).foldl extend v), ?_⟩
  rw [utf8EncodeChar_of_lead h (List.rel_append hts hrest), ← List.cons_append]
  exact List.prefix_append _ _

/-- As many bytes as there are come as promised: all of them, or those before the first one that
does not. -/
theorem exists_promised : ∀ (ranges : List (UInt8 × UInt8)) (bs : Bytes), ∃ ts rest,
    bs = ts ++ rest ∧ (List.Forall₂ Within ranges ts ∨ ∃ seen next more,
      ranges = seen ++ next :: more ∧ List.Forall₂ Within seen ts ∧
        ∀ b ∈ rest.head?, ¬Within next b)
  | [], bs => ⟨[], bs, rfl, Or.inl .nil⟩
  | range :: ranges, [] => ⟨[], [], rfl, Or.inr ⟨[], range, ranges, rfl, .nil, by simp⟩⟩
  | range :: ranges, b :: bs => by
    by_cases hb : Within range b
    · obtain ⟨ts, rest, rfl, hall | ⟨seen, next, more, rfl, hts, hrest⟩⟩ :=
        exists_promised ranges bs
      · exact ⟨b :: ts, rest, rfl, Or.inl (.cons hb hall)⟩
      · exact ⟨b :: ts, rest, rfl, Or.inr ⟨range :: seen, next, more, rfl, .cons hb hts, hrest⟩⟩
    · exact ⟨[], b :: bs, rfl, Or.inr ⟨[], range, ranges, rfl, .nil, by simpa using hb⟩⟩

/-- A character that is not completed is broken, and the next byte starts afresh. -/
theorem piecesFrom_stopped {next : UInt8 × UInt8} {rest : Bytes}
    (hrest : ∀ b ∈ rest.head?, ¬Within next b) (more : List (UInt8 × UInt8)) :
    ∀ {seen : List (UInt8 × UInt8)} {ts : Bytes} (before : Bytes) (v : Nat),
      List.Forall₂ Within seen ts →
      piecesFrom [] ⟨before, v, seen ++ next :: more⟩ (ts ++ rest) =
        .broken (before ++ ts) :: pieces rest
  | [], _, before, v, .nil => by
    rw [List.nil_append, List.nil_append, List.append_nil]
    cases rest with
    | nil => rfl
    | cons b bs =>
      obtain ⟨lo, hi⟩ := next
      have hb : ¬(lo ≤ b ∧ b ≤ hi) := hrest b rfl
      have hfeed : Partial.feed ⟨before, v, (lo, hi) :: more⟩ b =
          ((Partial.begin b).1, .broken before :: (Partial.begin b).2) := by
        simp only [Partial.feed, hb, if_false]
      rw [pieces, piecesFrom_cons, piecesFrom_cons, hfeed]
      rfl
  | range :: seen, b :: ts, before, v, .cons hb hts => by
    obtain ⟨range', ranges, hranges⟩ :
        ∃ range' ranges, seen ++ next :: more = range' :: ranges := by
      cases seen <;> simp
    have ih := piecesFrom_stopped hrest more (before ++ [b]) (extend v b) hts
    rw [hranges] at ih
    rw [List.cons_append, List.cons_append, piecesFrom_cons, hranges, feed_inner hb, ih,
      List.append_assoc]
    rfl

/-- Of bytes that come as promised, the one after those that are there is the next one promised. -/
theorem within_next {next : UInt8 × UInt8} {seen more : List (UInt8 × UInt8)} {ts bs : Bytes}
    {b : UInt8} (hlength : seen.length = ts.length)
    (h : List.Forall₂ Within ((seen ++ next :: more).take (ts ++ b :: bs).length) (ts ++ b :: bs)) :
    Within next b := by
  have htake : (seen ++ next :: more).take (ts ++ b :: bs).length =
      seen ++ next :: more.take bs.length := by
    rw [List.length_append, ← hlength, List.take_length_add_append]
    rfl
  rw [htake] at h
  have hdrop := List.forall₂_drop_append _ _ _ h
  rw [← hlength, List.drop_left] at hdrop
  cases hdrop with
  | cons hb _ => exact hb

/-- Where a lead byte is not followed by all that it promises, no start of a character goes beyond
those of the bytes promised that do come. -/
theorem length_le_of_stopped {b : UInt8} {v : Nat} {next : UInt8 × UInt8}
    {seen more : List (UInt8 × UInt8)} {ts rest y : Bytes}
    (h : lead? b = some (v, seen ++ next :: more)) (hlength : seen.length = ts.length)
    (hrest : ∀ b ∈ rest.head?, ¬Within next b) (hyrest : y <+: b :: ts ++ rest)
    (hstarts : Starts y) : y.length ≤ (b :: ts).length := by
  obtain _ | ⟨b', y⟩ := y
  · exact Nat.zero_le _
  obtain ⟨rfl, hy⟩ := List.cons_prefix_cons.mp hyrest
  obtain ⟨v', ranges, hlead, -, hwithin⟩ := hstarts.exists_lead
  obtain ⟨-, rfl⟩ : v = v' ∧ seen ++ next :: more = ranges := by simpa using h.symm.trans hlead
  by_contra hlong
  replace hlong : ts.length < y.length := by simpa using hlong
  -- the byte after `ts` would be the one that does not come as promised
  obtain ⟨y', rfl⟩ : ts <+: y :=
    List.prefix_of_prefix_length_le (List.prefix_append ts rest) hy (Nat.le_of_lt hlong)
  obtain _ | ⟨b'', y''⟩ := y'
  · simp at hlong
  have hhead : rest.head? = some b'' := by
    obtain ⟨after, hafter⟩ := (List.prefix_append_right_inj ts).mp hy
    rw [← hafter]
    rfl
  exact hrest b'' hhead (within_next hlength hwithin)

/-- Where a lead byte is not followed by all that it promises, it is broken together with those of
the bytes promised that do come. -/
theorem breaks_of_stopped {b : UInt8} {v : Nat} {next : UInt8 × UInt8}
    {seen more : List (UInt8 × UInt8)} {ts rest : Bytes}
    (h : lead? b = some (v, seen ++ next :: more)) (hts : List.Forall₂ Within seen ts)
    (hrest : ∀ b ∈ rest.head?, ¬Within next b) : Breaks (b :: ts) rest := by
  have hlongest : ∀ y, y <+: b :: ts ++ rest → Starts y → y.length ≤ (b :: ts).length :=
    fun _ => length_le_of_stopped h hts.length_eq hrest
  refine ⟨List.cons_ne_nil _ _, fun c hc => ?_, Or.inl (starts_of_lead h hts), hlongest⟩
  -- a character that begins here would be longer than what is broken
  obtain ⟨b', v', ranges, ts', hchar, hlead, hts'⟩ := exists_lead_of_char c
  rw [hchar] at hc
  obtain ⟨rfl, -⟩ := List.cons_prefix_cons.mp hc
  obtain ⟨-, rfl⟩ : v = v' ∧ seen ++ next :: more = ranges := by simpa using h.symm.trans hlead
  have hle := hlongest _ hc ⟨c, hchar ▸ List.prefix_rfl⟩
  have hseen := hts.length_eq
  have hall := hts'.length_eq
  simp only [List.length_append, List.length_cons] at hle hall
  omega

/-- A byte that starts no character is broken on its own. -/
theorem breaks_of_lead_eq_none {b : UInt8} (h : lead? b = none) (rest : Bytes) :
    Breaks [b] rest := by
  have hnone : ∀ y, ¬Starts (b :: y) := by
    intro y hy
    obtain ⟨v, ranges, hlead, -⟩ := hy.exists_lead
    simp [h] at hlead
  refine ⟨List.cons_ne_nil _ _, fun c hc => ?_, Or.inr rfl, fun y hy hstarts => ?_⟩
  · obtain ⟨b', bs, hchar, -⟩ := exists_utf8EncodeChar c
    rw [hchar] at hc
    obtain ⟨rfl, -⟩ := List.cons_prefix_cons.mp hc
    exact hnone bs ⟨c, hchar ▸ List.prefix_rfl⟩
  · obtain _ | ⟨b', y⟩ := y
    · simp
    obtain ⟨rfl, -⟩ := List.cons_prefix_cons.mp hy
    exact absurd hstarts (hnone y)

/-- The first piece of the decoder is the one to be cut off. -/
theorem pieces_cons_cases (b : UInt8) (bs : Bytes) :
    (∃ c rest, b :: bs = String.utf8EncodeChar c ++ rest ∧
        pieces (b :: bs) = .char c :: pieces rest) ∨
      ∃ x rest, b :: bs = x ++ rest ∧ Breaks x rest ∧
        pieces (b :: bs) = .broken x :: pieces rest := by
  cases hlead : lead? b with
  | none =>
    refine Or.inr ⟨[b], bs, rfl, breaks_of_lead_eq_none hlead bs, ?_⟩
    have hfeed : Partial.feed {} b = ({}, [.broken [b]]) := by
      simp only [Partial.feed, Partial.begin, hlead]
    rw [pieces, piecesFrom_cons, hfeed]
    rfl
  | some p =>
    obtain ⟨v, ranges⟩ := p
    obtain ⟨ts, rest, rfl, hall | ⟨seen, next, more, rfl, hts, hrest⟩⟩ := exists_promised ranges bs
    · refine Or.inl ⟨_, rest, ?_, pieces_of_lead hlead hall rest⟩
      rw [utf8EncodeChar_of_lead hlead hall]
      rfl
    · refine Or.inr ⟨b :: ts, rest, rfl, breaks_of_stopped hlead hts hrest, ?_⟩
      obtain ⟨range, ranges, hranges⟩ : ∃ range ranges, seen ++ next :: more = range :: ranges := by
        cases seen <;> simp
      have hfeed : Partial.feed {} b = (⟨[b], v, seen ++ next :: more⟩, []) := by
        simp only [Partial.feed, Partial.begin, hlead, hranges]
      rw [pieces, piecesFrom_cons, hfeed]
      exact piecesFrom_stopped hrest more [b] v hts

/-- A piece leaves fewer bytes than there were. -/
theorem length_rest_le {b : UInt8} {bs x rest : Bytes} (hx : x ≠ []) (h : b :: bs = x ++ rest) :
    rest.length ≤ bs.length := by
  have hpos := List.length_pos_iff.mpr hx
  have hlength := congrArg List.length h
  rw [List.length_cons, List.length_append] at hlength
  omega

/-- The decoder cuts bytes as they are to be cut. -/
theorem cuts_pieces (bs : Bytes) : Cuts bs (pieces bs) := by
  match bs with
  | [] => exact .nil
  | b :: bs =>
    rcases pieces_cons_cases b bs with ⟨c, rest, heq, hpieces⟩ | ⟨x, rest, heq, hbreaks, hpieces⟩
    · have hrest := length_rest_le String.utf8EncodeChar_ne_nil heq
      rw [hpieces, heq]
      exact .char c (cuts_pieces rest)
    · have hrest := length_rest_le hbreaks.ne_nil heq
      rw [hpieces, heq]
      exact .broken hbreaks (cuts_pieces rest)
termination_by bs.length

/-- There is one cut, and it is that of the decoder. -/
theorem cuts_iff {bs : Bytes} {ps : List Piece} : Cuts bs ps ↔ ps = pieces bs :=
  ⟨(cuts_pieces bs).unique, fun h => h ▸ cuts_pieces bs⟩

/-! ## The length of what is shown -/

/-- The bytes of a broken piece. -/
def Piece.broken? : Piece → Option Bytes
  | .char _ => none
  | .broken x => some x

/-- The maximal ill-formed stretches of the bytes, in order. -/
def brokenStretches (bs : Bytes) : List Bytes := (pieces bs).filterMap Piece.broken?

/-- What broken stretches are short of three bytes each. -/
def shortfall (xs : List Bytes) : Int := (xs.map fun x => 3 - (x.length : Int)).sum

@[simp] theorem shortfall_nil : shortfall [] = 0 := rfl

@[simp] theorem shortfall_cons (x : Bytes) (xs : List Bytes) :
    shortfall (x :: xs) = 3 - x.length + shortfall xs := rfl

@[simp] theorem shortfall_append (xs ys : List Bytes) :
    shortfall (xs ++ ys) = shortfall xs + shortfall ys := by
  rw [shortfall, List.map_append, List.sum_append]
  rfl

/-- A broken stretch is no whole character, so three bytes are the most it can have. -/
theorem Breaks.length_le_three {x rest : Bytes} (h : Breaks x rest) : x.length ≤ 3 := by
  rcases h.starts with ⟨c, more, hc⟩ | hone
  · have hmore : more ≠ [] := by
      rintro rfl
      refine h.no_char c ?_
      rw [← hc, List.append_nil]
      exact List.prefix_append _ _
    have hpos := List.length_pos_iff.mpr hmore
    have hlength := congrArg List.length hc
    rw [List.length_append, String.length_utf8EncodeChar] at hlength
    have := c.utf8Size_le_four
    omega
  · omega

theorem Cuts.shortfall_nonneg {bs : Bytes} {ps : List Piece} (h : Cuts bs ps) :
    0 ≤ shortfall (ps.filterMap Piece.broken?) := by
  induction h with
  | nil => simp
  | char c _ ih => exact ih
  | broken breaks _ ih =>
    have := breaks.length_le_three
    simp only [List.filterMap_cons, Piece.broken?, shortfall_cons]
    omega

theorem Cuts.utf8ByteSize_shown {bs : Bytes} {ps : List Piece} (h : Cuts bs ps) :
    ((String.ofList (ps.map Piece.shown)).utf8ByteSize : Int) =
      bs.length + shortfall (ps.filterMap Piece.broken?) := by
  induction h with
  | nil => rfl
  | @char bs ps c _ ih =>
    have hsize : (String.ofList ((Piece.char c :: ps).map Piece.shown)).utf8ByteSize =
        c.utf8Size + (String.ofList (ps.map Piece.shown)).utf8ByteSize := by
      rw [List.map_cons, String.ofList_cons, String.utf8ByteSize_append]
      simp [Piece.shown]
    rw [hsize, List.length_append, String.length_utf8EncodeChar]
    simp only [List.filterMap_cons, Piece.broken?]
    push_cast
    omega
  | @broken x bs ps _ _ ih =>
    have hsize : (String.ofList ((Piece.broken x :: ps).map Piece.shown)).utf8ByteSize =
        3 + (String.ofList (ps.map Piece.shown)).utf8ByteSize := by
      rw [List.map_cons, String.ofList_cons, String.utf8ByteSize_append]
      rfl
    rw [hsize, List.length_append]
    simp only [List.filterMap_cons, Piece.broken?, shortfall_cons]
    push_cast
    omega

/-- The text that bytes are shown as is longer by the shortfall of their broken stretches. -/
theorem utf8ByteSize_lossy (bs : Bytes) :
    ((lossy bs).utf8ByteSize : Int) = bs.length + shortfall (brokenStretches bs) :=
  (cuts_pieces bs).utf8ByteSize_shown

theorem shortfall_brokenStretches_nonneg (bs : Bytes) : 0 ≤ shortfall (brokenStretches bs) :=
  (cuts_pieces bs).shortfall_nonneg

end Utf8

end LintDispatch
