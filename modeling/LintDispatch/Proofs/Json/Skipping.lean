import LintDispatch.Proofs.Json.Lists
import LintDispatch.Proofs.Json.Scalars

/-!
# Passing over values
Any JSON value is passed over (`reads_skipValue`). The walk keeps the open brackets itself, so the
argument counts its steps: a value takes fewer steps than twice its bytes, and what stands between
brackets takes at most one step more than that (`walks_value`, `walks_separated`). The bound of the
walk pays for two steps with every byte.

As with lists, what is inside a bracket is come to in two ways, right after the bracket or after a
comma, and `Enters` says what they have in common.
-/

namespace LintDispatch.Json

variable {frame : Frame} {outer : List Frame} {s s₁ s' : SkipState} {c c₁ c' : Cursor}

/-- The walk comes from one state to another in a number of steps. -/
inductive Walks : Nat → SkipState → Cursor → SkipState → Cursor → Prop
  | refl (s : SkipState) (c : Cursor) : Walks 0 s c s c
  | step {n : Nat} {s s₁ s' : SkipState} {c c₁ c' : Cursor}
      (first : skipStep s c = .ok (some s₁) c₁) (rest : Walks n s₁ c₁ s' c') :
      Walks (n + 1) s c s' c'

theorem Walks.trans {m n : Nat} (h : Walks m s c s₁ c₁) (h' : Walks n s₁ c₁ s' c') :
    Walks (m + n) s c s' c' := by
  induction h with
  | refl => rwa [Nat.zero_add]
  | step first _ ih =>
    rw [Nat.add_right_comm]
    exact .step first (ih h')

/-- A walk to the end of the value is taken in full if its bound allows for two steps a byte. -/
theorem skipFrom_of_walks : ∀ {bound : Bytes} {n : Nat} {s : SkipState} {c : Cursor},
    Walks n s c (.after []) c' → n ≤ 2 * bound.length → skipFrom bound s c = .ok () c'
  | [], _, _, _, .refl _ _, _ => rfl
  | [], _, _, _, .step _ _, hn => absurd hn (by simp)
  | _ :: _, _, _, _, .refl _ _, _ => rfl
  | _ :: bound, _, _, _, .step first (.refl _ _), _ => by
    rw [skipFrom, bind_of_eq_ok first]
    rfl
  | _ :: bound, _, _, _, .step first (.step second rest), hn => by
    rw [skipFrom, bind_of_eq_ok first]
    simp only
    rw [bind_of_eq_ok second]
    exact skipFrom_of_walks rest (by simp only [List.length_cons] at hn; omega)

/-! ## Strings and keys -/

theorem skipStringFrom_rawBody {body : Bytes} (h : RawBody body) :
    ∀ {bound : Bytes} (i : Nat) (rest : Bytes), body.length < bound.length →
      skipStringFrom bound ⟨i, body ++ quote :: rest⟩ = .ok () ⟨i + body.length + 1, rest⟩ := by
  induction h with
  | nil =>
    intro bound i rest hlen
    obtain ⟨x, bound, rfl⟩ := List.exists_cons_of_length_pos hlen
    rfl
  | @plain b t control hq hb tail ih =>
    intro bound i rest hlen
    obtain ⟨x, bound, rfl⟩ := List.exists_cons_of_length_pos (Nat.zero_lt_of_lt hlen)
    rw [skipStringFrom, bind_peek]
    simp only [List.cons_append, List.head?_cons, beq_iff_eq, hq, hb,
      UInt8.not_lt.mpr control, if_false, bind_take]
    rw [ih (i + 1) rest (by simpa using hlen)]
    refine ok_congr rest ?_
    simp only [List.length_cons]
    omega
  | @short letter t escape tail ih =>
    intro bound i rest hlen
    obtain ⟨x, bound, rfl⟩ := List.exists_cons_of_length_pos (Nat.zero_lt_of_lt hlen)
    have hq : (backslash == quote) = false := rfl
    rw [skipStringFrom, bind_peek]
    simp only [List.cons_append, List.head?_cons, hq, beq_self_eq_true, if_true,
      Bool.false_eq_true, if_false, bind_take, bind_peek, escape]
    rw [ih (i + 1 + 1) rest (by simp at hlen ⊢; omega)]
    refine ok_congr rest ?_
    simp only [List.length_cons]
    omega
  | @code w x y z t digits tail ih =>
    intro bound i rest hlen
    obtain ⟨v, bound, rfl⟩ := List.exists_cons_of_length_pos (Nat.zero_lt_of_lt hlen)
    obtain ⟨n, hn⟩ := Option.isSome_iff_exists.mp digits
    have hq : (backslash == quote) = false := rfl
    have hletter : (simpleEscape? 117).isSome = false := rfl
    rw [skipStringFrom, bind_peek]
    simp only [List.cons_append, List.head?_cons, hq, beq_self_eq_true, if_true,
      Bool.false_eq_true, if_false, bind_take, bind_peek, hletter]
    rw [bind_of_eq_ok (hexFour_apply hn (i + 1 + 1) _), ih _ rest (by simp at hlen ⊢; omega)]
    refine ok_congr rest ?_
    simp only [List.length_cons]
    omega

theorem keyColon_apply {before : Bytes} (h : Blanks before) (i : Nat) (rest : Bytes) :
    keyColon ⟨i, before ++ colon :: rest⟩ = .ok () ⟨i + before.length + 1, rest⟩ := by
  have hskips : Skips keyColon := skips_peekToken.bind _
  rw [hskips i before _ h]
  rfl

theorem RawString.skipString_apply {t : Bytes} (h : RawString t) :
    ∃ body, t = quote :: body ∧ ∀ (i : Nat) (rest : Bytes),
      skipString ⟨i, body ++ rest⟩ = .ok () ⟨i + body.length, rest⟩ := by
  obtain ⟨body, hbody, rfl⟩ := h
  refine ⟨body ++ [quote], rfl, fun i rest => ?_⟩
  rw [List.append_assoc, List.singleton_append]
  simp only [skipString]
  rw [skipStringFrom_rawBody hbody i rest (by simp)]
  exact ok_congr rest (by simp [Nat.add_assoc])

/-- What stands before a value is taken, but for blanks that the value itself passes over. -/
theorem skipLead_apply {before lead : Bytes} (hb : Blanks before) (h : frame.Lead lead) (i : Nat)
    (rest : Bytes) :
    ∃ (j : Nat) (blanks : Bytes), Blanks blanks ∧
      j + blanks.length = i + before.length + lead.length ∧
      skipLead frame ⟨i, before ++ (lead ++ rest)⟩ = .ok () ⟨j, blanks ++ rest⟩ := by
  cases frame with
  | list =>
    obtain rfl : lead = [] := h
    exact ⟨i, before, hb, rfl, rfl⟩
  | object =>
    obtain ⟨key, before', after, hkey, hbefore, hafter, rfl⟩ := h
    obtain ⟨body, rfl, hskip⟩ := hkey.skipString_apply
    refine ⟨i + before.length + 1 + body.length + before'.length + 1, after, hafter, ?_, ?_⟩
    · simp only [List.length_append, List.length_cons]
      omega
    · have htext : quote :: body ++ before' ++ colon :: after ++ rest =
          quote :: (body ++ (before' ++ colon :: (after ++ rest))) := by simp
      have hskips : Skips (skipLead .object) := skips_peekToken.bind _
      rw [hskips i before _ hb, htext, skipLead, bind_peekToken rfl]
      simp only [beq_self_eq_true, if_true, bind_take]
      rw [bind_of_eq_ok (hskip _ _), keyColon_apply hbefore]

/-! ## Inside a bracket -/

/-- From this state the next step comes to the first value in `t`, which begins at the place `i`. -/
def Enters (frame : Frame) (outer : List Frame) (s : SkipState) (c : Cursor) (i : Nat)
    (t : Bytes) : Prop :=
  ∀ before value core more : Bytes, Blanks before → frame.Item value core → Begins value →
    t = before ++ (core ++ more) → ∃ (j : Nat) (blanks : Bytes), Blanks blanks ∧
      j + blanks.length + value.length = i + before.length + core.length ∧
      skipStep s c = .ok (some (.value (frame :: outer))) ⟨j, blanks ++ (value ++ more)⟩

theorem Frame.Item.begins {value core : Bytes} (h : frame.Item value core) (hv : Begins value) :
    ∃ b u, core = b :: u ∧ isSpace b = false ∧ b ≠ frame.close := by
  obtain ⟨lead, hlead, rfl⟩ := h
  cases frame with
  | list =>
    obtain rfl : lead = [] := hlead
    exact hv
  | object =>
    obtain ⟨key, before, after, ⟨body, -, rfl⟩, -, -, rfl⟩ := hlead
    exact ⟨quote, _, rfl, rfl, by decide⟩

theorem bind_skipLead_item (outer : List Frame) {before value core : Bytes} (hb : Blanks before)
    (h : frame.Item value core) (i : Nat) (more : Bytes) :
    ∃ (j : Nat) (blanks : Bytes), Blanks blanks ∧
      j + blanks.length + value.length = i + before.length + core.length ∧
      (skipLead frame >>= fun _ => pure (some (SkipState.value (frame :: outer))))
          ⟨i, before ++ (core ++ more)⟩ =
        .ok (some (.value (frame :: outer))) ⟨j, blanks ++ (value ++ more)⟩ := by
  obtain ⟨lead, hlead, rfl⟩ := h
  obtain ⟨j, blanks, hblanks, hindex, hskip⟩ := skipLead_apply hb hlead i (value ++ more)
  refine ⟨j, blanks, hblanks, ?_, ?_⟩
  · rw [List.length_append]
    omega
  · rw [List.append_assoc, bind_of_eq_ok hskip]
    rfl

theorem enters_opened (frame : Frame) (outer : List Frame) (i : Nat) (t : Bytes) :
    Enters frame outer (.opened frame outer) ⟨i, t⟩ i t := by
  rintro before value core more hbefore hitem hvalue rfl
  obtain ⟨j, blanks, hblanks, hindex, hlead⟩ :=
    bind_skipLead_item outer (List.forall_mem_nil _) hitem (i + before.length) more
  refine ⟨j, blanks, hblanks, hindex, ?_⟩
  rw [← hlead, List.nil_append, skipStep, skips_peekToken.bind _ _ _ _ hbefore]
  obtain ⟨b, u, rfl, hb, hclose⟩ := hitem.begins hvalue
  rw [List.cons_append, bind_peekToken hb]
  simp only [beq_iff_eq, hclose, if_false]

theorem enters_comma {after : Bytes} (h : Blanks after) (frame : Frame) (outer : List Frame)
    (i : Nat) (t : Bytes) : Enters frame outer (.after (frame :: outer)) ⟨i, after ++ comma :: t⟩
      (i + after.length + 1) t := by
  rintro before value core more hbefore hitem hvalue rfl
  obtain ⟨j, blanks, hblanks, hindex, hlead⟩ :=
    bind_skipLead_item outer hbefore hitem (i + after.length + 1) more
  refine ⟨j, blanks, hblanks, hindex, ?_⟩
  rw [← hlead, skipStep, skips_peekToken.bind _ _ _ _ h, bind_peekToken rfl]
  simp only [beq_self_eq_true, if_true, bind_take]

/-- The end of a bracket, after a value or right after its beginning. -/
theorem skipStep_close {after : Bytes} (h : Blanks after) (frame : Frame) (outer : List Frame)
    (i : Nat) (rest : Bytes) {s : SkipState} (hs : s = .after (frame :: outer) ∨
      s = .opened frame outer) : skipStep s ⟨i, after ++ frame.close :: rest⟩ =
      .ok (some (.after outer)) ⟨i + after.length + 1, rest⟩ := by
  have hspace : isSpace frame.close = false := by cases frame <;> rfl
  have hcomma : (frame.close == comma) = false := by cases frame <;> rfl
  rcases hs with rfl | rfl
  · rw [skipStep, skips_peekToken.bind _ _ _ _ h, bind_peekToken hspace]
    simp only [hcomma, Bool.false_eq_true, if_false, beq_self_eq_true, if_true, bind_take]
    rfl
  · rw [skipStep, skips_peekToken.bind _ _ _ _ h, bind_peekToken hspace]
    simp only [beq_self_eq_true, if_true, bind_take]
    rfl

/-- The value is passed over in fewer steps than twice its bytes. -/
def Passes (value : Bytes) : Prop :=
  Begins value ∧ ∀ (i : Nat) (before rest : Bytes) (outer : List Frame), Blanks before →
    Follows rest → ∃ n, n + 1 ≤ 2 * value.length ∧
      Walks n (.value outer) ⟨i, before ++ (value ++ rest)⟩ (.after outer)
        ⟨i + before.length + value.length, rest⟩

/-- A value inside a bracket, with what stands before it and up to the blanks after it. -/
theorem walks_padded {value t rest : Bytes} {i : Nat} {b : UInt8}
    (h : Padded frame.Item value t) (hvalue : Passes value)
    (henter : Enters frame outer s c i (t ++ b :: rest))
    (hb : b = comma ∨ b = closeBracket ∨ b = closeBrace) :
    ∃ (n j : Nat) (after : Bytes), Blanks after ∧ n ≤ 2 * t.length ∧
      j + after.length = i + t.length ∧
      Walks n s c (.after (frame :: outer)) ⟨j, after ++ b :: rest⟩ := by
  obtain ⟨before, core, after, hbefore, hcore, hafter, rfl⟩ := h
  obtain ⟨hbegins, hpass⟩ := hvalue
  obtain ⟨j, blanks, hblanks, hindex, hstep⟩ := henter before value core (after ++ b :: rest)
    hbefore hcore hbegins (by simp)
  obtain ⟨n, hn, hwalk⟩ := hpass j blanks _ (frame :: outer) hblanks (follows_append hafter rest hb)
  have hlen : value.length ≤ core.length := by
    obtain ⟨lead, -, rfl⟩ := hcore
    simp
  refine ⟨n + 1, _, after, hafter, ?_, ?_, .step hstep hwalk⟩
  · simp only [List.length_append]
    omega
  · simp only [List.length_append]
    omega

/-- What stands between brackets, with the closing one. -/
theorem walks_separated {values : List Bytes} {t : Bytes}
    (h : Separated (Padded frame.Item) values t) : ∀ {s : SkipState} {c : Cursor} {i : Nat}
      {rest : Bytes}, (∀ v ∈ values, Passes v) →
      Enters frame outer s c i (t ++ frame.close :: rest) →
      ∃ n, n ≤ 2 * t.length + 1 ∧ Walks n s c (.after outer) ⟨i + t.length + 1, rest⟩ := by
  have hclose : frame.close = comma ∨ frame.close = closeBracket ∨ frame.close = closeBrace := by
    cases frame <;> simp [Frame.close]
  induction h with
  | @last value t head =>
    intro s c i rest hvalues henter
    obtain ⟨n, j, after, hafter, hn, hindex, hwalk⟩ :=
      walks_padded head (hvalues value (by simp)) henter hclose
    have hend := skipStep_close hafter frame outer j rest (Or.inl rfl)
    rw [hindex] at hend
    exact ⟨n + 1, by omega, hwalk.trans (.step hend (.refl _ _))⟩
  | @cons value values t u head tail ih =>
    intro s c i rest hvalues henter
    obtain ⟨hvalue, hvalues⟩ := List.forall_mem_cons.mp hvalues
    rw [List.append_assoc, List.cons_append] at henter
    obtain ⟨n, j, after, hafter, hn, hindex, hwalk⟩ :=
      walks_padded head hvalue henter (Or.inl rfl)
    have hcomma := enters_comma hafter frame outer j (u ++ frame.close :: rest)
    rw [hindex] at hcomma
    obtain ⟨n', hn', hwalk'⟩ := ih hvalues hcomma
    refine ⟨n + n', ?_, ?_⟩
    · simp only [List.length_append, List.length_cons]
      omega
    · have hplace : i + (t ++ comma :: u).length + 1 = i + t.length + 1 + u.length + 1 := by
        simp only [List.length_append, List.length_cons]
        omega
      rw [hplace]
      exact hwalk.trans hwalk'

/-! ## Values -/

/-- A value that is passed over in one step. -/
theorem passes_of_step {value : Bytes} (hbegins : Begins value)
    (h : ∀ (i : Nat) (rest : Bytes) (outer : List Frame), Follows rest →
      skipStep (.value outer) ⟨i, value ++ rest⟩ =
        .ok (some (.after outer)) ⟨i + value.length, rest⟩) : Passes value := by
  refine ⟨hbegins, fun i before rest outer hbefore hrest => ⟨1, ?_, ?_⟩⟩
  · have := List.length_pos_iff.mpr hbegins.ne_nil
    omega
  · refine .step ?_ (.refl _ _)
    have hskips : Skips (skipStep (.value outer)) := skips_peekValue.bind _
    rw [hskips i before _ hbefore, h _ rest outer hrest]

theorem passes_bool {b : Bool} {t : Bytes} (h : BoolText b t) : Passes t := by
  obtain rfl := h
  refine passes_of_step ?_ fun i rest outer _ => ?_
  · cases b
    · exact ⟨_, _, rfl, rfl, by decide⟩
    · exact ⟨_, _, rfl, rfl, by decide⟩
  · cases b with
    | true =>
      rw [if_pos rfl, List.cons_append, skipStep, bind_peekValue rfl, if_neg (by decide),
        if_pos (by decide), bind_take, bind_word]
      rfl
    | false =>
      rw [if_neg Bool.false_ne_true, List.cons_append, skipStep, bind_peekValue rfl,
        if_neg (by decide), if_neg (by decide), if_pos (by decide), bind_take, bind_word]
      rfl

theorem passes_null : Passes (110 :: restOfNull) := by
  refine passes_of_step ⟨_, _, rfl, rfl, by decide⟩ fun i rest outer _ => ?_
  rw [List.cons_append, skipStep, bind_peekValue rfl, if_pos (by decide), bind_take, bind_word]
  rfl

theorem passes_rawString {t : Bytes} (h : RawString t) : Passes t := by
  obtain ⟨body, rfl, hskip⟩ := h.skipString_apply
  refine passes_of_step ⟨_, _, rfl, rfl, by decide⟩ fun i rest outer _ => ?_
  have hstart : ¬startsNumber quote = true := by decide
  rw [List.cons_append, skipStep, bind_peekValue rfl, if_neg (by decide), if_neg (by decide),
    if_neg (by decide), if_neg hstart, if_pos (by decide), bind_take, bind_of_eq_ok (hskip _ rest)]
  exact ok_congr rest (by simp only [List.length_cons]; omega)

theorem minus_apply {sign : Bytes} (h : sign = [] ∨ sign = [45]) {d : UInt8}
    (hd : isDigit d = true) (i : Nat) (rest : Bytes) :
    ∃ negative, minus ⟨i, sign ++ d :: rest⟩ = .ok negative ⟨i + sign.length, d :: rest⟩ := by
  rcases h with rfl | rfl
  · exact ⟨false, minus_of_ne (ne_of_isDigit hd rfl) i rest⟩
  · exact ⟨true, rfl⟩

theorem passes_number {t : Bytes} (h : NumberText t) : Passes t := by
  obtain ⟨sign, whole, fraction, exponent, hsign, hwhole, hfraction, hexponent, rfl⟩ := h
  obtain ⟨d, ds, rfl, hd, -⟩ := hwhole.1.exists_cons
  -- a minus or a digit tells a number from every other value
  obtain ⟨b, u, ht, hb⟩ : ∃ b u, sign ++ d :: ds ++ fraction ++ exponent = b :: u ∧
      (b = 45 ∨ isDigit b = true) := by
    rcases hsign with rfl | rfl
    · exact ⟨d, _, rfl, Or.inr hd⟩
    · exact ⟨45, _, rfl, Or.inl rfl⟩
  have hstart : startsNumber b = true := by
    rcases hb with rfl | hb
    · rfl
    · rw [startsNumber, hb, Bool.or_true]
  have hne : ∀ other, other ≠ 45 → isDigit other = false → b ≠ other := by
    intro other h45 hdigit
    rcases hb with rfl | hb
    · exact fun e => h45 e.symm
    · exact ne_of_isDigit hb hdigit
  have hspace : isSpace b = false := by
    rcases hb with rfl | hb
    · rfl
    · exact isSpace_of_isDigit hb
  refine passes_of_step ⟨b, u, ht, hspace, hne closeBracket (by decide) rfl⟩ ?_
  intro i rest outer hrest
  obtain ⟨negative, hminus⟩ := minus_apply hsign hd i (ds ++ fraction ++ exponent ++ rest)
  obtain ⟨f, e, hdigits, -⟩ := numberDigits_apply hwhole hfraction hexponent hrest .invalidNumber
    (i + sign.length)
  have htext : sign ++ d :: ds ++ fraction ++ exponent ++ rest =
      sign ++ d :: (ds ++ fraction ++ exponent ++ rest) := by simp
  have hplace : i + sign.length + (d :: ds ++ fraction ++ exponent).length =
      i + (sign ++ d :: ds ++ fraction ++ exponent).length := by
    simp only [List.length_append]
    omega
  rw [hplace] at hdigits
  have hpeek (k : UInt8 → Reader (Option SkipState)) :
      (peekValue >>= k) ⟨i, sign ++ d :: ds ++ fraction ++ exponent ++ rest⟩ =
        k b ⟨i, sign ++ d :: ds ++ fraction ++ exponent ++ rest⟩ := by
    rw [ht, List.cons_append, bind_peekValue hspace]
  rw [skipStep, hpeek]
  simp only [beq_iff_eq, hne 110 (by decide) rfl, hne 116 (by decide) rfl,
    hne 102 (by decide) rfl, if_false, hstart, if_true]
  rw [htext, bind_of_eq_ok hminus]
  exact bind_of_eq_ok hdigits

theorem passes_bracketed {values : List Bytes} {t : Bytes}
    (h : Bracketed frame.opening frame.close frame.Item values t)
    (hvalues : ∀ v ∈ values, Passes v) : Passes t := by
  obtain ⟨inner, rfl, hinner⟩ : ∃ inner, t = frame.opening :: inner ++ [frame.close] ∧
      ∀ (i : Nat) (rest : Bytes) (outer : List Frame), ∃ n, n ≤ 2 * inner.length + 1 ∧
        Walks n (.opened frame outer) ⟨i, inner ++ frame.close :: rest⟩ (.after outer)
          ⟨i + inner.length + 1, rest⟩ := by
    cases h with
    | @empty inner blanks =>
      refine ⟨inner, rfl, fun i rest outer => ⟨1, by omega, ?_⟩⟩
      exact .step (skipStep_close blanks frame outer i rest (Or.inr rfl)) (.refl _ _)
    | @filled _ inner items =>
      exact ⟨inner, rfl, fun i rest outer =>
        walks_separated items hvalues (enters_opened frame outer i _)⟩
  have hspace : isSpace frame.opening = false := by cases frame <;> rfl
  refine ⟨⟨_, _, rfl, hspace, by cases frame <;> decide⟩, ?_⟩
  intro i before rest outer hbefore _
  obtain ⟨n, hn, hwalk⟩ := hinner (i + before.length + 1) rest outer
  refine ⟨n + 1, ?_, ?_⟩
  · simp only [List.length_append, List.length_cons, List.length_nil]
    omega
  · have hskips : Skips (skipStep (.value outer)) := skips_peekValue.bind _
    have htext : frame.opening :: inner ++ [frame.close] ++ rest =
        frame.opening :: (inner ++ frame.close :: rest) := by simp
    have hplace : i + before.length + (frame.opening :: inner ++ [frame.close]).length =
        i + before.length + 1 + inner.length + 1 := by
      simp only [List.length_append, List.length_cons, List.length_nil]
      omega
    rw [hplace]
    refine .step ?_ hwalk
    rw [hskips i before _ hbefore, htext, skipStep, bind_peekValue hspace]
    cases frame <;> rfl

theorem IsValue.passes {t : Bytes} (h : IsValue t) : Passes t := by
  induction h with
  | null => exact passes_null
  | bool h => exact passes_bool h
  | number h => exact passes_number h
  | string h => exact passes_rawString h
  | bracketed h _ ih => exact passes_bracketed h ih

/-- Every JSON value is passed over. -/
theorem reads_skipValue {t : Bytes} (h : IsValue t) : Reads skipValue t () := by
  intro i before rest hbefore hrest
  obtain ⟨n, hn, hwalk⟩ := h.passes.2 i before rest [] hbefore hrest
  refine skipFrom_of_walks hwalk ?_
  simp only [List.length_append]
  omega

end LintDispatch.Json
