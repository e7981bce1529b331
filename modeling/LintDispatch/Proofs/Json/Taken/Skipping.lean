import LintDispatch.Proofs.Json.Taken.Lists

/-!
# Values that have been passed over
What is passed over is a JSON value (`takes_skipValue`). The walk keeps the open brackets itself, so
for each state it is said what has still to come for the values in all open brackets to be complete
(`SkipState.Demands`). A step meets demands: what it takes, and then what the next state demands, is
what was demanded before (`SkipState.Meets`). At the end of the walk nothing is demanded.
-/

namespace LintDispatch.Json

/-! ## Passing over values -/

theorem skipStringFrom_eq_ok : ∀ {bound : Bytes} {c c' : Cursor},
    skipStringFrom bound c = .ok () c' → ∃ body, RawBody body ∧ c.rest = body ++ quote :: c'.rest
  | [], _, _, h => by cases h
  | _ :: _, ⟨_, []⟩, _, h => by cases h
  | _ :: bound, ⟨i, b :: rest⟩, c', h => by
    rw [skipStringFrom, bind_peek] at h
    simp only [List.head?_cons] at h
    split at h
    · next hquote =>
      cases h
      exact ⟨[], .nil, by rw [beq_iff_eq.mp hquote]; rfl⟩
    next hquote =>
    split at h
    · next hslash =>
      obtain rfl : b = backslash := beq_iff_eq.mp hslash
      obtain _ | ⟨e, rest⟩ := rest
      · cases h
      rw [bind_take, bind_peek] at h
      simp only [List.head?_cons, bind_take] at h
      split at h
      · next hescape =>
        obtain ⟨body, hbody, hrest⟩ := skipStringFrom_eq_ok h
        exact ⟨_, .short hescape hbody, congrArg (backslash :: e :: ·) hrest⟩
      split at h
      · next hletter =>
        obtain rfl : e = 117 := beq_iff_eq.mp hletter
        obtain ⟨n, c₁, hhex, h⟩ := exists_of_bind_eq_ok h
        obtain ⟨w, x, y, z, hn, hrest⟩ := hexFour_eq_ok hhex
        obtain ⟨body, hbody, hrest'⟩ := skipStringFrom_eq_ok h
        refine ⟨_, .code (w := w) (x := x) (y := y) (z := z) (by rw [hn]; rfl) hbody, ?_⟩
        rw [show rest = w :: x :: y :: z :: c₁.rest from hrest, hrest']
        rfl
      · cases h
    next hslash =>
    split at h
    · cases h
    · next hcontrol =>
      rw [bind_take] at h
      obtain ⟨body, hbody, hrest⟩ := skipStringFrom_eq_ok h
      exact ⟨_, .plain (UInt8.not_lt.mp hcontrol) (by simpa using hquote) (by simpa using hslash)
        hbody, congrArg (b :: ·) hrest⟩

theorem keyColon_eq_ok {c c' : Cursor} (h : keyColon c = .ok () c') :
    ∃ before, Blanks before ∧ c.rest = before ++ colon :: c'.rest := by
  obtain ⟨x, c₁, hpeek, h⟩ := exists_of_bind_eq_ok h
  obtain ⟨rfl, -, before, hbefore, hrest⟩ := peekToken_eq_ok hpeek
  cases hb : c₁.rest.head? with
  | none => rw [hb] at h; cases h
  | some b =>
    rw [hb] at h
    simp only at h
    split at h
    · next hcolon =>
      refine ⟨before, hbefore, ?_⟩
      rw [hrest, rest_of_take_of_head hb h, beq_iff_eq.mp hcolon]
    · cases h

/-- What is taken before a value is its lead, and blanks that follow do not matter. -/
theorem skipLead_eq_ok {frame : Frame} {c c' : Cursor} (h : skipLead frame c = .ok () c') :
    ∃ lead, c.rest = lead ++ c'.rest ∧ ∀ after value, Blanks after →
      Led frame.Item value (lead ++ (after ++ value)) := by
  cases frame with
  | list =>
    obtain ⟨-, rfl⟩ := eq_of_pure_eq_ok h
    exact ⟨[], rfl, fun after value hafter => ⟨after, value, hafter, ⟨[], rfl, rfl⟩, rfl⟩⟩
  | object =>
    obtain ⟨x, c₁, hpeek, h⟩ := exists_of_bind_eq_ok h
    obtain ⟨rfl, -, before, hbefore, hrest⟩ := peekToken_eq_ok hpeek
    cases hb : c₁.rest.head? with
    | none => rw [hb] at h; cases h
    | some b =>
    rw [hb] at h
    simp only at h
    split at h
    case isFalse => cases h
    case isTrue hquote =>
    obtain ⟨_, c₂, htake, h⟩ := exists_of_bind_eq_ok h
    obtain ⟨_, c₃, hskip, h⟩ := exists_of_bind_eq_ok h
    obtain ⟨body, hbody, hrest'⟩ := skipStringFrom_eq_ok hskip
    obtain ⟨before', hbefore', hrest''⟩ := keyColon_eq_ok h
    refine ⟨before ++ (quote :: body ++ [quote] ++ before' ++ [colon]), ?_, ?_⟩
    · rw [hrest, rest_of_take_of_head hb htake, hrest', hrest'', beq_iff_eq.mp hquote]
      simp
    · intro after value hafter
      exact ⟨before, _, hbefore, ⟨_, ⟨_, before', after, ⟨body, hbody, rfl⟩, hbefore', hafter, rfl⟩,
        rfl⟩, by simp⟩

/-- What has to follow a value with these brackets open around it. -/
def Closes : (outer : List Frame) → Bytes → Prop
  | [], t => t = []
  | frame :: outer, t => ∃ values u more, Inner frame.Item false values u ∧
      (∀ v ∈ values, IsValue v) ∧ Closes outer more ∧ t = u ++ frame.close :: more

/-- What has to come next in a state of the walk. -/
def SkipState.Demands : SkipState → Bytes → Prop
  | value outer, t => ∃ before v more, Blanks before ∧ IsValue v ∧ Closes outer more ∧
      t = before ++ (v ++ more)
  | after outer, t => Closes outer t
  | opened frame outer, t => ∃ values u more, Inner frame.Item true values u ∧
      (∀ v ∈ values, IsValue v) ∧ Closes outer more ∧ t = u ++ frame.close :: more

/-- The step leads to a state whose demands, behind what has been taken, are those before it. -/
def SkipState.Meets (s : SkipState) (c : Cursor) (next : Option SkipState) (c' : Cursor) : Prop :=
  ∃ s' taken, next = some s' ∧ c.rest = taken ++ c'.rest ∧
    ∀ t, s'.Demands t → s.Demands (taken ++ t)

/-- A value that is passed over in one step. -/
theorem meets_of_isValue {outer : List Frame} {c c' : Cursor} {before v : Bytes}
    (hbefore : Blanks before) (hv : IsValue v) (hrest : c.rest = before ++ (v ++ c'.rest)) :
    (SkipState.value outer).Meets c (some (.after outer)) c' :=
  ⟨.after outer, before ++ v, rfl, by rw [hrest, List.append_assoc], fun t ht =>
    ⟨before, v, t, hbefore, hv, ht, List.append_assoc ..⟩⟩

/-- A bracket that is opened. -/
theorem meets_opened {outer : List Frame} {c c' : Cursor} {before : Bytes} (frame : Frame)
    (hbefore : Blanks before) (hrest : c.rest = before ++ frame.opening :: c'.rest) :
    (SkipState.value outer).Meets c (some (.opened frame outer)) c' := by
  refine ⟨.opened frame outer, before ++ [frame.opening], rfl, by rw [hrest]; simp, ?_⟩
  rintro _ ⟨values, u, more, hinner, hvalues, hmore, rfl⟩
  exact ⟨before, _, more, hbefore, .bracketed hinner.bracketed hvalues, hmore, by simp⟩

theorem skipStep_value_eq_ok {outer : List Frame} {c c' : Cursor} {next : Option SkipState}
    (h : skipStep (.value outer) c = .ok next c') : (SkipState.value outer).Meets c next c' := by
  obtain ⟨b, c₁, hpeek, h⟩ := exists_of_bind_eq_ok h
  obtain ⟨hb, before, hbefore, hrest⟩ := peekValue_eq_ok hpeek
  split at h
  · next hnull =>
    obtain ⟨_, c₂, htake, h⟩ := exists_of_bind_eq_ok h
    obtain ⟨_, c₃, hword, h⟩ := exists_of_bind_eq_ok h
    obtain ⟨rfl, rfl⟩ := eq_of_pure_eq_ok h
    refine meets_of_isValue hbefore .null ?_
    rw [hrest, rest_of_take_of_head hb htake, rest_of_word hword, beq_iff_eq.mp hnull]
    rfl
  split at h
  · next htrue =>
    obtain ⟨_, c₂, htake, h⟩ := exists_of_bind_eq_ok h
    obtain ⟨_, c₃, hword, h⟩ := exists_of_bind_eq_ok h
    obtain ⟨rfl, rfl⟩ := eq_of_pure_eq_ok h
    refine meets_of_isValue hbefore (.bool (b := true) rfl) ?_
    rw [hrest, rest_of_take_of_head hb htake, rest_of_word hword, beq_iff_eq.mp htrue]
    rfl
  split at h
  · next hfalse =>
    obtain ⟨_, c₂, htake, h⟩ := exists_of_bind_eq_ok h
    obtain ⟨_, c₃, hword, h⟩ := exists_of_bind_eq_ok h
    obtain ⟨rfl, rfl⟩ := eq_of_pure_eq_ok h
    refine meets_of_isValue hbefore (.bool (b := false) rfl) ?_
    rw [hrest, rest_of_take_of_head hb htake, rest_of_word hword, beq_iff_eq.mp hfalse]
    rfl
  split at h
  · obtain ⟨negative, c₂, hminus, h⟩ := exists_of_bind_eq_ok h
    obtain ⟨d, c₃, hdigits, h⟩ := exists_of_bind_eq_ok h
    obtain ⟨rfl, rfl⟩ := eq_of_pure_eq_ok h
    obtain ⟨sign, hsign, -, hrest'⟩ := minus_eq_ok hminus
    obtain ⟨fraction, exponent, hwhole, hf, he, -, -, hrest''⟩ := numberDigits_eq_ok hdigits
    refine meets_of_isValue hbefore (.number ⟨sign, _, _, _, hsign, hwhole, hf, he, rfl⟩) ?_
    rw [hrest, hrest', hrest'']
    simp
  split at h
  · next hquote =>
    obtain ⟨_, c₂, htake, h⟩ := exists_of_bind_eq_ok h
    obtain ⟨_, c₃, hskip, h⟩ := exists_of_bind_eq_ok h
    obtain ⟨rfl, rfl⟩ := eq_of_pure_eq_ok h
    obtain ⟨body, hbody, hrest'⟩ := skipStringFrom_eq_ok hskip
    refine meets_of_isValue hbefore (.string ⟨body, hbody, rfl⟩) ?_
    rw [hrest, rest_of_take_of_head hb htake, hrest', beq_iff_eq.mp hquote]
    simp
  split at h
  · next hopen =>
    obtain ⟨_, c₂, htake, h⟩ := exists_of_bind_eq_ok h
    obtain ⟨rfl, rfl⟩ := eq_of_pure_eq_ok h
    refine meets_opened .list hbefore ?_
    rw [hrest, rest_of_take_of_head hb htake, beq_iff_eq.mp hopen]
    rfl
  split at h
  · next hopen =>
    obtain ⟨_, c₂, htake, h⟩ := exists_of_bind_eq_ok h
    obtain ⟨rfl, rfl⟩ := eq_of_pure_eq_ok h
    refine meets_opened .object hbefore ?_
    rw [hrest, rest_of_take_of_head hb htake, beq_iff_eq.mp hopen]
    rfl
  · cases h

/-- A value inside a bracket, behind its lead, with what has to follow it. -/
theorem closes_of_demands_value {frame : Frame} {outer : List Frame} {first : Bool}
    {gap lead t : Bytes} (hgap : Gap first gap)
    (hlead : ∀ after value, Blanks after → Led frame.Item value (lead ++ (after ++ value)))
    (h : (SkipState.value (frame :: outer)).Demands t) : ∃ values u more,
      Inner frame.Item first values u ∧ (∀ v ∈ values, IsValue v) ∧ Closes outer more ∧
      gap ++ (lead ++ t) = u ++ frame.close :: more := by
  obtain ⟨before, v, _, hbefore, hv, ⟨values, u, more, hinner, hvalues, hmore, rfl⟩, rfl⟩ := h
  obtain ⟨before', core, hbefore', hcore, heq⟩ := hlead before v hbefore
  refine ⟨v :: values, _, more, .cons (hgap.append hbefore') hcore hinner,
    List.forall_mem_cons.mpr ⟨hv, hvalues⟩, hmore, ?_⟩
  have htext : lead ++ (before ++ (v ++ (u ++ frame.close :: more))) =
      lead ++ (before ++ v) ++ (u ++ frame.close :: more) := by simp
  rw [htext, heq]
  simp

theorem skipStep_after_eq_ok {frame : Frame} {outer : List Frame} {c c' : Cursor}
    {next : Option SkipState} (h : skipStep (.after (frame :: outer)) c = .ok next c') :
    (SkipState.after (frame :: outer)).Meets c next c' := by
  obtain ⟨x, c₁, hpeek, h⟩ := exists_of_bind_eq_ok h
  obtain ⟨rfl, -, before, hbefore, hrest⟩ := peekToken_eq_ok hpeek
  cases hb : c₁.rest.head? with
  | none => rw [hb] at h; cases h
  | some b =>
  rw [hb] at h
  simp only at h
  split at h
  · next hcomma =>
    obtain ⟨_, c₂, htake, h⟩ := exists_of_bind_eq_ok h
    obtain ⟨_, c₃, hskip, h⟩ := exists_of_bind_eq_ok h
    obtain ⟨rfl, rfl⟩ := eq_of_pure_eq_ok h
    obtain ⟨lead, hrest', hlead⟩ := skipLead_eq_ok hskip
    refine ⟨_, before ++ comma :: lead, rfl, ?_, fun t ht => ?_⟩
    · rw [hrest, rest_of_take_of_head hb htake, hrest', beq_iff_eq.mp hcomma]
      simp
    · have hgap : Gap false (before ++ [comma]) := ⟨before, [], hbefore, blanks_nil, rfl⟩
      have := closes_of_demands_value hgap hlead ht
      simpa [SkipState.Demands, Closes] using this
  split at h
  · next hclose =>
    obtain ⟨_, c₂, htake, h⟩ := exists_of_bind_eq_ok h
    obtain ⟨rfl, rfl⟩ := eq_of_pure_eq_ok h
    refine ⟨_, before ++ [frame.close], rfl, ?_, fun t ht => ?_⟩
    · rw [hrest, rest_of_take_of_head hb htake, beq_iff_eq.mp hclose]
      simp
    · exact ⟨[], before, t, Or.inl ⟨rfl, hbefore⟩, List.forall_mem_nil _, ht, by simp⟩
  · cases h

theorem skipStep_opened_eq_ok {frame : Frame} {outer : List Frame} {c c' : Cursor}
    {next : Option SkipState} (h : skipStep (.opened frame outer) c = .ok next c') :
    (SkipState.opened frame outer).Meets c next c' := by
  obtain ⟨x, c₁, hpeek, h⟩ := exists_of_bind_eq_ok h
  obtain ⟨rfl, -, before, hbefore, hrest⟩ := peekToken_eq_ok hpeek
  cases hb : c₁.rest.head? with
  | none => rw [hb] at h; cases h
  | some b =>
  rw [hb] at h
  simp only at h
  split at h
  · next hclose =>
    obtain ⟨_, c₂, htake, h⟩ := exists_of_bind_eq_ok h
    obtain ⟨rfl, rfl⟩ := eq_of_pure_eq_ok h
    refine ⟨_, before ++ [frame.close], rfl, ?_, fun t ht => ?_⟩
    · rw [hrest, rest_of_take_of_head hb htake, beq_iff_eq.mp hclose]
      simp
    · exact ⟨[], before, t, Or.inl ⟨rfl, hbefore⟩, List.forall_mem_nil _, ht, by simp⟩
  · obtain ⟨_, c₂, hskip, h⟩ := exists_of_bind_eq_ok h
    obtain ⟨rfl, rfl⟩ := eq_of_pure_eq_ok h
    obtain ⟨lead, hrest', hlead⟩ := skipLead_eq_ok hskip
    refine ⟨_, before ++ lead, rfl, by rw [hrest, hrest', List.append_assoc], fun t ht => ?_⟩
    have hgap : Gap true before := hbefore
    rw [List.append_assoc]
    exact closes_of_demands_value hgap hlead ht

/-- A step meets demands, or the value is complete. -/
theorem skipStep_eq_ok {s : SkipState} {c c' : Cursor} {next : Option SkipState}
    (h : skipStep s c = .ok next c') :
    s.Meets c next c' ∨ s = .after [] ∧ next = none ∧ c' = c := by
  match s with
  | .value outer => exact Or.inl (skipStep_value_eq_ok h)
  | .after (frame :: outer) => exact Or.inl (skipStep_after_eq_ok h)
  | .opened frame outer => exact Or.inl (skipStep_opened_eq_ok h)
  | .after [] =>
    obtain ⟨rfl, rfl⟩ := eq_of_pure_eq_ok h
    exact Or.inr ⟨rfl, rfl, rfl⟩

/-- The text from `c` to `c'` is what the state demands. -/
def SkipState.Spans (s : SkipState) (c c' : Cursor) : Prop :=
  ∃ t, s.Demands t ∧ c.rest = t ++ c'.rest

/-- One step back. -/
theorem spans_of_skipStep {s : SkipState} {c c₁ c' : Cursor} {next : Option SkipState}
    (h : skipStep s c = .ok next c₁) (hnone : next = none → c₁ = c')
    (hsome : ∀ s', next = some s' → s'.Spans c₁ c') : s.Spans c c' := by
  rcases skipStep_eq_ok h with ⟨s', taken, rfl, hrest, hdemands⟩ | ⟨rfl, rfl, rfl⟩
  · obtain ⟨t, ht, hrest'⟩ := hsome s' rfl
    exact ⟨taken ++ t, hdemands t ht, by rw [hrest, hrest', List.append_assoc]⟩
  · exact ⟨[], rfl, by rw [hnone rfl]; rfl⟩

theorem skipFrom_eq_ok : ∀ {bound : Bytes} {s : SkipState} {c c' : Cursor},
    skipFrom bound s c = .ok () c' → s.Spans c c'
  | [], s, c, c', h => by
    obtain ⟨next, c₁, hstep, h⟩ := exists_of_bind_eq_ok h
    refine spans_of_skipStep hstep ?_ ?_
    · rintro rfl
      exact (eq_of_pure_eq_ok h).2
    · rintro s' rfl
      cases h
  | _ :: bound, s, c, c', h => by
    obtain ⟨next, c₁, hstep, h⟩ := exists_of_bind_eq_ok h
    refine spans_of_skipStep hstep ?_ ?_
    · rintro rfl
      exact (eq_of_pure_eq_ok h).2
    rintro s' rfl
    obtain ⟨next, c₂, hstep', h⟩ := exists_of_bind_eq_ok h
    refine spans_of_skipStep hstep' ?_ ?_
    · rintro rfl
      exact (eq_of_pure_eq_ok h).2
    · rintro s' rfl
      exact skipFrom_eq_ok h

theorem takes_skipValue : Takes skipValue fun _ => IsValue := by
  intro c c' a h
  obtain ⟨_, ⟨before, v, _, hbefore, hv, rfl, rfl⟩, hrest⟩ := skipFrom_eq_ok h
  exact ⟨before ++ v, ⟨before, v, hbefore, hv, rfl⟩, by rw [hrest]; simp⟩

end LintDispatch.Json
