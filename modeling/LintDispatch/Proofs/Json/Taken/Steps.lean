import LintDispatch.Json.Record
import LintDispatch.Proofs.Json.Grammar

/-!
# What a reader has taken
The other side of reading what the grammar allows: a reader that succeeds has taken a text of the
grammar. A reader `Consumes` the texts of a relation if what it takes of the bytes that are left is
a text of the value that it answers with. A value may stand behind blanks (`Led`), and then the
reader `Takes` it.

The lemmas here turn a success around, step by step: what was looked at, what was taken and what is
left. At the end of the text nothing is left but blanks (`padded_of_readAll`).
-/

namespace LintDispatch.Json

variable {α β : Type}

/-- The reader takes a text of the value that it answers with, and no more. -/
def Consumes (read : Reader α) (item : α → Bytes → Prop) : Prop :=
  ∀ ⦃c c' : Cursor⦄ ⦃a : α⦄, read c = .ok a c' → ∃ t, item a t ∧ c.rest = t ++ c'.rest

/-- The spellings of a value with blanks before it. -/
def Led (item : α → Bytes → Prop) (a : α) (t : Bytes) : Prop :=
  ∃ before core, Blanks before ∧ item a core ∧ t = before ++ core

/-- The reader takes blanks and then a text of the value that it answers with. -/
abbrev Takes (read : Reader α) (item : α → Bytes → Prop) : Prop := Consumes read (Led item)

/-! ## Steps of a reader -/

/-- What is bound has succeeded if both parts have. -/
theorem exists_of_bind_eq_ok {read : Reader α} {k : α → Reader β} {c c' : Cursor} {b : β}
    (h : (read >>= k) c = .ok b c') : ∃ a c₁, read c = .ok a c₁ ∧ k a c₁ = .ok b c' := by
  have h : EStateM.bind read k c = .ok b c' := h
  rw [EStateM.bind] at h
  split at h
  · exact ⟨_, _, ‹_›, h⟩
  · cases h

theorem eq_of_pure_eq_ok {a b : α} {c c' : Cursor} (h : (pure a : Reader α) c = .ok b c') :
    a = b ∧ c = c' := by
  cases h
  exact ⟨rfl, rfl⟩

theorem Led.mono {item : α → Bytes → Prop} {item' : β → Bytes → Prop} {a : α} {b : β} {t : Bytes}
    (h : Led item a t) (himp : ∀ t, item a t → item' b t) : Led item' b t := by
  obtain ⟨before, core, hb, hcore, rfl⟩ := h
  exact ⟨before, core, hb, himp core hcore, rfl⟩

/-- What a value is read for does not matter to the text that is taken. -/
theorem Consumes.map {read : Reader α} {f : α → β} {item : α → Bytes → Prop}
    {item' : β → Bytes → Prop} (h : Consumes read item) (himp : ∀ a t, item a t → item' (f a) t) :
    Consumes (read >>= fun a => pure (f a)) item' := by
  intro c c' b hread
  obtain ⟨a, c₁, ha, hb⟩ := exists_of_bind_eq_ok hread
  obtain ⟨rfl, rfl⟩ := eq_of_pure_eq_ok hb
  obtain ⟨t, ht, hrest⟩ := h ha
  exact ⟨t, himp a t ht, hrest⟩

theorem peek_eq_ok {c c' : Cursor} {b : Option UInt8} (h : peek c = .ok b c') :
    b = c.rest.head? ∧ c' = c := by
  cases h
  exact ⟨rfl, rfl⟩

theorem rest_of_take {c c' : Cursor} (h : take c = .ok () c') : c'.rest = c.rest.tail := by
  unfold take at h
  split at h
  · next hrest =>
    cases h
    rw [hrest]
    rfl
  · next b rest hrest =>
    cases h
    rw [hrest]
    rfl

/-- The byte that is taken after it has been looked at. -/
theorem rest_of_take_of_head {c c' : Cursor} {b : UInt8} (hb : c.rest.head? = some b)
    (h : take c = .ok () c') : c.rest = b :: c'.rest := by
  obtain ⟨rest, hrest⟩ := List.head?_eq_some_iff.mp hb
  rw [rest_of_take h, hrest]
  rfl

theorem peekToken_eq_ok {c c' : Cursor} {b : Option UInt8} (h : peekToken c = .ok b c') :
    b = c'.rest.head? ∧ (∀ x ∈ c'.rest.head?, isSpace x = false) ∧
      ∃ before, Blanks before ∧ c.rest = before ++ c'.rest := by
  cases h
  refine ⟨rfl, fun x hx => ?_, c.rest.takeWhile isSpace, ?_, ?_⟩
  · have hne : c.rest.dropWhile isSpace ≠ [] := fun hnil => by
      simp [Cursor.skip, hnil] at hx
    have := List.head_dropWhile_not isSpace hne
    rw [Cursor.skip, List.head?_eq_some_head hne] at hx
    rw [← Option.some.inj hx]
    simpa using this
  · intro x hx
    exact List.all_eq_true.mp List.all_takeWhile x hx
  · exact List.takeWhile_append_dropWhile.symm

theorem peekValue_eq_ok {c c' : Cursor} {b : UInt8} (h : peekValue c = .ok b c') :
    c'.rest.head? = some b ∧ ∃ before, Blanks before ∧ c.rest = before ++ c'.rest := by
  obtain ⟨x, c₁, hpeek, hrest⟩ := exists_of_bind_eq_ok h
  obtain ⟨rfl, -, hblanks⟩ := peekToken_eq_ok hpeek
  cases hx : c₁.rest.head? with
  | none => rw [hx] at hrest; cases hrest
  | some x =>
    rw [hx] at hrest
    obtain ⟨rfl, rfl⟩ := eq_of_pure_eq_ok hrest
    exact ⟨hx, hblanks⟩

theorem rest_of_word : ∀ {w : Bytes} {c c' : Cursor}, word w c = .ok () c' →
    c.rest = w ++ c'.rest
  | [], _, _, h => by
    obtain ⟨-, rfl⟩ := eq_of_pure_eq_ok h
    rfl
  | b :: w, c, c', h => by
    obtain ⟨x, c₁, hpeek, h⟩ := exists_of_bind_eq_ok h
    obtain ⟨rfl, rfl⟩ := peek_eq_ok hpeek
    cases hb : c₁.rest.head? with
    | none => rw [hb] at h; cases h
    | some b' =>
      rw [hb] at h
      obtain ⟨_, c₂, htake, h⟩ := exists_of_bind_eq_ok h
      split at h
      · next heq =>
        rw [rest_of_take_of_head hb htake, rest_of_word h, beq_iff_eq.mp heq]
        rfl
      · cases h

theorem enclosed_eq_ok {body : Reader α} {close : Reader Unit} {c c' : Cursor} {a : α}
    (h : enclosed body close c = .ok a c') : ∃ c₁, body c = .ok a c₁ ∧ close c₁ = .ok () c' := by
  unfold enclosed at h
  simp only at h
  split at h
  · next a' c₁ hbody =>
    split at h
    · next hclose =>
      cases h
      exact ⟨c₁, hbody, hclose⟩
    · cases h
  · split at h <;> cases h

/-! ## Whole texts -/

/-- A text that is accepted is a spelling of its value with blanks around it. -/
theorem padded_of_readAll {item : α → Bytes → Prop} {read : Reader α} (hread : Takes read item)
    {a : α} {t : Bytes} (h : readAll read t = .ok a) : Padded item a t := by
  unfold readAll at h
  simp only at h
  split at h
  case h_2 => cases h
  case h_1 a' c' hwhole =>
  obtain rfl : a' = a := Except.ok.inj h
  obtain ⟨a', c₁, hvalue, hwhole⟩ := exists_of_bind_eq_ok hwhole
  obtain ⟨x, c₂, hpeek, hwhole⟩ := exists_of_bind_eq_ok hwhole
  obtain ⟨rfl, -, after, hafter, hc₁⟩ := peekToken_eq_ok hpeek
  cases hnone : c₂.rest.head? with
  | some b => rw [hnone] at hwhole; cases hwhole
  | none =>
  rw [hnone] at hwhole
  obtain ⟨rfl, rfl⟩ := eq_of_pure_eq_ok hwhole
  obtain ⟨_, ⟨before, core, hbefore, hcore, rfl⟩, ht⟩ := hread hvalue
  have hend : c₂.rest = [] := List.head?_eq_none_iff.mp hnone
  refine ⟨before, core, after, hbefore, hcore, hafter, ?_⟩
  rw [hc₁, hend, List.append_nil] at ht
  exact ht

end LintDispatch.Json
