import LintDispatch.Proofs.Json.Taken.Scalars
import LintDispatch.Proofs.Json.Writing

/-!
# Lists that have been taken
A reader of lists takes the spelling of a list if the reader of its elements takes their spellings
(`takes_list`). The loop comes to an element over a gap: blanks before the first one, and a comma
with blanks around it before the others. What stands from there to the closing bracket is the inside
of a bracket (`Inner`), and it grows by one element at its front with each turn of the loop, seen
from its end (`Inner.cons`). Objects, skipped values and records written as lists go the same way.
-/

namespace LintDispatch.Json

variable {α : Type} {item : α → Bytes → Prop}

/-! ## Inside brackets -/

theorem Blanks.append {t u : Bytes} (ht : Blanks t) (hu : Blanks u) : Blanks (t ++ u) :=
  List.forall_mem_append.mpr ⟨ht, hu⟩

/-- What stands before a value inside brackets: blanks before the first one, and a comma with blanks
around it before the others. -/
def Gap : (first : Bool) → Bytes → Prop
  | true, g => Blanks g
  | false, g => ∃ before after, Blanks before ∧ Blanks after ∧ g = before ++ comma :: after

/-- Blanks after a gap belong to it. -/
theorem Gap.append {first : Bool} {g before : Bytes} (hg : Gap first g) (hb : Blanks before) :
    Gap first (g ++ before) := by
  cases first with
  | true => exact Blanks.append hg hb
  | false =>
    obtain ⟨before', after, hbefore, hafter, rfl⟩ := hg
    exact ⟨before', after ++ before, hbefore, hafter.append hb, by simp⟩

/-- What stands up to the closing bracket: blanks alone, or more values. -/
def Inner (item : α → Bytes → Prop) (first : Bool) (as : List α) (t : Bytes) : Prop :=
  (as = [] ∧ Blanks t) ∨ ∃ g u, Gap first g ∧ Separated (Padded item) as u ∧ t = g ++ u

/-- Blanks may stand before separated values. -/
theorem Separated.led {before u : Bytes} {as : List α} (hb : Blanks before)
    (h : Separated (Padded item) as u) : Separated (Padded item) as (before ++ u) := by
  cases h with
  | last head =>
    obtain ⟨before', core, after, hb', hcore, ha, rfl⟩ := head
    exact .last ⟨before ++ before', core, after, hb.append hb', hcore, ha, by simp⟩
  | @cons a as t u head tail =>
    obtain ⟨before', core, after, hb', hcore, ha, rfl⟩ := head
    rw [← List.append_assoc]
    exact .cons ⟨before ++ before', core, after, hb.append hb', hcore, ha, by simp⟩ tail

/-- Blanks may stand after separated values. -/
theorem Separated.trailed {after u : Bytes} {as : List α} (ha : Blanks after)
    (h : Separated (Padded item) as u) : Separated (Padded item) as (u ++ after) := by
  induction h with
  | last head =>
    obtain ⟨before, core, after', hb, hcore, ha', rfl⟩ := head
    exact .last ⟨before, core, after' ++ after, hb, hcore, ha'.append ha, by simp⟩
  | @cons a as t u head _ ih =>
    rw [List.append_assoc]
    exact .cons head ih

/-- Blanks before the closing bracket belong inside. -/
theorem Inner.append {first : Bool} {as : List α} {t after : Bytes} (h : Inner item first as t)
    (ha : Blanks after) : Inner item first as (t ++ after) := by
  rcases h with ⟨rfl, hblanks⟩ | ⟨g, u, hg, hu, rfl⟩
  · exact Or.inl ⟨rfl, hblanks.append ha⟩
  · exact Or.inr ⟨g, u ++ after, hg, hu.trailed ha, List.append_assoc ..⟩

/-- One more value in front of the others. -/
theorem Inner.cons {first : Bool} {g t core : Bytes} {a : α} {as : List α} (hg : Gap first g)
    (h : item a core) (tail : Inner item false as t) :
    Inner item first (a :: as) (g ++ (core ++ t)) := by
  rcases tail with ⟨rfl, hblanks⟩ | ⟨_, u, ⟨before, after, hbefore, hafter, rfl⟩, hu, rfl⟩
  · exact Or.inr ⟨g, core ++ t, hg, .last ⟨[], core, t, blanks_nil, h, hblanks, rfl⟩, rfl⟩
  · refine Or.inr ⟨g, core ++ before ++ comma :: (after ++ u), hg,
      .cons ⟨[], core, before, blanks_nil, h, hbefore, rfl⟩ (hu.led hafter), by simp⟩

theorem Inner.bracketed {opening closing : UInt8} {as : List α} {t : Bytes}
    (h : Inner item true as t) : Bracketed opening closing item as (opening :: t ++ [closing]) := by
  rcases h with ⟨rfl, hblanks⟩ | ⟨g, u, hg, hu, rfl⟩
  · exact .empty hblanks
  · exact .filled (hu.led hg)

/-- What is enclosed by brackets is a bracketed text, if the body takes the inside of one. -/
theorem bracketed_of_enclosed {β : Type} {body : Reader β} {close : Reader Unit}
    {opening closing : UInt8} {c c' : Cursor} {b : β} {p : List α → Prop}
    (hopen : c.rest.head? = some opening)
    (h : (take >>= fun _ => enclosed body close) c = .ok b c')
    (hbody : ∀ c₁ c₂, body c₁ = .ok b c₂ →
      ∃ as t, p as ∧ Inner item true as t ∧ c₁.rest = t ++ c₂.rest)
    (hclose : ∀ c₁ c₂, close c₁ = .ok () c₂ →
      ∃ before, Blanks before ∧ c₁.rest = before ++ closing :: c₂.rest) :
    ∃ as t, p as ∧ Bracketed opening closing item as t ∧ c.rest = t ++ c'.rest := by
  obtain ⟨_, c₁, htake, h⟩ := exists_of_bind_eq_ok h
  obtain ⟨c₂, h, hend⟩ := enclosed_eq_ok h
  obtain ⟨as, t, has, hinner, hrest⟩ := hbody c₁ c₂ h
  obtain ⟨after, hafter, hrest'⟩ := hclose c₂ c' hend
  refine ⟨as, _, has, (hinner.append hafter).bracketed, ?_⟩
  rw [rest_of_take_of_head hopen htake, hrest, hrest']
  simp

/-! ## Lists -/

/-- The elements of a list go on, behind a gap, or the list is about to be closed. -/
theorem nextElement_eq_ok {first more : Bool} {c c' : Cursor}
    (h : nextElement first c = .ok more c') : ∃ g, c.rest = g ++ c'.rest ∧
      if more then Gap first g else Blanks g ∧ c'.rest.head? = some closeBracket := by
  obtain ⟨x, c₁, hpeek, h⟩ := exists_of_bind_eq_ok h
  obtain ⟨rfl, -, before, hbefore, hrest⟩ := peekToken_eq_ok hpeek
  cases hb : c₁.rest.head? with
  | none => rw [hb] at h; cases h
  | some b =>
  rw [hb] at h
  simp only at h
  split at h
  · next hclose =>
    obtain ⟨rfl, rfl⟩ := eq_of_pure_eq_ok h
    exact ⟨before, hrest, hbefore, by rw [hb, beq_iff_eq.mp hclose]⟩
  split at h
  · next hfirst =>
    obtain ⟨rfl, rfl⟩ := eq_of_pure_eq_ok h
    subst hfirst
    exact ⟨before, hrest, hbefore⟩
  next hfirst =>
  split at h
  case isFalse => cases h
  case isTrue hcomma =>
  obtain ⟨_, c₂, htake, h⟩ := exists_of_bind_eq_ok h
  obtain ⟨x, c₃, hpeek', h⟩ := exists_of_bind_eq_ok h
  obtain ⟨rfl, -, after, hafter, hrest'⟩ := peekToken_eq_ok hpeek'
  cases hb' : c₃.rest.head? with
  | none => rw [hb'] at h; cases h
  | some b' =>
    rw [hb'] at h
    simp only at h
    split at h
    · cases h
    · obtain ⟨rfl, rfl⟩ := eq_of_pure_eq_ok h
      obtain rfl : first = false := by simpa using hfirst
      refine ⟨before ++ comma :: after, ?_, before, after, hbefore, hafter, rfl⟩
      rw [hrest, rest_of_take_of_head hb htake, hrest', beq_iff_eq.mp hcomma]
      simp

theorem listEnd_eq_ok {c c' : Cursor} (h : listEnd c = .ok () c') :
    ∃ before, Blanks before ∧ c.rest = before ++ closeBracket :: c'.rest := by
  obtain ⟨x, c₁, hpeek, h⟩ := exists_of_bind_eq_ok h
  obtain ⟨rfl, -, before, hbefore, hrest⟩ := peekToken_eq_ok hpeek
  cases hb : c₁.rest.head? with
  | none => rw [hb] at h; cases h
  | some b =>
  rw [hb] at h
  simp only at h
  split at h
  · next hclose =>
    refine ⟨before, hbefore, ?_⟩
    rw [hrest, rest_of_take_of_head hb h, beq_iff_eq.mp hclose]
  split at h
  · obtain ⟨_, c₂, -, h⟩ := exists_of_bind_eq_ok h
    obtain ⟨x, c₃, -, h⟩ := exists_of_bind_eq_ok h
    cases x with
    | none => cases h
    | some b' =>
      simp only at h
      split at h <;> cases h
  · cases h

theorem elementsFrom_eq_ok {read : Reader α} (hread : Takes read item) :
    ∀ {bound : Bytes} {taken as : List α} {c c' : Cursor},
      elementsFrom read bound taken c = .ok as c' → ∃ more t, as = taken.reverse ++ more ∧
        Inner item taken.isEmpty more t ∧ c.rest = t ++ c'.rest
  | [], _, _, _, _, h => by cases h
  | _ :: bound, taken, as, c, c', h => by
    obtain ⟨more, c₁, hnext, h⟩ := exists_of_bind_eq_ok h
    obtain ⟨g, hrest, hg⟩ := nextElement_eq_ok hnext
    split at h
    · next hmore =>
      rw [if_pos hmore] at hg
      obtain ⟨a, c₂, ha, h⟩ := exists_of_bind_eq_ok h
      obtain ⟨_, ⟨before, core, hbefore, hcore, rfl⟩, hrest'⟩ := hread ha
      obtain ⟨as, t, rfl, hinner, hrest''⟩ := elementsFrom_eq_ok hread h
      refine ⟨a :: as, _, by simp, .cons (hg.append hbefore) hcore hinner, ?_⟩
      rw [hrest, hrest', hrest'']
      simp
    · next hmore =>
      rw [if_neg hmore] at hg
      obtain ⟨rfl, rfl⟩ := eq_of_pure_eq_ok h
      exact ⟨[], g, by simp, Or.inl ⟨rfl, hg.1⟩, hrest⟩

theorem takes_list {read : Reader α} (hread : Takes read item) :
    Takes (list read) (ListText item) := by
  intro c c' as h
  obtain ⟨b, c₁, hpeek, h⟩ := exists_of_bind_eq_ok h
  obtain ⟨hb, before, hbefore, hrest⟩ := peekValue_eq_ok hpeek
  split at h
  · next hopen =>
    rw [beq_iff_eq.mp hopen] at hb
    obtain ⟨_, t, rfl, hlist, hrest'⟩ := bracketed_of_enclosed (p := (as = ·)) hb h
      (fun c₂ c₃ h => by simpa using elementsFrom_eq_ok hread h) fun c₂ c₃ => listEnd_eq_ok
    exact ⟨before ++ t, ⟨before, t, hbefore, hlist, rfl⟩, by rw [hrest, hrest', List.append_assoc]⟩
  · exact absurd h (refuses_unexpected _ _ _ _ _)

end LintDispatch.Json
