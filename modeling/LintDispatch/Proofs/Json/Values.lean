import LintDispatch.Proofs.Json.Positions

/-!
# Spellings are values
Every spelling of a string, a number, a list or a record is a JSON value, whatever else is asked of
it. A list or an object is one if the values in it are (`isValue_of_bracketed`).
-/

namespace LintDispatch.Json

variable {α : Type} {item : α → Bytes → Prop}

/-- The text is a JSON value with blanks around it. -/
def IsJson (t : Bytes) : Prop :=
  ∃ before value after, Blanks before ∧ IsValue value ∧ Blanks after ∧ t = before ++ value ++ after

theorem RawBody.append_plain {t : Bytes} (ht : RawBody t) :
    ∀ {bs : Bytes}, (∀ b ∈ bs, IsPlain b) → RawBody (bs ++ t)
  | [], _ => ht
  | b :: bs, h => by
    obtain ⟨⟨hquote, hbackslash, hcontrol⟩, hbs⟩ := List.forall_mem_cons.mp h
    exact .plain (UInt8.not_lt.mp hcontrol) hquote hbackslash (ht.append_plain hbs)

theorem CharText.rawBody_append {c : Char} {t u : Bytes} (h : CharText c t) (hu : RawBody u) :
    RawBody (t ++ u) := by
  cases h with
  | plain control quote backslash =>
    exact hu.append_plain (isPlain_of_mem_utf8EncodeChar control quote backslash)
  | short escape char => exact .short (by rw [escape]; rfl) hu
  | code digits => exact .code (by rw [digits]; rfl) hu
  | pair digits digits' => exact .code (by rw [digits]; rfl) (.code (by rw [digits']; rfl) hu)

theorem CharsText.rawBody {cs : List Char} {t : Bytes} (h : CharsText cs t) : RawBody t := by
  induction h with
  | nil => exact .nil
  | cons head _ ih => exact head.rawBody_append ih

theorem rawString_of_stringText {s : String} {t : Bytes} (h : StringText s t) : RawString t := by
  obtain ⟨body, hbody, rfl⟩ := h
  exact ⟨body, hbody.rawBody, rfl⟩

theorem isValue_of_stringText (s : String) {t : Bytes} (h : StringText s t) : IsValue t :=
  .string (rawString_of_stringText h)

theorem isValue_of_natText (n : Nat) {t : Bytes} (h : NatText n t) : IsValue t :=
  .number ⟨[], t, [], [], Or.inl rfl, h.1, Or.inl rfl, Or.inl rfl, by simp⟩

theorem isValue_of_nullableText (hitem : ∀ a t, item a t → IsValue t) :
    ∀ (a : Option α) {t : Bytes}, NullableText item a t → IsValue t
  | none, t, h => by
    obtain rfl : t = 110 :: restOfNull := h
    exact .null
  | some a, t, h => hitem a t h

/-! ## Lists and records -/

/-- Separated spellings are separated values. -/
theorem exists_separated_values {frame : Frame} {as : List α} {t : Bytes}
    (h : Separated (Padded item) as t)
    (hitem : ∀ a ∈ as, ∀ t, item a t → ∃ v, frame.Item v t ∧ IsValue v) :
    ∃ values, Separated (Padded frame.Item) values t ∧ ∀ v ∈ values, IsValue v := by
  induction h with
  | @last a t head =>
    obtain ⟨before, core, after, hbefore, hcore, hafter, rfl⟩ := head
    obtain ⟨v, hv, hvalue⟩ := hitem a (by simp) core hcore
    exact ⟨[v], .last ⟨before, core, after, hbefore, hv, hafter, rfl⟩, by simpa using hvalue⟩
  | @cons a as t u head _ ih =>
    obtain ⟨ha, hitem⟩ := List.forall_mem_cons.mp hitem
    obtain ⟨before, core, after, hbefore, hcore, hafter, rfl⟩ := head
    obtain ⟨v, hv, hvalue⟩ := ha core hcore
    obtain ⟨values, hvalues, hall⟩ := ih hitem
    exact ⟨v :: values, .cons ⟨before, core, after, hbefore, hv, hafter, rfl⟩ hvalues,
      List.forall_mem_cons.mpr ⟨hvalue, hall⟩⟩

theorem isValue_of_bracketed (frame : Frame) {as : List α} {t : Bytes}
    (h : Bracketed frame.opening frame.close item as t)
    (hitem : ∀ a ∈ as, ∀ t, item a t → ∃ v, frame.Item v t ∧ IsValue v) : IsValue t := by
  cases h with
  | empty blanks => exact .bracketed (.empty blanks) (List.forall_mem_nil _)
  | filled items =>
    obtain ⟨values, hvalues, hall⟩ := exists_separated_values items hitem
    exact .bracketed (.filled hvalues) hall

theorem isValue_of_listText {as : List α} {t : Bytes} (h : ListText item as t)
    (hitem : ∀ a ∈ as, ∀ t, item a t → IsValue t) : IsValue t :=
  isValue_of_bracketed .list h fun a ha t ht => ⟨t, ⟨[], rfl, rfl⟩, hitem a ha t ht⟩

/-- A record is a value if its fields are. -/
theorem isValue_of_recordForm {entries : List Entry} {t : Bytes} (h : RecordForm entries t)
    (hentries : ∀ e ∈ entries, ∀ t, e.Text t → IsValue t) : IsValue t := by
  rcases h with ⟨members, hdescribes, hmembers⟩ | ⟨written, absent, rfl, -, hlist⟩
  · refine isValue_of_bracketed .object hmembers fun m hm t ht => ?_
    obtain ⟨key, ⟨string, before, after, hstring, hbefore, hafter, rfl⟩, rfl⟩ := ht
    refine ⟨m.2, ⟨_, ⟨string, before, after, rawString_of_stringText hstring, hbefore, hafter, rfl⟩,
      rfl⟩, ?_⟩
    by_cases hknown : m.1 ∈ entries.map Entry.name
    · obtain ⟨e, he, hname⟩ := List.mem_map.mp hknown
      exact hentries e he m.2 (hdescribes.written m hm e he hname)
    · exact hdescribes.unknown m hm hknown
  · exact isValue_of_listText hlist fun e he => hentries e (List.mem_append_left _ he)

end LintDispatch.Json
