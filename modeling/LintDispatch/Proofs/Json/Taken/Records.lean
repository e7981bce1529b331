import LintDispatch.Proofs.Json.Positions
import LintDispatch.Proofs.Json.Taken.Skipping

/-!
# Records that have been taken
What is read as a record is a spelling of it, as an object or as a list (`takes_record`). Here the
record at the end is what is known, and so its entries stand for what has been read: a field that
is read puts its text under its own entry and leaves the others alone (`Field.Puts`), and a field
that is set is never read again.
-/

namespace LintDispatch.Json

variable {σ : Type} {shape : Shape σ} {entries : σ → List Entry}

/-- From one record to the other, fields with these names have been read and no others. -/
structure Extends (shape : Shape σ) (entries : σ → List Entry) (names : List String) (s s' : σ) :
    Prop where
  others : ∀ e ∈ entries s', e.name ∉ names → e ∈ entries s
  isSet_eq : ∀ f ∈ shape.fields, f.isSet s' = (f.isSet s || decide (f.name ∈ names))

/-- The field has been read from this text. -/
structure Field.Puts (shape : Shape σ) (entries : σ → List Entry) (f : Field σ) (s s' : σ)
    (t : Bytes) : Prop extends Extends shape entries [f.name] s s' where
  written : ∀ e ∈ entries s', e.name = f.name → e.Text t

/-- The entries of a record tell how its fields are written. -/
structure Shape.Tells (shape : Shape σ) (entries : σ → List Entry) : Prop where
  names : ∀ s, (entries s).map Entry.name = shape.fields.map Field.name
  nodup : (shape.fields.map Field.name).Nodup
  blank : ∀ f ∈ shape.fields, f.isSet shape.blank = false
  reads : ∀ f ∈ shape.fields, ∀ s, Takes (f.read s) (f.Puts shape entries s)
  /-- What has not been read and need not be there is optional. -/
  optional : ∀ s, ∀ f ∈ shape.fields, ∀ e ∈ entries s, e.name = f.name → f.isSet s = false →
    f.required = false ∨ f.positional = false → e.Optional

/-- A field that is read on its own and then put into the record tells of its text if its text has
been put there. -/
theorem Field.takes_of_takes {α : Type} {f : Field σ} {read : Reader α} {item : α → Bytes → Prop}
    (put : α → σ → σ) (read_eq : ∀ s, f.read s = read >>= fun a => pure (put a s))
    (htakes : Takes read item) (hputs : ∀ a s t, item a t → f.Puts shape entries s (put a s) t)
    (s : σ) : Takes (f.read s) (f.Puts shape entries s) := by
  rw [read_eq]
  exact htakes.map fun a t h => h.mono fun t ht => hputs a s t ht

namespace Extends

variable {s s₁ s' : σ} {name : String} {names : List String}

theorem refl (shape : Shape σ) (entries : σ → List Entry) (s : σ) :
    Extends shape entries [] s s where
  others e he _ := he
  isSet_eq f _ := by simp

theorem cons (h : Extends shape entries [name] s s₁) (h' : Extends shape entries names s₁ s') :
    Extends shape entries (name :: names) s s' where
  others e he hname := by
    rw [List.mem_cons, not_or] at hname
    exact h.others e (h'.others e he hname.2) (by simpa using hname.1)
  isSet_eq f hf := by
    rw [h'.isSet_eq f hf, h.isSet_eq f hf, Bool.or_assoc]
    simp [List.mem_cons]

/-- A name that no field has makes no difference. -/
theorem cons_unknown (h : Extends shape entries names s s')
    (hname : name ∉ shape.fields.map Field.name) : Extends shape entries (name :: names) s s' where
  others e he hnot := h.others e he fun hmem => hnot (List.mem_cons_of_mem _ hmem)
  isSet_eq f hf := by
    have hne : f.name ≠ name := fun heq => hname (heq ▸ List.mem_map_of_mem hf)
    rw [h.isSet_eq f hf]
    simp [List.mem_cons, hne]

end Extends

theorem Shape.Tells.mem_names (h : shape.Tells entries) {s : σ} {e : Entry} (he : e ∈ entries s) :
    e.name ∈ shape.fields.map Field.name := by
  rw [← h.names s]
  exact List.mem_map_of_mem he

/-! ## Objects -/

theorem nextKey_eq_ok {first more : Bool} {c c' : Cursor} (h : nextKey first c = .ok more c') :
    ∃ g, if more then Gap first g ∧ c.rest = g ++ quote :: c'.rest
      else Blanks g ∧ c.rest = g ++ c'.rest := by
  obtain ⟨x, c₁, hpeek, h⟩ := exists_of_bind_eq_ok h
  obtain ⟨rfl, -, before, hbefore, hrest⟩ := peekToken_eq_ok hpeek
  cases hb : c₁.rest.head? with
  | none => rw [hb] at h; cases h
  | some b =>
  rw [hb] at h
  simp only at h
  split at h
  · obtain ⟨rfl, rfl⟩ := eq_of_pure_eq_ok h
    exact ⟨before, hbefore, hrest⟩
  split at h
  · next hfirst =>
    split at h
    · next hquote =>
      obtain ⟨_, c₂, htake, h⟩ := exists_of_bind_eq_ok h
      obtain ⟨rfl, rfl⟩ := eq_of_pure_eq_ok h
      subst hfirst
      refine ⟨before, hbefore, ?_⟩
      rw [hrest, rest_of_take_of_head hb htake, beq_iff_eq.mp hquote]
    · cases h
  next hfirst =>
  split at h
  case isFalse => cases h
  case isTrue hcomma =>
  obtain ⟨_, c₂, htake, h⟩ := exists_of_bind_eq_ok h
  obtain ⟨x, c₃, hpeek', h⟩ := exists_of_bind_eq_ok h
  obtain ⟨rfl, -, after, hafter, hrest'⟩ := peekToken_eq_ok hpeek'
  cases hb' : c₃.rest.head? with
  | none => rw [hb'] at h; cases h
  | some b' =>
    rw [hb'] at h
    simp only at h
    split at h
    · next hquote =>
      obtain ⟨_, c₄, htake', h⟩ := exists_of_bind_eq_ok h
      obtain ⟨rfl, rfl⟩ := eq_of_pure_eq_ok h
      obtain rfl : first = false := by simpa using hfirst
      refine ⟨before ++ comma :: after, ⟨before, after, hbefore, hafter, rfl⟩, ?_⟩
      rw [hrest, rest_of_take_of_head hb htake, hrest', rest_of_take_of_head hb' htake',
        beq_iff_eq.mp hcomma, beq_iff_eq.mp hquote]
      simp
    · split at h <;> cases h

theorem objectEnd_eq_ok {c c' : Cursor} (h : objectEnd c = .ok () c') :
    ∃ before, Blanks before ∧ c.rest = before ++ closeBrace :: c'.rest := by
  obtain ⟨x, c₁, hpeek, h⟩ := exists_of_bind_eq_ok h
  obtain ⟨rfl, -, before, hbefore, hrest⟩ := peekToken_eq_ok hpeek
  cases hb : c₁.rest.head? with
  | none => rw [hb] at h; cases h
  | some b =>
  rw [hb] at h
  simp only at h
  split at h
  · next hclose =>
    refine ⟨before, hbefore, ?_⟩
    rw [hrest, rest_of_take_of_head hb h, beq_iff_eq.mp hclose]
  split at h <;> cases h

/-- From one record to the other, these members of an object have been read. -/
structure Collects (shape : Shape σ) (entries : σ → List Entry) (members : List (String × Bytes))
    (s s' : σ) : Prop extends Extends shape entries (members.map Prod.fst) s s' where
  written : ∀ m ∈ members, ∀ e ∈ entries s', e.name = m.1 → e.Text m.2
  unknown : ∀ m ∈ members, m.1 ∉ shape.fields.map Field.name → IsValue m.2
  once : ((members.map Prod.fst).filter (· ∈ shape.fields.map Field.name)).Nodup
  /-- No field is read that had been read before. -/
  unset : ∀ f ∈ shape.fields, f.name ∈ members.map Prod.fst → f.isSet s = false

theorem collects_nil (shape : Shape σ) (entries : σ → List Entry) (s : σ) :
    Collects shape entries [] s s where
  toExtends := .refl shape entries s
  written := by simp
  unknown := by simp
  once := by simp
  unset := by simp

/-- One more field in front of the other members. -/
theorem Collects.cons_field (hshape : shape.Tells entries) {f : Field σ} (hf : f ∈ shape.fields)
    {members : List (String × Bytes)} {s s₁ s' : σ} {t : Bytes} (hset : f.isSet s = false)
    (hput : f.Puts shape entries s s₁ t) (h : Collects shape entries members s₁ s') :
    Collects shape entries ((f.name, t) :: members) s s' where
  toExtends := hput.toExtends.cons h.toExtends
  written := by
    refine List.forall_mem_cons.mpr ⟨fun e he hname => ?_, h.written⟩
    -- the field is set by now, and so it is not read again
    have hset₁ : f.isSet s₁ = true := by simp [hput.isSet_eq f hf]
    have hnot : e.name ∉ members.map Prod.fst := by
      intro hmem
      rw [hname] at hmem
      exact absurd (h.unset f hf hmem) (by simp [hset₁])
    exact hput.written e (h.others e he hnot) hname
  unknown := List.forall_mem_cons.mpr ⟨fun hnot => absurd (List.mem_map_of_mem hf) hnot, h.unknown⟩
  once := by
    have hset₁ : f.isSet s₁ = true := by simp [hput.isSet_eq f hf]
    rw [List.map_cons, List.filter_cons_of_pos (by simpa using ⟨f, hf, rfl⟩)]
    refine List.nodup_cons.mpr ⟨fun hmem => ?_, h.once⟩
    exact absurd (h.unset f hf (List.mem_filter.mp hmem).1) (by simp [hset₁])
  unset := by
    intro g hg hname
    rcases List.mem_cons.mp hname with hname | hname
    · rw [List.inj_on_of_nodup_map hshape.nodup hg hf hname]
      exact hset
    · have := h.unset g hg hname
      rw [hput.isSet_eq g hg, Bool.or_eq_false_iff] at this
      exact this.1

/-- One more member that is passed over. -/
theorem Collects.cons_unknown (hshape : shape.Tells entries) {name : String}
    (hname : name ∉ shape.fields.map Field.name) {members : List (String × Bytes)} {s s' : σ}
    {t : Bytes} (ht : IsValue t) (h : Collects shape entries members s s') :
    Collects shape entries ((name, t) :: members) s s' where
  toExtends := h.toExtends.cons_unknown hname
  written := by
    refine List.forall_mem_cons.mpr ⟨fun e he heq => ?_, h.written⟩
    have hmem := hshape.mem_names he
    rw [heq] at hmem
    exact absurd hmem hname
  unknown := List.forall_mem_cons.mpr ⟨fun _ => ht, h.unknown⟩
  once := by
    rw [List.map_cons, List.filter_cons_of_neg (by simpa using hname)]
    exact h.once
  unset := by
    intro g hg hmem
    rcases List.mem_cons.mp hmem with rfl | hmem
    · exact absurd (List.mem_map_of_mem hg) hname
    · exact h.unset g hg hmem

theorem memberText_of_charsText {key : String} {body before after : Bytes}
    (hbody : CharsText key.toList body) (hbefore : Blanks before) (hafter : Blanks after)
    (value : Bytes) :
    MemberText (key, value) (quote :: body ++ [quote] ++ before ++ colon :: after ++ value) :=
  ⟨_, ⟨_, before, after, ⟨body, hbody, rfl⟩, hbefore, hafter, rfl⟩, rfl⟩

/-- The members of an object that are read from here on. -/
theorem objectFrom_eq_ok (hshape : shape.Tells entries) : ∀ {bound : Bytes} {first : Bool}
    {s s' : σ} {c c' : Cursor}, objectFrom shape bound first s c = .ok s' c' →
    ∃ members t, Inner MemberText first members t ∧ c.rest = t ++ c'.rest ∧
      Collects shape entries members s s' ∧ shape.missing? s' = none
  | [], _, _, _, _, _, h => by cases h
  | _ :: bound, first, s, s', c, c', h => by
    obtain ⟨more, c₁, hnext, h⟩ := exists_of_bind_eq_ok h
    obtain ⟨g, hg⟩ := nextKey_eq_ok hnext
    split at h
    case isFalse hmore =>
      rw [if_neg hmore] at hg
      cases hmissing : shape.missing? s with
      | some name => rw [hmissing] at h; cases h
      | none =>
        rw [hmissing] at h
        obtain ⟨rfl, rfl⟩ := eq_of_pure_eq_ok h
        exact ⟨[], g, Or.inl ⟨rfl, hg.1⟩, hg.2, collects_nil shape entries s, hmissing⟩
    case isTrue hmore =>
    rw [if_pos hmore] at hg
    obtain ⟨hgap, hrest⟩ := hg
    obtain ⟨key, c₂, hkey, h⟩ := exists_of_bind_eq_ok h
    obtain ⟨body, hbody, hrest'⟩ := stringBody_eq_ok hkey
    cases hfind : shape.fields.find? (·.name == key) with
    | none =>
      rw [hfind] at h
      obtain ⟨_, c₃, hcolon, h⟩ := exists_of_bind_eq_ok h
      obtain ⟨_, c₄, hskip, h⟩ := exists_of_bind_eq_ok h
      obtain ⟨before, hbefore, hrest''⟩ := keyColon_eq_ok hcolon
      obtain ⟨_, ⟨after, value, hafter, hvalue, rfl⟩, hrest₃⟩ := takes_skipValue hskip
      obtain ⟨members, t, hinner, hrest₄, hcollects, hmissing⟩ := objectFrom_eq_ok hshape h
      have hname : key ∉ shape.fields.map Field.name := by
        simpa using hfind
      refine ⟨(key, value) :: members, _,
        .cons hgap (memberText_of_charsText hbody hbefore hafter value) hinner, ?_,
        hcollects.cons_unknown hshape hname hvalue, hmissing⟩
      rw [hrest, hrest', hrest'', hrest₃, hrest₄]
      simp
    | some f =>
      rw [hfind] at h
      simp only at h
      split at h
      case isTrue => cases h
      case isFalse hset =>
      obtain ⟨_, c₃, hcolon, h⟩ := exists_of_bind_eq_ok h
      obtain ⟨s₁, c₄, hread, h⟩ := exists_of_bind_eq_ok h
      obtain ⟨before, hbefore, hrest''⟩ := keyColon_eq_ok hcolon
      have hf : f ∈ shape.fields := List.mem_of_find?_eq_some hfind
      obtain rfl : f.name = key := by simpa using List.find?_some hfind
      obtain ⟨_, ⟨after, value, hafter, hput, rfl⟩, hrest₃⟩ := hshape.reads f hf s hread
      obtain ⟨members, t, hinner, hrest₄, hcollects, hmissing⟩ := objectFrom_eq_ok hshape h
      refine ⟨(f.name, value) :: members, _,
        .cons hgap (memberText_of_charsText hbody hbefore hafter value) hinner, ?_,
        hcollects.cons_field hshape hf (by simpa using hset) hput, hmissing⟩
      rw [hrest, hrest', hrest'', hrest₃, hrest₄]
      simp

theorem Collects.describes (hshape : shape.Tells entries) {members : List (String × Bytes)} {s : σ}
    (h : Collects shape entries members shape.blank s) (hmissing : shape.missing? s = none) :
    Describes (entries s) members where
  written := h.written
  unknown := by
    rw [hshape.names]
    exact h.unknown
  once := by
    rw [known, hshape.names]
    exact h.once
  complete := by
    intro e he
    obtain ⟨f, hf, hname⟩ := List.mem_map.mp (hshape.mem_names he)
    have hset := h.isSet_eq f hf
    rw [hshape.blank f hf, Bool.false_or] at hset
    by_cases hmem : f.name ∈ members.map Prod.fst
    · refine Or.inl ?_
      rw [known, hshape.names, ← hname]
      exact List.mem_filter.mpr ⟨hmem, by simpa using ⟨f, hf, rfl⟩⟩
    · rw [decide_eq_false hmem] at hset
      refine Or.inr (hshape.optional s f hf e he hname.symm hset (Or.inl ?_))
      have hnone := List.find?_eq_none.mp (Option.map_eq_none_iff.mp hmissing) f hf
      simpa [hset] using hnone

/-- The object whose brace has been taken is a spelling of the record. -/
theorem object_eq_ok (hshape : shape.Tells entries) {s : σ} {c c' : Cursor}
    (h : object shape c = .ok s c') : ∃ members t, Describes (entries s) members ∧
      Inner MemberText true members t ∧ c.rest = t ++ c'.rest := by
  obtain ⟨members, t, hinner, hrest, hcollects, hmissing⟩ := objectFrom_eq_ok hshape h
  exact ⟨members, t, hcollects.describes hshape hmissing, hinner, hrest⟩

/-! ## Records written as lists -/

/-- At the end of the list the other fields are left out. -/
theorem positions_at_close : ∀ {fields : List (Field σ)} {read : Nat} {first : Bool} {s s' : σ}
    {c c' : Cursor}, c.rest.head? = some closeBracket →
    positions shape read first fields s c = .ok s' c' →
    s' = s ∧ c' = c ∧ ∀ f ∈ fields, f.positional = false
  | [], _, _, _, _, _, _, _, h => by
    obtain ⟨rfl, rfl⟩ := eq_of_pure_eq_ok h
    exact ⟨rfl, rfl, by simp⟩
  | f :: fields, read, first, s, s', ⟨i, rest⟩, c', hclose, h => by
    obtain ⟨rest, rfl⟩ := List.head?_eq_some_iff.mp hclose
    rw [positions, bind_of_eq_ok (nextElement_close first i rest), if_neg Bool.false_ne_true] at h
    split at h
    · cases h
    · next hpositional =>
      obtain ⟨hs, hc, hfields⟩ := positions_at_close rfl h
      exact ⟨hs, hc, List.forall_mem_cons.mpr ⟨by simpa using hpositional, hfields⟩⟩

/-- The fields that are read from here on, and those that are left out. -/
theorem positions_eq_ok (hshape : shape.Tells entries) : ∀ {fields : List (Field σ)}
    {es : List Entry} {read : Nat} {first : Bool} {s s' : σ} {c c' : Cursor},
    (∀ f ∈ fields, f ∈ shape.fields) → (fields.map Field.name).Nodup →
    es.map Entry.name = fields.map Field.name → (∀ e ∈ es, e ∈ entries s') →
    positions shape read first fields s c = .ok s' c' →
    ∃ written absent t, es = written ++ absent ∧
      (∀ e ∈ absent, ∃ f ∈ shape.fields, f.name = e.name ∧ f.positional = false) ∧
      Extends shape entries (written.map Entry.name) s s' ∧
      Inner Entry.Text first written t ∧ c.rest = t ++ c'.rest
  | [], es, _, first, s, s', c, c', _, _, hnames, _, h => by
    obtain ⟨rfl, rfl⟩ := eq_of_pure_eq_ok h
    obtain rfl := List.map_eq_nil_iff.mp hnames
    exact ⟨[], [], [], rfl, by simp, .refl shape entries s, Or.inl ⟨rfl, blanks_nil⟩, rfl⟩
  | f :: fields, es, read, first, s, s', c, c', hmem, hnodup, hnames, hes, h => by
    obtain ⟨hf, hmem'⟩ := List.forall_mem_cons.mp hmem
    obtain ⟨hnot, hnodup⟩ := List.nodup_cons.mp hnodup
    obtain ⟨more, c₁, hnext, h⟩ := exists_of_bind_eq_ok h
    obtain ⟨g, hrest, hg⟩ := nextElement_eq_ok hnext
    split at h
    · next hmore =>
      rw [if_pos hmore] at hg
      obtain ⟨e, es, rfl, hname, hnames⟩ := List.map_eq_cons_iff.mp hnames
      obtain ⟨he, hes⟩ := List.forall_mem_cons.mp hes
      obtain ⟨s₁, c₂, hread, h⟩ := exists_of_bind_eq_ok h
      obtain ⟨_, ⟨before, v, hbefore, hput, rfl⟩, hrest'⟩ := hshape.reads f hf s hread
      obtain ⟨written, absent, t, rfl, habsent, hextends, hinner, hrest''⟩ :=
        positions_eq_ok hshape hmem' hnodup hnames hes h
      -- no field after this one has its name, and so its entry stays as it is
      have hother : e.name ∉ written.map Entry.name := by
        rw [hname]
        intro hwritten
        refine hnot (hnames ▸ ?_)
        simp only [List.map_append, List.mem_append, hwritten, true_or]
      have hv : e.Text v := hput.written e (hextends.others e he hother) hname
      have hputs : Extends shape entries [e.name] s s₁ := hname ▸ hput.toExtends
      refine ⟨e :: written, absent, _, rfl, habsent, hputs.cons hextends,
        .cons (hg.append hbefore) hv hinner, ?_⟩
      rw [hrest, hrest', hrest'']
      simp
    next hmore =>
    rw [if_neg hmore] at hg
    split at h
    · cases h
    · next hpositional =>
      obtain ⟨rfl, rfl, habsent⟩ := positions_at_close hg.2 h
      have habsent : ∀ f' ∈ f :: fields, f'.positional = false :=
        List.forall_mem_cons.mpr ⟨by simpa using hpositional, habsent⟩
      refine ⟨[], es, g, rfl, fun e he => ?_, .refl shape entries _, Or.inl ⟨rfl, hg.1⟩, hrest⟩
      have hname : e.name ∈ (f :: fields).map Field.name := hnames ▸ List.mem_map_of_mem he
      obtain ⟨f', hf', hname⟩ := List.mem_map.mp hname
      exact ⟨f', hmem f' hf', hname, habsent f' hf'⟩

/-- The list whose bracket has been taken is a spelling of the record. -/
theorem positions_blank_eq_ok (hshape : shape.Tells entries) {s : σ} {c c' : Cursor}
    (h : positions shape 0 true shape.fields shape.blank c = .ok s c') :
    ∃ written t, (∃ absent, entries s = written ++ absent ∧ ∀ e ∈ absent, e.Optional) ∧
      Inner Entry.Text true written t ∧ c.rest = t ++ c'.rest := by
  obtain ⟨written, absent, t, hes, habsent, hextends, hinner, hrest⟩ :=
    positions_eq_ok hshape (fun _ hf => hf) hshape.nodup (hshape.names s) (fun _ he => he) h
  refine ⟨written, t, ⟨absent, hes, fun e he => ?_⟩, hinner, hrest⟩
  obtain ⟨f, hf, hname, hpositional⟩ := habsent e he
  have hmem : e ∈ entries s := hes ▸ List.mem_append_right _ he
  have hnot : f.name ∉ written.map Entry.name := by
    have hnodup := hshape.nodup
    rw [← hshape.names s, hes, List.map_append] at hnodup
    rw [hname]
    exact fun h => List.disjoint_of_nodup_append hnodup h (List.mem_map_of_mem he)
  have hset : f.isSet s = false := by
    rw [hextends.isSet_eq f hf, hshape.blank f hf, decide_eq_false hnot]
    rfl
  exact hshape.optional s f hf e hmem hname.symm hset (Or.inr hpositional)

/-! ## Records -/

/-- What is read as a record is a spelling of the record, as an object or as a list. -/
theorem takes_record (hshape : shape.Tells entries) :
    Takes (record shape) fun s => RecordForm (entries s) := by
  intro c c' s h
  obtain ⟨b, c₁, hpeek, h⟩ := exists_of_bind_eq_ok h
  obtain ⟨hb, before, hbefore, hrest⟩ := peekValue_eq_ok hpeek
  suffices hform : ∃ t, RecordForm (entries s) t ∧ c₁.rest = t ++ c'.rest by
    obtain ⟨t, ht, hrest'⟩ := hform
    exact ⟨before ++ t, ⟨before, t, hbefore, ht, rfl⟩, by rw [hrest, hrest', List.append_assoc]⟩
  split at h
  · next hopen =>
    rw [beq_iff_eq.mp hopen] at hb
    obtain ⟨members, t, hdescribes, hobject, hrest'⟩ :=
      bracketed_of_enclosed hb h (fun c₂ c₃ h => object_eq_ok hshape h) fun c₂ c₃ => objectEnd_eq_ok
    exact ⟨t, Or.inl ⟨members, hdescribes, hobject⟩, hrest'⟩
  split at h
  · next hopen =>
    rw [beq_iff_eq.mp hopen] at hb
    obtain ⟨written, t, ⟨absent, hes, habsent⟩, hlist, hrest'⟩ :=
      bracketed_of_enclosed hb h (fun c₂ c₃ h => positions_blank_eq_ok hshape h)
        fun c₂ c₃ => listEnd_eq_ok
    exact ⟨t, Or.inr ⟨written, absent, hes, habsent, hlist⟩, hrest'⟩
  · exact absurd h (refuses_unexpected _ _ _ _ _)

end LintDispatch.Json
