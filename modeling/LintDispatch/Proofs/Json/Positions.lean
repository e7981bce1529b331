import LintDispatch.Proofs.Json.Records

/-!
# Records written as lists
A record may be written as a list, with the values of its first fields in their own order. The
fields after them are left out. Such a list is read to the same draft as an object with these fields
(`reads_form`). What stands after the last value is taken as far as the next field is looked for, so
the readings of lists are compared up to blanks.
-/

namespace LintDispatch.Json

/-- The spellings of a record as a list. -/
def PositionsText (entries : List Entry) (t : Bytes) : Prop :=
  ∃ written absent, entries = written ++ absent ∧ (∀ e ∈ absent, e.Optional) ∧
    ListText Entry.Text written t

/-- The spellings of a record, as an object or as a list. -/
def RecordForm (entries : List Entry) (t : Bytes) : Prop :=
  RecordText entries t ∨ PositionsText entries t

variable {σ : Type} {shape : Shape σ} {draft : List String → σ}

/-- Fields that need not be there are left out at the end of the list. -/
theorem positions_absent (shape : Shape σ) (s : σ) (rest : Bytes) :
    ∀ {absent : List (Field σ)} (read : Nat) (first : Bool) {blanks : Bytes} (j : Nat),
    (∀ f ∈ absent, f.positional = false) → Blanks blanks → ∃ j' blanks', Blanks blanks' ∧
      j' + blanks'.length = j + blanks.length ∧
      positions shape read first absent s ⟨j, blanks ++ closeBracket :: rest⟩ =
        .ok s ⟨j', blanks' ++ closeBracket :: rest⟩
  | [], _, _, blanks, j, _, hblanks => ⟨j, blanks, hblanks, rfl, rfl⟩
  | f :: absent, read, first, blanks, j, habsent, hblanks => by
    obtain ⟨hf, habsent⟩ := List.forall_mem_cons.mp habsent
    have hnil : Blanks [] := List.forall_mem_nil _
    obtain ⟨j', blanks', hblanks', hindex, heq⟩ := positions_absent shape s rest (read + 1) first
      (j + blanks.length) habsent hnil
    refine ⟨j', blanks', hblanks', by simpa using hindex, ?_⟩
    have hend : nextElement first ⟨j, blanks ++ closeBracket :: rest⟩ =
        .ok false ⟨j + blanks.length, closeBracket :: rest⟩ := by
      rw [skips_nextElement first j blanks _ hblanks, nextElement_close]
    rw [positions, bind_of_eq_ok hend, if_neg Bool.false_ne_true, hf]
    simpa using heq

/-- One turn takes a value up to the blanks after it. -/
theorem positions_padded {f : Field σ} {e : Entry} (hmatch : f.Matches draft e)
    (hbegins : ∀ t, e.Text t → Begins t) {t : Bytes} (h : Padded Entry.Text e t) {first : Bool}
    {c : Cursor} {i : Nat} {b : UInt8} {rest : Bytes} (hb : b = comma ∨ b = closeBracket)
    (henter : nextElement first c = nextElement true ⟨i, t ++ b :: rest⟩) (read : Nat)
    (fields : List (Field σ)) (seen : List String) : ∃ j after, Blanks after ∧
      j + after.length = i + t.length ∧ positions shape read first (f :: fields) (draft seen) c =
        positions shape (read + 1) false fields (draft (e.name :: seen))
          ⟨j, after ++ b :: rest⟩ := by
  obtain ⟨before, v, after, hbefore, hv, hafter, rfl⟩ := h
  have hfollows : Follows (after ++ b :: rest) :=
    follows_append hafter rest (hb.imp_right Or.inl)
  have htrue : nextElement first c =
      .ok true ⟨i + before.length, v ++ (after ++ b :: rest)⟩ := by
    rw [henter, List.append_assoc, List.append_assoc, skips_nextElement true i before _ hbefore,
      nextElement_first (hbegins v hv)]
  have hvalue := hmatch.reads seen v hv (i + before.length) [] _ (by simp [Blanks]) hfollows
  rw [List.nil_append, List.length_nil, Nat.add_zero] at hvalue
  have hplace : i + before.length + v.length + after.length =
      i + (before ++ v ++ after).length := by
    simp only [List.length_append]
    omega
  refine ⟨i + before.length + v.length, after, hafter, hplace, ?_⟩
  rw [positions, bind_of_eq_ok htrue, if_pos rfl, bind_of_eq_ok hvalue]

/-- The values of fields that are come to in either way, and then fields that are left out. -/
theorem positions_separated (shape : Shape σ) {written : List Entry} {t : Bytes}
    (h : Separated (Padded Entry.Text) written t) :
    ∀ {fields absent : List (Field σ)} {read : Nat} {first : Bool} {seen : List String} {c : Cursor}
      {i : Nat} {rest : Bytes}, List.Forall₂ (Field.Matches draft) fields written →
      (∀ e ∈ written, ∀ t, e.Text t → Begins t) → (∀ f ∈ absent, f.positional = false) →
      nextElement first c = nextElement true ⟨i, t ++ closeBracket :: rest⟩ →
      ∃ j blanks, Blanks blanks ∧ j + blanks.length = i + t.length ∧
        positions shape read first (fields ++ absent) (draft seen) c =
          .ok (draft ((written.map Entry.name).reverse ++ seen))
            ⟨j, blanks ++ closeBracket :: rest⟩ := by
  induction h with
  | @last e t head =>
    intro fields absent read first seen c i rest hfields hbegins habsent henter
    obtain _ | ⟨hmatch, _ | _⟩ := hfields
    obtain ⟨j, after, hafter, hindex, heq⟩ :=
      positions_padded hmatch (hbegins e (by simp)) head (Or.inr rfl) henter read absent seen
    obtain ⟨j', blanks, hblanks, hindex', heq'⟩ :=
      positions_absent shape (draft _) rest (read + 1) false j habsent hafter
    exact ⟨j', blanks, hblanks, hindex'.trans hindex, heq.trans heq'⟩
  | @cons e written t u head tail ih =>
    intro fields absent read first seen c i rest hfields hbegins habsent henter
    obtain _ | ⟨hmatch, hfields⟩ := hfields
    obtain ⟨he, hbegins⟩ := List.forall_mem_cons.mp hbegins
    rw [List.append_assoc, List.cons_append] at henter
    obtain ⟨j, after, hafter, hindex, heq⟩ :=
      positions_padded hmatch he head (Or.inl rfl) henter read _ seen
    have hcomma : nextElement false ⟨j, after ++ comma :: (u ++ closeBracket :: rest)⟩ =
        nextElement true ⟨j + after.length + 1, u ++ closeBracket :: rest⟩ := by
      obtain ⟨e', he', before, core, more, hbefore, hcore, rfl⟩ := tail.exists_head
      rw [skips_nextElement false j after _ hafter, List.append_assoc, List.append_assoc]
      exact nextElement_comma hbefore (hbegins e' he' core hcore) _ _
    obtain ⟨j', blanks, hblanks, hindex', heq'⟩ := ih hfields hbegins habsent hcomma
    have hplace : j' + blanks.length = i + (t ++ comma :: u).length := by
      rw [hindex', hindex, List.length_append, List.length_cons]
      omega
    refine ⟨j', blanks, hblanks, hplace, ?_⟩
    rw [List.cons_append, heq, heq']
    simp

/-- What is optional may be left out of a list. -/
def Field.LeavesOut (f : Field σ) (e : Entry) : Prop := e.Optional → f.positional = false

theorem positional_eq_false {fields : List (Field σ)} {absent : List Entry}
    (h : List.Forall₂ Field.LeavesOut fields absent) :
    (∀ e ∈ absent, e.Optional) → ∀ f ∈ fields, f.positional = false := by
  induction h with
  | nil => simp
  | cons hf _ ih =>
    intro habsent
    obtain ⟨he, habsent⟩ := List.forall_mem_cons.mp habsent
    exact List.forall_mem_cons.mpr ⟨hf he, ih habsent⟩

/-- The inside of a list is read as the values of the first fields. -/
theorem positions_bracketed {written absent : List Entry}
    (hshape : shape.Matches (written ++ absent) draft)
    (hleaves : List.Forall₂ Field.LeavesOut shape.fields (written ++ absent))
    (habsent : ∀ e ∈ absent, e.Optional)
    (hbegins : ∀ e ∈ written, ∀ t, e.Text t → Begins t) {t : Bytes}
    (h : ListText Entry.Text written t) :
    ∃ inner, t = openBracket :: inner ++ [closeBracket] ∧ ∀ (i : Nat) (rest : Bytes),
      ∃ j blanks, Blanks blanks ∧ j + blanks.length = i + inner.length ∧
        positions shape 0 true shape.fields shape.blank ⟨i, inner ++ closeBracket :: rest⟩ =
          .ok (draft (written.map Entry.name).reverse) ⟨j, blanks ++ closeBracket :: rest⟩ := by
  have hwritten := List.forall₂_take_append _ _ _ hshape.fields
  have hleft := positional_eq_false (List.forall₂_drop_append _ _ _ hleaves) habsent
  rw [hshape.blank_eq]
  cases h with
  | @empty inner blanks =>
    refine ⟨inner, rfl, fun i rest => ?_⟩
    exact positions_absent shape (draft []) rest 0 true i hleft blanks
  | @filled _ inner items =>
    refine ⟨inner, rfl, fun i rest => ?_⟩
    obtain ⟨j, blanks, hblanks, hindex, heq⟩ :=
      positions_separated shape items hwritten hbegins hleft rfl
    rw [List.append_nil, List.take_append_drop] at heq
    exact ⟨j, blanks, hblanks, hindex, heq⟩

/-- A list is read as a record whose first fields it holds. -/
theorem reads_positions {entries : List Entry} (hshape : shape.Matches entries draft)
    (hleaves : List.Forall₂ Field.LeavesOut shape.fields entries)
    (hbegins : ∀ e ∈ entries, ∀ t, e.Text t → Begins t) {t : Bytes} (h : PositionsText entries t) :
    ∃ seen, (∀ e ∈ entries, e.name ∈ seen ∨ e.Optional) ∧ Reads (record shape) t (draft seen) := by
  obtain ⟨written, absent, rfl, habsent, hlist⟩ := h
  refine ⟨(written.map Entry.name).reverse, ?_, ?_⟩
  · simp only [List.mem_reverse, List.mem_append]
    rintro e (he | he)
    · exact Or.inl (List.mem_map_of_mem he)
    · exact Or.inr (habsent e he)
  obtain ⟨inner, rfl, hpositions⟩ := positions_bracketed hshape hleaves habsent
    (fun e he => hbegins e (List.mem_append_left _ he)) hlist
  refine (skips_peekValue.bind _).reads fun i rest _ => ?_
  have htext : openBracket :: inner ++ [closeBracket] ++ rest =
      openBracket :: (inner ++ closeBracket :: rest) := by simp
  obtain ⟨j, blanks, hblanks, hindex, heq⟩ := hpositions (i + 1) rest
  have hend : listEnd ⟨j, blanks ++ closeBracket :: rest⟩ =
      .ok () ⟨j + blanks.length + 1, rest⟩ := by
    rw [listEnd, skips_peekToken.bind _ _ _ _ hblanks]
    rfl
  rw [htext, bind_peekValue rfl]
  have hbrace : (openBracket == openBrace) = false := rfl
  simp only [hbrace, Bool.false_eq_true, if_false, beq_self_eq_true, if_true, bind_take]
  rw [enclosed_of_eq_ok heq hend, hindex]
  exact ok_congr rest (by simp [Nat.add_assoc, Nat.add_comm 1])

/-- Either form of a record is read. -/
theorem reads_form {entries : List Entry} (hshape : shape.Matches entries draft)
    (hleaves : List.Forall₂ Field.LeavesOut shape.fields entries)
    (hbegins : ∀ e ∈ entries, ∀ t, e.Text t → Begins t) {t : Bytes} (h : RecordForm entries t) :
    ∃ seen, (∀ e ∈ entries, e.name ∈ seen ∨ e.Optional) ∧ Reads (record shape) t (draft seen) :=
  h.elim (reads_record hshape) (reads_positions hshape hleaves hbegins)

end LintDispatch.Json
