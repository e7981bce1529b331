import LintDispatch.Proofs.Json.Skipping

/-!
# Reading records
An object is read as a record whose fields stand in it in any order, between keys that the record
does not know (`reads_record`). While the object is read its record is incomplete. `draft seen` is
the record once the fields in `seen` have been read, and `Shape.Matches` says that the readers of
the fields go from one draft to the next. So the loop keeps no more than the list of the names seen
so far, and two readings of the same members end with the same draft.
-/

namespace LintDispatch.Json

variable {σ : Type} {shape : Shape σ} {entries : List Entry} {draft : List String → σ}

/-- The field reads every spelling of its entry, and is set from then on. -/
structure Field.Matches (draft : List String → σ) (f : Field σ) (e : Entry) : Prop where
  name_eq : f.name = e.name
  isSet_eq : ∀ seen, f.isSet (draft seen) = decide (e.name ∈ seen)
  reads : ∀ seen v, e.Text v → Reads (f.read (draft seen)) v (draft (e.name :: seen))
  required : f.required = true → ¬e.Optional

/-- The shape reads records that are written with these entries. -/
structure Shape.Matches (shape : Shape σ) (entries : List Entry) (draft : List String → σ) :
    Prop where
  blank_eq : shape.blank = draft []
  fields : List.Forall₂ (Field.Matches draft) shape.fields entries

/-- A field matches its entry if its value is read on its own and then put into the draft. -/
theorem Field.matches_of_reads {α : Type} {f : Field σ} {e : Entry} {read : Reader α} {a : α}
    (put : α → σ → σ) (name_eq : f.name = e.name)
    (isSet_eq : ∀ seen, f.isSet (draft seen) = decide (e.name ∈ seen))
    (read_eq : ∀ s, f.read s = read >>= fun a => pure (put a s))
    (reads : ∀ t, e.Text t → Reads read t a)
    (put_eq : ∀ seen, put a (draft seen) = draft (e.name :: seen))
    (required : f.required = true → ¬e.Optional) : f.Matches draft e where
  name_eq := name_eq
  isSet_eq := isSet_eq
  reads seen t ht := by
    rw [read_eq, ← put_eq]
    exact (reads t ht).map fun a => put a (draft seen)
  required := required

theorem find?_matches {fields : List (Field σ)}
    (h : List.Forall₂ (Field.Matches draft) fields entries) (key : String) :
    (fields.find? (·.name == key) = none ∧ key ∉ entries.map Entry.name) ∨
      ∃ f e, fields.find? (·.name == key) = some f ∧ e ∈ entries ∧ e.name = key ∧
        f.Matches draft e := by
  induction h with
  | nil => exact Or.inl ⟨rfl, by simp⟩
  | @cons f e fields entries hf _ ih =>
    by_cases hkey : f.name = key
    · refine Or.inr ⟨f, e, ?_, by simp, hf.name_eq ▸ hkey, hf⟩
      rw [List.find?_cons_of_pos (by simpa using hkey)]
    · rw [List.find?_cons_of_neg (by simpa using hkey)]
      rcases ih with ⟨hnone, hnot⟩ | ⟨f', e', hfind, hmem, hname, hmatch⟩
      · refine Or.inl ⟨hnone, ?_⟩
        rw [List.map_cons, List.mem_cons, not_or]
        exact ⟨fun h => hkey (hf.name_eq.trans h.symm), hnot⟩
      · exact Or.inr ⟨f', e', hfind, List.mem_cons_of_mem _ hmem, hname, hmatch⟩

theorem find?_missing {fields : List (Field σ)} {seen : List String}
    (h : List.Forall₂ (Field.Matches draft) fields entries) :
    (∀ e ∈ entries, e.name ∈ seen ∨ e.Optional) →
      fields.find? (fun f => f.required && !f.isSet (draft seen)) = none := by
  induction h with
  | nil => exact fun _ => rfl
  | @cons f e fields entries hf _ ih =>
    intro hseen
    obtain ⟨he, hseen⟩ := List.forall_mem_cons.mp hseen
    rw [List.find?_cons_of_neg, ih hseen]
    intro hmissing
    rw [Bool.and_eq_true, Bool.not_eq_true', hf.isSet_eq, decide_eq_false_iff_not] at hmissing
    exact he.elim hmissing.2 (hf.required hmissing.1)

/-- Nothing is missing from a draft that has seen all that may not be left out. -/
theorem missing?_draft (h : shape.Matches entries draft) {seen : List String}
    (hseen : ∀ e ∈ entries, e.name ∈ seen ∨ e.Optional) : shape.missing? (draft seen) = none := by
  rw [Shape.missing?, find?_missing h.fields hseen]
  rfl

theorem known_of_mem {m : String × Bytes} (h : m.1 ∈ entries.map Entry.name) :
    known entries [m] = [m.1] := by
  rw [known, List.map_singleton, List.filter_cons_of_pos (by simpa using h), List.filter_nil]

theorem known_of_not_mem {m : String × Bytes} (h : m.1 ∉ entries.map Entry.name) :
    known entries [m] = [] := by
  rw [known, List.map_singleton, List.filter_cons_of_neg (by simpa using h), List.filter_nil]

theorem mem_known {members : List (String × Bytes)} {name : String} :
    name ∈ known entries members ↔
      name ∈ members.map Prod.fst ∧ name ∈ entries.map Entry.name := by
  simp only [known, List.mem_filter, decide_eq_true_eq]

theorem known_cons (entries : List Entry) (m : String × Bytes) (members : List (String × Bytes)) :
    known entries (m :: members) = known entries [m] ++ known entries members := by
  rw [known, known, known, ← List.filter_append]
  rfl

/-! ## Keys -/

theorem skips_nextKey (first : Bool) : Skips (nextKey first) := skips_peekToken.bind _

theorem nextKey_first (i : Nat) (rest : Bytes) :
    nextKey true ⟨i, quote :: rest⟩ = .ok true ⟨i + 1, rest⟩ := rfl

theorem nextKey_close (first : Bool) (i : Nat) (rest : Bytes) :
    nextKey first ⟨i, closeBrace :: rest⟩ = .ok false ⟨i, closeBrace :: rest⟩ := rfl

/-- Past the comma a key is come to as if it were the first one. -/
theorem nextKey_comma {before : Bytes} (hb : Blanks before) (i : Nat) (rest : Bytes) :
    nextKey false ⟨i, comma :: (before ++ quote :: rest)⟩ =
      nextKey true ⟨i + 1, before ++ quote :: rest⟩ := by
  rw [skips_nextKey true (i + 1) before _ hb, nextKey_first]
  have hclose : (comma == closeBrace) = false := rfl
  rw [nextKey, bind_peekToken rfl]
  simp only [hclose, Bool.false_eq_true, if_false, beq_self_eq_true, if_true, bind_take]
  rw [skips_peekToken.bind _ _ _ _ hb, bind_peekToken rfl]
  rfl

/-! ## Members -/

/-- A member is its key between quotes, a colon and its value. -/
theorem MemberText.exists_key {m : String × Bytes} {t : Bytes} (h : MemberText m t) :
    ∃ body before after, CharsText m.1.toList body ∧ Blanks before ∧ Blanks after ∧
      t = quote :: body ++ quote :: before ++ colon :: after ++ m.2 := by
  obtain ⟨key, ⟨string, before, after, ⟨body, hbody, rfl⟩, hbefore, hafter, rfl⟩, rfl⟩ := h
  exact ⟨body, before, after, hbody, hbefore, hafter, by simp⟩

/-- One turn takes a member with the blanks around it. -/
theorem objectFrom_padded (hshape : shape.Matches entries draft) {m : String × Bytes} {t : Bytes}
    (h : Padded MemberText m t) {seen : List String} (hseen : m.1 ∉ seen)
    (hwritten : ∀ e ∈ entries, e.name = m.1 → e.Text m.2)
    (hunknown : m.1 ∉ entries.map Entry.name → IsValue m.2) {first : Bool} {c : Cursor} {i : Nat}
    {b : UInt8} {rest : Bytes} (hb : b = comma ∨ b = closeBrace)
    (henter : nextKey first c = nextKey true ⟨i, t ++ b :: rest⟩) (x y : UInt8) (bound : Bytes) :
    objectFrom shape (x :: y :: bound) first (draft seen) c =
      objectFrom shape (y :: bound) false (draft ((known entries [m]).reverse ++ seen))
        ⟨i + t.length, b :: rest⟩ := by
  obtain ⟨before, core, after, hbefore, hcore, hafter, rfl⟩ := h
  obtain ⟨body, before', after', hbody, hbefore', hafter', rfl⟩ := hcore.exists_key
  have hfollows : Follows (after ++ b :: rest) := follows_append hafter rest (hb.imp_right Or.inr)
  let value := after' ++ (m.2 ++ (after ++ b :: rest))
  have htrue : nextKey first c =
      .ok true ⟨i + before.length + 1, body ++ quote :: (before' ++ colon :: value)⟩ := by
    have htext : before ++ (quote :: body ++ quote :: before' ++ colon :: after' ++ m.2) ++ after ++
        b :: rest = before ++ quote :: (body ++ quote :: (before' ++ colon :: value)) := by
      simp [value]
    rw [henter, htext, skips_nextKey true i before _ hbefore, nextKey_first]
  have hkey := stringBody_charsText hbody (i + before.length + 1) (before' ++ colon :: value)
  have hcolon := keyColon_apply hbefore' (i + before.length + 1 + body.length + 1) value
  have hskips (s : σ) : Skips (objectFrom shape (y :: bound) false s) := (skips_nextKey _).bind _
  have hplace : i + before.length + 1 + body.length + 1 + before'.length + 1 + after'.length +
      m.2.length + after.length = i + (before ++ (quote :: body ++ quote :: before' ++
        colon :: after' ++ m.2) ++ after).length := by
    simp only [List.length_append, List.length_cons]
    omega
  rw [objectFrom, bind_of_eq_ok htrue, if_pos rfl, bind_of_eq_ok hkey, ← hplace]
  rcases find?_matches hshape.fields m.1 with
    ⟨hnone, hnot⟩ | ⟨f, e, hfind, hmem, hname, hmatch⟩
  · have hskip (j : Nat) := reads_skipValue (hunknown hnot) j after' _ hafter' hfollows
    simp only [hnone]
    rw [bind_of_eq_ok hcolon, bind_of_eq_ok (hskip _), hskips _ _ _ _ hafter, known_of_not_mem hnot]
    rfl
  · have hread (j : Nat) :=
      hmatch.reads seen m.2 (hwritten e hmem hname) j after' _ hafter' hfollows
    have hset : f.isSet (draft seen) = false := by
      rw [hmatch.isSet_eq, hname]
      simpa using hseen
    simp only [hfind, hset, Bool.false_eq_true, if_false]
    rw [bind_of_eq_ok hcolon, bind_of_eq_ok (hread _), hskips _ _ _ _ hafter,
      known_of_mem (List.mem_map.mpr ⟨e, hmem, hname⟩), hname]
    rfl

/-- The members of an object that is come to in either way, up to its end. -/
theorem objectFrom_separated (hshape : shape.Matches entries draft)
    {members : List (String × Bytes)} {t : Bytes} (h : Separated (Padded MemberText) members t) :
    ∀ {bound : Bytes} {first : Bool} {seen : List String} {c : Cursor} {i : Nat} {rest : Bytes},
      (∀ m ∈ members, m.1 ∉ seen) → (known entries members).Nodup →
      (∀ m ∈ members, ∀ e ∈ entries, e.name = m.1 → e.Text m.2) →
      (∀ m ∈ members, m.1 ∉ entries.map Entry.name → IsValue m.2) →
      t.length < bound.length → nextKey first c = nextKey true ⟨i, t ++ closeBrace :: rest⟩ →
      ∃ y bound', objectFrom shape bound first (draft seen) c =
        objectFrom shape (y :: bound') false (draft ((known entries members).reverse ++ seen))
          ⟨i + t.length, closeBrace :: rest⟩ := by
  induction h with
  | @last m t head =>
    intro bound first seen c i rest hseen _ hwritten hunknown hlen henter
    obtain ⟨m', -, before, core, more, -, hcore, ht⟩ := (Separated.last head).exists_head
    obtain ⟨body, before', after', -, -, -, hcore⟩ := hcore.exists_key
    obtain ⟨x, y, bound, rfl⟩ : ∃ x y more, bound = x :: y :: more :=
      exists_cons_cons (by rw [ht, hcore] at hlen; simp at hlen; omega)
    exact ⟨y, bound, objectFrom_padded hshape head (hseen m (by simp)) (hwritten m (by simp))
      (hunknown m (by simp)) (Or.inr rfl) henter x y bound⟩
  | @cons m members t u head tail ih =>
    intro bound first seen c i rest hseen honce hwritten hunknown hlen henter
    rw [List.length_append, List.length_cons] at hlen
    obtain ⟨x, y, bound, rfl⟩ : ∃ x y more, bound = x :: y :: more :=
      exists_cons_cons (by omega)
    obtain ⟨hm, hseen⟩ := List.forall_mem_cons.mp hseen
    obtain ⟨hwrittenm, hwritten⟩ := List.forall_mem_cons.mp hwritten
    obtain ⟨hunknownm, hunknown⟩ := List.forall_mem_cons.mp hunknown
    rw [List.append_assoc, List.cons_append] at henter
    rw [objectFrom_padded hshape head hm hwrittenm hunknownm (Or.inl rfl) henter]
    obtain ⟨m', -, before, core, more, hbefore, hcore, hu⟩ := tail.exists_head
    have hcomma : nextKey false ⟨i + t.length, comma :: (u ++ closeBrace :: rest)⟩ =
        nextKey true ⟨i + t.length + 1, u ++ closeBrace :: rest⟩ := by
      obtain ⟨body, before', after', -, -, -, rfl⟩ := hcore.exists_key
      rw [hu]
      simp only [List.append_assoc, List.cons_append]
      exact nextKey_comma hbefore _ _
    -- a field that has just been read is not written again
    rw [known_cons] at honce
    obtain ⟨-, honce, hdisjoint⟩ := List.nodup_append.mp honce
    have hseen' : ∀ m' ∈ members, m'.1 ∉ (known entries [m]).reverse ++ seen := by
      intro m' hm' hmem
      rcases List.mem_append.mp hmem with hmem | hmem
      · rw [List.mem_reverse] at hmem
        have hknown : m'.1 ∈ known entries members :=
          mem_known.mpr ⟨List.mem_map_of_mem hm', (mem_known.mp hmem).2⟩
        exact hdisjoint _ hmem _ hknown rfl
      · exact hseen m' hm' hmem
    have hbound : u.length < (y :: bound).length := by
      simp only [List.length_cons] at hlen ⊢
      omega
    obtain ⟨y', bound', heq⟩ := ih hseen' honce hwritten hunknown hbound hcomma
    have hplace : i + t.length + 1 + u.length = i + (t ++ comma :: u).length := by
      simp only [List.length_append, List.length_cons]
      omega
    refine ⟨y', bound', ?_⟩
    rw [heq, known_cons entries m members, List.reverse_append, List.append_assoc, hplace]

theorem object_bracketed (hshape : shape.Matches entries draft)
    {members : List (String × Bytes)} (hmembers : Describes entries members) {t : Bytes}
    (h : Bracketed openBrace closeBrace MemberText members t) :
    ∃ inner, t = openBrace :: inner ++ [closeBrace] ∧ ∀ (i : Nat) (rest : Bytes),
      object shape ⟨i, inner ++ closeBrace :: rest⟩ =
        .ok (draft (known entries members).reverse) ⟨i + inner.length, closeBrace :: rest⟩ := by
  have hmissing : shape.missing? (draft (known entries members).reverse) = none := by
    refine missing?_draft hshape fun e he => ?_
    rw [List.mem_reverse]
    exact hmembers.complete e he
  have hend (y : UInt8) (bound : Bytes) (first : Bool) (j : Nat) (rest : Bytes) :
      objectFrom shape (y :: bound) first (draft (known entries members).reverse)
        ⟨j, closeBrace :: rest⟩ =
      .ok (draft (known entries members).reverse) ⟨j, closeBrace :: rest⟩ := by
    rw [objectFrom, bind_of_eq_ok (nextKey_close first j rest), if_neg Bool.false_ne_true, hmissing]
    rfl
  cases h with
  | @empty inner blanks =>
    refine ⟨inner, rfl, fun i rest => ?_⟩
    obtain ⟨x, bound, hbound⟩ := List.exists_cons_of_ne_nil
      (show inner ++ closeBrace :: rest ≠ [] by simp)
    have hskips : Skips (objectFrom shape (x :: bound) true shape.blank) :=
      (skips_nextKey true).bind _
    have hblank : shape.blank = draft (known entries []).reverse := hshape.blank_eq
    have hobject : objectFrom shape (x :: bound) true shape.blank ⟨i, inner ++ closeBrace :: rest⟩ =
        .ok (draft (known entries []).reverse) ⟨i + inner.length, closeBrace :: rest⟩ := by
      rw [hskips i inner _ blanks, hblank, hend]
    rw [← hbound] at hobject
    exact hobject
  | @filled _ inner items =>
    refine ⟨inner, rfl, fun i rest => ?_⟩
    obtain ⟨y, bound', heq⟩ : ∃ y bound',
        objectFrom shape (inner ++ closeBrace :: rest) true (draft [])
          ⟨i, inner ++ closeBrace :: rest⟩ =
        objectFrom shape (y :: bound') false (draft ((known entries members).reverse ++ []))
          ⟨i + inner.length, closeBrace :: rest⟩ :=
      objectFrom_separated hshape items (by simp) hmembers.once hmembers.written hmembers.unknown
        (by simp) rfl
    simp only [object]
    rw [hshape.blank_eq, heq, List.append_nil, hend]

/-- An object is read as a record, whatever the order of its fields and whatever stands in between.
Of the draft it is said that it has seen all fields but optional ones. -/
theorem reads_record (hshape : shape.Matches entries draft) {t : Bytes} (h : RecordText entries t) :
    ∃ seen, (∀ e ∈ entries, e.name ∈ seen ∨ e.Optional) ∧ Reads (record shape) t (draft seen) := by
  obtain ⟨members, hmembers, hbracketed⟩ := h
  obtain ⟨inner, rfl, hobject⟩ := object_bracketed hshape hmembers hbracketed
  refine ⟨(known entries members).reverse, ?_, ?_⟩
  · intro e he
    rw [List.mem_reverse]
    exact hmembers.complete e he
  · refine (skips_peekValue.bind _).reads fun i rest _ => ?_
    have htext : openBrace :: inner ++ [closeBrace] ++ rest =
        openBrace :: (inner ++ closeBrace :: rest) := by simp
    have hend : objectEnd ⟨i + 1 + inner.length, closeBrace :: rest⟩ =
        .ok () ⟨i + 1 + inner.length + 1, rest⟩ := rfl
    rw [htext, bind_peekValue rfl]
    simp only [beq_self_eq_true, if_true, bind_take]
    rw [enclosed_of_eq_ok (hobject (i + 1) rest) hend]
    exact ok_congr rest (by simp [Nat.add_assoc, Nat.add_comm 1])

/-- A record is read and then completed, if any draft that lacks only optional fields is completed
to the same value. -/
theorem reads_completed {α : Type} (hshape : shape.Matches entries draft) {complete : σ → α} {a : α}
    (hcomplete : ∀ seen, (∀ e ∈ entries, e.name ∈ seen ∨ e.Optional) → complete (draft seen) = a)
    {t : Bytes} (h : RecordText entries t) :
    Reads (record shape >>= fun d => pure (complete d)) t a := by
  obtain ⟨seen, hseen, hread⟩ := reads_record hshape h
  rw [← hcomplete seen hseen]
  exact hread.map complete

theorem recordText_begins {entries : List Entry} {t : Bytes} (h : RecordText entries t) :
    Begins t := by
  obtain ⟨members, -, hmembers⟩ := h
  cases hmembers with
  | empty => exact ⟨openBrace, _, rfl, rfl, by decide⟩
  | filled => exact ⟨openBrace, _, rfl, rfl, by decide⟩

end LintDispatch.Json
