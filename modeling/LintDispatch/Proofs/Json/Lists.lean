import LintDispatch.Proofs.Json.Reading

/-!
# Reading lists
A list is read as its elements if its elements are (`reads_list`). The loop over the elements comes
to each of them in one of two ways: the first stands right after the bracket, and the others after a
comma. Past the comma there is no difference (`nextElement_comma`), so one induction over the
separated elements serves for both.
-/

namespace LintDispatch.Json

variable {α : Type} {item : α → Bytes → Prop} {read : Reader α}

/-- Blanks and then a comma or the end of a bracket can follow a value. -/
theorem follows_append {after : Bytes} (h : Blanks after) {b : UInt8} (rest : Bytes)
    (hb : b = comma ∨ b = closeBracket ∨ b = closeBrace) : Follows (after ++ b :: rest) := by
  rcases after with _ | ⟨c, after⟩
  · intro d hd
    obtain rfl : b = d := by simpa using hd
    exact Or.inr hb
  · intro d hd
    obtain rfl : c = d := by simpa using hd
    exact Or.inl (h c (by simp))

theorem exists_cons_cons {t : List α} (h : 1 < t.length) : ∃ a b u, t = a :: b :: u := by
  obtain ⟨a, u, rfl⟩ := List.exists_cons_of_length_pos (show 0 < t.length by omega)
  obtain ⟨b, u, rfl⟩ := List.exists_cons_of_length_pos (show 0 < u.length by simpa using h)
  exact ⟨a, b, u, rfl⟩

theorem Begins.ne_nil {t : Bytes} (h : Begins t) : t ≠ [] := by
  obtain ⟨b, u, rfl, -⟩ := h
  exact List.cons_ne_nil b u

theorem skips_nextElement (first : Bool) : Skips (nextElement first) := skips_peekToken.bind _

theorem nextElement_first {t : Bytes} (h : Begins t) (i : Nat) (rest : Bytes) :
    nextElement true ⟨i, t ++ rest⟩ = .ok true ⟨i, t ++ rest⟩ := by
  obtain ⟨b, u, rfl, hb, hclose⟩ := h
  rw [List.cons_append, nextElement, bind_peekToken hb]
  simp only [beq_iff_eq, hclose, if_false, if_true]
  rfl

theorem nextElement_close (first : Bool) (i : Nat) (rest : Bytes) :
    nextElement first ⟨i, closeBracket :: rest⟩ = .ok false ⟨i, closeBracket :: rest⟩ := by
  rw [nextElement, bind_peekToken rfl]
  rfl

/-- Past the comma an element is come to as if it were the first one. -/
theorem nextElement_comma {before t : Bytes} (hb : Blanks before) (h : Begins t) (i : Nat)
    (rest : Bytes) : nextElement false ⟨i, comma :: (before ++ (t ++ rest))⟩ =
      nextElement true ⟨i + 1, before ++ (t ++ rest)⟩ := by
  rw [skips_nextElement true (i + 1) before _ hb, nextElement_first h]
  obtain ⟨b, u, rfl, hb', hclose⟩ := h
  rw [nextElement, bind_peekToken rfl]
  have hcomma : (comma == closeBracket) = false := rfl
  simp only [hcomma, Bool.false_eq_true, if_false, beq_self_eq_true, if_true, bind_take]
  rw [skips_peekToken.bind _ _ _ _ hb, List.cons_append, bind_peekToken hb']
  simp only [beq_iff_eq, hclose, if_false]
  rfl

/-- One turn takes an element with the blanks around it. -/
theorem elementsFrom_padded (hread : ∀ a t, item a t → Reads read t a)
    (hbegins : ∀ a t, item a t → Begins t) {a : α} {t : Bytes} (h : Padded item a t)
    {taken : List α} {c : Cursor} {i : Nat} {b : UInt8} {rest : Bytes}
    (hb : b = comma ∨ b = closeBracket)
    (henter : nextElement taken.isEmpty c = nextElement true ⟨i, t ++ b :: rest⟩)
    (x y : UInt8) (bound : Bytes) :
    elementsFrom read (x :: y :: bound) taken c =
      elementsFrom read (y :: bound) (a :: taken) ⟨i + t.length, b :: rest⟩ := by
  obtain ⟨before, core, after, hbefore, hcore, hafter, rfl⟩ := h
  have hfollows : Follows (after ++ b :: rest) :=
    follows_append hafter rest (hb.imp_right Or.inl)
  have htrue : nextElement taken.isEmpty c =
      .ok true ⟨i + before.length, core ++ (after ++ b :: rest)⟩ := by
    rw [henter, List.append_assoc, List.append_assoc, skips_nextElement true i before _ hbefore,
      nextElement_first (hbegins a core hcore)]
  have hvalue := hread a core hcore (i + before.length) [] _ (by simp [Blanks]) hfollows
  rw [List.nil_append, List.length_nil, Nat.add_zero] at hvalue
  rw [elementsFrom, bind_of_eq_ok htrue, if_pos rfl, bind_of_eq_ok hvalue]
  have hskips : Skips (elementsFrom read (y :: bound) (a :: taken)) := (skips_nextElement _).bind _
  rw [hskips _ after _ hafter]
  simp only [List.length_append, Nat.add_assoc]

/-- The elements of a list that is come to in either way. -/
theorem elementsFrom_separated (hread : ∀ a t, item a t → Reads read t a)
    (hbegins : ∀ a t, item a t → Begins t) {as : List α} {t : Bytes}
    (h : Separated (Padded item) as t) :
    ∀ {bound : Bytes} {taken : List α} {c : Cursor} {i : Nat} {rest : Bytes},
      t.length < bound.length →
      nextElement taken.isEmpty c = nextElement true ⟨i, t ++ closeBracket :: rest⟩ →
      elementsFrom read bound taken c =
        .ok (taken.reverse ++ as) ⟨i + t.length, closeBracket :: rest⟩ := by
  induction h with
  | @last a t head =>
    intro bound taken c i rest hlen henter
    obtain ⟨b, -, before, core, more, -, hcore, ht⟩ := (Separated.last head).exists_head
    have hpos : 0 < core.length := List.length_pos_iff.mpr (hbegins b core hcore).ne_nil
    obtain ⟨x, y, bound, rfl⟩ : ∃ x y more, bound = x :: y :: more :=
      exists_cons_cons (by rw [ht] at hlen; simp at hlen; omega)
    rw [elementsFrom_padded hread hbegins head (Or.inr rfl) henter, elementsFrom,
      bind_of_eq_ok (nextElement_close _ _ rest), ← List.reverse_cons]
    rfl
  | @cons a as t u head tail ih =>
    intro bound taken c i rest hlen henter
    rw [List.length_append, List.length_cons] at hlen
    obtain ⟨x, y, bound, rfl⟩ : ∃ x y more, bound = x :: y :: more :=
      exists_cons_cons (by omega)
    rw [List.append_assoc, List.cons_append] at henter
    rw [elementsFrom_padded hread hbegins head (Or.inl rfl) henter]
    obtain ⟨b, -, before, core, more, hbefore, hcore, hu⟩ := tail.exists_head
    have hcomma : nextElement (a :: taken).isEmpty
        ⟨i + t.length, comma :: (u ++ closeBracket :: rest)⟩ =
        nextElement true ⟨i + t.length + 1, u ++ closeBracket :: rest⟩ := by
      rw [hu, List.append_assoc, List.append_assoc]
      exact nextElement_comma hbefore (hbegins b core hcore) _ _
    rw [ih (by simp only [List.length_cons] at hlen ⊢; omega) hcomma]
    simp [Nat.add_assoc, Nat.add_comm 1]

theorem elements_bracketed (hread : ∀ a t, item a t → Reads read t a)
    (hbegins : ∀ a t, item a t → Begins t) {opening : UInt8} {as : List α} {t : Bytes}
    (h : Bracketed opening closeBracket item as t) :
    ∃ inner, t = opening :: inner ++ [closeBracket] ∧ ∀ (i : Nat) (rest : Bytes),
      elements read ⟨i, inner ++ closeBracket :: rest⟩ =
        .ok as ⟨i + inner.length, closeBracket :: rest⟩ := by
  cases h with
  | @empty inner blanks =>
    refine ⟨inner, rfl, fun i rest => ?_⟩
    obtain ⟨x, bound, hbound⟩ := List.exists_cons_of_ne_nil
      (show inner ++ closeBracket :: rest ≠ [] by simp)
    have hfalse : nextElement true ⟨i, inner ++ closeBracket :: rest⟩ =
        .ok false ⟨i + inner.length, closeBracket :: rest⟩ := by
      rw [skips_nextElement true i inner _ blanks, nextElement_close]
    simp only [elements]
    rw [hbound, elementsFrom, ← hbound]
    exact bind_of_eq_ok hfalse
  | @filled _ inner items =>
    refine ⟨inner, rfl, fun i rest => ?_⟩
    exact elementsFrom_separated hread hbegins items (by simp) rfl

theorem enclosed_of_eq_ok {body : Reader α} {close : Reader Unit} {c c' c'' : Cursor} {a : α}
    (h : body c = .ok a c') (h' : close c' = .ok () c'') : enclosed body close c = .ok a c'' := by
  simp only [enclosed, h, h']

/-- A list is read as its elements, if each of them is read and none begins like the end of the
list. -/
theorem reads_list (hread : ∀ a t, item a t → Reads read t a)
    (hbegins : ∀ a t, item a t → Begins t) {as : List α} {t : Bytes} (h : ListText item as t) :
    Reads (list read) t as := by
  refine (skips_peekValue.bind _).reads fun i rest _ => ?_
  obtain ⟨inner, rfl, helements⟩ := elements_bracketed hread hbegins h
  have htext : openBracket :: inner ++ [closeBracket] ++ rest =
      openBracket :: (inner ++ closeBracket :: rest) := by simp
  have hend : listEnd ⟨i + 1 + inner.length, closeBracket :: rest⟩ =
      .ok () ⟨i + 1 + inner.length + 1, rest⟩ := rfl
  rw [htext, bind_peekValue rfl]
  simp only [beq_self_eq_true, if_true, bind_take]
  rw [enclosed_of_eq_ok (helements (i + 1) rest) hend]
  simp [Nat.add_assoc, Nat.add_comm 1]

end LintDispatch.Json
