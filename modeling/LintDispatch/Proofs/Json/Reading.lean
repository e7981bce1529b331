import LintDispatch.Json.Record
import LintDispatch.Proofs.Json.Grammar

/-!
# Reading what the grammar allows
A reader `Reads` a text as a value if it takes that text and the blanks before it, whatever stands
after it. A number ends only where something else begins, so what stands after a value has to be one
of the things that may (`Follows`).

The lemmas here are about the steps that readers are made of: what each step takes of a text, and
that readers that look for a token first pass over blanks (`Skips`).
-/

namespace LintDispatch.Json

variable {α β : Type}

/-- After a value there is a blank, a comma, a closing bracket or nothing. -/
def Follows (rest : Bytes) : Prop :=
  ∀ b ∈ rest.head?, isSpace b = true ∨ b = comma ∨ b = closeBracket ∨ b = closeBrace

/-- The reader takes the text as the value, with the blanks before it. -/
def Reads (read : Reader α) (t : Bytes) (a : α) : Prop :=
  ∀ (i : Nat) (before rest : Bytes), Blanks before → Follows rest →
    read ⟨i, before ++ (t ++ rest)⟩ = .ok a ⟨i + before.length + t.length, rest⟩

/-- The reader passes over blanks before anything else. -/
def Skips (read : Reader α) : Prop :=
  ∀ (i : Nat) (before t : Bytes), Blanks before →
    read ⟨i, before ++ t⟩ = read ⟨i + before.length, t⟩

/-- The text begins with a byte that is neither a blank nor the end of a list. -/
def Begins (t : Bytes) : Prop := ∃ b u, t = b :: u ∧ isSpace b = false ∧ b ≠ closeBracket

/-! ## Steps of a reader -/

/-- Answers at the same place are the same, however the place has been counted. -/
theorem ok_congr {a : α} {i j : Nat} (rest : Bytes) (h : i = j) :
    (.ok a ⟨i, rest⟩ : EStateM.Result Fault Cursor α) = .ok a ⟨j, rest⟩ := by
  rw [h]

theorem bind_of_eq_ok {read : Reader α} {k : α → Reader β} {c c' : Cursor} {a : α}
    (h : read c = .ok a c') : (read >>= k) c = k a c' := by
  show EStateM.bind read k c = k a c'
  rw [EStateM.bind, h]

theorem bind_take (k : Unit → Reader β) (i : Nat) (b : UInt8) (t : Bytes) :
    (take >>= k) ⟨i, b :: t⟩ = k () ⟨i + 1, t⟩ := rfl

theorem bind_peek (k : Option UInt8 → Reader β) (i : Nat) (t : Bytes) :
    (peek >>= k) ⟨i, t⟩ = k t.head? ⟨i, t⟩ := rfl

theorem skip_append {before : Bytes} (h : Blanks before) (i : Nat) (t : Bytes) :
    Cursor.skip isSpace ⟨i, before ++ t⟩ = Cursor.skip isSpace ⟨i + before.length, t⟩ := by
  simp only [Cursor.skip, List.takeWhile_append_of_pos h, List.dropWhile_append_of_pos h,
    List.length_append, Nat.add_assoc]

theorem skips_peekToken : Skips peekToken := by
  intro i before t h
  simp only [peekToken, skip_append h]

theorem Skips.bind {read : Reader α} (h : Skips read) (k : α → Reader β) : Skips (read >>= k) := by
  intro i before t hb
  show EStateM.bind read k _ = EStateM.bind read k _
  rw [EStateM.bind, EStateM.bind, h i before t hb]

theorem skips_peekValue : Skips peekValue := skips_peekToken.bind _

theorem Skips.reads {read : Reader α} {t : Bytes} {a : α} (h : Skips read)
    (hread : ∀ (i : Nat) (rest : Bytes), Follows rest →
      read ⟨i, t ++ rest⟩ = .ok a ⟨i + t.length, rest⟩) : Reads read t a := by
  intro i before rest hb hrest
  rw [h i before _ hb, hread _ rest hrest]

theorem bind_peekToken {b : UInt8} (h : isSpace b = false) (k : Option UInt8 → Reader β) (i : Nat)
    (t : Bytes) : (peekToken >>= k) ⟨i, b :: t⟩ = k (some b) ⟨i, b :: t⟩ := by
  refine bind_of_eq_ok ?_
  simp [peekToken, Cursor.skip, h]

theorem bind_peekValue {b : UInt8} (h : isSpace b = false) (k : UInt8 → Reader β) (i : Nat)
    (t : Bytes) : (peekValue >>= k) ⟨i, b :: t⟩ = k b ⟨i, b :: t⟩ := by
  rw [peekValue, bind_assoc, bind_peekToken h]
  rfl

theorem Reads.map {read : Reader α} {t : Bytes} {a : α} (h : Reads read t a) (f : α → β) :
    Reads (read >>= fun a => pure (f a)) t (f a) := by
  intro i before rest hb hrest
  rw [bind_of_eq_ok (h i before rest hb hrest)]
  rfl

theorem word_append (rest : Bytes) : ∀ (w : Bytes) (i : Nat),
    word w ⟨i, w ++ rest⟩ = .ok () ⟨i + w.length, rest⟩
  | [], i => rfl
  | b :: w, i => by
    rw [word, bind_peek]
    simp only [List.cons_append, List.head?_cons, bind_take, beq_self_eq_true, if_true]
    rw [word_append rest w, List.length_cons, Nat.add_assoc, Nat.add_comm 1]

theorem bind_word (w : Bytes) (k : Unit → Reader β) (i : Nat) (rest : Bytes) :
    (word w >>= k) ⟨i, w ++ rest⟩ = k () ⟨i + w.length, rest⟩ :=
  bind_of_eq_ok (word_append rest w i)

/-! ## Whole texts -/

theorem follows_of_blanks {after : Bytes} (h : Blanks after) : Follows after := by
  intro b hb
  exact Or.inl (h b (List.mem_of_mem_head? hb))

/-- A text is read if its value is, with blanks on either side. -/
theorem readAll_padded {item : α → Bytes → Prop} {read : Reader α}
    (hread : ∀ a t, item a t → Reads read t a) {a : α} {t : Bytes} (h : Padded item a t) :
    readAll read t = .ok a := by
  obtain ⟨before, core, after, hbefore, hcore, hafter, rfl⟩ := h
  have hvalue := hread a core hcore 0 before after hbefore (follows_of_blanks hafter)
  have hpeek (k : Option UInt8 → Reader α) (i : Nat) :
      (peekToken >>= k) ⟨i, after⟩ = k none ⟨i + after.length, []⟩ := by
    have := skips_peekToken.bind k i after [] hafter
    rw [List.append_nil] at this
    rw [this]
    rfl
  rw [readAll, List.append_assoc, bind_of_eq_ok hvalue, hpeek]
  rfl

end LintDispatch.Json
