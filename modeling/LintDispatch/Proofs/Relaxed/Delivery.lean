import LintDispatch.Proofs.Relaxed.Numbers

/-!
# What relaxed JSON delivers
Not every value comes out of a text. The keys of an object stand in increasing order, so none of
them stands twice, and an integer fits 64 bits, with a sign if it is negative. `Delivered` says this
of a value and of all values inside it, and `delivered_of_parse` that every text keeps to it.
-/

namespace LintDispatch.Relaxed

open Json (Value Number)

/-! ## Delivered values -/

/-- The value may come out of a text. -/
inductive Delivered : Value → Prop
  | null : Delivered .null
  | bool (b : Bool) : Delivered (.bool b)
  | string (s : String) : Delivered (.string s)
  /-- From `-2 ^ 63` up to `2 ^ 64 - 1`. -/
  | int {n : Int} (le : -9223372036854775808 ≤ n) (lt : n < 18446744073709551616) :
      Delivered (.number (.int n))
  | float (x : Binary64) : Delivered (.number (.float x))
  | list {vs : List Value} (elements : ∀ v ∈ vs, Delivered v) : Delivered (.list vs)
  | object {fields : List (String × Value)} (sorted : (fields.map Prod.fst).Pairwise (· < ·))
      (values : ∀ f ∈ fields, Delivered f.2) : Delivered (.object fields)

theorem Delivered.nodup {fields : List (String × Value)} (h : Delivered (.object fields)) :
    (fields.map Prod.fst).Nodup := by
  cases h with
  | object sorted values => exact sorted.imp String.ne_of_lt

theorem Delivered.lt {n : Int} (h : Delivered (.number (.int n))) :
    n < 18446744073709551616 := by
  cases h with
  | int le lt => exact lt

/-! ## Objects -/

theorem mem_insertField {k : String} {v : Value} {f : String × Value} :
    ∀ {fields : List (String × Value)}, f ∈ insertField k v fields → f = (k, v) ∨ f ∈ fields
  | [], h => Or.inl (List.mem_singleton.mp h)
  | (k', v') :: fields, h => by
    rw [insertField] at h
    split at h
    · exact (List.mem_cons.mp h).imp_right (List.mem_cons_of_mem _)
    split at h
    · exact List.mem_cons.mp h
    · rcases List.mem_cons.mp h with rfl | h
      · exact Or.inr List.mem_cons_self
      · exact (mem_insertField h).imp_right (List.mem_cons_of_mem _)

theorem sorted_insertField (k : String) (v : Value) : ∀ {fields : List (String × Value)},
    (fields.map Prod.fst).Pairwise (· < ·) →
      ((insertField k v fields).map Prod.fst).Pairwise (· < ·)
  | [], _ => List.pairwise_singleton _ _
  | (k', v') :: fields, h => by
    obtain ⟨hhead, htail⟩ := List.pairwise_cons.mp h
    rw [insertField]
    split
    case isTrue heq =>
      subst heq
      exact h
    case isFalse hne =>
    split
    case isTrue hlt =>
      refine List.pairwise_cons.mpr ⟨List.forall_mem_cons.mpr ⟨hlt, fun key hkey => ?_⟩, h⟩
      exact String.lt_trans hlt (hhead key hkey)
    case isFalse hge =>
      have hlt : k' < k := Std.lt_of_le_of_ne (String.not_lt.mp hge) (Ne.symm hne)
      refine List.pairwise_cons.mpr ⟨fun key hkey => ?_, sorted_insertField k v htail⟩
      obtain ⟨f, hf, rfl⟩ := List.mem_map.mp hkey
      rcases mem_insertField hf with rfl | hf
      · exact hlt
      · exact hhead _ (List.mem_map_of_mem hf)

theorem mem_insertField_iff {k : String} {v : Value} {f : String × Value} :
    ∀ {fields : List (String × Value)}, k ∉ fields.map Prod.fst →
      (f ∈ insertField k v fields ↔ f = (k, v) ∨ f ∈ fields)
  | [], _ => by simp [insertField]
  | (k', v') :: fields, h => by
    obtain ⟨hne, hnew⟩ := not_or.mp (mt List.mem_cons.mpr h)
    have hne : k ≠ k' := hne
    rw [insertField, if_neg hne]
    split
    · exact List.mem_cons
    · rw [List.mem_cons, mem_insertField_iff hnew, List.mem_cons]
      exact or_left_comm

/-- Sorting keeps the fields if no key stands twice. -/
theorem mem_sortFields_iff {fields : List (String × Value)} (h : (fields.map Prod.fst).Nodup)
    (f : String × Value) : f ∈ sortFields fields ↔ f ∈ fields := by
  suffices hfold : ∀ fs : List (String × Value), (∀ g ∈ fs, g.1 ∉ fields.map Prod.fst) →
      (f ∈ fields.foldl (fun fs f => insertField f.1 f.2 fs) fs ↔ f ∈ fs ∨ f ∈ fields) by
    simpa [sortFields] using hfold [] (List.forall_mem_nil _)
  induction fields with
  | nil => simp
  | cons g fields ih =>
    intro fs hfs
    obtain ⟨hg, hnodup⟩ := List.nodup_cons.mp h
    have hnew : g.1 ∉ fs.map Prod.fst := by
      rintro hmem
      obtain ⟨f', hf', heq⟩ := List.mem_map.mp hmem
      exact hfs f' hf' (heq ▸ List.mem_cons_self)
    have hrest : ∀ f' ∈ insertField g.1 g.2 fs, f'.1 ∉ fields.map Prod.fst := by
      intro f' hf'
      rcases mem_insertField hf' with rfl | hf'
      · exact hg
      · exact fun hmem => hfs f' hf' (List.mem_cons_of_mem _ hmem)
    rw [List.foldl_cons, ih hnodup _ hrest, mem_insertField_iff hnew, List.mem_cons, or_assoc]
    exact or_left_comm

/-- The fields of an object, of which the values are delivered, are delivered as an object. -/
theorem delivered_sortFields {fields : List (String × Value)} (h : ∀ f ∈ fields, Delivered f.2) :
    Delivered (.object (sortFields fields)) := by
  suffices hfold : ∀ fs : List (String × Value), Delivered (.object fs) →
      Delivered (.object (fields.foldl (fun fs f => insertField f.1 f.2 fs) fs)) from
    hfold [] (.object .nil (List.forall_mem_nil _))
  induction fields with
  | nil => exact fun fs hfs => hfs
  | cons f fields ih =>
    intro fs hfs
    obtain ⟨hf, hrest⟩ := List.forall_mem_cons.mp h
    refine ih hrest _ ?_
    cases hfs with
    | object sorted values =>
      refine .object (sorted_insertField f.1 f.2 sorted) fun g hg => ?_
      rcases mem_insertField hg with rfl | hg
      · exact hf
      · exact values g hg

/-! ## Numbers -/

theorem delivered_hexNumber? {negative : Bool} {digits : List Char} {n : Number}
    (h : hexNumber? negative digits = some n) : Delivered (.number n) := by
  unfold hexNumber? at h
  extract_lets value at h
  by_cases hlt : value < 9223372036854775808
  · rw [if_pos (show value < Nat.pow 2 63 from hlt)] at h
    obtain rfl := Option.some.inj h
    exact .int (by split <;> omega) (by split <;> omega)
  · rw [if_neg (show ¬value < Nat.pow 2 63 from hlt)] at h
    cases h

theorem delivered_decimalNumber? {cs : List Char} {n : Number} (h : decimalNumber? cs = some n) :
    Delivered (.number n) := by
  unfold decimalNumber? at h
  split at h
  · next n' c hnumber =>
    obtain rfl := Option.some.inj h
    cases n' with
    | float x => exact .float x
    | int n =>
      obtain ⟨negative, d, -, -, -, hdigits⟩ := Json.exists_of_number_eq_int hnumber
      obtain ⟨-, -, -, -, hle, hlt⟩ := Json.number?_eq_int hdigits
      exact .int hle hlt
  · cases h

theorem delivered_numberValue (s : String) : Delivered (numberValue s) := by
  simp only [numberValue]
  split
  · next n hn =>
    split at hn
    · exact delivered_hexNumber? hn
    · exact delivered_hexNumber? hn
    · exact delivered_decimalNumber? hn
  · exact .string s

/-! ## Texts -/

theorem fault_ne_ok {α : Type} {what : Complaint} {index : Nat} {a : α} :
    fault what index ≠ .ok a := by
  rintro ⟨⟩

/-- What a number of steps delivers, at each of the three places of the grammar. -/
structure Delivers (steps : Nat) : Prop where
  value : ∀ {t start c v c'}, valueOf steps t start c = .ok (v, c') → Delivered v
  fields : ∀ {start taken c v c'}, (∀ f ∈ taken, Delivered f.2) →
    fieldsFrom steps start taken c = .ok (v, c') → Delivered v
  elements : ∀ {start taken c v c'}, (∀ e ∈ taken, Delivered e) →
    elementsFrom steps start taken c = .ok (v, c') → Delivered v

namespace Delivers

variable {steps start : Nat} {c c' : Cursor} {v : Value}

theorem valueOf_succ (ih : Delivers steps) {t : Token}
    (h : valueOf (steps + 1) t start c = .ok (v, c')) : Delivered v := by
  cases t with
  | openBrace => exact ih.fields (List.forall_mem_nil _) h
  | openBracket => exact ih.elements (List.forall_mem_nil _) h
  | string s => cases h; exact .string s
  | bool b => cases h; exact .bool b
  | null => cases h; exact .null
  | number s => cases h; exact delivered_numberValue s
  | closeBracket => cases h
  | closeBrace => cases h
  | comma => cases h
  | colon => cases h
  | word s => cases h

theorem elementsFrom_succ (ih : Delivers steps) {taken : List Value}
    (htaken : ∀ e ∈ taken, Delivered e)
    (h : elementsFrom (steps + 1) start taken c = .ok (v, c')) : Delivered v := by
  rw [elementsFrom] at h
  obtain ⟨⟨⟨t, place⟩, c₁⟩, -, h⟩ := exists_of_bind_eq_ok h
  split at h
  · exact absurd h fault_ne_ok
  · cases h
    exact .list fun e he => htaken e (List.mem_reverse.mp he)
  · obtain ⟨⟨w, c₂⟩, hvalue, h⟩ := exists_of_bind_eq_ok h
    obtain ⟨c₃, -, h⟩ := exists_of_bind_eq_ok h
    exact ih.elements (List.forall_mem_cons.mpr ⟨ih.value hvalue, htaken⟩) h

theorem fieldsFrom_succ (ih : Delivers steps) {taken : List (String × Value)}
    (htaken : ∀ f ∈ taken, Delivered f.2)
    (h : fieldsFrom (steps + 1) start taken c = .ok (v, c')) : Delivered v := by
  rw [fieldsFrom] at h
  obtain ⟨⟨⟨t, place⟩, c₁⟩, -, h⟩ := exists_of_bind_eq_ok h
  split at h
  · exact absurd h fault_ne_ok
  · cases h
    exact delivered_sortFields fun f hf => htaken f (List.mem_reverse.mp hf)
  split at h
  · exact absurd h fault_ne_ok
  obtain ⟨⟨⟨t, place⟩, c₂⟩, -, h⟩ := exists_of_bind_eq_ok h
  split at h
  · obtain ⟨⟨⟨t, place⟩, c₃⟩, -, h⟩ := exists_of_bind_eq_ok h
    split at h
    · exact absurd h fault_ne_ok
    · obtain ⟨⟨w, c₄⟩, hvalue, h⟩ := exists_of_bind_eq_ok h
      obtain ⟨c₅, -, h⟩ := exists_of_bind_eq_ok h
      exact ih.fields (List.forall_mem_cons.mpr ⟨ih.value hvalue, htaken⟩) h
  · exact absurd h fault_ne_ok

end Delivers

theorem delivers : ∀ steps, Delivers steps
  | 0 => ⟨fun h => absurd h fault_ne_ok, fun _ h => absurd h fault_ne_ok,
      fun _ h => absurd h fault_ne_ok⟩
  | steps + 1 =>
    have ih := delivers steps
    ⟨ih.valueOf_succ, ih.fieldsFrom_succ, ih.elementsFrom_succ⟩

/-- A text delivers no other values. -/
theorem delivered_of_parse {text : String} {v : Value} (h : parse text = .ok (some v)) :
    Delivered v := by
  obtain ⟨⟨⟨t, place⟩, c⟩, -, h⟩ := exists_of_bind_eq_ok h
  split at h
  · cases h
  obtain ⟨⟨w, c₁⟩, hvalue, h⟩ := exists_of_bind_eq_ok h
  obtain ⟨⟨⟨t, place⟩, c₂⟩, -, h⟩ := exists_of_bind_eq_ok h
  split at h
  · cases h
    exact (delivers _).value hvalue
  · exact absurd h fault_ne_ok

end LintDispatch.Relaxed
