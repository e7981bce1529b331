import LintDispatch.Json.Value
import LintDispatch.Proofs.Json.Grammar
import LintDispatch.Proofs.Text.Utf8
import Mathlib.Data.List.Forall2
import Mathlib.Data.List.Nodup

/-!
# What is written is a spelling
The text of a value on one line is one of its spellings: a string is written with the escapes that
it needs (`stringText_writeString`), a natural number in decimal (`natText_nat`), and lists and
objects with commas and no blanks (`listText_compact`, `bracketed_compact`). So is its text over
several lines, where a line starts with blanks alone (`listText_pretty`, `bracketed_pretty`).
-/

namespace LintDispatch.Json

variable {α : Type}

/-- The UTF-8 form of characters. -/
def utf8 (cs : List Char) : Bytes := cs.flatMap String.utf8EncodeChar

@[simp] theorem utf8_nil : utf8 [] = [] := rfl

@[simp] theorem utf8_append (cs ds : List Char) : utf8 (cs ++ ds) = utf8 cs ++ utf8 ds :=
  List.flatMap_append

theorem utf8_cons (c : Char) (cs : List Char) :
    utf8 (c :: cs) = String.utf8EncodeChar c ++ utf8 cs := rfl

/-! ## Strings -/

/-- The two digits that a control character is written with. -/
theorem hexFour?_control : ∀ n : Fin 32, hexFour? 48 48 (UInt8.ofNat (hexDigit (n / 16)).toNat)
    (UInt8.ofNat (hexDigit (n % 16)).toNat) = some n.val := by
  decide

theorem hexDigit_lt : ∀ n : Fin 16, (hexDigit n).toNat < 128 := by
  decide

theorem charText_writeChar (c : Char) : CharText c (utf8 (writeChar c)) := by
  unfold writeChar
  simp only [beq_iff_eq]
  split
  case isTrue h =>
    subst h
    exact .short (show simpleEscape? 34 = some 34 from rfl) rfl
  case isFalse hquote =>
  split
  case isTrue h =>
    subst h
    exact .short (show simpleEscape? 92 = some 92 from rfl) rfl
  case isFalse hbackslash =>
  split
  case isTrue h =>
    subst h
    exact .short (show simpleEscape? 98 = some 8 from rfl) rfl
  split
  case isTrue h =>
    subst h
    exact .short (show simpleEscape? 102 = some 12 from rfl) rfl
  split
  case isTrue h =>
    subst h
    exact .short (show simpleEscape? 110 = some 10 from rfl) rfl
  split
  case isTrue h =>
    subst h
    exact .short (show simpleEscape? 114 = some 13 from rfl) rfl
  split
  case isTrue h =>
    subst h
    exact .short (show simpleEscape? 116 = some 9 from rfl) rfl
  split
  case isTrue h =>
    have hlow : (hexDigit (c.toNat / 16)).toNat < 128 := hexDigit_lt ⟨c.toNat / 16, by omega⟩
    have hhigh : (hexDigit (c.toNat % 16)).toNat < 128 := hexDigit_lt ⟨c.toNat % 16, by omega⟩
    have htext : utf8 ['\\', 'u', '0', '0', hexDigit (c.toNat / 16), hexDigit (c.toNat % 16)] =
        [backslash, 117, 48, 48, UInt8.ofNat (hexDigit (c.toNat / 16)).toNat,
          UInt8.ofNat (hexDigit (c.toNat % 16)).toNat] := by
      simp only [utf8_cons, utf8_nil, Utf8.utf8EncodeChar_of_lt hlow,
        Utf8.utf8EncodeChar_of_lt hhigh]
      rfl
    rw [htext]
    exact .code (hexFour?_control ⟨c.toNat, h⟩)
  case isFalse hcontrol =>
    rw [utf8_cons, utf8_nil, List.append_nil]
    exact .plain (by omega) hquote hbackslash

theorem charsText_flatMap_writeChar :
    ∀ cs : List Char, CharsText cs (utf8 (cs.flatMap writeChar))
  | [] => .nil
  | c :: cs => by
    rw [List.flatMap_cons, utf8_append]
    exact .cons (charText_writeChar c) (charsText_flatMap_writeChar cs)

/-- A string is written as one of its spellings. -/
theorem stringText_writeString (s : String) : StringText s (utf8 (writeString s)) := by
  refine ⟨utf8 (s.toList.flatMap writeChar), charsText_flatMap_writeChar s.toList, ?_⟩
  rw [writeString, utf8_append, utf8_cons]
  rfl

/-! ## Words and numbers -/

theorem boolText_writeBool (b : Bool) : BoolText b (utf8 (writeBool b)) := by
  cases b <;> rfl

theorem utf8_digitChar {n : Nat} (h : n < 10) :
    utf8 [Nat.digitChar n] = [UInt8.ofNat (48 + n)] := by
  have hchar := Nat.toNat_digitChar_of_lt_ten h
  rw [utf8_cons, utf8_nil, List.append_nil, Utf8.utf8EncodeChar_of_lt (by omega), hchar]

/-- Decimal digits: digits alone, without a zero in front, and of the value of the number. -/
theorem utf8_toDigits (n : Nat) : Numerals (utf8 (Nat.toDigits 10 n)) ∧
    ((utf8 (Nat.toDigits 10 n)).head? = some 48 → n = 0) ∧
    (utf8 (Nat.toDigits 10 n)).foldl (fun n d => n * 10 + digitValue d) 0 = n := by
  have hdigit : ∀ k < 10, isDigit (UInt8.ofNat (48 + k)) = true ∧
      (UInt8.ofNat (48 + k) = 48 → k = 0) ∧ digitValue (UInt8.ofNat (48 + k)) = k := by
    decide
  induction n using Nat.strongRecOn with
  | ind n ih =>
    by_cases h : n < 10
    · obtain ⟨hnum, hzero, hval⟩ := hdigit n h
      rw [Nat.toDigits_of_lt_base h, utf8_digitChar h]
      refine ⟨⟨List.cons_ne_nil _ _, List.forall_mem_singleton.mpr hnum⟩, ?_, ?_⟩
      · exact fun heq => hzero (Option.some.inj heq)
      · rw [List.foldl_cons, List.foldl_nil, hval]
        omega
    · have hmod : n % 10 < 10 := Nat.mod_lt n (by omega)
      obtain ⟨⟨hne, hall⟩, hzero, hval⟩ := ih (n / 10) (by omega)
      obtain ⟨hnum, -, hlast⟩ := hdigit (n % 10) hmod
      rw [Nat.toDigits_of_base_le (by omega) (by omega), utf8_append, utf8_digitChar hmod]
      refine ⟨⟨by simp, ?_⟩, ?_, ?_⟩
      · exact List.forall_mem_append.mpr ⟨hall, List.forall_mem_singleton.mpr hnum⟩
      · intro hhead
        rw [List.head?_append_of_ne_nil _ hne] at hhead
        have := hzero hhead
        omega
      · rw [List.foldl_append, hval, List.foldl_cons, List.foldl_nil, hlast]
        omega

/-- A natural number is written with its decimal digits. -/
theorem compact_nat (n : Nat) : (Value.nat n).compact = Nat.toDigits 10 n := by
  have hrepr : (n : Int).repr = n.repr := by
    rw [Int.repr_eq_if, if_pos (Int.natCast_nonneg n), Int.toNat_natCast]
  show (toString (n : Int)).toList = _
  rw [Int.toString_eq_repr, hrepr, Nat.toList_repr]

theorem natText_nat (n : Nat) : NatText n (utf8 (Value.nat n).compact) := by
  obtain ⟨hnum, hzero, hval⟩ := utf8_toDigits n
  rw [compact_nat]
  refine ⟨⟨hnum, fun hhead => ?_⟩, hval⟩
  rw [hzero hhead]
  rfl

theorem nullableText_elim {item : α → Bytes → Prop} {json : α → Value}
    (h : ∀ a, item a (utf8 (json a).compact)) (a : Option α) :
    NullableText item a (utf8 (a.elim Value.null json).compact) := by
  cases a with
  | none => rfl
  | some a => exact h a

/-! ## Lists and objects -/

theorem blanks_nil : Blanks [] := List.forall_mem_nil _

theorem padded_of_item {item : α → Bytes → Prop} {a : α} {t : Bytes} (h : item a t) :
    Padded item a t :=
  ⟨[], t, [], blanks_nil, h, blanks_nil, by simp⟩

theorem separated_compactElements {item : α → Bytes → Prop} {json : α → Value}
    (h : ∀ a, item a (utf8 (json a).compact)) : ∀ (a : α) (as : List α),
    Separated (Padded item) (a :: as) (utf8 (Value.compactElements ((a :: as).map json)))
  | a, [] => .last (padded_of_item (h a))
  | a, b :: as => by
    have htext : utf8 (Value.compactElements ((a :: b :: as).map json)) =
        utf8 (json a).compact ++ comma :: utf8 (Value.compactElements ((b :: as).map json)) := by
      rw [List.map_cons, List.map_cons, Value.compactElements, utf8_append]
      · rfl
      · exact List.cons_ne_nil _ _
    rw [htext]
    exact .cons (padded_of_item (h a)) (separated_compactElements h b as)

theorem listText_compact {item : α → Bytes → Prop} {json : α → Value}
    (h : ∀ a, item a (utf8 (json a).compact)) (as : List α) :
    ListText item as (utf8 (Value.list (as.map json)).compact) := by
  have htext : utf8 (Value.list (as.map json)).compact =
      openBracket :: utf8 (Value.compactElements (as.map json)) ++ [closeBracket] := by
    rw [Value.compact, List.cons_append, utf8_cons, utf8_append]
    rfl
  rw [htext]
  cases as with
  | nil => exact .empty blanks_nil
  | cons a as => exact .filled (separated_compactElements h a as)

/-- A key that is written as it is, and its value. -/
theorem memberText_of_key (key : String) {before after : Bytes} (hbefore : Blanks before)
    (hafter : Blanks after) (value : Bytes) : MemberText (key, value)
      (utf8 (writeString key) ++ before ++ colon :: after ++ value) :=
  ⟨_, ⟨_, before, after, stringText_writeString key, hbefore, hafter, rfl⟩, rfl⟩

/-- The text of a key and a value without blanks. -/
theorem memberText_compact (key : String) (v : Value) :
    MemberText (key, utf8 v.compact) (utf8 (writeString key ++ ':' :: v.compact)) := by
  have hmember := memberText_of_key key blanks_nil blanks_nil (utf8 v.compact)
  rw [List.append_nil, List.append_assoc] at hmember
  rwa [utf8_append, utf8_cons]

theorem separated_compactFields : ∀ (field : String × Value) (fields : List (String × Value)),
    Separated (Padded MemberText)
      ((field :: fields).map fun f => (f.1, utf8 f.2.compact))
      (utf8 (Value.compactFields (field :: fields)))
  | (k, v), [] => .last (padded_of_item (memberText_compact k v))
  | (k, v), field :: fields => by
    have htext : utf8 (Value.compactFields ((k, v) :: field :: fields)) =
        utf8 (writeString k ++ ':' :: v.compact) ++
          comma :: utf8 (Value.compactFields (field :: fields)) := by
      rw [Value.compactFields, utf8_append]
      · rfl
      · exact List.cons_ne_nil _ _
    rw [htext]
    exact .cons (padded_of_item (memberText_compact k v)) (separated_compactFields field fields)

theorem bracketed_compact (fields : List (String × Value)) :
    Bracketed openBrace closeBrace MemberText (fields.map fun f => (f.1, utf8 f.2.compact))
      (utf8 (Value.object fields).compact) := by
  have htext : utf8 (Value.object fields).compact =
      openBrace :: utf8 (Value.compactFields fields) ++ [closeBrace] := by
    rw [Value.compact, List.cons_append, utf8_cons, utf8_append]
    rfl
  rw [htext]
  cases fields with
  | nil => exact .empty blanks_nil
  | cons field fields => exact .filled (separated_compactFields field fields)

/-! ## Records -/

/-- The members are the fields of a record in their own order, but for optional ones that are left
out. -/
inductive Written : List Entry → List (String × Bytes) → Prop
  | nil : Written [] []
  | cons {e : Entry} {m : String × Bytes} {entries : List Entry} {members : List (String × Bytes)}
      (head : e.name = m.1 ∧ e.Text m.2) (tail : Written entries members) :
      Written (e :: entries) (m :: members)
  | skip {e : Entry} {entries : List Entry} {members : List (String × Bytes)}
      (optional : e.Optional) (tail : Written entries members) : Written (e :: entries) members

namespace Written

variable {entries : List Entry} {members : List (String × Bytes)}

theorem sublist (h : Written entries members) :
    (members.map Prod.fst).Sublist (entries.map Entry.name) := by
  induction h with
  | nil => exact .slnil
  | cons head _ ih =>
    rw [List.map_cons, List.map_cons, head.1]
    exact ih.cons_cons _
  | skip _ _ ih => exact ih.cons _

theorem exists_entry (h : Written entries members) :
    ∀ m ∈ members, ∃ e ∈ entries, e.name = m.1 ∧ e.Text m.2 := by
  induction h with
  | nil => simp
  | @cons e m entries members head _ ih =>
    refine List.forall_mem_cons.mpr ⟨⟨e, List.mem_cons_self, head⟩, fun m' hm' => ?_⟩
    obtain ⟨e', he', h'⟩ := ih m' hm'
    exact ⟨e', List.mem_cons_of_mem _ he', h'⟩
  | skip _ _ ih =>
    intro m hm
    obtain ⟨e', he', h'⟩ := ih m hm
    exact ⟨e', List.mem_cons_of_mem _ he', h'⟩

theorem complete (h : Written entries members) :
    ∀ e ∈ entries, e.name ∈ members.map Prod.fst ∨ e.Optional := by
  induction h with
  | nil => simp
  | cons head _ ih =>
    refine List.forall_mem_cons.mpr ⟨Or.inl ?_, fun e he => ?_⟩
    · rw [head.1]
      exact List.mem_cons_self
    · exact (ih e he).imp_left (List.mem_cons_of_mem _)
  | skip optional _ ih => exact List.forall_mem_cons.mpr ⟨Or.inr optional, ih⟩

/-- Fields in their own order make up a record. -/
theorem describes (h : Written entries members) (hnames : (entries.map Entry.name).Nodup) :
    Describes entries members := by
  have hknown : known entries members = members.map Prod.fst := by
    rw [known, List.filter_eq_self]
    exact fun name hname => decide_eq_true (h.sublist.subset hname)
  refine ⟨?_, ?_, ?_, ?_⟩
  · intro m hm e he hname
    obtain ⟨e', he', hname', htext⟩ := h.exists_entry m hm
    obtain rfl : e' = e := List.inj_on_of_nodup_map hnames he' he (hname'.trans hname.symm)
    exact htext
  · intro m hm hnot
    exact absurd (h.sublist.subset (List.mem_map_of_mem hm)) hnot
  · rw [hknown]
    exact hnames.sublist h.sublist
  · rw [hknown]
    exact h.complete

end Written

/-! ## Over several lines -/

theorem blanks_lineStart (level : Nat) : Blanks (utf8 (Value.lineStart level)) := by
  rw [Value.lineStart, utf8_cons]
  refine List.forall_mem_append.mpr ⟨List.forall_mem_singleton.mpr rfl, ?_⟩
  intro b hb
  obtain ⟨c, hc, hb⟩ := List.mem_flatMap.mp hb
  rw [List.eq_of_mem_replicate hc] at hb
  rw [List.mem_singleton.mp hb]
  rfl

/-- The text of a key and a value with a blank in between. -/
theorem memberText_pretty (key : String) (v : Value) (level : Nat) :
    MemberText (key, utf8 (v.pretty level))
      (utf8 (writeString key ++ ':' :: ' ' :: v.pretty level)) := by
  have hblank : Blanks [32] := by
    intro b hb
    rw [List.mem_singleton.mp hb]
    rfl
  have hmember := memberText_of_key key blanks_nil hblank (utf8 (v.pretty level))
  rw [List.append_nil, List.append_assoc] at hmember
  rwa [utf8_append, utf8_cons, utf8_cons]

theorem separated_prettyElements {item : α → Bytes → Prop} {level : Nat} {after : Bytes}
    (hafter : Blanks after) : ∀ {as : List α} {vs : List Value},
    as ≠ [] → List.Forall₂ (fun a v => item a (utf8 (v.pretty level))) as vs →
    Separated (Padded item) as (utf8 (Value.prettyElements level vs) ++ after)
  | _, _, hne, .nil => absurd rfl hne
  | [a], [v], _, .cons h .nil => by
    rw [Value.prettyElements, utf8_append]
    exact .last ⟨_, _, after, blanks_lineStart level, h, hafter, rfl⟩
  | a :: b :: as, v :: w :: vs, _, .cons h hs => by
    have htext : utf8 (Value.prettyElements level (v :: w :: vs)) ++ after =
        utf8 (Value.lineStart level) ++ utf8 (v.pretty level) ++ [] ++
          comma :: (utf8 (Value.prettyElements level (w :: vs)) ++ after) := by
      rw [Value.prettyElements, utf8_append, utf8_append, utf8_cons]
      · simp
        rfl
      · exact List.cons_ne_nil _ _
    rw [htext]
    exact .cons ⟨_, _, [], blanks_lineStart level, h, blanks_nil, rfl⟩
      (separated_prettyElements hafter (List.cons_ne_nil b as) hs)

theorem listText_pretty {item : α → Bytes → Prop} {level : Nat} {as : List α} {vs : List Value}
    (h : List.Forall₂ (fun a v => item a (utf8 (v.pretty (level + 1)))) as vs) :
    ListText item as (utf8 ((Value.list vs).pretty level)) := by
  cases h with
  | nil => exact .empty blanks_nil
  | @cons a v as vs h hs =>
    have htext : utf8 ((Value.list (v :: vs)).pretty level) = openBracket ::
        (utf8 (Value.prettyElements (level + 1) (v :: vs)) ++ utf8 (Value.lineStart level)) ++
          [closeBracket] := by
      rw [Value.pretty, utf8_append, List.cons_append, utf8_cons, utf8_append]
      rfl
    rw [htext]
    exact .filled (separated_prettyElements (blanks_lineStart level) (List.cons_ne_nil a as)
      (.cons h hs))

theorem separated_prettyFields (level : Nat) {after : Bytes} (hafter : Blanks after) :
    ∀ (field : String × Value) (fields : List (String × Value)),
      Separated (Padded MemberText)
        ((field :: fields).map fun f => (f.1, utf8 (f.2.pretty level)))
        (utf8 (Value.prettyFields level (field :: fields)) ++ after)
  | (k, v), [] => by
    have hmember := memberText_pretty k v level
    rw [Value.prettyFields, List.append_assoc, utf8_append]
    exact .last ⟨_, _, after, blanks_lineStart level, hmember, hafter, rfl⟩
  | (k, v), field :: fields => by
    have htext : utf8 (Value.prettyFields level ((k, v) :: field :: fields)) ++ after =
        utf8 (Value.lineStart level) ++ utf8 (writeString k ++ ':' :: ' ' :: v.pretty level) ++
          [] ++ comma :: (utf8 (Value.prettyFields level (field :: fields)) ++ after) := by
      rw [Value.prettyFields]
      · simp [utf8_cons]
        rfl
      · exact List.cons_ne_nil _ _
    rw [htext]
    exact .cons ⟨_, _, [], blanks_lineStart level, memberText_pretty k v level,
      blanks_nil, rfl⟩ (separated_prettyFields level hafter field fields)

theorem bracketed_pretty (level : Nat) (fields : List (String × Value)) :
    Bracketed openBrace closeBrace MemberText
      (fields.map fun f => (f.1, utf8 (f.2.pretty (level + 1))))
      (utf8 ((Value.object fields).pretty level)) := by
  cases fields with
  | nil => exact .empty blanks_nil
  | cons field fields =>
    have htext : utf8 ((Value.object (field :: fields)).pretty level) = openBrace ::
        (utf8 (Value.prettyFields (level + 1) (field :: fields)) ++
          utf8 (Value.lineStart level)) ++ [closeBrace] := by
      rw [Value.pretty, utf8_append, List.cons_append, utf8_cons, utf8_append]
      rfl
    rw [htext]
    exact .filled (separated_prettyFields (level + 1) (blanks_lineStart level) field fields)

end LintDispatch.Json
