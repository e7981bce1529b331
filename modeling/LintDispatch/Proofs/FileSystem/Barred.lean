import LintDispatch.Proofs.FileSystem.Routes

/-!
# What a read finds
An output file counts as missing if nothing exists at its path. There is a second way for nothing to
be there, though: the path may be barred (`FileSystem.Barred`). It cannot be looked up then, because
of its spelling, or because something on its way is no directory, and a read fails for that.
-/

namespace LintDispatch

namespace FileSystem

variable {fs : FileSystem} {here : Place} {parts : List Bytes} {p : Path}

/-- The stretches from a place meet something that is no directory, or a name that is too long. -/
inductive Blocked (fs : FileSystem) : Place → List Bytes → Prop
  | obstacle {here : Place} {n : Node} (node : fs.node? here = some n) (ne : n ≠ .dir)
      (part : Bytes) (parts : List Bytes) : Blocked fs here (part :: parts)
  | longName {here : Place} {part : Bytes} (node : fs.node? here = some .dir)
      (long : maxName < part.length) (parts : List Bytes) : Blocked fs here (part :: parts)
  | onward {here : Place} {part : Bytes} {parts : List Bytes} (node : fs.node? here = some .dir)
      (short : part.length ≤ maxName) (rest : Blocked fs (Path.onward here part) parts) :
      Blocked fs here (part :: parts)

/-- The path is there but cannot be looked up, even if nothing is missing. -/
def Barred (fs : FileSystem) (p : Path) : Prop :=
  p ≠ [] ∧ (p.contains 0 = true ∨ maxPath < p.length ∨
    Blocked fs (Path.start fs.workingDir p) (Bytes.splitOn Path.slash p))

/-- A walk that is blocked fails, and not because something is missing. -/
theorem blocked_iff : Blocked fs here parts ↔
    ∃ e, fs.walk here parts = .error e ∧ e ≠ .missing := by
  constructor
  · intro h
    induction h with
    | @obstacle here n node ne part parts =>
      refine ⟨.notDirectory, ?_, by simp⟩
      rw [walk_cons, node]
      cases n with
      | dir => exact absurd rfl ne
      | file content => rfl
      | device d => rfl
    | longName node long parts =>
      refine ⟨.nameTooLong, ?_, by simp⟩
      rw [walk_cons, node]
      exact if_pos long
    | onward node short rest ih =>
      obtain ⟨e, he, hne⟩ := ih
      refine ⟨e, ?_, hne⟩
      rw [walk_cons, node]
      exact (if_neg (Nat.not_lt.mpr short)).trans he
  · rintro ⟨e, he, hne⟩
    induction parts generalizing here with
    | nil => cases he
    | cons part parts ih =>
      rw [walk_cons] at he
      cases hnode : fs.node? here with
      | none =>
        rw [hnode] at he
        exact absurd (Except.error.inj he).symm hne
      | some n =>
        by_cases hdir : n = .dir
        · subst hdir
          rw [hnode] at he
          by_cases hlong : maxName < part.length
          · exact .longName hnode hlong parts
          · exact .onward hnode (Nat.not_lt.mp hlong) (ih ((if_neg hlong).symm.trans he))
        · exact .obstacle hnode hdir part parts

/-- A path that is barred leads nowhere, and not because something is missing. -/
theorem barred_iff : fs.Barred p ↔ ∃ e, fs.locate p = .error e ∧ e ≠ .missing := by
  rw [Barred, blocked_iff]
  by_cases hempty : p = []
  · subst hempty
    simp [locate]
  by_cases hzero : p.contains 0 = true
  · simp only [locate, List.isEmpty_iff, hempty, hzero, if_true, if_false]
    exact iff_of_true ⟨hempty, Or.inl trivial⟩ ⟨_, rfl, by simp⟩
  by_cases hlong : maxPath < p.length
  · simp only [locate, List.isEmpty_iff, hempty, hzero, hlong, if_true, if_false]
    exact iff_of_true ⟨hempty, Or.inr (Or.inl trivial)⟩ ⟨_, rfl, by simp⟩
  have hs : Spellable p := ⟨hempty, by simpa using hzero, Nat.not_lt.mp hlong⟩
  have hmem : 0 ∉ p := by simpa using hzero
  rw [locate_of_spellable fs hs]
  simp [hempty, hmem, hlong]

end FileSystem

namespace OutputFile

open FileSystem

variable {o : OutputFile} {fs : FileSystem}

/-- What a read finds is told by what the path leads to. -/
theorem read_of_lookup {e : HostError} (he : e ≠ .missing) (h : fs.lookup o.path = .error e) :
    o.read fs = .error e := by
  rw [read, FileSystem.read, h]
  cases e <;> first | rfl | exact absurd rfl he

theorem read_of_file {c : Bytes} (h : fs.lookup o.path = .ok (.file c)) :
    o.read fs = .ok (some c) := by
  rw [read, FileSystem.read, h]

/-- A read depends on nothing but what the path leads to. -/
theorem read_congr {fs' : FileSystem} (h : fs'.lookup o.path = fs.lookup o.path) :
    o.read fs' = o.read fs := by
  rw [read, read, FileSystem.read, FileSystem.read, h]

/-- A file counts as missing if nothing exists at its path, unless the path is barred. -/
theorem read_eq_none_iff :
    o.read fs = .ok none ↔ fs.exists? o.path = false ∧ ¬fs.Barred o.path := by
  rw [barred_iff]
  cases hl : fs.locate o.path with
  | error e =>
    have hlookup : fs.lookup o.path = .error e := by rw [lookup, hl]
    have hexists : fs.exists? o.path = false := by rw [exists?, hlookup]
    by_cases he : e = .missing
    · subst he
      simp [read, FileSystem.read, hlookup, hexists]
    · simp [read_of_lookup he hlookup, hexists, he]
  | ok l =>
    cases hnode : fs.node? l with
    | none =>
      have hlookup := lookup_eq_missing hl hnode
      simp [read, FileSystem.read, hlookup, exists?]
    | some n =>
      have hlookup : fs.lookup o.path = .ok n := by
        rw [lookup, hl]
        simp only [hnode]
      have hexists : fs.exists? o.path = true := by rw [exists?, hlookup]
      rw [hexists, read, FileSystem.read, hlookup]
      cases n with
      | device d => cases d <;> simp
      | _ => simp

end OutputFile

end LintDispatch
