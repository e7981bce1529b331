import LintDispatch.Proofs.FileSystem.Temporary

/-!
# The way of a path
Which places a path passes through, and where it leads, can be told from its spelling and the
working directory (`Path.way`, `Path.goal`); the file system only says whether it can be followed
(`FileSystem.locate_eq_ok_iff`). So what is found at a path depends on those places alone
(`FileSystem.lookup_congr`), and what is done at a path changes nothing but its goal.

Only one change reaches further: when the directories above a path are created as far as they are
missing (`FileSystem.makeDirs`), they may lie on the way of other paths (`FileSystem.Opens`).
Nothing is found below a directory that was missing before, though, in a file system where every
entry is in a directory (`FileSystem.Rooted`).
-/

namespace LintDispatch

namespace Path

/-- The place that the next stretch of a path leads to. -/
def onward (here : Place) (part : Bytes) : Place :=
  match component part with
  | some .up => here.dropLast
  | some (.name n) => here ++ [n]
  | _ => here

/-- The places to pass through on the stretches from a place. -/
def stopsFrom (here : Place) : List Bytes → List Place
  | [] => []
  | part :: parts => here :: stopsFrom (onward here part) parts

/-- The place that the stretches lead to. -/
def endFrom (here : Place) (parts : List Bytes) : Place := parts.foldl onward here

/-- The place that a path starts from. -/
def start (workingDir : Place) (p : Path) : Place := if p.isAbsolute then [] else workingDir

/-- The places that a path passes through. -/
def way (workingDir : Place) (p : Path) : List Place :=
  stopsFrom (start workingDir p) (Bytes.splitOn slash p)

/-- The place that a path leads to. -/
def goal (workingDir : Place) (p : Path) : Place :=
  endFrom (start workingDir p) (Bytes.splitOn slash p)

/-- Two paths lead to different places, and neither of them passes through the goal of the other. -/
structure Apart (workingDir : Place) (p q : Path) : Prop where
  goal_ne : goal workingDir p ≠ goal workingDir q
  goal_notMem : goal workingDir p ∉ way workingDir q
  notMem_goal : goal workingDir q ∉ way workingDir p

instance (workingDir : Place) (p q : Path) : Decidable (Apart workingDir p q) :=
  decidable_of_iff
    (goal workingDir p ≠ goal workingDir q ∧ goal workingDir p ∉ way workingDir q ∧
      goal workingDir q ∉ way workingDir p)
    ⟨fun h => ⟨h.1, h.2.1, h.2.2⟩, fun h => ⟨h.1, h.2, h.3⟩⟩

theorem Apart.symm {workingDir : Place} {p q : Path} (h : Apart workingDir p q) :
    Apart workingDir q p :=
  ⟨h.goal_ne.symm, h.notMem_goal, h.goal_notMem⟩

theorem mem_stopsFrom_or_eq_endFrom (here : Place) (parts : List Bytes) :
    here ∈ stopsFrom here parts ++ [endFrom here parts] := by
  cases parts <;> simp [stopsFrom, endFrom]

/-- Slashes alone lead nowhere else. -/
theorem endFrom_slashes (here : Place) :
    ∀ {bs : Bytes}, (∀ b ∈ bs, b = slash) → endFrom here (Bytes.splitOn slash bs) = here
  | [], _ => rfl
  | b :: bs, h => by
    obtain rfl := h b List.mem_cons_self
    have hsplit : Bytes.splitOn slash (slash :: bs) = [] :: Bytes.splitOn slash bs := by
      rw [Bytes.splitOn, beq_self_eq_true, if_pos rfl]
    rw [hsplit]
    exact endFrom_slashes here fun b hb => h b (List.mem_cons_of_mem _ hb)

theorem endFrom_append (here : Place) (parts more : List Bytes) :
    endFrom here (parts ++ more) = endFrom (endFrom here parts) more :=
  List.foldl_append

/-- Slashes at the end of a path do not change where it leads. -/
theorem goal_append_slashes (workingDir : Place) {p : Path} (hp : p ≠ []) {bs : Bytes}
    (h : ∀ b ∈ bs, b = slash) : goal workingDir (p ++ bs) = goal workingDir p := by
  cases bs with
  | nil => rw [List.append_nil]
  | cons b bs =>
    obtain rfl := h b List.mem_cons_self
    have hstart : start workingDir (p ++ slash :: bs) = start workingDir p := by
      cases p with
      | nil => exact absurd rfl hp
      | cons a p => rfl
    rw [goal, hstart, Bytes.splitOn_append_cons, endFrom_append,
      endFrom_slashes _ fun b hb => h b (List.mem_cons_of_mem _ hb)]
    rfl

end Path

namespace FileSystem

variable {fs fs₁ fs' : FileSystem} {here l : Place} {parts : List Bytes} {p q : Path}

/-! ## Walks -/

theorem walk_cons (fs : FileSystem) (here : Place) (part : Bytes) (parts : List Bytes) :
    fs.walk here (part :: parts) =
      match fs.node? here with
      | none => .error .missing
      | some (.file _) | some (.device _) => .error .notDirectory
      | some .dir => if maxName < part.length then .error .nameTooLong
        else fs.walk (Path.onward here part) parts := by
  rw [walk]
  cases fs.node? here with
  | none => rfl
  | some n =>
    cases n with
    | file content => rfl
    | device d => rfl
    | dir =>
      rw [Path.onward]
      cases Path.component part with
      | none => rfl
      | some c => cases c <;> rfl

/-- A walk succeeds if all its stops are directories and no name is too long, and then it ends where
its stretches lead. -/
theorem walk_eq_ok_iff : fs.walk here parts = .ok l ↔ l = Path.endFrom here parts ∧
    (∀ d ∈ Path.stopsFrom here parts, fs.node? d = some .dir) ∧
      ∀ part ∈ parts, part.length ≤ maxName := by
  induction parts generalizing here with
  | nil => simp [walk, Path.stopsFrom, Path.endFrom, eq_comm]
  | cons part parts ih =>
    have hend : Path.endFrom here (part :: parts) =
        Path.endFrom (Path.onward here part) parts := rfl
    rw [walk_cons, Path.stopsFrom, hend]
    rcases hnode : fs.node? here with _ | ⟨_ | _ | _⟩
    case some.dir =>
      by_cases hlong : maxName < part.length
      · simp [hlong, Nat.not_le.mpr hlong]
      · simp [hlong, ih, hnode, Nat.not_lt.mp hlong]
    all_goals simp [hnode]

/-- A walk depends on nothing but its stops. -/
theorem walk_congr (h : ∀ d ∈ Path.stopsFrom here parts, fs'.node? d = fs.node? d) :
    fs'.walk here parts = fs.walk here parts := by
  induction parts generalizing here with
  | nil => rfl
  | cons part parts ih =>
    rw [walk_cons, walk_cons, h here List.mem_cons_self,
      ih fun d hd => h d (List.mem_cons_of_mem _ hd)]

theorem locate_of_spellable (fs : FileSystem) (h : Spellable p) : fs.locate p =
    fs.walk (Path.start fs.workingDir p) (Bytes.splitOn Path.slash p) := by
  obtain ⟨hempty, hzero, hlong⟩ := h
  rw [locate, if_neg (by simpa using hempty), if_neg (by simp only [hzero, Bool.false_eq_true,
    not_false_eq_true]), if_neg (Nat.not_lt.mpr hlong), Path.start]

/-- A path that cannot be looked up leads nowhere in any file system, for the same reason. -/
theorem exists_locate_eq_error (h : ¬Spellable p) :
    ∃ e, ∀ fs : FileSystem, fs.locate p = .error e := by
  simp only [locate]
  by_cases hempty : p.isEmpty = true
  · exact ⟨_, fun fs => if_pos hempty⟩
  by_cases hzero : p.contains 0 = true
  · exact ⟨_, fun fs => (if_neg hempty).trans (if_pos hzero)⟩
  by_cases hlong : maxPath < p.length
  · exact ⟨_, fun fs => (if_neg hempty).trans ((if_neg hzero).trans (if_pos hlong))⟩
  · exact absurd ⟨mt List.isEmpty_iff.mpr hempty, by simpa using hzero, Nat.not_lt.mp hlong⟩ h

theorem lookup_eq_missing (hl : fs.locate p = .ok l) (hnone : fs.node? l = none) :
    fs.lookup p = .error .missing := by
  rw [lookup, hl]
  simp only [hnone]

/-- A path leads to its goal if it can be followed there. -/
theorem locate_eq_ok_iff : fs.locate p = .ok l ↔ Spellable p ∧
    l = Path.goal fs.workingDir p ∧ (∀ d ∈ Path.way fs.workingDir p, fs.node? d = some .dir) ∧
      ∀ part ∈ Bytes.splitOn Path.slash p, part.length ≤ maxName := by
  rw [locate_eq_ok, walk_eq_ok_iff]
  rfl

theorem eq_goal_of_locate (h : fs.locate p = .ok l) : l = Path.goal fs.workingDir p :=
  (locate_eq_ok_iff.mp h).2.1

/-- What a path leads to is found at its goal. -/
theorem lookup_eq_ok_iff {n : Node} : fs.lookup p = .ok n ↔
    fs.locate p = .ok (Path.goal fs.workingDir p) ∧
      fs.node? (Path.goal fs.workingDir p) = some n := by
  rw [lookup]
  cases hl : fs.locate p with
  | error e => simp
  | ok l =>
    obtain rfl := eq_goal_of_locate hl
    simp only
    cases fs.node? (Path.goal fs.workingDir p) <;> simp

/-- What is found at a path that is walked in the same way, to a goal that is the same. -/
theorem lookup_congr_of_walk (hdir : fs'.workingDir = fs.workingDir)
    (hwalk : fs'.walk (Path.start fs.workingDir p) (Bytes.splitOn Path.slash p) =
      fs.walk (Path.start fs.workingDir p) (Bytes.splitOn Path.slash p))
    (hgoal : fs'.node? (Path.goal fs.workingDir p) = fs.node? (Path.goal fs.workingDir p)) :
    fs'.lookup p = fs.lookup p := by
  rw [Path.start] at hwalk
  have hlocate : fs'.locate p = fs.locate p := by rw [locate, locate, hdir, hwalk]
  rw [lookup, lookup, hlocate]
  cases hl : fs.locate p with
  | error e => rfl
  | ok l =>
    obtain rfl := eq_goal_of_locate hl
    simp only [hgoal]

/-- What is found at a path depends on nothing but its way and its goal. -/
theorem lookup_congr (hdir : fs'.workingDir = fs.workingDir)
    (hway : ∀ d ∈ Path.way fs.workingDir p, fs'.node? d = fs.node? d)
    (hgoal : fs'.node? (Path.goal fs.workingDir p) = fs.node? (Path.goal fs.workingDir p)) :
    fs'.lookup p = fs.lookup p :=
  lookup_congr_of_walk hdir (walk_congr hway) hgoal

end FileSystem

end LintDispatch
