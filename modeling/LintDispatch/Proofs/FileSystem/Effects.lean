import LintDispatch.Proofs.FileSystem.Routes
import Mathlib.Data.List.TakeWhile

/-!
# What is done at a path
Writing, removing and creating one directory change nothing but the goal of the path they are given
(`FileSystem.changesAt_write` and its siblings), so a path that is apart from it leads to what it
led to before (`FileSystem.lookup_of_changesAt`).

Creating a directory with those above it makes directories of places on the way as well, where
nothing was before (`FileSystem.Opens`). Another path that could be followed before does not notice
(`FileSystem.lookup_of_opens`), and neither does one that goes straight down: nothing is found below
a directory that was missing (`FileSystem.lookup_of_opens_direct`). A path that goes down and up
again may be opened by this, though.
-/

namespace LintDispatch

namespace FileSystem

variable {fs fs₁ fs' : FileSystem} {spots spots' : List Place} {here l : Place}
  {parts : List Bytes} {p q : Path}

/-! ## What an operation can do -/

/-- Writing fails, or it is swallowed by a device, or it leaves a file at the goal. -/
theorem write_cases (fs : FileSystem) (p : Path) (content : Bytes) :
    (∃ e, fs.write p content = (.error e, fs)) ∨
      fs.locate p = .ok (Path.goal fs.workingDir p) ∧
        ((∃ d, fs.node? (Path.goal fs.workingDir p) = some (.device d)) ∧
            fs.write p content = (.ok (), fs) ∨
          fs.node? (Path.goal fs.workingDir p) ≠ some .dir ∧
            fs.write p content = (.ok (), fs.put (Path.goal fs.workingDir p) (.file content))) := by
  rw [write]
  cases htarget : fs.target p with
  | error e => exact Or.inl ⟨e, rfl⟩
  | ok l =>
    obtain ⟨-, hlocate, hdir⟩ := target_eq_ok.mp htarget
    obtain rfl := eq_goal_of_locate hlocate
    simp only [store]
    split
    · exact Or.inl ⟨_, rfl⟩
    · rename_i hnode
      split
      · exact Or.inr ⟨hlocate, Or.inl ⟨⟨_, hnode⟩, rfl⟩⟩
      · exact Or.inl ⟨_, rfl⟩
    · rename_i d _ _ hnode
      exact Or.inr ⟨hlocate, Or.inl ⟨⟨d, hnode⟩, rfl⟩⟩
    · exact Or.inr ⟨hlocate, Or.inr ⟨hdir, rfl⟩⟩

/-- Removing fails, or it leaves nothing at the goal. -/
theorem unlink_cases (fs : FileSystem) (p : Path) :
    (∃ e, fs.unlink p = (.error e, fs) ∧ ∀ n, fs.lookup p = .ok n → n = .dir) ∨
      ∃ n, fs.lookup p = .ok n ∧ fs.node? (Path.goal fs.workingDir p) = some n ∧ n ≠ .dir ∧
        fs.unlink p = (.ok (), fs.erase (Path.goal fs.workingDir p)) := by
  rw [unlink, lookup]
  cases hlocate : fs.locate p with
  | error e => exact Or.inl ⟨e, rfl, by simp⟩
  | ok l =>
    obtain rfl := eq_goal_of_locate hlocate
    simp only
    cases hnode : fs.node? (Path.goal fs.workingDir p) with
    | none => exact Or.inl ⟨_, rfl, by simp⟩
    | some n =>
      cases n with
      | dir => exact Or.inl ⟨_, rfl, by simp⟩
      | file content => exact Or.inr ⟨_, rfl, rfl, by simp, rfl⟩
      | device d => exact Or.inr ⟨_, rfl, rfl, by simp, rfl⟩

/-- A path is its spelling without the slashes at the end, and these slashes. -/
theorem exists_eq_withoutEndSlashes_append (hp : p ≠ []) : withoutEndSlashes p ≠ [] ∧
    ∃ bs, p = withoutEndSlashes p ++ bs ∧ ∀ b ∈ bs, b = Path.slash := by
  rw [withoutEndSlashes]
  split
  · rename_i hall
    have hslashes : ∀ b ∈ p, b = Path.slash := by simpa using hall
    refine ⟨by simpa using hp, p.drop 1, (p.take_append_drop 1).symm, fun b hb => ?_⟩
    exact hslashes b (List.mem_of_mem_drop hb)
  · rename_i hall
    refine ⟨fun hnil => hall ?_, (p.reverse.takeWhile (· == Path.slash)).reverse, ?_, ?_⟩
    · rw [List.reverse_eq_nil_iff, List.dropWhile_eq_nil_iff] at hnil
      exact List.all_eq_true.mpr fun b hb => hnil b (List.mem_reverse.mpr hb)
    · rw [← List.reverse_append, List.takeWhile_append_dropWhile, List.reverse_reverse]
    · intro b hb
      simpa using List.mem_takeWhile_imp (List.mem_reverse.mp hb)

/-- Slashes at the end do not count for where a path leads. -/
theorem goal_withoutEndSlashes (dir : Place) (p : Path) :
    Path.goal dir (withoutEndSlashes p) = Path.goal dir p := by
  by_cases hp : p = []
  · subst hp
    rfl
  · obtain ⟨hne, bs, heq, hbs⟩ := exists_eq_withoutEndSlashes_append hp
    have h := Path.goal_append_slashes dir hne hbs
    rw [← heq] at h
    exact h.symm

/-- Creating a directory fails, or it puts one at the goal, where nothing was. -/
theorem makeDir_cases (fs : FileSystem) (p : Path) :
    (∃ e, fs.makeDir p = (.error e, fs)) ∨
      fs.locate (withoutEndSlashes p) = .ok (Path.goal fs.workingDir p) ∧
        fs.node? (Path.goal fs.workingDir p) = none ∧
        fs.makeDir p = (.ok (), fs.put (Path.goal fs.workingDir p) .dir) := by
  rw [makeDir]
  cases hlocate : fs.locate (withoutEndSlashes p) with
  | error e => exact Or.inl ⟨e, rfl⟩
  | ok l =>
    have hl : l = Path.goal fs.workingDir p :=
      (eq_goal_of_locate hlocate).trans (goal_withoutEndSlashes _ _)
    subst hl
    simp only
    cases hnode : fs.node? (Path.goal fs.workingDir p) with
    | none => exact Or.inr ⟨trivial, rfl, rfl⟩
    | some n => exact Or.inl ⟨_, rfl⟩

/-! ## Changes at the goal -/

theorem changesAt_write (fs : FileSystem) (p : Path) (content : Bytes) :
    ChangesAt [Path.goal fs.workingDir p] fs (fs.write p content).2 := by
  rcases fs.write_cases p content with ⟨e, heq⟩ | ⟨-, ⟨-, heq⟩ | ⟨hdir, heq⟩⟩
  · rw [heq]
    exact .refl _ _
  · rw [heq]
    exact .refl _ _
  · rw [heq]
    exact changesAt_put hdir _

theorem changesAt_unlink (fs : FileSystem) (p : Path) :
    ChangesAt [Path.goal fs.workingDir p] fs (fs.unlink p).2 := by
  rcases fs.unlink_cases p with ⟨e, heq, -⟩ | ⟨n, -, hnode, hdir, heq⟩
  · rw [heq]
    exact .refl _ _
  · rw [heq]
    exact changesAt_erase (by simpa [hnode] using hdir)

theorem changesAt_makeDir (fs : FileSystem) (p : Path) :
    ChangesAt [Path.goal fs.workingDir p] fs (fs.makeDir p).2 := by
  rcases fs.makeDir_cases p with ⟨e, heq⟩ | ⟨-, hnone, heq⟩
  · rw [heq]
    exact .refl _ _
  · rw [heq]
    exact changesAt_put (by simp [hnone]) _

theorem changesAt_release (o : OutputFile) (fs : FileSystem) :
    ChangesAt [Path.goal fs.workingDir o.path] fs (o.release fs) := by
  rw [OutputFile.release]
  split
  · exact changesAt_unlink fs o.path
  · exact .refl _ _

/-- A path that is apart from another one leads to what it led to, whatever happens at the goal of
the other. -/
theorem lookup_of_changesAt (h : ChangesAt [Path.goal fs.workingDir p] fs fs')
    (hapart : Path.Apart fs.workingDir p q) : fs'.lookup q = fs.lookup q := by
  refine lookup_congr h.workingDir_eq (fun d hd => h.node?_eq d ?_) (h.node?_eq _ ?_)
  · rintro hmem
    obtain rfl := List.mem_singleton.mp hmem
    exact hapart.goal_notMem hd
  · exact fun hmem => hapart.goal_ne (List.mem_singleton.mp hmem).symm

/-! ## Directories on the way -/

/-- Nothing changes but that there are directories now at some of these places, where nothing was
before. -/
structure Opens (spots : List Place) (fs fs' : FileSystem) : Prop where
  workingDir_eq : fs'.workingDir = fs.workingDir
  node?_eq : ∀ l, l ∉ spots → fs'.node? l = fs.node? l
  node?_eq_some : ∀ l n, fs.node? l = some n → fs'.node? l = some n
  node?_cases : ∀ l, fs.node? l = none → fs'.node? l = none ∨ fs'.node? l = some .dir

theorem Opens.refl (spots : List Place) (fs : FileSystem) : Opens spots fs fs :=
  ⟨rfl, fun _ _ => rfl, fun _ _ h => h, fun _ h => Or.inl h⟩

theorem Opens.trans (h : Opens spots fs fs₁) (h' : Opens spots fs₁ fs') : Opens spots fs fs' where
  workingDir_eq := h'.workingDir_eq.trans h.workingDir_eq
  node?_eq l hl := (h'.node?_eq l hl).trans (h.node?_eq l hl)
  node?_eq_some l n hl := h'.node?_eq_some l n (h.node?_eq_some l n hl)
  node?_cases l hl := by
    rcases h.node?_cases l hl with hnone | hdir
    · exact h'.node?_cases l hnone
    · exact Or.inr (h'.node?_eq_some l .dir hdir)

theorem Opens.mono (h : Opens spots fs fs') (hs : ∀ l ∈ spots, l ∈ spots') :
    Opens spots' fs fs' where
  workingDir_eq := h.workingDir_eq
  node?_eq l hl := h.node?_eq l (mt (hs l) hl)
  node?_eq_some := h.node?_eq_some
  node?_cases := h.node?_cases

theorem opens_put_dir (h : fs.node? l = none) : Opens [l] fs (fs.put l .dir) where
  workingDir_eq := rfl
  node?_eq l' hl' := node?_put_of_ne fs .dir (by simpa using hl')
  node?_eq_some l' n hl' := by
    rw [node?_put_of_ne fs .dir (by rintro rfl; simp [h] at hl'), hl']
  node?_cases l' hl' := by
    by_cases heq : l' = l
    · subst heq
      have hroot : l' ≠ [] := by
        rintro rfl
        simp [node?] at h
      exact Or.inr (node?_put_self fs .dir hroot)
    · exact Or.inl ((node?_put_of_ne fs .dir heq).trans hl')

/-- The places from the second one on are on the way, too. -/
theorem Opens.of_onward {part : Bytes}
    (h : Opens (Path.stopsFrom (Path.onward here part) parts ++
      [Path.endFrom (Path.onward here part) parts]) fs fs') :
    Opens (Path.stopsFrom here (part :: parts) ++ [Path.endFrom here (part :: parts)]) fs fs' :=
  h.mono fun _ hl => List.mem_cons_of_mem here hl

/-- What is created lies on the way. -/
theorem opens_walkMaking (fs : FileSystem) (here : Place) (parts : List Bytes) :
    Opens (Path.stopsFrom here parts ++ [Path.endFrom here parts]) fs
      (fs.walkMaking here parts).2 := by
  induction parts generalizing fs here with
  | nil => exact .refl _ _
  | cons part parts ih =>
    rw [walkMaking]
    split
    · exact .refl _ _
    refine Opens.of_onward ?_
    rw [Path.onward]
    cases Path.component part with
    | none => exact ih fs here
    | some c =>
      cases c with
      | root => exact ih fs here
      | here => exact ih fs here
      | up => exact ih fs here.dropLast
      | name n =>
        simp only
        split
        · exact ih fs (here ++ [n])
        · exact .refl _ _
        · rename_i hnone
          refine ((opens_put_dir hnone).mono fun l hl => ?_).trans (ih _ (here ++ [n]))
          rw [List.mem_singleton.mp hl]
          exact Path.mem_stopsFrom_or_eq_endFrom _ _

theorem opens_makeDirs (fs : FileSystem) (p : Path) :
    Opens (Path.way fs.workingDir p ++ [Path.goal fs.workingDir p]) fs (fs.makeDirs p).2 := by
  rw [makeDirs]
  split
  · exact .refl _ _
  split
  · exact .refl _ _
  split
  · exact .refl _ _
  exact opens_walkMaking fs _ _

/-- A path that can be followed already leads to what it led to. -/
theorem lookup_of_opens (h : Opens spots fs fs') (hgoal : Path.goal fs.workingDir q ∉ spots)
    (hl : fs.locate q = .ok l) : fs'.lookup q = fs.lookup q := by
  obtain ⟨-, -, hway, -⟩ := locate_eq_ok_iff.mp hl
  refine lookup_congr h.workingDir_eq (fun d hd => ?_) (h.node?_eq _ hgoal)
  rw [hway d hd, h.node?_eq_some d .dir (hway d hd)]

/-! ## Where files come from -/

/-- Every file was there before, with the same content. -/
def GainsNoFile (fs fs' : FileSystem) : Prop :=
  ∀ l c, fs'.node? l = some (.file c) → fs.node? l = some (.file c)

theorem GainsNoFile.refl (fs : FileSystem) : GainsNoFile fs fs := fun _ _ h => h

theorem Opens.gainsNoFile (h : Opens spots fs fs') : GainsNoFile fs fs' := by
  intro l c hl
  cases hnode : fs.node? l with
  | none => rcases h.node?_cases l hnode with hn | hn <;> simp [hn] at hl
  | some n => exact (h.node?_eq_some l n hnode).symm.trans hl

theorem gainsNoFile_erase (h : fs.node? l ≠ some .dir) : GainsNoFile fs (fs.erase l) := by
  intro l' c hl'
  by_cases heq : l' = l
  · subst heq
    have hroot : l' ≠ [] := fun hnil => h (by rw [hnil]; rfl)
    simp [node?_erase_self fs hroot] at hl'
  · rwa [node?_erase_of_ne fs heq] at hl'

theorem gainsNoFile_unlink (fs : FileSystem) (p : Path) : GainsNoFile fs (fs.unlink p).2 := by
  rcases fs.unlink_cases p with ⟨e, heq, -⟩ | ⟨n, -, hnode, hdir, heq⟩
  · rw [heq]
    exact .refl fs
  · rw [heq]
    exact gainsNoFile_erase (by simpa [hnode] using hdir)

theorem gainsNoFile_makeDir (fs : FileSystem) (p : Path) : GainsNoFile fs (fs.makeDir p).2 := by
  rcases fs.makeDir_cases p with ⟨e, heq⟩ | ⟨-, hnone, heq⟩
  · rw [heq]
    exact .refl fs
  · rw [heq]
    exact (opens_put_dir hnone).gainsNoFile

/-- Releasing an output file makes no file. -/
theorem gainsNoFile_release (o : OutputFile) (fs : FileSystem) :
    GainsNoFile fs (o.release fs) := by
  rw [OutputFile.release]
  split
  · exact gainsNoFile_unlink fs o.path
  · exact .refl fs

/-! ## Below what is missing -/

/-- Every entry is in a directory, and so is the working directory. -/
structure Rooted (fs : FileSystem) : Prop where
  workingDir : fs.node? fs.workingDir = some .dir
  above : ∀ d n, fs.node? (d ++ [n]) ≠ none → fs.node? d = some .dir

/-- The place is in a directory, or it is the root. -/
def Held (fs : FileSystem) (l : Place) : Prop := ∀ d n, l = d ++ [n] → fs.node? d = some .dir

theorem Rooted.held (h : fs.Rooted) (hl : fs.node? l ≠ none) : fs.Held l := by
  rintro d n rfl
  exact h.above d n hl

/-- The directory above a directory is one. -/
theorem Rooted.node?_dropLast (h : fs.Rooted) (hl : fs.node? l = some .dir) :
    fs.node? l.dropLast = some .dir := by
  rcases l.eq_nil_or_concat with rfl | ⟨d, n, rfl⟩
  · rfl
  · rw [List.concat_eq_append] at hl ⊢
    rw [List.dropLast_concat]
    exact h.above d n (by simp [hl])

theorem Rooted.start (h : fs.Rooted) (p : Path) :
    fs.node? (Path.start fs.workingDir p) = some .dir := by
  rw [Path.start]
  split
  · rfl
  · exact h.workingDir

/-- The next place on a way through a directory is in a directory. -/
theorem Rooted.held_onward (h : fs.Rooted) (hhere : fs.node? here = some .dir) (part : Bytes) :
    fs.Held (Path.onward here part) := by
  rw [Path.onward]
  split
  · exact h.held (by simp [h.node?_dropLast hhere])
  · intro d n heq
    obtain ⟨rfl, -⟩ := List.append_inj' heq rfl
    exact hhere
  · exact h.held (by simp [hhere])

theorem Rooted.held_endFrom (h : fs.Rooted) (hhere : fs.Held here)
    (hway : ∀ d ∈ Path.stopsFrom here parts, fs.node? d = some .dir) :
    fs.Held (Path.endFrom here parts) := by
  induction parts generalizing here with
  | nil => exact hhere
  | cons part parts ih =>
    exact ih (h.held_onward (hway here List.mem_cons_self) part)
      fun d hd => hway d (List.mem_cons_of_mem _ hd)

/-- The place that a path leads to is in a directory. -/
theorem Rooted.held_of_locate (h : fs.Rooted) (hl : fs.locate p = .ok l) : fs.Held l := by
  obtain ⟨-, rfl, hway, -⟩ := locate_eq_ok_iff.mp hl
  exact h.held_endFrom (h.held (by simp [h.start])) hway

theorem Rooted.put (h : fs.Rooted) (hheld : fs.Held l) (hl : fs.node? l ≠ some .dir) (n : Node) :
    (fs.put l n).Rooted where
  workingDir := by
    have hne : fs.workingDir ≠ l := by
      rintro rfl
      exact hl h.workingDir
    exact (node?_put_of_ne fs n hne).trans h.workingDir
  above d m hm := by
    have hd : fs.node? d = some .dir := by
      by_cases heq : d ++ [m] = l
      · exact hheld d m heq.symm
      · rw [node?_put_of_ne fs n heq] at hm
        exact h.above d m hm
    rw [node?_put_of_ne fs n (by rintro rfl; exact hl hd), hd]

theorem Rooted.erase (h : fs.Rooted) (hl : fs.node? l ≠ some .dir) : (fs.erase l).Rooted where
  workingDir := by
    have hne : fs.workingDir ≠ l := by
      rintro rfl
      exact hl h.workingDir
    exact (node?_erase_of_ne fs hne).trans h.workingDir
  above d m hm := by
    have hd : fs.node? d = some .dir := by
      by_cases heq : d ++ [m] = l
      · subst heq
        rw [node?_erase_self fs (by simp)] at hm
        exact absurd rfl hm
      · rw [node?_erase_of_ne fs heq] at hm
        exact h.above d m hm
    rw [node?_erase_of_ne fs (by rintro rfl; exact hl hd), hd]

theorem Rooted.write (h : fs.Rooted) (p : Path) (content : Bytes) :
    (fs.write p content).2.Rooted := by
  rcases fs.write_cases p content with ⟨e, heq⟩ | ⟨hlocate, ⟨-, heq⟩ | ⟨hdir, heq⟩⟩
  · rwa [heq]
  · rwa [heq]
  · rw [heq]
    exact h.put (h.held_of_locate hlocate) hdir _

theorem Rooted.unlink (h : fs.Rooted) (p : Path) : (fs.unlink p).2.Rooted := by
  rcases fs.unlink_cases p with ⟨e, heq, -⟩ | ⟨n, -, hnode, hdir, heq⟩
  · rwa [heq]
  · rw [heq]
    exact h.erase (by simpa [hnode] using hdir)

theorem Rooted.makeDir (h : fs.Rooted) (p : Path) : (fs.makeDir p).2.Rooted := by
  rcases fs.makeDir_cases p with ⟨e, heq⟩ | ⟨hlocate, hnone, heq⟩
  · rwa [heq]
  · rw [heq]
    exact h.put (h.held_of_locate hlocate) (by simp [hnone]) _

theorem Rooted.walkMaking (h : fs.Rooted) (hhere : fs.node? here = some .dir)
    (parts : List Bytes) : (fs.walkMaking here parts).2.Rooted := by
  induction parts generalizing fs here with
  | nil => exact h
  | cons part parts ih =>
    rw [FileSystem.walkMaking]
    split
    · exact h
    cases Path.component part with
    | none => exact ih h hhere
    | some c =>
      cases c with
      | root => exact ih h hhere
      | here => exact ih h hhere
      | up => exact ih h (h.node?_dropLast hhere)
      | name n =>
        simp only
        split
        · rename_i hdir
          exact ih h hdir
        · exact h
        · rename_i hnone
          have hheld : fs.Held (here ++ [n]) := by
            intro d m heq
            obtain ⟨rfl, -⟩ := List.append_inj' heq rfl
            exact hhere
          exact ih (h.put hheld (by simp [hnone]) _) (node?_put_self fs _ (by simp))

theorem Rooted.makeDirs (h : fs.Rooted) (p : Path) : (fs.makeDirs p).2.Rooted := by
  rw [FileSystem.makeDirs]
  split
  · exact h
  split
  · exact h
  split
  · exact h
  exact h.walkMaking (h.start p) _

/-! ## Paths that only go down -/

theorem Rooted.node?_append_eq_none (h : fs.Rooted) (hl : fs.node? l = none) (n : Bytes) :
    fs.node? (l ++ [n]) = none := by
  by_contra hn
  exact absurd (hl.symm.trans (h.above l n hn)) (by simp)

/-- Nothing is found below what was missing: the directories that there are now lead to nothing. -/
theorem walk_of_opens_missing (h : Opens spots fs fs') (hr : fs.Rooted)
    (hparts : ∀ part ∈ parts, part.length ≤ maxName ∧ Path.component part ≠ some .up)
    (hhere : fs.node? here = none) :
    (fs'.walk here parts = .error .missing ∨ fs'.walk here parts = .ok (Path.endFrom here parts)) ∧
      fs.node? (Path.endFrom here parts) = none := by
  induction parts generalizing here with
  | nil => exact ⟨Or.inr rfl, hhere⟩
  | cons part parts ih =>
    obtain ⟨hlen, hup⟩ := hparts part List.mem_cons_self
    have hnext : fs.node? (Path.onward here part) = none := by
      rw [Path.onward]
      cases hc : Path.component part with
      | none => exact hhere
      | some c =>
        cases c with
        | root => exact hhere
        | here => exact hhere
        | up => exact absurd hc hup
        | name n => exact hr.node?_append_eq_none hhere n
    obtain ⟨hwalk, hend⟩ := ih (fun part hp => hparts part (List.mem_cons_of_mem _ hp)) hnext
    refine ⟨?_, hend⟩
    rw [walk_cons]
    rcases h.node?_cases here hhere with hnone | hdir
    · rw [hnone]
      exact Or.inl rfl
    · rw [hdir]
      simp only [if_neg (Nat.not_lt.mpr hlen)]
      exact hwalk

/-- A walk down either fails as it did, or it comes to an end below something that was missing. -/
theorem walk_of_opens (h : Opens spots fs fs') (hr : fs.Rooted) (here : Place)
    (hparts : ∀ part ∈ parts, part.length ≤ maxName ∧ Path.component part ≠ some .up) :
    fs'.walk here parts = fs.walk here parts ∨ fs.walk here parts = .error .missing ∧
      fs'.walk here parts = .ok (Path.endFrom here parts) ∧
        fs.node? (Path.endFrom here parts) = none := by
  induction parts generalizing here with
  | nil => exact Or.inl rfl
  | cons part parts ih =>
    have hrest := ih (Path.onward here part) fun part hp =>
      hparts part (List.mem_cons_of_mem _ hp)
    cases hnode : fs.node? here with
    | none =>
      have hmissing : fs.walk here (part :: parts) = .error .missing := by rw [walk_cons, hnode]
      obtain ⟨hwalk | hwalk, hend⟩ := walk_of_opens_missing h hr hparts hnode
      · exact Or.inl (hwalk.trans hmissing.symm)
      · exact Or.inr ⟨hmissing, hwalk, hend⟩
    | some n =>
      rw [walk_cons, walk_cons, hnode, h.node?_eq_some here n hnode]
      cases n with
      | file content => exact Or.inl rfl
      | device d => exact Or.inl rfl
      | dir =>
        simp only [if_neg (Nat.not_lt.mpr (hparts part List.mem_cons_self).1)]
        exact hrest

end FileSystem

/-- The path only goes down, by names that are not too long. -/
def Path.Direct (p : Path) : Prop :=
  ∀ part ∈ Bytes.splitOn Path.slash p,
    part.length ≤ FileSystem.maxName ∧ Path.component part ≠ some .up

instance (p : Path) : Decidable p.Direct :=
  inferInstanceAs (Decidable (∀ part ∈ Bytes.splitOn Path.slash p, _))

namespace FileSystem

variable {fs fs' : FileSystem} {spots : List Place} {q : Path}

/-- A path that only goes down leads to what it led to, unless its goal is created. -/
theorem lookup_of_opens_direct (h : Opens spots fs fs') (hr : fs.Rooted) (hq : q.Direct)
    (hgoal : Path.goal fs.workingDir q ∉ spots) : fs'.lookup q = fs.lookup q := by
  rcases walk_of_opens h hr (Path.start fs.workingDir q) hq with hwalk | ⟨hmissing, hwalk, hend⟩
  · exact lookup_congr_of_walk h.workingDir_eq hwalk (h.node?_eq _ hgoal)
  have hnone : fs'.node? (Path.goal fs.workingDir q) = none := (h.node?_eq _ hgoal).trans hend
  by_cases hs : Spellable q
  · have hmiss : fs.locate q = .error .missing := (locate_of_spellable fs hs).trans hmissing
    have hl : fs'.locate q = .ok (Path.goal fs.workingDir q) := by
      rw [locate_of_spellable fs' hs, h.workingDir_eq, hwalk]
      rfl
    rw [lookup_eq_missing hl hnone, lookup, hmiss]
  · obtain ⟨e, he⟩ := exists_locate_eq_error hs
    rw [lookup, lookup, he fs, he fs']

end FileSystem

end LintDispatch
