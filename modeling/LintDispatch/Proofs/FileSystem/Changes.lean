import LintDispatch.OutputFile

/-!
# Changes of a file system
A path is walked through directories alone. So as long as no directory goes away
(`FileSystem.DirsStay`), every path that led somewhere still leads there (`locate_of_dirsStay`),
whatever happens to the files. `FileSystem.ChangesAt` says in addition that nothing has changed but
at certain places; then what is read from a path that leads elsewhere is what was read before
(`OutputFile.read_of_changesAt`). Removing the file that a path leads to is such a change at its
place.
-/

namespace LintDispatch

namespace FileSystem

variable {fs fs₁ fs' : FileSystem} {spots spots' : List Place} {spot l : Place} {p : Path}

/-- The directories of `fs` are directories of `fs'` too, and relative paths start where they
did. -/
structure DirsStay (fs fs' : FileSystem) : Prop where
  workingDir_eq : fs'.workingDir = fs.workingDir
  node?_eq_dir : ∀ l, fs.node? l = some .dir → fs'.node? l = some .dir

/-- What is a directory of `fs` stays one, and nothing changes but at these places. -/
structure ChangesAt (spots : List Place) (fs fs' : FileSystem) : Prop extends
    DirsStay fs fs' where
  node?_eq : ∀ l, l ∉ spots → fs'.node? l = fs.node? l

theorem DirsStay.refl (fs : FileSystem) : DirsStay fs fs := ⟨rfl, fun _ h => h⟩

theorem DirsStay.trans (h : DirsStay fs fs₁) (h' : DirsStay fs₁ fs') : DirsStay fs fs' where
  workingDir_eq := h'.workingDir_eq.trans h.workingDir_eq
  node?_eq_dir l hl := h'.node?_eq_dir l (h.node?_eq_dir l hl)

theorem ChangesAt.refl (spots : List Place) (fs : FileSystem) : ChangesAt spots fs fs :=
  ⟨.refl fs, fun _ _ => rfl⟩

theorem ChangesAt.trans (h : ChangesAt spots fs fs₁) (h' : ChangesAt spots fs₁ fs') :
    ChangesAt spots fs fs' where
  toDirsStay := h.toDirsStay.trans h'.toDirsStay
  node?_eq l hl := (h'.node?_eq l hl).trans (h.node?_eq l hl)

theorem ChangesAt.mono (h : ChangesAt spots fs fs') (hs : ∀ l ∈ spots, l ∈ spots') :
    ChangesAt spots' fs fs' where
  toDirsStay := h.toDirsStay
  node?_eq l hl := h.node?_eq l (mt (hs l) hl)

/-! ## Paths lead where they did -/

/-- A walk goes through directories, so it only depends on them. -/
theorem walk_of_dirsStay (h : DirsStay fs fs') :
    ∀ (parts : List Bytes) (here : Place), fs.walk here parts = .ok l →
      fs'.walk here parts = .ok l
  | [], here, hwalk => hwalk
  | part :: parts, here, hwalk => by
    rw [walk] at hwalk ⊢
    cases hnode : fs.node? here with
    | none => simp [hnode] at hwalk
    | some node =>
      cases node with
      | file content => simp [hnode] at hwalk
      | device d => simp [hnode] at hwalk
      | dir =>
        rw [h.node?_eq_dir here hnode]
        rw [hnode] at hwalk
        simp only at hwalk ⊢
        split at hwalk
        · exact absurd hwalk (by simp)
        · rename_i hlen
          rw [if_neg hlen]
          split at hwalk
          all_goals exact walk_of_dirsStay h parts _ hwalk

/-- The path can be looked up at all. -/
def Spellable (p : Path) : Prop := p ≠ [] ∧ p.contains 0 = false ∧ p.length ≤ maxPath

/-- A path that leads somewhere is spellable, and it is walked. -/
theorem locate_eq_ok : fs.locate p = .ok l ↔ Spellable p ∧
    fs.walk (if p.isAbsolute then [] else fs.workingDir) (Bytes.splitOn Path.slash p) = .ok l := by
  unfold locate
  split
  · rename_i hempty
    exact iff_of_false (by simp) fun h => h.1.1 (List.isEmpty_iff.mp hempty)
  rename_i hempty
  split
  · rename_i hzero
    exact iff_of_false (by simp) fun h => absurd (h.1.2.1.symm.trans hzero) (by simp)
  rename_i hzero
  split
  · rename_i hlong
    exact iff_of_false (by simp) fun h => absurd h.1.2.2 (Nat.not_le.mpr hlong)
  rename_i hlong
  have hp : Spellable p :=
    ⟨mt List.isEmpty_iff.mpr hempty, by simpa using hzero, Nat.not_lt.mp hlong⟩
  exact (and_iff_right hp).symm

theorem locate_of_dirsStay (h : DirsStay fs fs') (hp : fs.locate p = .ok l) :
    fs'.locate p = .ok l := by
  rw [locate_eq_ok] at hp ⊢
  rw [h.workingDir_eq]
  exact ⟨hp.1, walk_of_dirsStay h _ _ hp.2⟩

/-! ## Files come and go -/

theorem changesAt_put (h : fs.node? spot ≠ some .dir) (n : Node) :
    ChangesAt [spot] fs (fs.put spot n) where
  workingDir_eq := rfl
  node?_eq_dir l hl := by
    rw [node?_put_of_ne fs n (by rintro rfl; exact h hl), hl]
  node?_eq l hl := node?_put_of_ne fs n (by simpa using hl)

theorem changesAt_erase (h : fs.node? spot ≠ some .dir) : ChangesAt [spot] fs (fs.erase spot) where
  workingDir_eq := rfl
  node?_eq_dir l hl := by
    rw [node?_erase_of_ne fs (by rintro rfl; exact h hl), hl]
  node?_eq l hl := node?_erase_of_ne fs (by simpa using hl)

theorem locate_put (h : fs.node? spot ≠ some .dir) (n : Node) (hp : fs.locate p = .ok l) :
    (fs.put spot n).locate p = .ok l :=
  locate_of_dirsStay (changesAt_put h n).toDirsStay hp

end FileSystem

namespace OutputFile

variable {o : OutputFile} {fs fs' : FileSystem} {spots : List Place} {spot : Place}

open FileSystem

/-- Releasing a file removes it, unless it is none or to be kept. -/
theorem release_cases (hp : fs.locate o.path = .ok spot) :
    o.release fs = fs ∧ (o.temporary = true → fs.node? spot = none ∨ fs.node? spot = some .dir) ∨
      o.release fs = fs.erase spot ∧ fs.node? spot ≠ some .dir := by
  unfold release
  split
  · rename_i ht
    rw [unlink, hp]
    cases hnode : fs.node? spot with
    | none => exact Or.inl ⟨by simp [hnode], fun _ => Or.inl rfl⟩
    | some n =>
      cases n with
      | dir => exact Or.inl ⟨by simp [hnode], fun _ => Or.inr rfl⟩
      | file content => exact Or.inr ⟨by simp [hnode], by simp⟩
      | device d => exact Or.inr ⟨by simp [hnode], by simp⟩
  · rename_i ht
    exact Or.inl ⟨rfl, fun h => absurd h ht⟩

theorem changesAt_release (hp : fs.locate o.path = .ok spot) :
    ChangesAt [spot] fs (o.release fs) := by
  rcases release_cases hp with ⟨heq, -⟩ | ⟨heq, hnode⟩
  · rw [heq]
    exact .refl _ _
  · rw [heq]
    exact changesAt_erase hnode

/-- What is read from a path does not depend on the places it does not lead to. -/
theorem read_of_changesAt (h : ChangesAt spots fs fs') (hp : fs.locate o.path = .ok spot)
    (hs : spot ∉ spots) : o.read fs' = o.read fs := by
  have hlookup : fs'.lookup o.path = fs.lookup o.path := by
    rw [lookup, lookup, locate_of_dirsStay h.toDirsStay hp, hp]
    simp only [h.node?_eq spot hs]
  rw [read, read, FileSystem.read, FileSystem.read, hlookup]

end OutputFile

end LintDispatch
