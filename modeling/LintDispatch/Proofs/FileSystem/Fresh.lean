import LintDispatch.Proofs.FileSystem.Changes

/-!
# Fresh output files
An output file is fresh if its path leads to an empty file, or to nothing at all where a file can be
put; `OutputFile.FreshAt` names the place. What is written to a fresh path is read back from it
(`read_write_of_isFresh`), and a file stays fresh as long as nothing happens at its place
(`FreshAt.of_changesAt`).
-/

namespace LintDispatch

/-- The file is empty, or it is missing and can be created. -/
def OutputFile.isFresh (o : OutputFile) (fs : FileSystem) : Bool :=
  match fs.target o.path with
  | .error _ => false
  | .ok spot => fs.node? spot == none || fs.node? spot == some (.file [])

namespace FileSystem

variable {fs : FileSystem} {spot : Place} {p : Path}

theorem withoutEndSlashes_eq (h : endsInSlash p = false) : withoutEndSlashes p = p := by
  rcases p.eq_nil_or_concat with rfl | ⟨q, b, rfl⟩
  · rfl
  · have hb : (b == Path.slash) = false := by simpa [endsInSlash] using h
    rw [List.concat_eq_append]
    have hall : (q ++ [b]).all (· == Path.slash) = false := by simp [hb]
    rw [withoutEndSlashes, hall, List.reverse_append, List.reverse_singleton,
      List.singleton_append, List.dropWhile_cons_of_neg (by simpa using hb)]
    simp

/-- A file can be put where a path leads to that does not end in a slash, if there is no
directory. -/
theorem target_eq_ok : fs.target p = .ok spot ↔
    endsInSlash p = false ∧ fs.locate p = .ok spot ∧ fs.node? spot ≠ some .dir := by
  rw [target]
  by_cases hslash : endsInSlash p = true
  · simp only [hslash, true_or, if_true, Bool.true_eq_false, false_and, iff_false]
    split <;> simp
  rw [Bool.not_eq_true] at hslash
  rw [withoutEndSlashes_eq hslash]
  cases hp : fs.locate p with
  | error e => simp
  | ok l =>
    simp only [hslash, Bool.false_eq_true, false_or, Except.ok.injEq, true_and]
    by_cases hl : l = spot
    · subst hl
      split <;> simp_all
    · split <;> simp [hl]

theorem workingDir_write (fs : FileSystem) (p : Path) (content : Bytes) :
    (fs.write p content).2.workingDir = fs.workingDir := by
  unfold write store
  repeat' split
  all_goals rfl

/-- Writing to a path changes nothing but the place that it leads to. -/
theorem node?_write_of_ne {content : Bytes} {l : Place} (h : fs.locate p ≠ .ok l) :
    (fs.write p content).2.node? l = fs.node? l := by
  rw [write]
  cases ht : fs.target p with
  | error e => rfl
  | ok spot =>
    have hne : l ≠ spot := by
      rintro rfl
      exact h (target_eq_ok.mp ht).2.1
    simp only [store]
    split
    case h_4 => exact node?_put_of_ne fs _ hne
    all_goals rfl

end FileSystem

namespace OutputFile

variable {o : OutputFile} {fs : FileSystem} {spot : Place}

/-- The path leads to a place where there is an empty file, or nothing and a file can be put. -/
structure FreshAt (o : OutputFile) (fs : FileSystem) (spot : Place) : Prop where
  endsInSlash_eq : FileSystem.endsInSlash o.path = false
  locate_eq : fs.locate o.path = .ok spot
  node?_eq : fs.node? spot = none ∨ fs.node? spot = some (.file [])

theorem FreshAt.node?_ne_dir (h : o.FreshAt fs spot) : fs.node? spot ≠ some .dir := by
  rcases h.node?_eq with hnode | hnode <;> simp [hnode]

theorem FreshAt.target_eq (h : o.FreshAt fs spot) : fs.target o.path = .ok spot :=
  FileSystem.target_eq_ok.mpr ⟨h.endsInSlash_eq, h.locate_eq, h.node?_ne_dir⟩

theorem exists_freshAt (h : o.isFresh fs = true) : ∃ spot, o.FreshAt fs spot := by
  unfold isFresh at h
  cases ht : fs.target o.path with
  | error e => simp [ht] at h
  | ok spot =>
    obtain ⟨hslash, hlocate, -⟩ := FileSystem.target_eq_ok.mp ht
    exact ⟨spot, hslash, hlocate, by simpa [ht] using h⟩

/-- Changes at other places leave a file fresh. -/
theorem FreshAt.of_changesAt {fs' : FileSystem} {spots : List Place} (h : o.FreshAt fs spot)
    (hc : FileSystem.ChangesAt spots fs fs') (hs : spot ∉ spots) : o.FreshAt fs' spot where
  endsInSlash_eq := h.endsInSlash_eq
  locate_eq := FileSystem.locate_of_dirsStay hc.toDirsStay h.locate_eq
  node?_eq := by
    rw [hc.node?_eq spot hs]
    exact h.node?_eq

/-- There is nothing in a fresh file. -/
theorem FreshAt.read_eq (h : o.FreshAt fs spot) : (o.read fs).map (·.getD []) = .ok [] := by
  rw [read, FileSystem.read, FileSystem.lookup, h.locate_eq]
  rcases h.node?_eq with hnode | hnode
  · simp [hnode, Except.map]
  · simp [hnode, Except.map]

/-- What is written to a fresh file is read back. -/
theorem read_write_of_isFresh (h : o.isFresh fs = true) (text : Bytes) :
    ∃ fs', fs.write o.path text = (.ok (), fs') ∧ o.read fs' = .ok (some text) := by
  obtain ⟨spot, hspot⟩ := exists_freshAt h
  have hdir := hspot.node?_ne_dir
  have hroot : spot ≠ [] := by
    rintro rfl
    exact hdir rfl
  have hstore : fs.store spot text = (.ok (), fs.put spot (.file text)) := by
    unfold FileSystem.store
    rcases hspot.node?_eq with hnode | hnode
    · rw [hnode]
    · rw [hnode]
  refine ⟨fs.put spot (.file text), ?_, ?_⟩
  · rw [FileSystem.write, hspot.target_eq]
    exact hstore
  · have hlookup : (fs.put spot (.file text)).lookup o.path = .ok (.file text) := by
      rw [FileSystem.lookup, FileSystem.locate_put hdir _ hspot.locate_eq]
      simp only [FileSystem.node?_put_self fs _ hroot]
    rw [read, FileSystem.read, hlookup]

end OutputFile

end LintDispatch
