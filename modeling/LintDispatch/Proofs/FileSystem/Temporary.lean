import LintDispatch.Proofs.FileSystem.Fresh
import LintDispatch.Run.Session

/-!
# New files in one directory
A source of temporary files creates a new empty file for every request, always in the same directory
(`Provider.CreatesIn`); it may choose the names as it likes. `TempFiles.provider` is one
(`TempFiles.createsIn`).

The paths of such files differ in their last name only, so they are all walked through the same
directories: when one of them led somewhere once, so did any other that leads somewhere now
(`locate_sibling`).
-/

namespace LintDispatch

namespace Bytes

theorem splitOn_ne_nil (sep : UInt8) : ∀ bs : Bytes, splitOn sep bs ≠ []
  | [] => by simp [splitOn]
  | b :: bs => by
    rw [splitOn]
    split
    · simp
    · split <;> simp

theorem splitOn_append_cons (sep : UInt8) (more : Bytes) :
    ∀ bs : Bytes, splitOn sep (bs ++ sep :: more) = splitOn sep bs ++ splitOn sep more
  | [] => by simp [splitOn]
  | b :: bs => by
    rw [List.cons_append, splitOn, splitOn, splitOn_append_cons sep more bs]
    split
    · rfl
    · rcases hbs : splitOn sep bs with _ | ⟨p, ps⟩
      · exact absurd hbs (splitOn_ne_nil sep bs)
      · rfl

theorem splitOn_of_not_mem {sep : UInt8} : ∀ {bs : Bytes}, sep ∉ bs → splitOn sep bs = [bs]
  | [], _ => rfl
  | b :: bs, h => by
    rw [List.mem_cons, not_or] at h
    have hb : (b == sep) = false := by simpa using Ne.symm h.1
    rw [splitOn, hb, splitOn_of_not_mem h.2]
    rfl

end Bytes

namespace Path

/-- The name of an entry in a directory. -/
structure Plain (name : Bytes) : Prop where
  slash_not_mem : slash ∉ name
  component_eq : component name = some (.name name)

theorem Plain.isAbsolute_eq {name : Bytes} (h : Plain name) : isAbsolute name = false := by
  rcases name with _ | ⟨b, bs⟩
  · rfl
  · have hb : slash ≠ b := fun heq => h.slash_not_mem (heq ▸ List.mem_cons_self)
    simpa [isAbsolute] using Ne.symm hb

/-- The names in a directory are all appended in the same way. -/
theorem exists_stem {base : Path} (hbase : base ≠ []) :
    ∃ stem, ∀ name, Plain name → join base name = stem ++ slash :: name := by
  have hempty : base.isEmpty = false := by simpa using hbase
  by_cases hslash : base.getLast? = some slash
  · obtain ⟨stem, b, rfl⟩ := base.eq_nil_or_concat.resolve_left hbase
    rw [List.concat_eq_append] at *
    obtain rfl : b = slash := by simpa using hslash
    refine ⟨stem, fun name hname => ?_⟩
    simp [join, hname.isAbsolute_eq]
  · refine ⟨base, fun name hname => ?_⟩
    simp [join, hname.isAbsolute_eq, hempty, hslash]

theorem join_ne_nil {base : Path} (hbase : base ≠ []) (p : Path) : join base p ≠ [] := by
  unfold join
  split
  · rintro rfl
    simp_all [isAbsolute]
  · split
    · simp_all
    · split <;> simp [hbase]

end Path

namespace FileSystem

variable {fs fs' : FileSystem} {l l' here d : Place} {name name' : Bytes} {stem : Path}

theorem walk_append_eq_ok :
    ∀ {parts more : List Bytes} {here : Place}, fs.walk here (parts ++ more) = .ok l ↔
      ∃ d, fs.walk here parts = .ok d ∧ fs.walk d more = .ok l
  | [], more, here => by simp [walk]
  | part :: parts, more, here => by
    rw [List.cons_append, walk, walk]
    cases fs.node? here with
    | none => simp
    | some n =>
      cases n with
      | file content => simp
      | device d => simp
      | dir =>
        simp only
        split
        · simp
        · split <;> exact walk_append_eq_ok

theorem walk_singleton_eq_ok (hname : Path.Plain name) : fs.walk d [name] = .ok l ↔
    fs.node? d = some .dir ∧ name.length ≤ maxName ∧ l = d ++ [name] := by
  rw [walk]
  cases fs.node? d with
  | none => simp
  | some n =>
    cases n with
    | file content => simp
    | device d => simp
    | dir =>
      simp only [hname.component_eq, walk, true_and]
      by_cases hlong : maxName < name.length
      · simp [hlong, Nat.not_le.mpr hlong]
      · simp [hlong, Nat.not_lt.mp hlong, eq_comm]

/-- The path to a name in a directory leads to that directory first. -/
theorem locate_stem_eq_ok (hname : Path.Plain name) :
    fs.locate (stem ++ Path.slash :: name) = .ok l ↔
      Spellable (stem ++ Path.slash :: name) ∧ name.length ≤ maxName ∧
        ∃ d, fs.walk (if Path.isAbsolute (stem ++ [Path.slash]) then [] else fs.workingDir)
          (Bytes.splitOn Path.slash stem) = .ok d ∧ fs.node? d = some .dir ∧ l = d ++ [name] := by
  have habs : Path.isAbsolute (stem ++ Path.slash :: name) =
      Path.isAbsolute (stem ++ [Path.slash]) := by
    cases stem <;> rfl
  rw [locate_eq_ok, habs, Bytes.splitOn_append_cons, Bytes.splitOn_of_not_mem hname.slash_not_mem,
    walk_append_eq_ok]
  simp only [walk_singleton_eq_ok hname]
  constructor
  · rintro ⟨hp, d, hd, hdir, hlen, hl⟩
    exact ⟨hp, hlen, d, hd, hdir, hl⟩
  · rintro ⟨hp, hlen, d, hd, hdir, hl⟩
    exact ⟨hp, d, hd, hdir, hlen, hl⟩

/-- When the path to a name led somewhere once, then the path to any other name in its directory led
there already where it leads now. -/
theorem locate_sibling (h : DirsStay fs fs') (hname : Path.Plain name)
    (hname' : Path.Plain name') (hl : fs.locate (stem ++ Path.slash :: name) = .ok l)
    (hl' : fs'.locate (stem ++ Path.slash :: name') = .ok l') :
    fs.locate (stem ++ Path.slash :: name') = .ok l' := by
  obtain ⟨-, -, d, hd, hdir, -⟩ := (locate_stem_eq_ok hname).mp hl
  obtain ⟨hp, hlen, d', hd', -, rfl⟩ := (locate_stem_eq_ok hname').mp hl'
  rw [h.workingDir_eq] at hd'
  obtain rfl : d = d' := Except.ok.inj ((walk_of_dirsStay h _ _ hd).symm.trans hd')
  exact (locate_stem_eq_ok hname').mpr ⟨hp, hlen, d, hd, hdir, rfl⟩

/-- A directory holds the names of the places below it that are not empty. -/
theorem mem_names : name ∈ fs.names d ↔ fs.node? (d ++ [name]) ≠ none := by
  have hentry : ∀ l : Place, (if l ≠ [] ∧ l.dropLast = d then l.getLast? else none) = some name ↔
      l = d ++ [name] := by
    intro l
    rcases l.eq_nil_or_concat with rfl | ⟨ns, n, rfl⟩
    · simp
    · simp
  have hroot : d ++ [name] ≠ [] := by simp
  rw [node?, if_neg hroot, ne_eq, Option.map_eq_none_iff, List.find?_eq_none]
  simp [names, List.mem_filterMap, hentry]

/-- A file that cannot be written is left alone. -/
theorem eq_of_write_error {p : Path} {content : Bytes} {e : HostError}
    (h : fs.write p content = (.error e, fs')) : fs' = fs := by
  rw [write] at h
  cases htarget : fs.target p with
  | error e' =>
    rw [htarget] at h
    exact (congrArg Prod.snd h).symm
  | ok l =>
    rw [htarget] at h
    simp only [store] at h
    split at h
    case h_4 => simp at h
    all_goals exact (congrArg Prod.snd h).symm

theorem workingPath_ne_nil (fs : FileSystem) : fs.workingPath ≠ [] := by
  rw [workingPath, pathOf]
  split
  · simp
  · rename_i h
    cases hw : fs.workingDir with
    | nil => simp [hw] at h
    | cons n ns => simp

end FileSystem

/-! ## Sources of new files -/

/-- The provider creates a new empty file for every request, at a path where nothing was, or it
changes no file. -/
structure Provider.Creates {τ : Type} (p : Provider τ) : Prop where
  refused : ∀ t fs e, (p.request t fs).1 = .error e → (p.request t fs).2.2 = fs
  created : ∀ t fs o, (p.request t fs).1 = .ok o → o.temporary = true ∧
    fs.exists? o.path = false ∧ fs.write o.path [] = (.ok (), (p.request t fs).2.2)

/-- A new file lies at a place where nothing was. -/
theorem Provider.Creates.exists_place {τ : Type} {p : Provider τ} (h : p.Creates) {t : τ}
    {fs : FileSystem} {o : OutputFile} (ho : (p.request t fs).1 = .ok o) :
    ∃ l, fs.locate o.path = .ok l ∧ fs.node? l = none ∧
      (p.request t fs).2.2 = fs.put l (.file []) := by
  obtain ⟨-, hexists, hwrite⟩ := h.created t fs o ho
  rw [FileSystem.write] at hwrite
  cases htarget : fs.target o.path with
  | error e => simp [htarget] at hwrite
  | ok l =>
    obtain ⟨-, hlocate, -⟩ := FileSystem.target_eq_ok.mp htarget
    have hnone : fs.node? l = none := by
      cases hnode : fs.node? l with
      | none => rfl
      | some n => simp [FileSystem.exists?, FileSystem.lookup, hlocate, hnode] at hexists
    refine ⟨l, hlocate, hnone, ?_⟩
    rw [htarget] at hwrite
    simpa [FileSystem.store, hnone] using (congrArg Prod.snd hwrite).symm

/-- The provider creates a new empty file for every request, at a path where nothing was, and always
in the same directory, or it changes no file. A session names the directory, as a path from the
working directory. -/
structure Provider.CreatesIn {τ : Type} (p : Provider τ) (dir : τ → Path) : Prop where
  dir_eq : ∀ t fs, dir (p.request t fs).2.1 = dir t
  refused : ∀ t fs e, (p.request t fs).1 = .error e → (p.request t fs).2.2 = fs
  created : ∀ t fs o, (p.request t fs).1 = .ok o → o.temporary = true ∧
    (∃ name, Path.Plain name ∧ o.path = Path.join (Path.join fs.workingPath (dir t)) name) ∧
    fs.exists? o.path = false ∧ fs.write o.path [] = (.ok (), (p.request t fs).2.2)

theorem Provider.CreatesIn.creates {τ : Type} {p : Provider τ} {dir : τ → Path}
    (h : p.CreatesIn dir) : p.Creates where
  refused := h.refused
  created t fs o ho := by
    obtain ⟨htemporary, -, hexists, hwrite⟩ := h.created t fs o ho
    exact ⟨htemporary, hexists, hwrite⟩

theorem Provider.CreatesIn.exists_place {τ : Type} {p : Provider τ} {dir : τ → Path}
    (h : p.CreatesIn dir) {t : τ} {fs : FileSystem} {o : OutputFile}
    (ho : (p.request t fs).1 = .ok o) : ∃ l, fs.locate o.path = .ok l ∧ fs.node? l = none ∧
      (p.request t fs).2.2 = fs.put l (.file []) :=
  h.creates.exists_place ho

namespace TempFiles

theorem letter_ne_slash : ∀ n < 62, letter n ≠ Path.slash := by decide

theorem plain_name (n : Nat) : Path.Plain (name n) where
  slash_not_mem := by
    have hstart : Path.slash ∉ Bytes.ofString nameStart := by decide
    have hend : Path.slash ∉ Bytes.ofString nameEnd := by decide
    have hletters : Path.slash ∉ letters n := by
      intro hmem
      obtain ⟨k, -, hk⟩ := List.mem_map.mp hmem
      exact letter_ne_slash _ (Nat.mod_lt _ (by decide)) hk
    simp only [name, List.mem_append, not_or]
    exact ⟨⟨hstart, hletters⟩, hend⟩
  component_eq := by
    obtain ⟨rest, hrest⟩ : ∃ rest, name n = 108 :: rest := ⟨_, rfl⟩
    rw [hrest]
    rfl

/-- Whatever names are tried, what comes of it is a new file or no change at all. -/
theorem create_cases (fs : FileSystem) : ∀ (attempts : Nat) (t : TempFiles),
    ∃ tried, (t.create fs attempts).2.1 = { t with tried := tried } ∧
      (∀ e, (t.create fs attempts).1 = .error e → (t.create fs attempts).2.2 = fs) ∧
      ∀ o, (t.create fs attempts).1 = .ok o → o.temporary = true ∧
        (∃ n, o.path = Path.join (t.absoluteDir fs) (name n)) ∧ fs.exists? o.path = false ∧
        fs.write o.path [] = (.ok (), (t.create fs attempts).2.2)
  | 0, t => ⟨t.tried, rfl, fun _ _ => rfl, by simp [create]⟩
  | attempts + 1, t => by
    rw [create]
    cases hlookup : fs.lookup (Path.join (t.absoluteDir fs) (name t.tried)) with
    | ok n =>
      obtain ⟨tried, hrest⟩ := create_cases fs attempts { t with tried := t.tried + 1 }
      exact ⟨tried, hrest⟩
    | error e =>
      have hexists : fs.exists? (Path.join (t.absoluteDir fs) (name t.tried)) = false := by
        rw [FileSystem.exists?, hlookup]
      cases e with
      | missing =>
        simp only
        rcases hwrite : fs.write (Path.join (t.absoluteDir fs) (name t.tried)) [] with ⟨e | u, fs'⟩
        · exact ⟨t.tried + 1, rfl, fun _ _ => FileSystem.eq_of_write_error hwrite, by simp⟩
        · refine ⟨t.tried + 1, rfl, by simp, fun o ho => ?_⟩
          obtain rfl := Except.ok.inj ho
          exact ⟨rfl, ⟨t.tried, rfl⟩, hexists, hwrite⟩
      | _ => exact ⟨t.tried + 1, rfl, fun _ _ => rfl, by simp⟩

theorem createsIn : TempFiles.provider.CreatesIn fun t => t.dir.getD t.defaultDir where
  dir_eq t fs := by
    obtain ⟨tried, htried, -⟩ := create_cases fs (fs.entries.length + 1) t
    exact congrArg (fun t => t.dir.getD t.defaultDir) htried
  refused t fs e he := by
    obtain ⟨-, -, hrefused, -⟩ := create_cases fs (fs.entries.length + 1) t
    exact hrefused e he
  created t fs o ho := by
    obtain ⟨-, -, -, hcreated⟩ := create_cases fs (fs.entries.length + 1) t
    obtain ⟨htemporary, ⟨n, hpath⟩, hexists, hwrite⟩ := hcreated o ho
    exact ⟨htemporary, ⟨name n, plain_name n, hpath⟩, hexists, hwrite⟩

end TempFiles

end LintDispatch
