import LintDispatch.Proofs.FileSystem.Barred
import LintDispatch.Proofs.FileSystem.Effects
import LintDispatch.Run.Outputs

/-!
# The lives of output files
Output files are handed out or named, something is done at their paths, they are read and in the end
dropped, in whatever order. Each of them has the file system to itself as long as their paths are
apart (`Path.Apart`): none leads where another one leads or passes through. Then what is read from
an output file is what was last written to it, and no step on another one is noticed
(`Outputs.lifecycle`).

`Outputs.Taken` names what a step can come to. What a whole run keeps up is `Outputs.Sound`: the
content of every file has been written by one of the steps, or it was there from the start.
`Outputs.lifecycle_exceptions` shows where a rule without conditions would go wrong.
-/

namespace LintDispatch

/-! ## What a step does to the files -/

namespace Touch

open FileSystem

variable {fs : FileSystem} {p : Path} {t : Touch} {l : Place} {c : Bytes}

theorem changesAt (ht : t ≠ .makeDirs) (fs : FileSystem) (p : Path) :
    ChangesAt [Path.goal fs.workingDir p] fs (t.apply fs p).2 := by
  cases t with
  | write content => exact changesAt_write fs p content
  | unlink => exact changesAt_unlink fs p
  | makeDir => exact changesAt_makeDir fs p
  | makeDirs => exact absurd rfl ht

theorem workingDir_eq (t : Touch) (fs : FileSystem) (p : Path) :
    (t.apply fs p).2.workingDir = fs.workingDir := by
  by_cases ht : t = .makeDirs
  · subst ht
    exact (opens_makeDirs fs p).workingDir_eq
  · exact (changesAt ht fs p).workingDir_eq

theorem rooted (h : fs.Rooted) (t : Touch) (p : Path) : (t.apply fs p).2.Rooted := by
  cases t with
  | write content => exact h.write p content
  | unlink => exact h.unlink p
  | makeDir => exact h.makeDir p
  | makeDirs => exact h.makeDirs p

/-- A file that is found anywhere but at the goal was there before. -/
theorem node?_of_ne (h : (t.apply fs p).2.node? l = some (.file c))
    (hl : l ≠ Path.goal fs.workingDir p) : fs.node? l = some (.file c) := by
  by_cases ht : t = .makeDirs
  · subst ht
    exact (opens_makeDirs fs p).gainsNoFile l c h
  · rw [← h]
    exact ((changesAt ht fs p).node?_eq l (by simpa using hl)).symm

/-- Only writing makes files. -/
theorem gainsNoFile (ht : ∀ content, t ≠ .write content) (fs : FileSystem) (p : Path) :
    GainsNoFile fs (t.apply fs p).2 := by
  cases t with
  | write content => exact absurd rfl (ht content)
  | unlink => exact gainsNoFile_unlink fs p
  | makeDir => exact gainsNoFile_makeDir fs p
  | makeDirs => exact (opens_makeDirs fs p).gainsNoFile

end Touch

namespace Slot

open FileSystem

variable {slot : Slot} {fs first : FileSystem} {c : Bytes}

/-- The content is what was last written to the output file, or what its file held from the start if
nothing was written to it. -/
def Keeps (first : FileSystem) (slot : Slot) (c : Bytes) : Prop :=
  slot.written = some c ∨
    slot.written = none ∧ first.node? (Path.goal first.workingDir slot.path) = some (.file c)

/-- A file that is found at the goal of an output file has just been written, or it was there
before and nothing was written. -/
theorem touched_cases {t : Touch}
    (h : (t.apply fs slot.path).2.node? (Path.goal fs.workingDir slot.path) = some (.file c)) :
    (slot.touched t (t.apply fs slot.path).1).written = some c ∨
      slot.touched t (t.apply fs slot.path).1 = slot ∧
        fs.node? (Path.goal fs.workingDir slot.path) = some (.file c) := by
  by_cases ht : ∃ content, t = .write content
  · obtain ⟨content, rfl⟩ := ht
    simp only [Touch.apply] at h ⊢
    rcases fs.write_cases slot.path content with ⟨e, heq⟩ | ⟨-, ⟨⟨d, hnode⟩, heq⟩ | ⟨hdir, heq⟩⟩
    · rw [heq] at h ⊢
      exact Or.inr ⟨rfl, h⟩
    · rw [heq, hnode] at h
      cases h
    · rw [heq] at h ⊢
      have hroot : Path.goal fs.workingDir slot.path ≠ [] := fun hnil => hdir (by rw [hnil]; rfl)
      rw [node?_put_self fs _ hroot] at h
      exact Or.inl (congrArg some (Node.file.inj (Option.some.inj h)))
  · have hother : ∀ content, t ≠ .write content := fun content heq => ht ⟨content, heq⟩
    refine Or.inr ⟨?_, Touch.gainsNoFile hother fs slot.path _ c h⟩
    cases t with
    | write content => exact absurd rfl (hother content)
    | _ => rfl

end Slot

/-! ## Output files apart from each other -/

namespace Outputs

open FileSystem

variable {τ : Type} {p : Provider τ} {first : FileSystem} {s s' : Outputs τ} {next : Step}

/-- The output file that a step is about. -/
def Step.slot? : Step → Option Nat
  | new => none
  | unmanaged _ => none
  | touch i _ => some i
  | read i => some i
  | drop i => some i

/-- The paths of the output files. -/
def paths (s : Outputs τ) : List Path := s.slots.map Slot.path

/-- No output file lies where another one lies or on the way to it. -/
def Separate (dir : Place) (s : Outputs τ) : Prop := s.paths.Pairwise (Path.Apart dir)

instance (dir : Place) (s : Outputs τ) : Decidable (s.Separate dir) :=
  inferInstanceAs (Decidable (s.paths.Pairwise _))

/-- What a step comes to. -/
inductive Taken (p : Provider τ) (s : Outputs τ) : Step → Outputs τ → Prop
  /-- Nothing changes. -/
  | idle {next : Step} {s' : Outputs τ} (files_eq : s'.files = s.files)
      (slots_eq : s'.slots = s.slots) : Taken p s next s'
  /-- A new file has been created. -/
  | created {o : OutputFile} {t : τ} {fs : FileSystem}
      (request_eq : p.request s.provider s.files = (.ok o, t, fs)) :
      Taken p s .new ⟨fs, t, s.slots ++ [{ output := o, written := some [] }]⟩
  /-- A path has been named. -/
  | named (path : Path) :
      Taken p s (.unmanaged path) { s with slots := s.slots ++ [{ output := ⟨path, false⟩ }] }
  /-- Something has been done at the path of an output file. -/
  | touched {i : Nat} {slot : Slot} (slot_eq : s.slots[i]? = some slot) (t : Touch) :
      Taken p s (.touch i t) { s with
        files := (t.apply s.files slot.path).2
        slots := s.slots.set i (slot.touched t (t.apply s.files slot.path).1) }
  /-- An output file has been dropped, for the first time or again. -/
  | dropped {i : Nat} {slot : Slot} (slot_eq : s.slots[i]? = some slot) :
      Taken p s (.drop i) { s with
        files := if slot.live then slot.output.release s.files else s.files
        slots := s.slots.set i { slot with live := false } }

theorem step_taken (hp : p.Creates) (s : Outputs τ) (next : Step) :
    Taken p s next (step p s next).2 := by
  cases next with
  | new =>
    rcases hr : p.request s.provider s.files with ⟨e | o, t, fs⟩
    · have hfiles := hp.refused s.provider s.files e (by rw [hr])
      rw [hr] at hfiles
      simp only [step, hr]
      exact .idle hfiles rfl
    · simp only [step, hr]
      exact .created hr
  | unmanaged path => exact .named path
  | touch i t =>
    cases hslot : s.slots[i]? with
    | none =>
      simp only [step, hslot]
      exact .idle rfl rfl
    | some slot =>
      simp only [step, hslot]
      exact .touched hslot t
  | read i =>
    cases hslot : s.slots[i]? with
    | none =>
      simp only [step, hslot]
      exact .idle rfl rfl
    | some slot =>
      simp only [step, hslot]
      exact .idle rfl rfl
  | drop i =>
    cases hslot : s.slots[i]? with
    | none =>
      simp only [step, hslot]
      exact .idle rfl rfl
    | some slot =>
      simp only [step, hslot]
      exact .dropped hslot

/-! ## Paths -/

theorem map_path_set {slots : List Slot} {i : Nat} {slot slot' : Slot}
    (hslot : slots[i]? = some slot) (hpath : slot'.path = slot.path) :
    (slots.set i slot').map Slot.path = slots.map Slot.path := by
  obtain ⟨hi, rfl⟩ := List.getElem?_eq_some_iff.mp hslot
  have hi' : i < (slots.map Slot.path).length := by rwa [List.length_map]
  have hget : slots[i].path = (slots.map Slot.path)[i] := (List.getElem_map _).symm
  rw [List.map_set, hpath, hget, List.set_getElem_self hi']

/-- Output files keep their paths, and new ones come last. -/
theorem Taken.paths_kept (h : Taken p s next s') : s.paths <+: s'.paths := by
  unfold paths
  cases h with
  | idle files_eq slots_eq => exact ⟨[], by rw [slots_eq, List.append_nil]⟩
  | created request_eq => exact ⟨_, (List.map_append).symm⟩
  | named path => exact ⟨_, (List.map_append).symm⟩
  | touched slot_eq t =>
    exact ⟨[], by rw [map_path_set slot_eq (Slot.path_touched _ _ _), List.append_nil]⟩
  | @dropped i slot slot_eq =>
    have hsame : ({ slot with live := false } : Slot).path = slot.path := rfl
    exact ⟨[], by rw [map_path_set slot_eq hsame, List.append_nil]⟩

theorem paths_run (hp : p.Creates) (s : Outputs τ) (steps : List Step) :
    s.paths <+: (run p s steps).paths := by
  induction steps generalizing s with
  | nil => exact List.prefix_rfl
  | cons next steps ih => exact (step_taken hp s next).paths_kept.trans (ih _)

theorem Separate.of_prefix {dir : Place} (h : s'.Separate dir) (hpre : s.paths <+: s'.paths) :
    s.Separate dir :=
  List.Pairwise.sublist hpre.sublist h

/-- Output files at different positions are apart. -/
theorem Separate.apart {dir : Place} (h : s.Separate dir) {i j : Nat} {a b : Slot}
    (ha : s.slots[i]? = some a) (hb : s.slots[j]? = some b) (hne : i ≠ j) :
    Path.Apart dir a.path b.path := by
  obtain ⟨hi, rfl⟩ := List.getElem?_eq_some_iff.mp ha
  obtain ⟨hj, rfl⟩ := List.getElem?_eq_some_iff.mp hb
  have hpairs := List.pairwise_iff_getElem.mp (List.pairwise_map.mp h)
  rcases Nat.lt_or_gt_of_ne hne with hlt | hlt
  · exact hpairs i j hi hj hlt
  · exact (hpairs j i hj hi hlt).symm

/-- An output file that comes last is apart from those before it. -/
theorem Separate.apart_last {dir : Place} {fs : FileSystem} {t : τ} {slots : List Slot} {new : Slot}
    (h : Separate dir (⟨fs, t, slots ++ [new]⟩ : Outputs τ)) {q : Path}
    (hq : q ∈ slots.map Slot.path) : Path.Apart dir q new.path := by
  unfold Separate paths at h
  rw [List.map_append, List.pairwise_append] at h
  exact h.2.2 q hq _ (by simp)

/-! ## Where contents come from -/

/-- Every file at the path of an output file holds what was last written there, or what it held from
the start, and so does every other file. -/
structure Sound (first : FileSystem) (s : Outputs τ) : Prop where
  workingDir_eq : s.files.workingDir = first.workingDir
  rooted : first.Rooted → s.files.Rooted
  keeps : ∀ slot ∈ s.slots, ∀ c,
    s.files.node? (Path.goal first.workingDir slot.path) = some (.file c) → slot.Keeps first c
  others : ∀ l c, (∀ q ∈ s.paths, Path.goal first.workingDir q ≠ l) →
    s.files.node? l = some (.file c) → first.node? l = some (.file c)

/-- There are no output files yet. -/
def start (files : FileSystem) (provider : τ) : Outputs τ := ⟨files, provider, []⟩

theorem sound_start (first : FileSystem) (t : τ) : Sound first (start first t) where
  workingDir_eq := rfl
  rooted h := h
  keeps := by simp [start]
  others _ _ _ h := h

/-- A new file is empty. -/
theorem Sound.created (h : Sound first s) {fs : FileSystem} {t : τ} {o : OutputFile}
    (hwrite : s.files.write o.path [] = (.ok (), fs))
    (hnode : fs.node? (Path.goal first.workingDir o.path) = some (.file []))
    (hsep : Separate first.workingDir
      (⟨fs, t, s.slots ++ [{ output := o, written := some [] }]⟩ : Outputs τ)) :
    Sound first ⟨fs, t, s.slots ++ [{ output := o, written := some [] }]⟩ := by
  have hchanges := changesAt_write s.files o.path []
  have hrooted := fun hr => (h.rooted hr).write o.path []
  rw [hwrite] at hchanges hrooted
  rw [h.workingDir_eq] at hchanges
  have hsame : ∀ l, l ≠ Path.goal first.workingDir o.path → fs.node? l = s.files.node? l :=
    fun l hl => hchanges.node?_eq l (by simpa using hl)
  refine ⟨hchanges.workingDir_eq.trans h.workingDir_eq, hrooted, ?_, ?_⟩
  · intro slot hslot c hc
    rcases List.mem_append.mp hslot with hslot | hslot
    · have hne := (hsep.apart_last (List.mem_map_of_mem hslot)).goal_ne
      exact h.keeps slot hslot c ((hsame _ hne).symm.trans hc)
    · obtain rfl := List.mem_singleton.mp hslot
      have hempty : [] = c := Node.file.inj (Option.some.inj (hnode.symm.trans hc))
      exact Or.inl (congrArg some hempty)
  · intro l c hl hc
    rw [paths, List.map_append] at hl
    have hnew : Path.goal first.workingDir o.path ≠ l := hl o.path (by simp [Slot.path])
    exact h.others l c (fun q hq => hl q (List.mem_append_left _ hq))
      ((hsame l hnew.symm).symm.trans hc)

/-- A file whose path is named holds what it held from the start. -/
theorem Sound.named (h : Sound first s) {path : Path}
    (hsep : Separate first.workingDir
      (⟨s.files, s.provider, s.slots ++ [{ output := ⟨path, false⟩ }]⟩ : Outputs τ)) :
    Sound first ⟨s.files, s.provider, s.slots ++ [{ output := ⟨path, false⟩ }]⟩ where
  workingDir_eq := h.workingDir_eq
  rooted := h.rooted
  keeps := by
    intro slot hslot c hc
    rcases List.mem_append.mp hslot with hslot | hslot
    · exact h.keeps slot hslot c hc
    · obtain rfl := List.mem_singleton.mp hslot
      exact Or.inr ⟨rfl, h.others _ c (fun q hq => (hsep.apart_last hq).goal_ne) hc⟩
  others l c hl := h.others l c fun q hq =>
    hl q (by rw [paths, List.map_append]; exact List.mem_append_left _ hq)

/-- What is done at the path of an output file counts as written there, and nowhere else. -/
theorem Sound.touched (h : Sound first s) {i : Nat} {slot : Slot}
    (hslot : s.slots[i]? = some slot) (t : Touch) (hsep : s.Separate first.workingDir) :
    Sound first { s with
      files := (t.apply s.files slot.path).2
      slots := s.slots.set i (slot.touched t (t.apply s.files slot.path).1) } where
  workingDir_eq := (t.workingDir_eq s.files slot.path).trans h.workingDir_eq
  rooted hr := Touch.rooted (h.rooted hr) t slot.path
  keeps := by
    intro slot' hslot' c hc
    obtain ⟨j, hj⟩ := List.getElem?_of_mem hslot'
    by_cases hne : i = j
    · subst hne
      obtain ⟨hi, rfl⟩ := List.getElem?_eq_some_iff.mp hslot
      rw [List.getElem?_set_self hi] at hj
      obtain rfl := Option.some.inj hj
      rw [Slot.path_touched, ← h.workingDir_eq] at hc
      rcases Slot.touched_cases hc with hwritten | ⟨hsame, hbefore⟩
      · exact Or.inl hwritten
      · rw [hsame]
        rw [h.workingDir_eq] at hbefore
        exact h.keeps _ (List.getElem_mem hi) c hbefore
    · rw [List.getElem?_set_ne hne] at hj
      refine h.keeps slot' (List.mem_of_getElem? hj) c (Touch.node?_of_ne hc ?_)
      rw [h.workingDir_eq]
      exact (hsep.apart hslot hj hne).goal_ne.symm
  others := by
    intro l c hl hc
    rw [paths, map_path_set hslot (Slot.path_touched _ _ _)] at hl
    refine h.others l c hl (Touch.node?_of_ne hc ?_)
    rw [h.workingDir_eq]
    exact (hl slot.path (List.mem_map_of_mem (List.mem_of_getElem? hslot))).symm

/-- Dropping an output file makes no file. -/
theorem Sound.dropped (h : Sound first s) {i : Nat} {slot : Slot} (hslot : s.slots[i]? = some slot)
    {fs : FileSystem} (hfs : fs = s.files ∨ fs = slot.output.release s.files) :
    Sound first { s with files := fs, slots := s.slots.set i { slot with live := false } } := by
  have hfiles : GainsNoFile s.files fs ∧ fs.workingDir = s.files.workingDir ∧
      (s.files.Rooted → fs.Rooted) := by
    rcases hfs with rfl | rfl
    · exact ⟨.refl _, rfl, id⟩
    · refine ⟨gainsNoFile_release _ _, (changesAt_release _ _).workingDir_eq, fun hr => ?_⟩
      rw [OutputFile.release]
      split
      · exact hr.unlink _
      · exact hr
  obtain ⟨hgains, hdir, hrooted⟩ := hfiles
  refine ⟨hdir.trans h.workingDir_eq, fun hr => hrooted (h.rooted hr), ?_, ?_⟩
  · intro slot' hslot' c hc
    rcases List.mem_or_eq_of_mem_set hslot' with hmem | rfl
    · exact h.keeps slot' hmem c (hgains _ c hc)
    · exact h.keeps slot (List.mem_of_getElem? hslot) c (hgains _ c hc)
  · intro l c hl hc
    have hsame : ({ slot with live := false } : Slot).path = slot.path := rfl
    rw [paths, map_path_set hslot hsame] at hl
    exact h.others l c hl (hgains l c hc)

theorem Taken.sound (hp : p.Creates) (h : Sound first s) (taken : Taken p s next s')
    (hsep : s'.Separate first.workingDir) : Sound first s' := by
  have hbefore := hsep.of_prefix taken.paths_kept
  cases taken with
  | idle files_eq slots_eq =>
    obtain ⟨files, t, slots⟩ := s'
    obtain rfl : files = s.files := files_eq
    obtain rfl : slots = s.slots := slots_eq
    exact ⟨h.workingDir_eq, h.rooted, h.keeps, h.others⟩
  | @created o t fs request_eq =>
    have hok : (p.request s.provider s.files).1 = .ok o := by rw [request_eq]
    obtain ⟨-, -, hwrite⟩ := hp.created s.provider s.files o hok
    obtain ⟨l, hlocate, hnone, hput⟩ := hp.exists_place hok
    rw [request_eq] at hwrite hput
    have hroot : l ≠ [] := by
      rintro rfl
      cases hnone
    refine h.created hwrite ?_ hsep
    rw [← h.workingDir_eq, ← eq_goal_of_locate hlocate, show fs = _ from hput,
      node?_put_self _ _ hroot]
  | named path => exact h.named hsep
  | touched slot_eq t => exact h.touched slot_eq t hbefore
  | @dropped i slot slot_eq =>
    refine h.dropped slot_eq ?_
    split
    · exact Or.inr rfl
    · exact Or.inl rfl

theorem sound_run (hp : p.Creates) (h : Sound first s) (steps : List Step)
    (hsep : (run p s steps).Separate first.workingDir) : Sound first (run p s steps) := by
  induction steps generalizing s with
  | nil => exact h
  | cons next steps ih =>
    have hstep : ((step p s next).2).Separate first.workingDir :=
      hsep.of_prefix (paths_run hp _ steps)
    exact ih ((step_taken hp s next).sound hp h hstep) hsep

/-! ## What other output files notice -/

/-- The way of a path is open, or it only goes down in a file system where every entry is in a
directory. -/
def Settled (first fs : FileSystem) (q : Path) : Prop :=
  (∃ l, fs.locate q = .ok l) ∨ first.Rooted ∧ q.Direct

/-- A step on another output file does not change what is found at a path. When directories are
created above the path of the other one, the way of this one has to be settled. -/
theorem Taken.lookup_eq (hp : p.Creates) (h : Sound first s) (taken : Taken p s next s')
    (hsep : s'.Separate first.workingDir) {j : Nat} {slot : Slot} (hslot : s.slots[j]? = some slot)
    (hj : next.slot? ≠ some j)
    (hsettled : (∃ i, next = .touch i .makeDirs) → Settled first s.files slot.path) :
    s'.files.lookup slot.path = s.files.lookup slot.path := by
  have hbefore := hsep.of_prefix taken.paths_kept
  rw [← h.workingDir_eq] at hsep hbefore
  cases taken with
  | idle files_eq slots_eq => rw [files_eq]
  | @created o t fs request_eq =>
    obtain ⟨-, -, hwrite⟩ := hp.created s.provider s.files o (by rw [request_eq])
    have hchanges := changesAt_write s.files o.path []
    rw [hwrite, request_eq] at hchanges
    have hmem : slot.path ∈ s.slots.map Slot.path :=
      List.mem_map_of_mem (List.mem_of_getElem? hslot)
    exact lookup_of_changesAt hchanges (hsep.apart_last hmem).symm
  | named path => rfl
  | @touched i other other_eq t =>
    have hapart := hbefore.apart other_eq hslot fun hij => hj (congrArg some hij)
    by_cases ht : t = .makeDirs
    · subst ht
      have hopens := opens_makeDirs s.files other.path
      have hgoal : Path.goal s.files.workingDir slot.path ∉
          Path.way s.files.workingDir other.path ++ [Path.goal s.files.workingDir other.path] := by
        simpa [not_or] using ⟨hapart.notMem_goal, hapart.goal_ne.symm⟩
      rcases hsettled ⟨i, rfl⟩ with ⟨l, hl⟩ | ⟨hr, hdirect⟩
      · exact lookup_of_opens hopens hgoal hl
      · exact lookup_of_opens_direct hopens (h.rooted hr) hdirect hgoal
    · exact lookup_of_changesAt (Touch.changesAt ht s.files other.path) hapart
  | @dropped i other other_eq =>
    have hapart := hbefore.apart other_eq hslot fun hij => hj (congrArg some hij)
    simp only
    split
    · exact lookup_of_changesAt (changesAt_release other.output s.files) hapart
    · rfl

/-! ## The rules -/

/-- What a read of an output file finds. -/
structure Reads (first fs : FileSystem) (slot : Slot) : Prop where
  none_iff : slot.output.read fs = .ok none ↔
    fs.exists? slot.path = false ∧ ¬fs.Barred slot.path
  barred : fs.Barred slot.path →
    fs.exists? slot.path = false ∧ ∃ e, slot.output.read fs = .error e
  dir : fs.lookup slot.path = .ok .dir → slot.output.read fs = .error .isDirectory
  file : ∀ c, fs.lookup slot.path = .ok (.file c) →
    slot.output.read fs = .ok (some c) ∧ slot.Keeps first c

/-- What a step does to the output file it is about, and what the others notice of it. -/
structure Effect (p : Provider τ) (first : FileSystem) (s : Outputs τ) (next : Step) : Prop where
  /-- A new file is temporary and empty, and lies where nothing was. -/
  created : next = .new → ∀ slot, (step p s next).2.slots = s.slots ++ [slot] →
    slot.output.temporary = true ∧ s.files.exists? slot.path = false ∧
      slot.output.read (step p s next).2.files = .ok (some [])
  /-- What is written is read, unless a device takes it. -/
  written : ∀ i slot content, next = .touch i (.write content) → s.slots[i]? = some slot →
    (step p s next).1 = .done (.ok ()) →
      slot.output.read (step p s next).2.files = .ok (some content) ∨
        ∃ d, s.files.lookup slot.path = .ok (.device d)
  /-- A read is answered with what is found. -/
  answered : ∀ i slot, next = .read i → s.slots[i]? = some slot → slot.live = true →
    (step p s next).1 = .content (slot.output.read s.files) ∧ Reads first s.files slot
  /-- Dropping a temporary file removes what is at its path, unless that is a directory. -/
  removed : ∀ i slot n, next = .drop i → s.slots[i]? = some slot → slot.live = true →
    slot.output.temporary = true → s.files.lookup slot.path = .ok n → n ≠ .dir →
      (step p s next).2.files.lookup slot.path = .error .missing ∧
        ∀ l, l ≠ Path.goal first.workingDir slot.path →
          (step p s next).2.files.node? l = s.files.node? l
  /-- Dropping changes nothing if there is nothing to remove, or a directory, or if the file is not
  temporary or was dropped before. -/
  kept : ∀ i slot, next = .drop i → s.slots[i]? = some slot →
    (slot.live = true → slot.output.temporary = true →
      ∀ n, s.files.lookup slot.path = .ok n → n = .dir) →
        (step p s next).2.files = s.files
  /-- Another output file reads as before, and exists as before. -/
  elsewhere : ∀ j slot, s.slots[j]? = some slot → next.slot? ≠ some j →
    ((∃ i, next = .touch i .makeDirs) → Settled first s.files slot.path) →
      slot.output.read (step p s next).2.files = slot.output.read s.files ∧
        (step p s next).2.files.exists? slot.path = s.files.exists? slot.path

theorem Sound.reads (h : Sound first s) {slot : Slot} (hslot : slot ∈ s.slots) :
    Reads first s.files slot where
  none_iff := OutputFile.read_eq_none_iff
  barred hb := by
    obtain ⟨e, he, hne⟩ := barred_iff.mp hb
    have hlookup : s.files.lookup slot.path = .error e := by rw [lookup, he]
    exact ⟨by rw [exists?, hlookup], e, OutputFile.read_of_lookup hne hlookup⟩
  dir hdir := by
    rw [OutputFile.read, FileSystem.read, show s.files.lookup slot.output.path = _ from hdir]
  file c hc := by
    obtain ⟨-, hnode⟩ := lookup_eq_ok_iff.mp hc
    rw [h.workingDir_eq] at hnode
    exact ⟨OutputFile.read_of_file hc, h.keeps slot hslot c hnode⟩

/-- A new file that is created is empty. -/
theorem created_step (hp : p.Creates) {slot : Slot}
    (hslots : (step p s .new).2.slots = s.slots ++ [slot]) :
    slot.output.temporary = true ∧ s.files.exists? slot.path = false ∧
      slot.output.read (step p s .new).2.files = .ok (some []) := by
  rcases hr : p.request s.provider s.files with ⟨e | o, t, fs⟩
  · simp [step, hr] at hslots
  simp only [step, hr] at hslots ⊢
  obtain rfl := List.singleton_inj.mp (List.append_cancel_left hslots)
  have hok : (p.request s.provider s.files).1 = .ok o := by rw [hr]
  obtain ⟨htemporary, hexists, -⟩ := hp.created s.provider s.files o hok
  obtain ⟨l, hlocate, hnone, hput⟩ := hp.exists_place hok
  have hroot : l ≠ [] := by
    rintro rfl
    cases hnone
  rw [hr] at hput
  refine ⟨htemporary, hexists, OutputFile.read_of_file ?_⟩
  rw [show fs = _ from hput, lookup, locate_put (by simp [hnone]) _ hlocate]
  simp only [node?_put_self _ _ hroot]

/-- What was written is read, unless there is a device. -/
theorem read_of_written {i : Nat} {slot : Slot} {content : Bytes}
    (hslot : s.slots[i]? = some slot)
    (hreply : (step p s (.touch i (.write content))).1 = .done (.ok ())) :
    slot.output.read (step p s (.touch i (.write content))).2.files = .ok (some content) ∨
      ∃ d, s.files.lookup slot.path = .ok (.device d) := by
  simp only [step, hslot, Touch.apply] at hreply ⊢
  rcases s.files.write_cases slot.path content with
    ⟨e, heq⟩ | ⟨hlocate, ⟨⟨d, hnode⟩, heq⟩ | ⟨hdir, heq⟩⟩
  · rw [heq] at hreply
    cases hreply
  · exact Or.inr ⟨d, lookup_eq_ok_iff.mpr ⟨hlocate, hnode⟩⟩
  · have hroot : Path.goal s.files.workingDir slot.path ≠ [] := fun hnil => hdir (by rw [hnil]; rfl)
    refine Or.inl (OutputFile.read_of_file ?_)
    rw [heq]
    exact lookup_eq_ok_iff.mpr ⟨locate_put hdir _ hlocate, node?_put_self _ _ hroot⟩

/-- A temporary file that is dropped is removed, and nothing else is. -/
theorem files_of_drop {i : Nat} {slot : Slot} (hslot : s.slots[i]? = some slot) :
    (step p s (.drop i)).2.files = s.files ∧
        (slot.live = true → slot.output.temporary = true →
          ∀ n, s.files.lookup slot.path = .ok n → n = .dir) ∨
      slot.live = true ∧ slot.output.temporary = true ∧
        ∃ n, s.files.lookup slot.path = .ok n ∧ n ≠ .dir ∧
          (step p s (.drop i)).2.files =
            s.files.erase (Path.goal s.files.workingDir slot.path) := by
  simp only [step, hslot, OutputFile.release]
  by_cases hlive : slot.live = true
  · by_cases htemporary : slot.output.temporary = true
    · simp only [hlive, htemporary, if_true]
      rcases s.files.unlink_cases slot.path with ⟨e, heq, hnone⟩ | ⟨n, hn, -, hdir, heq⟩
      · exact Or.inl ⟨congrArg Prod.snd heq, fun _ _ => hnone⟩
      · exact Or.inr ⟨trivial, trivial, n, hn, hdir, congrArg Prod.snd heq⟩
    · simp [htemporary]
  · simp [hlive]

theorem lookup_erase_goal {fs : FileSystem} {q : Path} {n : Node} (hn : fs.lookup q = .ok n)
    (hdir : n ≠ .dir) : (fs.erase (Path.goal fs.workingDir q)).lookup q = .error .missing := by
  obtain ⟨hlocate, hnode⟩ := lookup_eq_ok_iff.mp hn
  have hne : fs.node? (Path.goal fs.workingDir q) ≠ some .dir := by simpa [hnode] using hdir
  have hroot : Path.goal fs.workingDir q ≠ [] := fun hnil => hne (by rw [hnil]; rfl)
  exact lookup_eq_missing (locate_of_dirsStay (changesAt_erase hne).toDirsStay hlocate)
    (node?_erase_self fs hroot)

theorem effect (hp : p.Creates) (h : Sound first s)
    (hsep : (step p s next).2.Separate first.workingDir) : Effect p first s next where
  created := by
    rintro rfl slot hslots
    exact created_step hp hslots
  written := by
    rintro i slot content rfl hslot hreply
    exact read_of_written hslot hreply
  answered := by
    rintro i slot rfl hslot hlive
    refine ⟨?_, h.reads (List.mem_of_getElem? hslot)⟩
    simp only [step, hslot, hlive, if_true]
  removed := by
    rintro i slot n rfl hslot hlive htemporary hn hdir
    rcases files_of_drop (p := p) hslot with ⟨-, hnone⟩ | ⟨-, -, n', hn', hdir', hfiles⟩
    · exact absurd (hnone hlive htemporary n hn) hdir
    · rw [hfiles]
      refine ⟨lookup_erase_goal hn' hdir', fun l hl => ?_⟩
      rw [← h.workingDir_eq] at hl
      exact node?_erase_of_ne s.files hl
  kept := by
    rintro i slot rfl hslot hnone
    rcases files_of_drop (p := p) hslot with ⟨hfiles, -⟩ | ⟨hlive, htemporary, n, hn, hdir, -⟩
    · exact hfiles
    · exact absurd (hnone hlive htemporary n hn) hdir
  elsewhere j slot hslot hj hsettled := by
    have hlookup := (step_taken hp s next).lookup_eq hp h hsep hslot hj hsettled
    exact ⟨OutputFile.read_congr hlookup, by rw [exists?, exists?, hlookup]⟩

/-- The life of output files that are apart from each other, whatever the steps and whatever the
files were at the start. After all of the steps a read of one of them finds what was last written to
it, and that it is missing if nothing exists at its path and the path is not barred. Each single
step does to its own output file what it should, and changes for no other one what is read or
whether it exists. -/
theorem lifecycle (hp : p.Creates) (first : FileSystem) (t : τ) (steps : List Step)
    (hsep : (run p (start first t) steps).Separate first.workingDir) :
    (∀ slot ∈ (run p (start first t) steps).slots,
      Reads first (run p (start first t) steps).files slot) ∧
    ∀ before next after, steps = before ++ next :: after →
      Effect p first (run p (start first t) before) next := by
  refine ⟨fun slot => (sound_run hp (sound_start first t) steps hsep).reads, ?_⟩
  rintro before next after rfl
  have hrun : run p (start first t) (before ++ next :: after) =
      run p (step p (run p (start first t) before) next).2 after := List.foldl_append
  rw [hrun] at hsep
  have hstep := hsep.of_prefix (paths_run hp _ after)
  have hbefore := hstep.of_prefix (step_taken hp _ next).paths_kept
  exact effect hp (sound_run hp (sound_start first t) before hbefore) hstep

/-- A directory for new files, and a device. -/
def bare : FileSystem where
  entries := [([Bytes.ofString "tmp"], .dir), ([Bytes.ofString "null"], .device .null)]

/-- Takes some steps from there on. -/
def bareRun (steps : List Step) : Outputs TempFiles :=
  run TempFiles.provider (start bare { defaultDir := Bytes.ofString "/tmp" }) steps

/-- Two output files that are written in turn. -/
def twoReports : List Step :=
  [.new, .unmanaged (Bytes.ofString "/out"), .touch 0 (.write [97]), .touch 1 (.write [98])]

/-- When the first output file is dropped, nothing is left of it, and the second one reads what was
written to it. -/
theorem lifecycle_twoReports :
    TempFiles.provider.Creates ∧
    (bareRun (twoReports ++ [.drop 0])).Separate bare.workingDir ∧
    ∃ first second, (bareRun (twoReports ++ [.drop 0])).slots = [first, second] ∧
      (bareRun (twoReports ++ [.drop 0])).files.lookup first.path = .error .missing ∧
      second.output.read (bareRun (twoReports ++ [.drop 0])).files = .ok (some [98]) := by
  have hp : TempFiles.provider.Creates := TempFiles.createsIn.creates
  have hsep : (bareRun (twoReports ++ [.drop 0])).Separate bare.workingDir := by decide +kernel
  obtain ⟨hreads, heffects⟩ := lifecycle hp bare { defaultDir := Bytes.ofString "/tmp" } _ hsep
  have hdropped := (heffects twoReports (.drop 0) [] rfl).removed 0 _ (.file [97]) rfl rfl
    rfl rfl (by decide +kernel) (by simp)
  have hread := (hreads _ (List.mem_of_getElem? (i := 1) rfl)).file [98] (by decide +kernel)
  exact ⟨hp, hsep, _, _, rfl, hdropped.1, hread.1⟩

/-- Where no simpler rule holds. Nothing exists at a path with a zero in it, and yet a read does not
find it missing. What is written to a device is not read. Two spellings of one place are one file.
And with the directories above one path another one comes to be, though they are apart. -/
theorem lifecycle_exceptions :
    (∃ slot ∈ (bareRun [.unmanaged [97, 0, 98]]).slots,
      (bareRun [.unmanaged [97, 0, 98]]).files.exists? slot.path = false ∧
      slot.output.read (bareRun [.unmanaged [97, 0, 98]]).files = .error .zeroInPath) ∧
    (∃ slot ∈ (bareRun [.unmanaged (Bytes.ofString "/null"), .touch 0 (.write [97])]).slots,
      slot.written = some [97] ∧ slot.output.read
        (bareRun [.unmanaged (Bytes.ofString "/null"), .touch 0 (.write [97])]).files =
          .ok (some [])) ∧
    (∃ first second : OutputFile, first.path ≠ second.path ∧
      let named : List Step := [.unmanaged first.path, .unmanaged second.path]
      second.read (bareRun named).files = .ok none ∧
        second.read (bareRun (named ++ [.touch 0 (.write [97])])).files = .ok (some [97])) ∧
    ∃ first second : OutputFile, Path.Apart [] first.path second.path ∧
      let named : List Step := [.unmanaged first.path, .unmanaged second.path]
      (bareRun named).files.exists? second.path = false ∧
        (bareRun (named ++ [.touch 0 .makeDirs])).files.exists? second.path = true := by
  refine ⟨⟨_, List.mem_singleton_self _, ?_⟩, ⟨_, List.mem_singleton_self _, ?_⟩,
    ⟨⟨Bytes.ofString "/a", false⟩, ⟨Bytes.ofString "/./a", false⟩, ?_⟩,
    ⟨⟨Bytes.ofString "/x/y", false⟩, ⟨Bytes.ofString "/x/../null", false⟩, ?_⟩⟩
  all_goals decide +kernel

end Outputs

end LintDispatch
