import LintDispatch.Proofs.FileSystem.Temporary
import LintDispatch.Proofs.Run.Parallel

/-!
# What a run leaves behind
Output files are given to batches and released again. In between a runner may do anything at the
place that its output path leads to (`Runner.Confined`): write a report or none, remove the file,
put a directory there, fail or run out of time. `Executor.Watches` is what every event of a run
keeps, whatever the order of the events: output files are given at places where nothing was before
the run, every other place is as it was, and at a place that no batch holds any more there is
nothing, or a directory that the runner has left (`History.LeavesDir`).

In the end no batch holds an output file, and when one batch goes after the other only one of them
does at any time. So no run leaves a report behind, whether it succeeds or fails, and at most one
report is there while such a run calls its runner (`carryOut_tidies`).
-/

namespace LintDispatch

variable {ρ τ : Type}

open FileSystem (DirsStay)

/-- The runner changes nothing but the place that its output path leads to. There it may do
anything. -/
def Runner.Confined (runner : Runner ρ) : Prop :=
  ∀ (c : Command) (deadline : UInt64) (r : ρ) (h : Host),
    (runner.run c deadline r h).2.2.files.workingDir = h.files.workingDir ∧
      ∀ l, h.files.locate c.output.path ≠ .ok l →
        (runner.run c deadline r h).2.2.files.node? l = h.files.node? l

/-- What a call has left at the place, if its output path leads there. -/
def Event.left? (l : Place) : Event → Option (Option Node)
  | .deed _ (.call c _ fs) =>
    if fs.locate c.command.output.path = .ok l then some (fs.node? l) else none
  | _ => none

theorem Event.left?_call_eq_some {i : Nat} {c : Call} {answer : Except Failure Outcome}
    {fs : FileSystem} {l : Place} (h : fs.locate c.command.output.path = .ok l) :
    left? l (.deed i (.call c answer fs)) = some (fs.node? l) :=
  if_pos h

theorem Event.left?_call_eq_none {i : Nat} {c : Call} {answer : Except Failure Outcome}
    {fs : FileSystem} {l : Place} (h : fs.locate c.command.output.path ≠ .ok l) :
    left? l (.deed i (.call c answer fs)) = none :=
  if_neg h

namespace History

variable {h : History} {e : Event} {l : Place} {fs : FileSystem} {i : Nat} {o : OutputFile}

/-- The runner has left a directory at the place, when it was last called with an output path that
leads there. -/
def LeavesDir (h : History) (l : Place) : Prop :=
  (h.filterMap (Event.left? l)).getLast? = some (some .dir)

/-- The place has been given to a batch for its output file. -/
def Gives (fs : FileSystem) (h : History) (l : Place) : Prop :=
  ∃ i o, Event.deed i (.ask (.ok o)) ∈ h ∧ fs.locate o.path = .ok l

/-- The output file has been given to a batch, and not been released. -/
def Holds (h : History) (i : Nat) (o : OutputFile) : Prop :=
  Event.deed i (.ask (.ok o)) ∈ h ∧ Event.deed i (.release o) ∉ h

theorem leavesDir_snoc_of_none (he : e.left? l = none) :
    LeavesDir (h ++ [e]) l ↔ LeavesDir h l := by
  simp [LeavesDir, he]

theorem leavesDir_snoc_of_some {node : Option Node} (he : e.left? l = some node) :
    LeavesDir (h ++ [e]) l ↔ node = some .dir := by
  simp [LeavesDir, he]

theorem gives_snoc (hask : ∀ i o, e ≠ .deed i (.ask (.ok o))) :
    Gives fs (h ++ [e]) l ↔ Gives fs h l := by
  simp [Gives, List.mem_append, Ne.symm (hask _ _)]

/-- Nothing but its release ends that an output file is held. -/
theorem Holds.snoc (holds : Holds h i o) (he : e ≠ .deed i (.release o)) :
    Holds (h ++ [e]) i o :=
  ⟨List.mem_append_left _ holds.1, by simp [holds.2, Ne.symm he]⟩

end History

namespace Executor

variable {x : Executor ρ τ} {dir : τ → Path} {s s₁ s₂ : Session ρ τ} {h : History} {e : Event}
  {i : Nat} {o : OutputFile} {l spot : Place}

/-- What holds after a history of a run that began with the session `s`. -/
structure Watches (dir : τ → Path) (s : Session ρ τ) (h : History) (s₁ : Session ρ τ) :
    Prop where
  workingDir_eq : s₁.host.files.workingDir = s.host.files.workingDir
  dir_eq : dir s₁.provider = dir s.provider
  /-- Output files are given in the directory of the provider, at places where nothing was before
  the run. -/
  given : ∀ i o, Event.deed i (.ask (.ok o)) ∈ h → o.temporary = true ∧
    (∃ name, Path.Plain name ∧
      o.path = Path.join (Path.join s.host.files.workingPath (dir s.provider)) name) ∧
    ∃ l, s.host.files.locate o.path = .ok l ∧ s.host.files.node? l = none
  /-- At any other place there is what was there. -/
  kept : ∀ l, ¬h.Gives s.host.files l → s₁.host.files.node? l = s.host.files.node? l
  /-- No file is left at a place that nobody holds any more. -/
  removed : ∀ l, h.Gives s.host.files l →
    (∀ i o, h.Holds i o → s.host.files.locate o.path ≠ .ok l) →
      s₁.host.files.node? l = none ∨ s₁.host.files.node? l = some .dir
  left : ∀ l, h.LeavesDir l ↔ h.Gives s.host.files l ∧ s₁.host.files.node? l = some .dir

theorem Watches.node?_eq_none (w : Watches dir s h s₁) (hl : h.Gives s.host.files l) :
    s.host.files.node? l = none := by
  obtain ⟨i, o, hmem, hlocate⟩ := hl
  obtain ⟨-, -, l', hlocate', hnone⟩ := w.given i o hmem
  obtain rfl : l = l' := Except.ok.inj (hlocate.symm.trans hlocate')
  exact hnone

/-- The directories from before the run are still there. -/
theorem Watches.dirsStay (w : Watches dir s h s₁) : DirsStay s.host.files s₁.host.files where
  workingDir_eq := w.workingDir_eq
  node?_eq_dir l hl := by
    rw [w.kept l (fun hgives => by simp [w.node?_eq_none hgives] at hl), hl]

theorem watches_nil (dir : τ → Path) (s : Session ρ τ) : Watches dir s [] s where
  workingDir_eq := rfl
  dir_eq := rfl
  given := by simp
  kept _ _ := rfl
  removed := by simp [History.Gives]
  left := by simp [History.LeavesDir, History.Gives]

/-- Most events change no file. -/
theorem Watches.idle (w : Watches dir s h s₁) (hfiles : s₂.host.files = s₁.host.files)
    (hdir : dir s₂.provider = dir s₁.provider) (hask : ∀ i o, e ≠ .deed i (.ask (.ok o)))
    (hrelease : ∀ i o, e ≠ .deed i (.release o)) (hleft : ∀ l, e.left? l = none) :
    Watches dir s (h ++ [e]) s₂ where
  workingDir_eq := by rw [hfiles, w.workingDir_eq]
  dir_eq := hdir.trans w.dir_eq
  given i o hmem := by
    refine w.given i o ?_
    simpa [Ne.symm (hask i o)] using hmem
  kept l hl := by
    rw [History.gives_snoc hask] at hl
    rw [hfiles, w.kept l hl]
  removed l hl hheld := by
    rw [History.gives_snoc hask] at hl
    rw [hfiles]
    exact w.removed l hl fun i o holds => hheld i o (holds.snoc (hrelease i o))
  left l := by
    rw [History.leavesDir_snoc_of_none (hleft l), History.gives_snoc hask, hfiles]
    exact w.left l

/-- An event that concerns a single place keeps what holds, if it does so at that place. -/
theorem Watches.touch (w : Watches dir s h s₁)
    (hwork : s₂.host.files.workingDir = s₁.host.files.workingDir)
    (hdir : dir s₂.provider = dir s₁.provider)
    (hgives : (h ++ [e]).Gives s.host.files spot)
    (hask : ∀ i o, e = .deed i (.ask (.ok o)) → o.temporary = true ∧
      (∃ name, Path.Plain name ∧
        o.path = Path.join (Path.join s.host.files.workingPath (dir s.provider)) name) ∧
      s.host.files.locate o.path = .ok spot ∧ s.host.files.node? spot = none)
    (hnode : ∀ l, l ≠ spot → s₂.host.files.node? l = s₁.host.files.node? l)
    (hothers : ∀ l, l ≠ spot → e.left? l = none)
    (hholds : ∀ i o, h.Holds i o → s.host.files.locate o.path ≠ .ok spot → (h ++ [e]).Holds i o)
    (hremoved : (∀ i o, (h ++ [e]).Holds i o → s.host.files.locate o.path ≠ .ok spot) →
      s₂.host.files.node? spot = none ∨ s₂.host.files.node? spot = some .dir)
    (hleft : (h ++ [e]).LeavesDir spot ↔ s₂.host.files.node? spot = some .dir) :
    Watches dir s (h ++ [e]) s₂ := by
  have hgives_iff : ∀ l, l ≠ spot → ((h ++ [e]).Gives s.host.files l ↔ h.Gives s.host.files l) := by
    intro l hl
    refine ⟨fun ⟨i, o, hmem, hlocate⟩ => ?_, fun ⟨i, o, hmem, hlocate⟩ =>
      ⟨i, o, List.mem_append_left _ hmem, hlocate⟩⟩
    rcases List.mem_append.mp hmem with hmem | hmem
    · exact ⟨i, o, hmem, hlocate⟩
    · obtain ⟨-, -, hspot, -⟩ := hask i o (List.mem_singleton.mp hmem).symm
      exact absurd (Except.ok.inj (hlocate.symm.trans hspot)) hl
  constructor
  case workingDir_eq => exact hwork.trans w.workingDir_eq
  case dir_eq => exact hdir.trans w.dir_eq
  case given =>
    intro i o hmem
    rcases List.mem_append.mp hmem with hmem | hmem
    · exact w.given i o hmem
    · obtain ⟨htemporary, hpath, hspot⟩ := hask i o (List.mem_singleton.mp hmem).symm
      exact ⟨htemporary, hpath, spot, hspot⟩
  case kept =>
    intro l hl
    have hne : l ≠ spot := by
      rintro rfl
      exact hl hgives
    rw [hgives_iff l hne] at hl
    rw [hnode l hne, w.kept l hl]
  case removed =>
    intro l hl hheld
    by_cases hne : l = spot
    · subst hne
      exact hremoved hheld
    · rw [hgives_iff l hne] at hl
      rw [hnode l hne]
      refine w.removed l hl fun i o holds hlocate => hheld i o (hholds i o holds ?_) hlocate
      rw [hlocate]
      exact fun heq => hne (Except.ok.inj heq)
  case left =>
    intro l
    by_cases hne : l = spot
    · subst hne
      rw [hleft]
      exact (and_iff_right hgives).symm
    · rw [History.leavesDir_snoc_of_none (hothers l hne), hgives_iff l hne, hnode l hne]
      exact w.left l

/-- A call changes nothing but the place of its output file, which its batch holds. -/
theorem Watches.call (hconfined : x.runner.Confined) (w : Watches dir s h s₁) {c : Call}
    {answer : Except Failure Outcome} (launch : x.launch c.command c.deadline s₁ = (answer, s₂))
    (holds : h.Holds i c.command.output) :
    Watches dir s (h ++ [.deed i (.call c answer s₂.host.files)]) s₂ := by
  obtain ⟨-, -, spot, hspot, hnone⟩ := w.given i c.command.output holds.1
  obtain ⟨hdir, hwork, hnode⟩ : s₂.provider = s₁.provider ∧
      s₂.host.files.workingDir = s₁.host.files.workingDir ∧
      ∀ l, l ≠ spot → s₂.host.files.node? l = s₁.host.files.node? l := by
    obtain rfl := congrArg Prod.snd launch
    obtain ⟨hwork, hnode⟩ := hconfined c.command c.deadline s₁.runner s₁.host
    refine ⟨rfl, hwork, fun l hl => hnode l ?_⟩
    rw [FileSystem.locate_of_dirsStay w.dirsStay hspot]
    exact fun heq => hl (Except.ok.inj heq).symm
  have hlocate : s₂.host.files.locate c.command.output.path = .ok spot := by
    refine FileSystem.locate_of_dirsStay ⟨hwork.trans w.workingDir_eq, fun l hl => ?_⟩ hspot
    have hne : l ≠ spot := by
      rintro rfl
      simp [hnone] at hl
    rw [hnode l hne, w.dirsStay.node?_eq_dir l hl]
  refine w.touch hwork (congrArg dir hdir) ⟨i, _, List.mem_append_left _ holds.1, hspot⟩ (by simp)
    hnode ?_ (fun j o holds _ => holds.snoc (by simp)) ?_ ?_
  · intro l hl
    refine Event.left?_call_eq_none ?_
    rw [hlocate]
    exact fun heq => hl (Except.ok.inj heq).symm
  · intro hheld
    exact absurd hspot (hheld i _ (holds.snoc (by simp)))
  · rw [History.leavesDir_snoc_of_some (Event.left?_call_eq_some hlocate)]

/-- Releasing an output file leaves nothing at its place but a directory. -/
theorem Watches.release (w : Watches dir s h s₁) (holds : h.Holds i o) :
    Watches dir s (h ++ [.deed i (.release o)]) (s₁.release o) := by
  obtain ⟨htemporary, -, spot, hspot, hnone⟩ := w.given i o holds.1
  have hgives : h.Gives s.host.files spot := ⟨i, o, holds.1, hspot⟩
  have hlocate := FileSystem.locate_of_dirsStay w.dirsStay hspot
  have hchanges := OutputFile.changesAt_release hlocate
  have hroot : spot ≠ [] := by
    rintro rfl
    simp [FileSystem.node?] at hnone
  -- at the place itself a directory stays, and anything else is removed
  have hself : (s₁.release o).host.files.node? spot = some .dir ∧
      s₁.host.files.node? spot = some .dir ∨
      (s₁.release o).host.files.node? spot = none ∧ s₁.host.files.node? spot ≠ some .dir := by
    rcases OutputFile.release_cases hlocate with ⟨heq, hstay⟩ | ⟨heq, hne⟩
    · have hfiles : (s₁.release o).host.files = s₁.host.files := heq
      rw [hfiles]
      rcases hstay htemporary with hn | hd
      · exact Or.inr ⟨hn, by simp [hn]⟩
      · exact Or.inl ⟨hd, hd⟩
    · have hfiles : (s₁.release o).host.files = s₁.host.files.erase spot := heq
      rw [hfiles]
      exact Or.inr ⟨FileSystem.node?_erase_self _ hroot, hne⟩
  refine w.touch hchanges.workingDir_eq rfl ⟨i, o, List.mem_append_left _ holds.1, hspot⟩ (by simp)
    (fun l hl => hchanges.node?_eq l (by simpa using hl)) (fun l _ => rfl) ?_ ?_ ?_
  · intro j o' holds' hne
    refine holds'.snoc fun heq => hne ?_
    obtain ⟨rfl, rfl⟩ : i = j ∧ o = o' := by simpa using heq
    exact hspot
  · intro _
    rcases hself with ⟨hd, -⟩ | ⟨hn, -⟩
    · exact Or.inr hd
    · exact Or.inl hn
  · rw [History.leavesDir_snoc_of_none rfl, w.left spot, and_iff_right hgives]
    rcases hself with ⟨hd, hd'⟩ | ⟨hn, hn'⟩
    · simp [hd, hd']
    · simp [hn, hn']

/-- The path of a new output file led before the run where it leads now: the directory of the
provider was there, or no file has been made yet. -/
theorem Watches.locate_eq (w : Watches dir s h s₁) {name : Bytes} (hname : Path.Plain name)
    (hl : s₁.host.files.locate (Path.join
      (Path.join s.host.files.workingPath (dir s.provider)) name) = .ok l) :
    s.host.files.locate (Path.join
      (Path.join s.host.files.workingPath (dir s.provider)) name) = .ok l := by
  by_cases hany : ∃ i o, Event.deed i (.ask (.ok o)) ∈ h
  · obtain ⟨i, o, hmem⟩ := hany
    obtain ⟨-, ⟨name', hname', hpath⟩, l', hl', -⟩ := w.given i o hmem
    obtain ⟨stem, hstem⟩ := Path.exists_stem
      (Path.join_ne_nil (FileSystem.workingPath_ne_nil s.host.files) (dir s.provider))
    rw [hpath, hstem name' hname'] at hl'
    rw [hstem name hname] at hl ⊢
    exact FileSystem.locate_sibling w.dirsStay hname' hname hl' hl
  · refine FileSystem.locate_of_dirsStay ⟨w.workingDir_eq.symm, fun l hd => ?_⟩ hl
    rw [← w.kept l fun ⟨i, o, hmem, _⟩ => hany ⟨i, o, hmem⟩]
    exact hd

/-- A new output file is put at a place where nothing was, neither now nor before the run. -/
theorem Watches.ask (hprovider : x.provider.CreatesIn dir) (w : Watches dir s h s₁)
    (request : x.request s₁ = (.ok o, s₂)) (hnew : Event.deed i (.release o) ∉ h) :
    Watches dir s (h ++ [.deed i (.ask (.ok o))]) s₂ := by
  have ho : (x.provider.request s₁.provider s₁.host.files).1 = .ok o := congrArg Prod.fst request
  obtain ⟨htemporary, ⟨name, hname, hpath⟩, -, -⟩ := hprovider.created _ _ o ho
  obtain ⟨spot, hlocate, hnow, hput⟩ := hprovider.exists_place ho
  have hdir := hprovider.dir_eq s₁.provider s₁.host.files
  have hfiles : s₂.host.files = s₁.host.files.put spot (.file []) := by
    rw [← hput]
    exact (congrArg (fun r => r.2.host.files) request).symm
  have hprov : s₂.provider = (x.provider.request s₁.provider s₁.host.files).2.1 :=
    (congrArg (fun r => r.2.provider) request).symm
  have hwork : s₁.host.files.workingPath = s.host.files.workingPath :=
    congrArg FileSystem.pathOf w.workingDir_eq
  rw [hwork, w.dir_eq] at hpath
  have hspot : s.host.files.locate o.path = .ok spot := by
    rw [hpath] at hlocate ⊢
    exact w.locate_eq hname hlocate
  have hnone : s.host.files.node? spot = none := by
    by_cases hgives : h.Gives s.host.files spot
    · exact w.node?_eq_none hgives
    · rw [← w.kept spot hgives, hnow]
  have hroot : spot ≠ [] := by
    rintro rfl
    simp [FileSystem.node?] at hnone
  refine w.touch (by rw [hfiles]; rfl) (by rw [hprov, hdir]) ⟨i, o, by simp, hspot⟩ ?_ ?_
    (fun l _ => rfl) (fun j o' holds _ => holds.snoc (by simp)) ?_ ?_
  · intro j o' heq
    obtain ⟨-, rfl⟩ : i = j ∧ o = o' := by simpa using heq
    exact ⟨htemporary, ⟨name, hname, hpath⟩, hspot, hnone⟩
  · intro l hl
    rw [hfiles]
    exact FileSystem.node?_put_of_ne _ _ hl
  · intro hheld
    exact absurd hspot (hheld i o ⟨by simp, by simpa using hnew⟩)
  · rw [History.leavesDir_snoc_of_none rfl, w.left spot, hnow, hfiles,
      FileSystem.node?_put_self _ _ hroot]
    simp

/-- Whatever is done next for a batch keeps what holds. -/
theorem Watches.step (hprovider : x.provider.CreatesIn dir) (hconfined : x.runner.Confined)
    (w : Watches dir s h s₁) {config : Config} {b : Batch} {d : Deed}
    (next : b.Next config (h.of i) d) (does : Does x s₁ d s₂) :
    Watches dir s (h ++ [.deed i d]) s₂ := by
  have hmem : ∀ d', Event.deed i d' ∈ h ↔ d' ∈ h.of i := fun _ => History.mem_of.symm
  have holds (o : OutputFile) (hask : .ask (.ok o) ∈ h.of i) (hnot : .release o ∉ h.of i) :
      h.Holds i o := ⟨(hmem _).mpr hask, mt (hmem _).mp hnot⟩
  generalize h.of i = ds at next hmem holds
  cases next with
  | check =>
    cases does
    exact w.idle rfl rfl (by simp) (by simp) fun _ => rfl
  | ask answer =>
    cases does with
    | ask request =>
      cases answer with
      | error e =>
        have hrefused := hprovider.refused s₁.provider s₁.host.files e (congrArg Prod.fst request)
        obtain rfl := congrArg Prod.snd request
        exact w.idle hrefused (hprovider.dir_eq _ _) (by simp) (by simp) fun _ => rfl
      | ok o => exact w.ask hprovider request ((hmem _).not.mpr (by simp))
  | reject o =>
    cases does
    exact w.release (holds o (by simp) (by simp))
  | call o answer fs =>
    cases does with
    | call launch => exact w.call hconfined launch (holds o (by simp) (by simp))
  | crash o =>
    cases does
    exact w.release (holds o (by simp) (by simp))
  | read o =>
    cases does
    exact w.idle rfl rfl (by simp) (by simp) fun _ => rfl
  | release o =>
    cases does
    exact w.release (holds o (by simp) (by simp))

variable {config : Config} {files : List Path} {s' : Session ρ τ} {batches : List Batch}
  {result : Except Failure RunResult} {history : History} {lives : List Life}

theorem Accounts.watches (hprovider : x.provider.CreatesIn dir) (hconfined : x.runner.Confined)
    (a : Accounts x config files s s' result batches history lives) {before after : History}
    (leads : Leads x s before s₁) (heq : history = before ++ after) :
    Watches dir s before s₁ := by
  refine a.preserved (watches_nil dir s) ?_ ?_ leads after heq
  · intro before i b d s₁ s₂ after _ _ next does w
    exact w.step hprovider hconfined next does
  · intro before s₁ after _ w
    exact w.idle rfl rfl (by simp) (by simp) fun _ => rfl

/-- In the end no batch holds an output file. -/
theorem Accounts.not_holds (a : Accounts x config files s s' result batches history lives)
    (i : Nat) (o : OutputFile) : ¬history.Holds i o := by
  rintro ⟨hask, hrelease⟩
  obtain ⟨b, l, r, -, -, -, -, fate⟩ := a.exists_fate hask
  exact hrelease (History.mem_of.mp (fate.release_mem (History.mem_of.mpr hask)))

/-- In a run batch after batch only the batch that is being run holds an output file, and it is that
of the call. -/
theorem Accounts.eq_of_holds (a : Accounts x config files s s' result batches history lives)
    (hturn : history = History.inTurn 0 (lives.map Life.deeds)) {before after : History} {c : Call}
    {answer : Except Failure Outcome} {fs : FileSystem}
    (heq : history = before ++ .deed i (.call c answer fs) :: after) {j : Nat} {o : OutputFile}
    (holds : before.Holds j o) : o = c.command.output := by
  obtain ⟨b, -, next⟩ := a.next heq
  have hmem : Deed.ask (.ok o) ∈ before.of j := History.mem_of.mpr holds.1
  by_cases hij : i = j
  · subst hij
    generalize before.of i = ds at next hmem
    cases next with
    | call o' =>
      obtain rfl : o = o' := by simpa using hmem
      rfl
  · -- another batch would be over, and have released its output file
    exfalso
    have hafter : History.of j after = [] := by
      refine (History.of_eq_nil_of_inTurn hij (hturn.symm.trans heq)).resolve_left fun hnil => ?_
      simp [hnil] at hmem
    refine a.not_holds j o ⟨by simp [heq, holds.1], fun hrelease => holds.2 ?_⟩
    rw [heq, ← History.mem_of, History.of_append, History.of_cons_of_ne hij, hafter,
      List.append_nil] at hrelease
    exact History.mem_of.mp hrelease

/-- What was in a directory before is there, and so is a directory that the runner has left. -/
theorem Watches.mem_names_of (w : Watches dir s h s₁) {d : Place} {name : Bytes}
    (hname : name ∈ s.host.files.names d ∨ h.LeavesDir (d ++ [name])) :
    name ∈ s₁.host.files.names d := by
  rw [FileSystem.mem_names] at hname ⊢
  rcases hname with hname | hleft
  · rw [w.kept _ fun hgives => hname (w.node?_eq_none hgives)]
    exact hname
  · rw [((w.left _).mp hleft).2]
    simp

/-- What else is in a directory is held by a batch. -/
theorem Watches.mem_names (w : Watches dir s h s₁) {d : Place} {name : Bytes}
    (hname : name ∈ s₁.host.files.names d) :
    name ∈ s.host.files.names d ∨ h.LeavesDir (d ++ [name]) ∨
      ∃ i o, h.Holds i o ∧ s.host.files.locate o.path = .ok (d ++ [name]) := by
  rw [FileSystem.mem_names] at hname ⊢
  by_cases hgives : h.Gives s.host.files (d ++ [name])
  · refine Or.inr (or_iff_not_imp_right.mpr fun hheld => ?_)
    have hnode := w.removed _ hgives fun i o holds hl => hheld ⟨i, o, holds, hl⟩
    exact (w.left _).mpr ⟨hgives, hnode.resolve_left hname⟩
  · exact Or.inl (w.kept _ hgives ▸ hname)

/-! ## Runs of any kind -/

/-- An order to lint files. -/
inductive Order where
  | execute (config : Config) (files : List Path)
  | executeOptional (config : Option Config) (files : Option (List Path))
  | executeParallel (config : Config) (files : List Path) (crew : Crew)
  | run (config : Config) (files : List Path) (crew : Crew)

/-- The order asks for one batch after the other. -/
def Order.inTurn : Order → Bool
  | .execute _ _ => true
  | .executeOptional _ _ => true
  | .executeParallel _ _ _ => false
  | .run config _ _ => !(1 < config.jobs)

/-- The way in which the order is to be carried out. -/
def Order.mode : Order → Mode
  | .execute _ _ => .inTurn
  | .executeOptional _ _ => .inTurn
  | .executeParallel _ _ crew => .pooled crew
  | .run config _ crew => .ofJobs config crew

theorem Order.mode_of_inTurn {order : Order} (h : order.inTurn = true) : order.mode = .inTurn := by
  cases order with
  | execute | executeOptional => rfl
  | executeParallel => simp [inTurn] at h
  | run config files crew => exact if_neg (by simpa [inTurn] using h)

/-- Carries out an order. -/
def carryOut (x : Executor ρ τ) (s : Session ρ τ) :
    Order → Except Failure RunResult × Session ρ τ
  | .execute config files => x.execute config files s
  | .executeOptional config files => x.executeOptional config files s
  | .executeParallel config files crew => x.executeParallel config files crew s
  | .run config files crew => x.run config files crew s

/-- The session after some orders, one after the other. -/
def afterOrders (x : Executor ρ τ) (orders : List Order) (s : Session ρ τ) : Session ρ τ :=
  orders.foldl (fun s order => (x.carryOut s order).2) s

/-- An order changes nothing, or it gets to the batches of some files. -/
theorem carryOut_cases (x : Executor ρ τ) (s : Session ρ τ) (order : Order) :
    (x.carryOut s order).2 = s ∨ ∃ config files, order.mode.obstacle? = none ∧
      checkInputs config files = .ok () ∧
      (x.carryOut s order).2 = (x.lint order.mode config files s).2 := by
  have hlint (config : Config) (files : List Path)
      (heq : x.carryOut s order = x.lint order.mode config files s) :
      (x.carryOut s order).2 = s ∨ ∃ config files, order.mode.obstacle? = none ∧
        checkInputs config files = .ok () ∧
        (x.carryOut s order).2 = (x.lint order.mode config files s).2 := by
    rw [heq]
    rcases x.lint_cases order.mode config files s with ⟨e, heq⟩ | ⟨hobstacle, hcheck⟩
    · exact Or.inl (congrArg Prod.snd heq)
    · exact Or.inr ⟨config, files, hobstacle, hcheck, rfl⟩
  cases order with
  | execute config files => exact hlint config files rfl
  | executeOptional config files =>
    rcases config with _ | config
    · exact Or.inl rfl
    rcases files with _ | files
    · exact Or.inl rfl
    exact hlint config files rfl
  | executeParallel config files crew => exact hlint config files rfl
  | run config files crew => exact hlint config files (x.run_eq_lint config files crew s)

/-- The history took the session `s` to the session `s'`, and left no report behind: a directory
holds what it held before, and the directories that the runner has put in place of its output
files. -/
structure Tidies (x : Executor ρ τ) (s s' : Session ρ τ) (history : History) : Prop where
  leads : Leads x s history s'
  names : ∀ (d : Place) (name : Bytes), name ∈ s'.host.files.names d ↔
    name ∈ s.host.files.names d ∨ history.LeavesDir (d ++ [name])

/-- In the session `s'`, which a run from the session `s` has come to, there is no report but that
of the call which comes next. -/
structure Alone (s s' : Session ρ τ) (before : History) (c : Call) : Prop where
  /-- A directory holds what it held before the run, directories that the runner has left, and the
  output file of the call. -/
  names : ∀ (d : Place) (name : Bytes), name ∈ s'.host.files.names d →
    name ∈ s.host.files.names d ∨ before.LeavesDir (d ++ [name]) ∨
      s'.host.files.locate c.command.output.path = .ok (d ++ [name])
  /-- No other output file that was given to a batch is still there, unless as a directory. -/
  outputs : ∀ (i : Nat) (o : OutputFile), Event.deed i (.ask (.ok o)) ∈ before →
    s'.host.files.exists? o.path = true → s'.host.files.isDir o.path = true ∨
      s'.host.files.locate o.path = s'.host.files.locate c.command.output.path

theorem tidies_nil (x : Executor ρ τ) (s : Session ρ τ) : Tidies x s s [] where
  leads := .nil
  names _ _ := by simp [History.LeavesDir]

theorem Accounts.tidies (hprovider : x.provider.CreatesIn dir) (hconfined : x.runner.Confined)
    (a : Accounts x config files s s' result batches history lives) :
    Tidies x s s' history where
  leads := a.leads
  names d name := by
    have w := a.watches hprovider hconfined a.leads (List.append_nil _).symm
    refine ⟨fun hname => ?_, w.mem_names_of⟩
    rcases w.mem_names hname with hname | hleft | ⟨i, o, holds, -⟩
    · exact Or.inl hname
    · exact Or.inr hleft
    · exact absurd holds (a.not_holds i o)

theorem Accounts.alone (hprovider : x.provider.CreatesIn dir) (hconfined : x.runner.Confined)
    (a : Accounts x config files s s' result batches history lives)
    (hturn : history = History.inTurn 0 (lives.map Life.deeds)) {before after : History} {c : Call}
    {answer : Except Failure Outcome} {fs : FileSystem}
    (heq : history = before ++ .deed i (.call c answer fs) :: after)
    (leads : Leads x s before s₁) : Alone s s₁ before c := by
  have w := a.watches hprovider hconfined leads heq
  constructor
  case names =>
    intro d name hname
    rcases w.mem_names hname with hname | hleft | ⟨j, o, holds, hl⟩
    · exact Or.inl hname
    · exact Or.inr (Or.inl hleft)
    · obtain rfl := a.eq_of_holds hturn heq holds
      exact Or.inr (Or.inr (FileSystem.locate_of_dirsStay w.dirsStay hl))
  case outputs =>
    intro j o hask hexists
    obtain ⟨-, -, l, hl, -⟩ := w.given j o hask
    have hlocate := FileSystem.locate_of_dirsStay w.dirsStay hl
    by_cases hheld : ∃ k o', before.Holds k o' ∧ s.host.files.locate o'.path = .ok l
    · obtain ⟨k, o', holds, hl'⟩ := hheld
      obtain rfl := a.eq_of_holds hturn heq holds
      rw [hlocate, FileSystem.locate_of_dirsStay w.dirsStay hl']
      exact Or.inr rfl
    · left
      have hnode := w.removed l ⟨j, o, hask, hl⟩ fun k o' holds hl' => hheld ⟨k, o', holds, hl'⟩
      rcases hnode with hnone | hdir
      · simp [FileSystem.exists?, FileSystem.lookup, hlocate, hnone] at hexists
      · simp [FileSystem.isDir, FileSystem.lookup, hlocate, hdir]

/-- With a runner that keeps to its output path and a source of new files in one directory, no order
leaves a report behind, whatever has been ordered before and whether it succeeds or fails. When it
goes batch after batch, no report of another batch is there when the runner is called. -/
theorem carryOut_tidies (hprovider : x.provider.CreatesIn dir) (hconfined : x.runner.Confined)
    (earlier : List Order) (order : Order) (s : Session ρ τ) : ∃ history,
      Tidies x (x.afterOrders earlier s) (x.carryOut (x.afterOrders earlier s) order).2 history ∧
      (order.inTurn = true → ∀ before i c answer fs after,
        history = before ++ .deed i (.call c answer fs) :: after → ∃ s₁,
          Leads x (x.afterOrders earlier s) before s₁ ∧
          Alone (x.afterOrders earlier s) s₁ before c) := by
  generalize x.afterOrders earlier s = s
  rcases x.carryOut_cases s order with heq | ⟨config, files, hobstacle, hinputs, heq⟩
  · rw [heq]
    exact ⟨[], tidies_nil x s, by simp⟩
  · rw [heq]
    obtain ⟨history, lives, a, hinTurn⟩ := lint_accounts hobstacle hinputs x s
    refine ⟨history, a.tidies hprovider hconfined, ?_⟩
    intro horder before i c answer fs after hsplit
    obtain ⟨s₁, leads⟩ := a.leads.exists_of_append _ _ hsplit
    have hturn := hinTurn (Order.mode_of_inTurn horder)
    exact ⟨s₁, leads, a.alone hprovider hconfined hturn hsplit leads⟩

/-- The runner puts a directory in place of its output file. -/
def littering : Executor Nat TempFiles where
  runner.run c _ n h :=
    match h.files.locate c.output.path with
    | .error _ => (.ok { exitCode := some 0 }, n, h)
    | .ok l => (.ok { exitCode := some 0 }, n, { h with files := h.files.put l .dir })
  provider := TempFiles.provider

theorem littering_confined : littering.runner.Confined := by
  intro c deadline n h
  simp only [littering]
  cases hl : h.files.locate c.output.path with
  | error e => exact ⟨rfl, fun _ _ => rfl⟩
  | ok l =>
    refine ⟨rfl, fun l' hne => FileSystem.node?_put_of_ne _ _ ?_⟩
    rintro rfl
    exact hne rfl

/-- Two runs, each of which fails and leaves a directory. -/
theorem carryOut_littering_tidies :
    littering.runner.Confined ∧
      littering.provider.CreatesIn (fun t => t.dir.getD t.defaultDir) ∧
      ((littering.carryOut (littering.afterOrders [.execute paired [[97]]] .fresh)
        (.execute paired [[97], [98]])).2.host.files.names [Bytes.ofString "tmp"]).length = 2 ∧
      ∃ history, Tidies littering (littering.afterOrders [.execute paired [[97]]] .fresh)
          (littering.carryOut (littering.afterOrders [.execute paired [[97]]] .fresh)
            (.execute paired [[97], [98]])).2 history ∧
        (Order.inTurn (.execute paired [[97], [98]]) = true → ∀ before i c answer fs after,
          history = before ++ .deed i (.call c answer fs) :: after → ∃ s₁,
            Leads littering (littering.afterOrders [.execute paired [[97]]] .fresh) before s₁ ∧
            Alone (littering.afterOrders [.execute paired [[97]]] .fresh) s₁ before c) :=
  ⟨littering_confined, TempFiles.createsIn, by decide +kernel,
    carryOut_tidies TempFiles.createsIn littering_confined _ _ _⟩

end Executor

end LintDispatch
