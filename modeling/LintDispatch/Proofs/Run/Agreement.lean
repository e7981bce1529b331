import LintDispatch.Proofs.FileSystem.Fresh
import LintDispatch.Proofs.Run.Parallel
import LintDispatch.Proofs.Run.PerFile

/-!
# Runs that agree
A runner may answer by the files of a command alone (`Runner.Replies`): what it says, and what can
be read from its output file afterwards, is its reply to them. If the provider hands out different
fresh files (`Provider.HandsOut`), the result of a batch is then what the reply amounts to
(`Reply.verdict`), whatever has been done for other batches before or in between
(`Accounts.result_eq`). `Batch.Course` says how far a batch has come and what holds of its output
file until the report has been read; nothing that is done for another batch changes that, because
every batch has a place of its own (`Keeps`).

`executeParallel_agrees`: when no batch fails, or exactly one, a run with several workers has the
result of one that goes batch after batch, whatever the schedule, and its runner is asked for the
same.
-/

namespace LintDispatch

variable {ρ τ : Type}

open FileSystem (ChangesAt)
open OutputFile (FreshAt)

/-- What a runner has to say to some files. -/
structure Reply where
  answer : Except Failure Outcome
  /-- What can be read from the output file then. A missing report is empty. -/
  report : Except HostError Bytes

/-- The result of a batch whose runner gives this reply. -/
def Reply.verdict (reply : Reply) : Except Failure (List Issue) :=
  match reply.answer, reply.report with
  | .error e, _ => .error e
  | .ok _, .error e => .error (.io e)
  | .ok outcome, .ok text => outcome.interpret text

/-- Called with files and a fresh output file, the runner gives its reply to these files. It changes
nothing but the output file, and does not cancel the run. -/
def Runner.Replies (runner : Runner ρ) (config : Config) (reply : List Path → Reply) : Prop :=
  ∀ (o : OutputFile) (spot : Place) (files : List Path) (r : ρ) (h : Host),
    o.FreshAt h.files spot → ∃ r' h',
      runner.run (Command.ofBatch config o files) (config.deadline files.length) r h =
          ((reply files).answer, r', h') ∧
        (o.read h'.files).map (·.getD []) = (reply files).report ∧
        ChangesAt [spot] h.files h'.files ∧ h'.cancelled = h.cancelled

namespace Provider

/-- The provider can hand out `n` more output files: each is fresh, its path is within the reserve,
and it lies at a place that has not been given before. What happens at the places that have been
given does not keep it from that. -/
def HandsOut (p : Provider τ) : (n : Nat) → (given : List Place) → τ → FileSystem → Prop
  | 0, _, _, _ => True
  | n + 1, given, t, fs => ∀ fs₁, ChangesAt given fs fs₁ → ∃ o spot t' fs',
      p.request t fs₁ = (.ok o, t', fs') ∧ o.path.length ≤ Config.outputPathReserve ∧
        o.FreshAt fs' spot ∧ spot ∉ given ∧ ChangesAt [spot] fs₁ fs' ∧
        p.HandsOut n (spot :: given) t' fs'

theorem HandsOut.of_changesAt {p : Provider τ} {given : List Place} {t : τ} {fs fs' : FileSystem} :
    ∀ {n : Nat}, p.HandsOut n given t fs → ChangesAt given fs fs' → p.HandsOut n given t fs'
  | 0, _, _ => trivial
  | _ + 1, h, hc => fun fs₁ h₁ => h fs₁ (hc.trans h₁)

end Provider

/-! ## The course of a batch -/

namespace Batch

variable {config : Config} {reply : Reply} {b : Batch} {fs fs' : FileSystem} {ds : List Deed}
  {place : Option Place}

/-- What has been done for a batch whose runner gives this reply, and what holds of the place of its
output file. -/
inductive Course (config : Config) (reply : Reply) (b : Batch) (fs : FileSystem) :
    List Deed → Option Place → Prop
  | idle : Course config reply b fs [] none
  | cleared : Course config reply b fs [.check false] none
  | asked {o : OutputFile} {spot : Place} (short : o.path.length ≤ Config.outputPathReserve)
      (fresh : o.FreshAt fs spot) :
      Course config reply b fs [.check false, .ask (.ok o)] (some spot)
  | called {o : OutputFile} {spot : Place} {answer : Except Failure Outcome} {files : FileSystem}
      (leads : fs.locate o.path = .ok spot) (answer_eq : answer = reply.answer)
      (report_eq : (o.read fs).map (·.getD []) = reply.report) :
      Course config reply b fs [.check false, .ask (.ok o), .call (b.call config o) answer files]
        (some spot)
  | crashed {o : OutputFile} {spot : Place} {e : Failure} {files : FileSystem}
      (answer_eq : .error e = reply.answer) :
      Course config reply b fs
        [.check false, .ask (.ok o), .call (b.call config o) (.error e) files, .release o]
        (some spot)
  | told {o : OutputFile} {spot : Place} {outcome : Outcome} {files : FileSystem}
      {report : Except HostError (Option Bytes)} (leads : fs.locate o.path = .ok spot)
      (answer_eq : .ok outcome = reply.answer)
      (report_eq : report.map (·.getD []) = reply.report) :
      Course config reply b fs
        [.check false, .ask (.ok o), .call (b.call config o) (.ok outcome) files, .read o report]
        (some spot)
  | finished {o : OutputFile} {spot : Place} {outcome : Outcome} {files : FileSystem}
      {report : Except HostError (Option Bytes)} (answer_eq : .ok outcome = reply.answer)
      (report_eq : report.map (·.getD []) = reply.report) :
      Course config reply b fs
        [.check false, .ask (.ok o), .call (b.call config o) (.ok outcome) files, .read o report,
          .release o] (some spot)

/-- Changes at other places leave the course of a batch as it is. -/
theorem Course.of_changesAt {spots : List Place} (course : b.Course config reply fs ds place)
    (hc : ChangesAt spots fs fs') (hplace : ∀ spot ∈ place, spot ∉ spots) :
    b.Course config reply fs' ds place := by
  cases course with
  | idle => exact .idle
  | cleared => exact .cleared
  | asked short fresh => exact .asked short (fresh.of_changesAt hc (hplace _ rfl))
  | called leads answer_eq report_eq =>
    refine .called (FileSystem.locate_of_dirsStay hc.toDirsStay leads) answer_eq ?_
    rw [OutputFile.read_of_changesAt hc leads (hplace _ rfl)]
    exact report_eq
  | crashed answer_eq => exact .crashed answer_eq
  | told leads answer_eq report_eq =>
    exact .told (FileSystem.locate_of_dirsStay hc.toDirsStay leads) answer_eq report_eq
  | finished answer_eq report_eq => exact .finished answer_eq report_eq

/-- A batch that has come to its end has the result that the reply amounts to. -/
theorem Course.result_eq {total : Nat} {r : Except Failure (List Issue)}
    (course : b.Course config reply fs ds place) (fate : b.Fate config total r ds) :
    r = Executor.located b total reply.verdict := by
  cases fate with
  | cancelled | refused | rejected => cases course
  | crashed o e files =>
    cases course with
    | crashed answer_eq => simp [Reply.verdict, ← answer_eq]
  | unread o outcome files e =>
    cases course with
    | finished answer_eq report_eq => simp [Reply.verdict, ← answer_eq, ← report_eq, Except.map]
  | judged o outcome files report =>
    cases course with
    | finished answer_eq report_eq => simp [Reply.verdict, ← answer_eq, ← report_eq, Except.map]

end Batch

namespace Executor

variable {x : Executor ρ τ} {config : Config} {reply : List Path → Reply} {batches : List Batch}
  {files : List Path} {s s₁ s' : Session ρ τ} {h history : History} {given : List Place}
  {places : Nat → Option Place} {result : Except Failure RunResult} {lives : List Life}

/-- What holds after a history of a run: each batch is on its course, and no two of them have the
same place. -/
structure Keeps (x : Executor ρ τ) (config : Config) (reply : List Path → Reply)
    (batches : List Batch) (s : Session ρ τ) (h : History) (given : List Place)
    (places : Nat → Option Place) : Prop where
  going : x.stopped s = false
  /-- There are enough output files for the batches that have not asked for one. -/
  hands : x.provider.HandsOut (batches.length - h.countP Event.isAsk) given s.provider s.host.files
  given : ∀ (i : Nat), ∀ spot ∈ places i, spot ∈ given
  inj : ∀ (i j : Nat), ∀ spot ∈ places i, spot ∈ places j → i = j
  course : ∀ (i : Nat) (b : Batch), batches[i]? = some b →
    b.Course config (reply b.files) s.host.files (h.of i) (places i)

theorem countP_isAsk_snoc (h : History) (i : Nat) (d : Deed) :
    (h ++ [Event.deed i d]).countP Event.isAsk =
      h.countP Event.isAsk + bif d.isAsk then 1 else 0 := by
  rw [List.countP_append]
  cases d <;> rfl

/-- A deed other than asking for an output file, which changes nothing but the file of its batch,
keeps what holds if it keeps its batch on its course. -/
theorem Keeps.advance (keeps : Keeps x config reply batches s h given places) {i : Nat}
    {d : Deed} (hask : d.isAsk = false) (hgoing : x.stopped s' = false)
    (hprovider : s'.provider = s.provider) {spots : List Place}
    (hspots : ∀ spot ∈ spots, spot ∈ places i)
    (hfiles : ChangesAt spots s.host.files s'.host.files)
    (hcourse : ∀ b, batches[i]? = some b → b.Course config (reply b.files) s'.host.files
      (h.of i ++ [d]) (places i)) :
    Keeps x config reply batches s' (h ++ [.deed i d]) given places where
  going := hgoing
  hands := by
    rw [countP_isAsk_snoc, hask, hprovider]
    exact keeps.hands.of_changesAt
      (hfiles.mono fun spot hspot => keeps.given i spot (hspots spot hspot))
  given := keeps.given
  inj := keeps.inj
  course j c hc := by
    by_cases hij : i = j
    · subst hij
      rw [History.of_snoc_self]
      exact hcourse c hc
    · rw [History.of_snoc_of_ne hij]
      refine (keeps.course j c hc).of_changesAt hfiles fun spot hspot hmem => ?_
      exact hij (keeps.inj i j spot (hspots spot hmem) hspot)

theorem eq_or_mem_of_mem_update {i j : Nat} {spot place : Place}
    (h : place ∈ Function.update places i (some spot) j) :
    place = spot ∧ j = i ∨ place ∈ places j := by
  by_cases hij : j = i
  · subst hij
    rw [Function.update_self] at h
    exact Or.inl ⟨(Option.some.inj h).symm, rfl⟩
  · rw [Function.update_of_ne hij] at h
    exact Or.inr h

/-- Asking for an output file gives the batch a place of its own. -/
theorem Keeps.ask (keeps : Keeps x config reply batches s h given places) {i : Nat} {b : Batch}
    (hb : batches[i]? = some b) (hof : h.of i = [.check false])
    {answer : Except HostError OutputFile} (request : x.request s = (answer, s'))
    (hlt : h.countP Event.isAsk < batches.length) :
    ∃ given' places', Keeps x config reply batches s' (h ++ [.deed i (.ask answer)]) given'
      places' := by
  have hnone : places i = none := by
    have hcourse := keeps.course i b hb
    rw [hof] at hcourse
    generalize places i = place at hcourse
    cases hcourse
    rfl
  obtain ⟨k, hk⟩ : ∃ k, batches.length - h.countP Event.isAsk = k + 1 :=
    ⟨batches.length - h.countP Event.isAsk - 1, by omega⟩
  have hands := keeps.hands
  rw [hk] at hands
  obtain ⟨o, spot, t', fs', hreq, hshort, hfresh, hspot, hchange, hrest⟩ := hands _ (.refl _ _)
  rw [Executor.request, hreq] at request
  obtain ⟨rfl, rfl⟩ := Prod.mk.inj request
  have hnew : ∀ j, ∀ place ∈ Function.update places i (some spot) j,
      place = spot ∧ j = i ∨ place ≠ spot ∧ place ∈ places j := by
    intro j place hmem
    refine (eq_or_mem_of_mem_update hmem).imp_right fun hplace => ⟨?_, hplace⟩
    rintro rfl
    exact hspot (keeps.given j place hplace)
  refine ⟨spot :: given, Function.update places i (some spot), ?_⟩
  constructor
  case going => exact keeps.going
  case hands =>
    have hcount : batches.length - (h ++ [Event.deed i (.ask (.ok o))]).countP Event.isAsk = k := by
      rw [countP_isAsk_snoc]
      simp only [Deed.isAsk, cond_true]
      omega
    rw [hcount]
    exact hrest
  case given =>
    intro j place hplace
    rcases hnew j place hplace with ⟨rfl, -⟩ | ⟨-, hplace⟩
    · exact List.mem_cons_self
    · exact List.mem_cons_of_mem _ (keeps.given j place hplace)
  case inj =>
    intro j k place hj hk
    rcases hnew j place hj with ⟨rfl, rfl⟩ | ⟨hne, hj⟩
    · rcases hnew k place hk with ⟨-, rfl⟩ | ⟨hne, -⟩
      · rfl
      · exact absurd rfl hne
    · rcases hnew k place hk with ⟨rfl, -⟩ | ⟨-, hk⟩
      · exact absurd rfl hne
      · exact keeps.inj j k place hj hk
  case course =>
    intro j c hc
    by_cases hij : i = j
    · subst hij
      rw [History.of_snoc_self, hof, Function.update_self]
      exact .asked hshort hfresh
    · rw [History.of_snoc_of_ne hij, Function.update_of_ne (Ne.symm hij)]
      refine (keeps.course j c hc).of_changesAt hchange fun place hplace hmem => ?_
      obtain rfl : place = spot := by simpa using hmem
      exact hspot (keeps.given j place hplace)

/-- The next deed for a batch keeps what holds, if there is an output file left to ask for. -/
theorem Keeps.step (hreply : x.runner.Replies config reply)
    (keeps : Keeps x config reply batches s h given places) {i : Nat} {b : Batch} {d : Deed}
    (hb : batches[i]? = some b) (next : b.Next config (h.of i) d) (does : Does x s d s')
    (hask : d.isAsk = true → h.countP Event.isAsk < batches.length) :
    ∃ given' places', Keeps x config reply batches s' (h ++ [.deed i d]) given' places' := by
  have hcourse := keeps.course i b hb
  have advance (hask : d.isAsk = false) (hgoing : x.stopped s' = false)
      (hprovider : s'.provider = s.provider) (spots : List Place)
      (hspots : ∀ spot ∈ spots, spot ∈ places i)
      (hfiles : ChangesAt spots s.host.files s'.host.files)
      (hnext : b.Course config (reply b.files) s'.host.files (h.of i ++ [d]) (places i)) :
      ∃ given' places', Keeps x config reply batches s' (h ++ [.deed i d]) given' places' := by
    refine ⟨given, places, keeps.advance hask hgoing hprovider hspots hfiles fun c hc => ?_⟩
    obtain rfl : b = c := Option.some.inj (hb.symm.trans hc)
    exact hnext
  generalize hof : h.of i = ds at next hcourse advance
  generalize places i = place at hcourse advance
  cases next with
  | check stopped =>
    cases does
    cases hcourse
    rw [keeps.going] at advance ⊢
    exact advance rfl rfl rfl [] (by simp) (.refl _ _) .cleared
  | ask answer =>
    cases does with
    | ask request => exact keeps.ask hb hof request (hask rfl)
  | reject o overlong =>
    cases hcourse with
    | asked short => exact absurd (overlong.symm.trans (overlong_eq_false short)) (by simp)
  | call o answer fs =>
    cases does with
    | call launch =>
      cases hcourse with
      | @asked _ spot short fresh =>
        obtain ⟨r', h', hrun, hreport, hchange, hcancelled⟩ :=
          hreply o spot b.files s.runner s.host fresh
        have hlaunch : x.launch (b.command config o) (config.deadline b.files.length) s =
            ((reply b.files).answer,
              { s with runner := r', host := h', calls := s.calls ++ [b.call config o] }) := by
          have hrun : x.runner.run (b.command config o) (config.deadline b.files.length) s.runner
              s.host = ((reply b.files).answer, r', h') := hrun
          rw [Executor.launch, hrun]
          rfl
        obtain ⟨rfl, rfl⟩ := Prod.mk.inj (hlaunch.symm.trans launch)
        refine advance rfl ?_ rfl [spot] (by simp) hchange ?_
        · rw [stopped, hcancelled]
          exact keeps.going
        · exact .called (FileSystem.locate_of_dirsStay hchange.toDirsStay fresh.locate_eq) rfl
            hreport
  | crash o e fs =>
    cases does
    cases hcourse with
    | @called _ spot _ _ leads answer_eq =>
      exact advance rfl keeps.going rfl [spot] (by simp) (OutputFile.changesAt_release leads)
        (.crashed answer_eq)
  | read o outcome fs answer =>
    cases does
    cases hcourse with
    | called leads answer_eq report_eq =>
      exact advance rfl keeps.going rfl [] (by simp) (.refl _ _) (.told leads answer_eq report_eq)
  | release o outcome fs answer =>
    cases does
    cases hcourse with
    | @told _ spot _ _ _ leads answer_eq report_eq =>
      exact advance rfl keeps.going rfl [spot] (by simp) (OutputFile.changesAt_release leads)
        (.finished answer_eq report_eq)

/-! ## The account of a run whose runner replies -/

/-- Nothing is done for anything but the batches. -/
theorem Accounts.lt_length (a : Accounts x config files s s' result batches history lives)
    {i : Nat} {d : Deed} (hd : Event.deed i d ∈ history) : i < lives.length := by
  obtain ⟨b, l, r, -, -, hl, -⟩ := a.exists_fate hd
  exact (List.getElem?_eq_some_iff.mp hl).1

/-- What is done in a run is what makes up the lives of its batches, in another order. -/
theorem Accounts.perm_deeds (a : Accounts x config files s s' result batches history lives) :
    history.deeds.Perm (lives.flatMap Life.deeds) := by
  have hof : (List.range lives.length).map (fun i => history.of i) = lives.map Life.deeds := by
    apply List.ext_getElem
    · simp
    · intro i hi hi'
      have hlt : i < lives.length := by simpa using hi
      simp [a.deeds_eq i, List.getElem?_eq_getElem hlt]
  have hperm := History.perm_deeds history fun i d hd => a.lt_length hd
  rw [List.flatMap_def, hof, ← List.flatMap_def] at hperm
  exact hperm

theorem countP_deeds (h : History) : h.deeds.countP Deed.isAsk = h.countP Event.isAsk := by
  rw [History.deeds, List.countP_filterMap]
  congr 1
  funext e
  cases e <;> rfl

theorem countP_isAsk_le_one {total : Nat} {b : Batch} {l : Life} (h : b.Lived config total l) :
    l.deeds.countP Deed.isAsk ≤ 1 := by
  obtain ⟨result, deeds⟩ := l
  cases result with
  | none =>
    obtain rfl : deeds = [] := h
    simp
  | some r =>
    have fate : b.Fate config total r deeds := h
    cases fate <;> simp [List.countP_cons, Deed.isAsk]

/-- No batch asks for more than one output file. -/
theorem countP_isAsk_le {total : Nat} (h : List.Forall₂ (Batch.Lived config total) batches lives) :
    (lives.flatMap Life.deeds).countP Deed.isAsk ≤ batches.length := by
  induction h with
  | nil => simp
  | cons hb _ ih =>
    rw [List.flatMap_cons, List.countP_append, List.length_cons, Nat.add_comm]
    exact Nat.add_le_add ih (countP_isAsk_le_one hb)

theorem keeps_nil (hgoing : x.stopped s = false)
    (hands : x.provider.HandsOut batches.length [] s.provider s.host.files) :
    Keeps x config reply batches s [] [] fun _ => none where
  going := hgoing
  hands := hands
  given := by simp
  inj := by simp
  course _ _ _ := .idle

/-- In a run that nobody cancels, everything stays on its course. -/
theorem Accounts.keeps (hreply : x.runner.Replies config reply)
    (a : Accounts x config files s s' result batches history lives)
    (hcalm : Event.cancel ∉ history) (hgoing : x.stopped s = false)
    (hands : x.provider.HandsOut batches.length [] s.provider s.host.files) :
    ∃ given places, Keeps x config reply batches s' history given places := by
  have hcount : history.countP Event.isAsk ≤ batches.length := by
    rw [← countP_deeds, a.perm_deeds.countP_eq]
    exact countP_isAsk_le a.lived
  refine a.preserved (motive := fun h s₁ => ∃ given places,
    Keeps x config reply batches s₁ h given places) ⟨[], fun _ => none, keeps_nil hgoing hands⟩
    ?_ ?_ a.leads [] (List.append_nil _).symm
  · intro before i b d s₁ s₂ after heq hb next does keeps
    obtain ⟨given, places, keeps⟩ := keeps
    refine keeps.step hreply hb next does fun hask => ?_
    have hd : Event.isAsk (.deed i d) = true := hask
    rw [heq, List.countP_append, List.countP_cons_of_pos hd] at hcount
    omega
  · intro before s₁ after heq _
    simp [heq] at hcalm

/-- The result of a batch is what the reply to its files amounts to. -/
theorem Accounts.result_eq (hreply : x.runner.Replies config reply)
    (a : Accounts x config files s s' result batches history lives)
    (hcalm : Event.cancel ∉ history) (hgoing : x.stopped s = false)
    (hands : x.provider.HandsOut batches.length [] s.provider s.host.files) {i : Nat} {b : Batch}
    {l : Life} {r : Except Failure (List Issue)} (hb : batches[i]? = some b)
    (hl : lives[i]? = some l) (hr : l.result = some r) :
    r = located b batches.length (reply b.files).verdict := by
  obtain ⟨given, places, keeps⟩ := a.keeps hreply hcalm hgoing hands
  obtain ⟨b', hb', -, hof, hlived⟩ := a.exists_lived hl
  obtain rfl : b = b' := Option.some.inj (hb.symm.trans hb')
  rw [Batch.Lived, hr, ← hof] at hlived
  exact (keeps.course i b hb).result_eq hlived

/-- The runner and the provider of a run that nobody has cancelled. -/
structure Ready (x : Executor ρ τ) (config : Config) (files : List Path) (reply : List Path → Reply)
    (s : Session ρ τ) : Prop where
  replies : x.runner.Replies config reply
  going : x.stopped s = false
  hands : x.provider.HandsOut (Plan.batches config files).length [] s.provider s.host.files

/-- A run that fails does so with the verdict on one of its batches. -/
theorem Accounts.exists_verdict_of_error (hs : x.Ready config files reply s)
    (a : Accounts x config files s s' result (Plan.batches config files) history lives)
    (hcalm : Event.cancel ∉ history) {e : Failure} (he : result = .error e) :
    ∃ i b, (Plan.batches config files)[i]? = some b ∧ b.index = i ∧
      .error e = located b (Plan.batches config files).length (reply b.files).verdict := by
  obtain ⟨l, hmem, hl⟩ := List.exists_of_findSome?_eq_some (a.failed e he)
  obtain ⟨i, hi⟩ := List.mem_iff_getElem?.mp hmem
  obtain ⟨b, hb, hindex, -, -⟩ := a.exists_lived hi
  exact ⟨i, b, hb, hindex, a.result_eq hs.replies hcalm hs.going hs.hands hb hi
    (Life.result_of_failure?_eq hl)⟩

/-- A run with a result has found what the verdicts on its batches say. -/
theorem Accounts.verdicts_of_ok (hs : x.Ready config files reply s)
    (a : Accounts x config files s s' result (Plan.batches config files) history lives)
    (hcalm : Event.cancel ∉ history) {r : RunResult} (hr : result = .ok r) :
    ∃ found : List (List Issue),
      (Plan.batches config files).map (fun b => (reply b.files).verdict) = found.map .ok ∧
        r = ⟨found.flatten, found.length⟩ := by
  obtain ⟨found, hfound, hr⟩ := a.completed r hr
  refine ⟨found, ?_, hr⟩
  have hlen : (Plan.batches config files).length = lives.length := a.lived.length_eq
  have hlen' : lives.length = found.length := by simpa using congrArg List.length hfound
  refine List.ext_getElem (by simp [hlen, hlen']) fun i hi hi' => ?_
  rw [List.length_map] at hi hi'
  have hlife : lives[i].result = some (.ok found[i]) := by
    have := List.getElem_of_eq hfound (by simpa [hlen'] using hi')
    simpa using this
  have hresult := a.result_eq hs.replies hcalm hs.going hs.hands (List.getElem?_eq_getElem hi)
    (List.getElem?_eq_getElem (hlen ▸ hi)) hlife
  rw [List.getElem_map, List.getElem_map]
  cases hv : (reply (Plan.batches config files)[i].files).verdict with
  | error e => simp [hv, located, Except.mapError] at hresult
  | ok issues => simpa [hv, located, Except.mapError, eq_comm] using hresult

/-- If no verdict is a failure, the run has a result, made of what was found in the batches. -/
theorem Accounts.result_eq_ok (hs : x.Ready config files reply s)
    (a : Accounts x config files s s' result (Plan.batches config files) history lives)
    (hcalm : Event.cancel ∉ history) {found : List (List Issue)}
    (hfound : (Plan.batches config files).map (fun b => (reply b.files).verdict) =
      found.map .ok) : result = .ok ⟨found.flatten, found.length⟩ := by
  cases hr : result with
  | error e =>
    obtain ⟨i, b, hb, -, he⟩ := a.exists_verdict_of_error hs hcalm hr
    have hmem : (reply b.files).verdict ∈ found.map Except.ok :=
      hfound ▸ List.mem_map_of_mem (List.mem_of_getElem? hb)
    obtain ⟨issues, -, hissues⟩ := List.mem_map.mp hmem
    simp [← hissues, located, Except.mapError] at he
  | ok r =>
    obtain ⟨found', hfound', rfl⟩ := a.verdicts_of_ok hs hcalm hr
    obtain rfl : found = found' :=
      List.map_injective_iff.mpr (fun _ _ => Except.ok.inj) (hfound.symm.trans hfound')
    rfl

/-- If only one verdict is a failure, the run fails in that batch. -/
theorem Accounts.result_eq_error (hs : x.Ready config files reply s)
    (a : Accounts x config files s s' result (Plan.batches config files) history lives)
    (hcalm : Event.cancel ∉ history) {i : Nat} {b : Batch} {e : Failure}
    (hb : (Plan.batches config files)[i]? = some b) (he : (reply b.files).verdict = .error e)
    (hothers : ∀ j c, j ≠ i → (Plan.batches config files)[j]? = some c →
      ∃ issues, (reply c.files).verdict = .ok issues) :
    result = .error (.batch i (Plan.batches config files).length b.files.length e) := by
  cases hr : result with
  | error e' =>
    obtain ⟨j, c, hc, hindex, he'⟩ := a.exists_verdict_of_error hs hcalm hr
    by_cases hij : j = i
    · subst hij
      obtain rfl : b = c := Option.some.inj (hb.symm.trans hc)
      rw [he] at he'
      obtain rfl : e' = .batch b.index _ b.files.length e := Except.error.inj he'
      rw [hindex]
    · obtain ⟨issues, hissues⟩ := hothers j c hij hc
      simp [hissues, located, Except.mapError] at he'
  | ok r =>
    obtain ⟨found, hfound, -⟩ := a.verdicts_of_ok hs hcalm hr
    have hmem : (reply b.files).verdict ∈ found.map Except.ok :=
      hfound ▸ List.mem_map_of_mem (List.mem_of_getElem? hb)
    obtain ⟨issues, -, hissues⟩ := List.mem_map.mp hmem
    exact absurd (hissues.trans he) (by simp)

/-! ## What the runner is asked for -/

/-- What a call asks of the runner, the output file left aside. -/
def task (config : Config) (c : Call) : List Path × UInt64 :=
  (c.command.fileArgs config, c.deadline)

/-- A batch that has been linted was the subject of one call. -/
theorem task_call (config : Config) (b : Batch) (o : OutputFile) :
    task config (b.call config o) = (b.files, config.deadline b.files.length) :=
  congrArg (·, _) (Command.fileArgs_ofBatch config o b.files)

theorem tasks_of_succeeded {total : Nat}
    (h : List.Forall₂ (Batch.Lived config total) batches lives)
    (hall : ∀ l ∈ lives, ∃ issues, l.result = some (.ok issues)) :
    ((lives.flatMap Life.deeds).filterMap Deed.call?).map (task config) =
      batches.map fun b => (b.files, config.deadline b.files.length) := by
  obtain ⟨rounds, rfl, hlived⟩ := Round.exists_lived h hall
  rw [Round.filterMap_call?_lives hlived, List.map_map, List.map_map]
  exact List.map_congr_left fun r _ => task_call config r.batch r.output

/-- In a run with a result the runner is asked for every batch of the plan. -/
theorem Accounts.perm_tasks (a : Accounts x config files s s' result batches history lives)
    {r : RunResult} (hr : result = .ok r) :
    (history.calls.map (task config)).Perm
      (batches.map fun b => (b.files, config.deadline b.files.length)) := by
  rw [history.calls_eq, ← tasks_of_succeeded a.lived (a.result_eq_some_ok hr)]
  exact (a.perm_deeds.filterMap _).map _

/-- A run with several workers agrees with one that goes batch after batch, whatever the schedule,
if the runner answers by the files alone and nobody cancels. When no batch fails, the results are
the same and the runners are asked for the same; when exactly one fails, both runs fail in it. -/
theorem executeParallel_agrees {files : List Path} {reply : List Path → Reply}
    (hv : config.Valid) (hfiles : ∀ f ∈ files, f.isBlank = false) (x : Executor ρ τ)
    {schedule : Schedule} (hcalm : Move.cancel ∉ schedule) {s s' : Session ρ τ}
    (hs : x.Ready config files reply s) (hs' : x.Ready config files reply s') :
    (∀ found : List (List Issue),
      (Plan.batches config files).map (fun b => (reply b.files).verdict) = found.map .ok →
      (x.execute config files s).1 = .ok ⟨found.flatten, found.length⟩ ∧
      (x.executeParallel config files (.atWork schedule) s').1 = (x.execute config files s).1 ∧
      ∃ ran ran', (x.execute config files s).2.calls = s.calls ++ ran ∧
        (x.executeParallel config files (.atWork schedule) s').2.calls = s'.calls ++ ran' ∧
        (ran'.map (task config)).Perm (ran.map (task config))) ∧
    ∀ (i : Nat) (b : Batch) (e : Failure), (Plan.batches config files)[i]? = some b →
      (reply b.files).verdict = .error e →
      (∀ (j : Nat) (c : Batch), j ≠ i → (Plan.batches config files)[j]? = some c →
        ∃ issues, (reply c.files).verdict = .ok issues) →
      (x.execute config files s).1 =
          .error (.batch i (Plan.batches config files).length b.files.length e) ∧
        (x.executeParallel config files (.atWork schedule) s').1 = (x.execute config files s).1 := by
  have h := checkInputs_eq_ok hv hfiles
  obtain ⟨lives, a⟩ := execute_accounts h x s
  obtain ⟨history', lives', a', -, hcalm'⟩ := executeParallel_accounts h x schedule s'
  have hturn := History.cancel_not_mem_inTurn 0 (lives.map Life.deeds)
  have hcalm' := hcalm' hcalm
  constructor
  · intro found hfound
    have hok := a.result_eq_ok hs hturn hfound
    have hok' := a'.result_eq_ok hs' hcalm' hfound
    exact ⟨hok, hok'.trans hok.symm, _, _, a.calls_eq, a'.calls_eq,
      (a'.perm_tasks hok').trans (a.perm_tasks hok).symm⟩
  · intro i b e hb he hothers
    have herror := a.result_eq_error hs hturn hb he hothers
    have herror' := a'.result_eq_error hs' hcalm' hb he hothers
    exact ⟨herror, herror'.trans herror.symm⟩

/-- Nothing is ever reported, and only a process that is given the file `c` fails. The output files
are called `/a`, `/b` and so on. -/
def picky : Executor Unit Nat where
  runner.run c _ r h :=
    (.ok { exitCode := if [99] ∈ namedFiles c then some 2 else some 0 }, r, h)
  provider.request n fs := (.ok ⟨[47, UInt8.ofNat (97 + n)], false⟩, n + 1, fs)

/-- The replies of `picky`. -/
def pickyReply (files : List Path) : Reply where
  answer := .ok { exitCode := if [99] ∈ files then some 2 else some 0 }
  report := .ok []

/-- A session of `picky` before anything has happened. -/
def pickyStart : Session Unit Nat := ⟨(), 0, { files := {} }, 0, []⟩

theorem picky_ready : picky.Ready paired [[97], [98], [99]] pickyReply pickyStart where
  replies o spot files r h fresh := by
    have hnamed : namedFiles (Command.ofBatch paired o files) = files :=
      namedFiles_ofBatch (by decide +kernel) o files
    exact ⟨r, h, by simp only [picky, hnamed, pickyReply], fresh.read_eq, .refl _ _, rfl⟩
  going := rfl
  hands := by
    have hlen : (Plan.batches paired [[97], [98], [99]]).length = 2 := by decide +kernel
    rw [hlen]
    intro fs₁ h₁
    have hfirst : FreshAt ⟨[47, 97], false⟩ fs₁ [[97]] :=
      ⟨by decide, rfl, Or.inl (h₁.node?_eq [[97]] (by simp))⟩
    refine ⟨_, [[97]], 1, fs₁, rfl, by decide, hfirst, by simp, .refl _ _, fun fs₂ h₂ => ?_⟩
    have hsecond : FreshAt ⟨[47, 98], false⟩ fs₂ [[98]] :=
      ⟨by decide, rfl, Or.inl ((h₂.node?_eq [[98]] (by decide)).trans
        (h₁.node?_eq [[98]] (by simp)))⟩
    exact ⟨_, [[98]], 2, fs₂, rfl, by decide, hsecond, by decide, .refl _ _, trivial⟩

/-- The steps on the second of two batches are taken in between those on the first one. -/
def interleaved : Schedule := [0, 1, 1, 0, 1, 1, 1, 0, 1, 1, 0].map .advance

/-- Two batches, of which the second one fails before the first one is over. -/
theorem executeParallel_picky_agrees :
    paired.Valid ∧ (∀ f ∈ [[97], [98], [99]], Bytes.isBlank f = false) ∧
      Move.cancel ∉ interleaved ∧
      picky.Ready paired [[97], [98], [99]] pickyReply pickyStart ∧
      (picky.execute paired [[97], [98], [99]] pickyStart).1 =
        .error (.batch 1 2 1 (.processFailed (some 2) "")) ∧
      (picky.executeParallel paired [[97], [98], [99]] (.atWork interleaved) pickyStart).1 =
        (picky.execute paired [[97], [98], [99]] pickyStart).1 := by
  have hv : paired.Valid := by decide
  have hfiles : ∀ f ∈ [[97], [98], [99]], Bytes.isBlank f = false := by decide +kernel
  have hcalm : Move.cancel ∉ interleaved := by decide
  have hplan : Plan.batches paired [[97], [98], [99]] = [⟨0, [[97], [98]]⟩, ⟨1, [[99]]⟩] := by
    decide +kernel
  obtain ⟨-, hone⟩ := executeParallel_agrees hv hfiles picky hcalm picky_ready picky_ready
  have hagrees := hone 1 ⟨1, [[99]]⟩ (.processFailed (some 2) "") (by rw [hplan]; rfl)
    (by decide +kernel) fun j c hj hc => by
      rw [hplan] at hc
      match j with
      | 0 =>
        obtain rfl : ⟨0, [[97], [98]]⟩ = c := Option.some.inj hc
        exact ⟨[], by decide +kernel⟩
      | 1 => exact absurd rfl hj
      | j + 2 => simp at hc
  rw [hplan] at hagrees
  exact ⟨hv, hfiles, hcalm, picky_ready, hagrees⟩

end Executor

end LintDispatch
