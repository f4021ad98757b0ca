import EndpointIndex.Proofs.Index.Batching
import EndpointIndex.Proofs.Index.Race

/-!
# Updates and builds as runs of a race

An update goes through the steps of a race: it begins, dates its file, reads it, commits what it found
and ends. So does a build, batch by batch. A hook is called after a file was dated and before it is
read, and the listeners when all is over; if what they do are runs of the race, the whole operation is
one (`Race.comes_update`, `Race.comes_build`). So what holds in every race holds after every update and every build.
-/

namespace EndpointIndex

open IndexConfig

/-- Steps one after another. -/
inductive Race.Steps (c : IndexConfig) (r : Race) : Race → Prop
  | refl : Steps c r r
  | tail {r' r'' : Race} (h : Steps c r r') (hstep : Race.Step c r' r'') : Steps c r r''

/-- A hook during which the race goes on, as long as the files have a history of the given kind. When
it comes back, the looks that had been begun before are where they were, and so is the gate. -/
def Hook.Runs (hook : Hook) (c : IndexConfig) (allowed : List FileSystem → Prop) : Prop :=
  ∀ r file, allowed r.history → ∃ past,
    Race.Steps c r { r with session := hook file r.session, past := past } ∧
      (hook file r.session).index.gate = r.session.index.gate ∧
      allowed ((hook file r.session).files :: past)

/-- Listeners during whose calls the race goes on likewise. -/
def Reactions.Runs (reactions : Reactions) (c : IndexConfig) (allowed : List FileSystem → Prop) : Prop :=
  ∀ r listener count, allowed r.history → ∃ past,
    Race.Steps c r { r with session := (reactions listener count r.session).2, past := past } ∧
      (reactions listener count r.session).2.index.gate = r.session.index.gate ∧
      allowed ((reactions listener count r.session).2.files :: past)

namespace Race

namespace Steps

variable {c : IndexConfig} {r r' r'' : Race}

theorem trans (h : Steps c r r') (h' : Steps c r' r'') : Steps c r r'' := by
  induction h' with
  | refl => exact h
  | tail _ hstep ih => exact ih.tail hstep

theorem single (hstep : Step c r r') : Steps c r r' := .tail .refl hstep

theorem reachable (h : Steps c r r') (hr : Reachable c r) : Reachable c r' := by
  induction h with
  | refl => exact hr
  | tail _ hstep ih => exact ih.step hstep

end Steps

variable {c : IndexConfig} {hook : Hook} {reactions : Reactions} {allowed : List FileSystem → Prop}

/-- What a race comes to when an operation is over or has come to a certain point. -/
structure Comes (c : IndexConfig) (allowed : List FileSystem → Prop) (r r' : Race) : Prop where
  steps : Steps c r r'
  gate : r'.session.index.gate = r.session.index.gate
  allowed : allowed r'.history

theorem Comes.trans {r r' r'' : Race} (h : Comes c allowed r r') (h' : Comes c allowed r' r'') :
    Comes c allowed r r'' :=
  ⟨h.steps.trans h'.steps, h'.gate.trans h.gate, h'.allowed⟩

/-- A look is dated and read, unless the first settles it. -/
theorem comes_examine (hc : c.Faithful c.settings.usePrefilter) (hook_runs : hook.Runs c allowed)
    {r : Race} (hallowed : allowed r.history) (before after : List Look) {file : String}
    {known : Option CacheEntry} (hlooks : r.looks = before ++ ⟨file, known, .waiting⟩ :: after)
    {result : Except String Finding} {t : Session}
    (hexamine : r.session.examine c hook file known = (result, t)) :
    ∃ past stage, Comes c allowed r { r with
        session := t, past := past, looks := before ++ ⟨file, known, stage⟩ :: after } ∧
      ∀ f, result = .ok f → stage = .found f := by
  have hdate := Steps.single (Step.date (c := c) r before after _ hlooks rfl)
  rw [Session.examine_eq_date] at hexamine
  cases hfound : r.session.date file known with
  | inr f =>
    simp only [hfound, Stage.ofDate] at hdate hexamine
    cases hexamine
    refine ⟨r.past, .found f, ⟨hdate, rfl, hallowed⟩, ?_⟩
    rintro f' ⟨⟩
    rfl
  | inl time =>
    simp only [hfound, Stage.ofDate] at hdate hexamine
    obtain ⟨hresult, rfl⟩ := Prod.mk.inj hexamine
    -- the hook is called when the look has been dated
    let dated : Race := { r with
      session := r.session.record (.parsed file)
      looks := before ++ ⟨file, known, .dated time⟩ :: after }
    have hdated : Steps c r dated := hdate.tail (.note _ _ _ _)
    obtain ⟨past, hsteps, hgate, hafter⟩ := hook_runs dated file hallowed
    let opened : Race := { dated with session := r.session.opened hook file, past := past }
    have hopened : Steps c r opened := hdated.trans hsteps
    have hreads := hc (r.session.opened hook file).files file
    cases result with
    | error cause =>
      refine ⟨past, .dated time, ⟨hopened, hgate, hafter⟩, ?_⟩
      rintro f ⟨⟩
    | ok f =>
      refine ⟨past, .found f, ⟨?_, hgate, hafter⟩, ?_⟩
      · exact hopened.tail (.read opened before after _ rfl time rfl _ hreads f hresult)
      · rintro f' ⟨⟩
        rfl

/-- Telling somebody something is a note, and what is done then is a run. -/
theorem comes_tell (hreactions : reactions.Runs c allowed) {r : Race} (hallowed : allowed r.history)
    (count : Nat) (listener : String) :
    ∃ past, Comes c allowed r
      { r with session := r.session.tell reactions count listener, past := past } := by
  rw [Session.tell_eq]
  let noted : Race := { r with session := r.session.record (.notified listener count) }
  have hnoted : Steps c r noted := .single (.note r _ _ _)
  obtain ⟨past, hsteps, hgate, hafter⟩ := hreactions noted listener count hallowed
  exact ⟨past, hnoted.trans hsteps, hgate, hafter⟩

theorem comes_notify (hreactions : reactions.Runs c allowed) {r : Race} (hallowed : allowed r.history) :
    ∃ past, Comes c allowed r { r with session := r.session.notify reactions, past := past } := by
  unfold Session.notify
  generalize r.session.index.listeners = listeners
  generalize r.session.index.store.count = count
  induction listeners generalizing r with
  | nil => exact ⟨r.past, .refl, rfl, hallowed⟩
  | cons l listeners ih =>
    obtain ⟨past, htold⟩ := comes_tell hreactions hallowed count l
    obtain ⟨past', hrest⟩ := ih htold.allowed
    exact ⟨past', htold.trans hrest⟩

/-- An update is a run. -/
theorem comes_update (hc : c.Faithful c.settings.usePrefilter) (hook_runs : hook.Runs c allowed)
    (hreactions : reactions.Runs c allowed) {r : Race} (hallowed : allowed r.history) (path : String) :
    ∃ past, Comes c allowed r
      { r with session := (r.session.update c hook path reactions).2, past := past } := by
  unfold Session.update
  split
  · exact ⟨r.past, .refl, rfl, hallowed⟩
  · rename_i file hfile
    split
    · exact ⟨r.past, .refl, rfl, hallowed⟩
    · rename_i g hg
      obtain ⟨others, rfl⟩ := Gate.updating_of_beginUpdate? hg
      have hend := Gate.endUpdate_of_beginUpdate? hg
      -- the update begins, examines its file, enters the finding and ends
      let begun : Race := { r with
        session := r.session.setGate (.updating others)
        looks := ⟨file, none, .waiting⟩ :: r.looks }
      have hbegun : Steps c r begun := .single (.beginUpdate r _ file hg)
      split
      · rename_i cause t hexamine
        obtain ⟨past, stage, ⟨hsteps, hgate, hafter⟩, -⟩ :=
          comes_examine (r := begun) hc hook_runs hallowed [] r.looks rfl hexamine
        refine ⟨past, ?_, ?_, hafter⟩
        · exact ((hbegun.trans hsteps).tail (.fail _ [] r.looks _ rfl)).tail (.endUpdate _ others hgate)
        · exact (congrArg Gate.endUpdate hgate).trans hend
      · rename_i f t hexamine
        obtain ⟨past, stage, ⟨hsteps, hgate, hafter⟩, hstage⟩ :=
          comes_examine (r := begun) hc hook_runs hallowed [] r.looks rfl hexamine
        have hgate' := (Index.gate_commit t.index file f).trans hgate
        have hcommit := (hbegun.trans hsteps).tail (.commit _ [] r.looks _ rfl f (hstage f rfl))
        have hended := hcommit.tail (.endUpdate _ others hgate')
        have hcomes : Comes c allowed r { r with
            session := (t.commit file f).setGate (t.commit file f).index.gate.endUpdate
            past := past } :=
          ⟨hended, (congrArg Gate.endUpdate hgate').trans hend, hafter⟩
        obtain ⟨past', htold⟩ := comes_notify hreactions hcomes.allowed
        exact ⟨past', hcomes.trans htold⟩

/-! ## Hooks and listeners -/

theorem runs_none : Hook.none.Runs c allowed :=
  fun r _ hallowed => ⟨r.past, .refl, rfl, hallowed⟩

/-- Somebody writes or deletes files. -/
theorem runs_outside {change : FileSystem → FileSystem}
    (hchange : ∀ fs past, allowed (fs :: past) →
      Advances fs past (change fs) ∧ allowed (change fs :: fs :: past)) :
    Hook.Runs (fun _ s => { s with files := change s.files }) c allowed := by
  intro r file hallowed
  obtain ⟨hadvances, hafter⟩ := hchange r.session.files r.past hallowed
  exact ⟨r.history, .single (.outside r _ hadvances), rfl, hafter⟩

/-- Another file is updated in between, or the same one. -/
theorem runs_update (hc : c.Faithful c.settings.usePrefilter) (hook_runs : hook.Runs c allowed)
    (hreactions : reactions.Runs c allowed) (path : String) :
    Hook.Runs (fun _ s => (s.update c hook path reactions).2) c allowed := by
  intro r file hallowed
  obtain ⟨past, hcomes⟩ := comes_update hc hook_runs hreactions hallowed path
  exact ⟨past, hcomes.steps, hcomes.gate, hcomes.allowed⟩

/-- A listener may do what a hook may do, and raise or not. -/
theorem runs_reaction (hook_runs : hook.Runs c allowed) (result : String → Nat → Except String Unit) :
    Reactions.Runs (fun listener count s => (result listener count, hook listener s)) c allowed :=
  fun r listener _ hallowed => hook_runs r listener hallowed

/-! ## Builds -/

/-- The looks of a batch that has been opened. -/
def waiting (batch : List (String × Option CacheEntry)) : List Look :=
  batch.map fun p => ⟨p.1, p.2, .waiting⟩

/-- A batch is looked at file by file. If that fails, some of its looks are left over. -/
theorem comes_runBatch (hc : c.Faithful c.settings.usePrefilter) (hook_runs : hook.Runs c allowed)
    {batch : List (String × Option CacheEntry)} {r : Race} (hallowed : allowed r.history)
    (hlooks : r.looks = waiting batch) {tally : Tally} {result : Except String Tally} {t : Session}
    (hrun : Session.runBatch c hook batch tally r.session = (result, t)) :
    ∃ past looks, Comes c allowed r { r with session := t, past := past, looks := looks } ∧
      ∀ tally', result = .ok tally' → looks = [] := by
  induction batch generalizing r tally with
  | nil =>
    cases hrun
    exact ⟨r.past, r.looks, ⟨.refl, rfl, hallowed⟩, fun _ _ => hlooks⟩
  | cons p batch ih =>
    obtain ⟨file, known⟩ := p
    unfold Session.runBatch at hrun
    split at hrun
    · rename_i cause u hexamine
      cases hrun
      obtain ⟨past, stage, hcomes, -⟩ :=
        comes_examine hc hook_runs hallowed [] (waiting batch) hlooks hexamine
      exact ⟨past, _, hcomes, fun _ h => nomatch h⟩
    · rename_i f u hexamine
      obtain ⟨past, stage, hcomes, hstage⟩ :=
        comes_examine hc hook_runs hallowed [] (waiting batch) hlooks hexamine
      have hcommit : Comes c allowed r { r with
          session := u.commit file f, past := past, looks := waiting batch } := by
        refine ⟨hcomes.steps.tail (.commit _ [] (waiting batch) ⟨file, known, stage⟩ rfl f
          (hstage f rfl)), ?_, hcomes.allowed⟩
        exact (Index.gate_commit _ _ _).trans hcomes.gate
      obtain ⟨past', looks, hrest, hdone⟩ := ih hcommit.allowed rfl hrun
      exact ⟨past', looks, hcommit.trans hrest, hdone⟩

/-- What the cache knows of a batch is looked up when the batch is opened. -/
theorem comes_runBatches (hc : c.Faithful c.settings.usePrefilter) (hook_runs : hook.Runs c allowed)
    {batches : List (List String)} {r : Race} (hallowed : allowed r.history)
    (hgate : r.session.index.gate = .building) (hqueue : r.queue = batches) (hlooks : r.looks = [])
    {tally : Tally} {result : Except String (Tally × Bool)} {t : Session}
    (hrun : Session.runBatches c hook batches tally r.session = (result, t)) :
    ∃ past queue looks, Comes c allowed r ⟨t, past, queue, looks⟩ := by
  induction batches generalizing r tally with
  | nil =>
    cases hrun
    exact ⟨r.past, r.queue, r.looks, .refl, rfl, hallowed⟩
  | cons b batches ih =>
    unfold Session.runBatches at hrun
    split at hrun
    · cases hrun
      exact ⟨r.past, r.queue, r.looks, .refl, rfl, hallowed⟩
    · -- a batch is opened with all its files waiting, and is closed when none is left
      let opened : Race := { r with
        queue := batches
        looks := b.map fun file => ⟨file, r.session.index.snapshot? c.settings file, .waiting⟩ }
      have hopened : Comes c allowed r opened :=
        ⟨.single (.openBatch r b batches hgate hqueue hlooks), rfl, hallowed⟩
      have hwaiting : opened.looks =
          waiting (b.map fun file => (file, r.session.index.snapshot? c.settings file)) := by
        rw [waiting, List.map_map]
        rfl
      split at hrun
      · rename_i cause u hbatch
        cases hrun
        obtain ⟨past, looks, hcomes, -⟩ :=
          comes_runBatch (r := opened) hc hook_runs hallowed hwaiting hbatch
        exact ⟨past, _, looks, hopened.trans hcomes⟩
      · rename_i tally' u hbatch
        obtain ⟨past, looks, hcomes, hdone⟩ :=
          comes_runBatch (r := opened) hc hook_runs hallowed hwaiting hbatch
        have hclosed := hopened.trans hcomes
        obtain ⟨past', queue, looks', hrest⟩ :=
          ih hclosed.allowed (hclosed.gate.trans hgate) rfl (hdone tally' rfl) hrun
        exact ⟨past', queue, looks', hclosed.trans hrest⟩

theorem gate_saveCache (s : Session) (c : IndexConfig) (now : Int) :
    (s.saveCache c now).2.index.gate = s.index.gate := by
  rcases Session.index_saveCache s c now with hindex | hindex
  · rw [hindex]
  · rw [hindex]

/-- The body of a build: the batches and, at the end of a complete build, what is dropped. -/
theorem comes_buildBody (hc : c.Faithful c.settings.usePrefilter) (hook_runs : hook.Runs c allowed)
    {r : Race} (hallowed : allowed r.history) (hgate : r.session.index.gate = .building)
    (hlooks : r.looks = []) {files : Option (List String)}
    (hqueue : ∀ found, r.session.listed c files = .ok found →
      r.queue = Session.batches c.settings.batchSize found)
    {result : Except String Session.Progress} {t : Session}
    (hbody : r.session.buildBody c hook files = (result, t)) :
    ∃ past queue looks, Comes c allowed r ⟨t, past, queue, looks⟩ := by
  unfold Session.buildBody at hbody
  split at hbody
  · cases hbody
    exact ⟨r.past, r.queue, r.looks, .refl, rfl, hallowed⟩
  · rename_i found hlisted
    split at hbody
    · rename_i cause u hrun
      cases hbody
      exact comes_runBatches hc hook_runs hallowed hgate (hqueue found hlisted) hlooks hrun
    · rename_i tally cancelled u hrun
      obtain ⟨past, queue, looks, hcomes⟩ :=
        comes_runBatches hc hook_runs hallowed hgate (hqueue found hlisted) hlooks hrun
      split at hbody
      · cases hbody
        refine ⟨past, queue, looks, ?_, ?_, hcomes.allowed⟩
        · exact hcomes.steps.tail (.prune _ found (hcomes.gate.trans hgate))
        · exact (Index.gate_prune u.index found).trans hcomes.gate
      · cases hbody
        exact ⟨past, queue, looks, hcomes⟩

/-- A build is a run, if saving the artifact gives it a later time. -/
theorem comes_build (hc : c.Faithful c.settings.usePrefilter) (hook_runs : hook.Runs c allowed)
    (hreactions : reactions.Runs c allowed) {now : Int}
    (hsave : ∀ (u : Session) past, allowed (u.files :: past) →
      Advances u.files past (u.saveCache c now).2.files ∧
        allowed ((u.saveCache c now).2.files :: u.files :: past))
    {r : Race} (hallowed : allowed r.history) (hqueue : r.queue = []) (hlooks : r.looks = [])
    (files : Option (List String)) :
    ∃ past, Comes c allowed r
      { r with session := (r.session.build c hook now files reactions).2, past := past } := by
  by_cases hidle : r.session.index.gate = .idle
  · obtain ⟨found, hfound⟩ : ∃ found, ∀ found',
        (r.session.setGate .building).listed c files = .ok found' → found' = found := by
      cases (r.session.setGate .building).listed c files with
      | error cause => exact ⟨[], fun _ h => nomatch h⟩
      | ok found => exact ⟨found, fun _ h => (Except.ok.inj h).symm⟩
    let begun : Race := { r with
      session := r.session.setGate .building, queue := Session.batches c.settings.batchSize found }
    have hbegun : Steps c r begun := .single (.beginBuild r .building found (by rw [hidle]; rfl))
    rw [Session.build_of_idle hidle]
    dsimp only
    generalize hbody : (r.session.setGate .building).buildBody c hook files = body
    obtain ⟨result, t⟩ := body
    obtain ⟨past, queue, looks, hcomes⟩ := comes_buildBody (r := begun) hc hook_runs hallowed rfl hlooks
      (fun found' h => by rw [hfound found' h]) hbody
    -- the queue and the looks that are left over go with the build
    let saved : Session := (t.saveCache c now).2
    have hsaved : saved.index.gate = .building := (gate_saveCache t c now).trans hcomes.gate
    obtain ⟨hadvances, hafter⟩ := hsave t past hcomes.allowed
    have hended : Comes c allowed r
        { r with session := saved.setGate .idle, past := t.files :: past } := by
      have hsteps := ((hbegun.trans hcomes.steps).tail (.save _ now hcomes.gate hadvances)).tail
        (.endBuild _ hsaved)
      rw [← hqueue, ← hlooks] at hsteps
      exact ⟨hsteps, hidle.symm, hafter⟩
    dsimp only
    split
    · exact ⟨_, hended⟩
    · exact ⟨_, hended⟩
    · obtain ⟨past', htold⟩ := comes_notify hreactions hended.allowed
      exact ⟨past', hended.trans htold⟩
  · rw [Session.build_of_busy hidle]
    exact ⟨r.past, .refl, rfl, hallowed⟩

theorem Reachable.update {r : Race} (h : Reachable c r) (hc : c.Faithful c.settings.usePrefilter)
    (hook_runs : hook.Runs c allowed) (hreactions : reactions.Runs c allowed)
    (hallowed : allowed r.history) (path : String) :
    ∃ past, Reachable c
      { r with session := (r.session.update c hook path reactions).2, past := past } := by
  obtain ⟨past, hcomes⟩ := comes_update hc hook_runs hreactions hallowed path
  exact ⟨past, hcomes.steps.reachable h⟩

theorem Reachable.build {r : Race} (h : Reachable c r) (hc : c.Faithful c.settings.usePrefilter)
    (hook_runs : hook.Runs c allowed) (hreactions : reactions.Runs c allowed) {now : Int}
    (hsave : ∀ (u : Session) past, allowed (u.files :: past) →
      Advances u.files past (u.saveCache c now).2.files ∧
        allowed ((u.saveCache c now).2.files :: u.files :: past))
    (hallowed : allowed r.history) (hqueue : r.queue = []) (hlooks : r.looks = [])
    (files : Option (List String)) :
    ∃ past, Reachable c
      { r with session := (r.session.build c hook now files reactions).2, past := past } := by
  obtain ⟨past, hcomes⟩ := comes_build hc hook_runs hreactions hsave hallowed hqueue hlooks files
  exact ⟨past, hcomes.steps.reachable h⟩

end Race

end EndpointIndex
