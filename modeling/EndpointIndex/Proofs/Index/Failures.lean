import EndpointIndex.Proofs.FileSystem.Directories
import EndpointIndex.Proofs.Index.Restart

/-!
# How builds fail

Whatever goes wrong while a build looks at files is reported as a failed build, with its cause. Two steps
are outside of that: the artifact is saved when all else is done, and a rebuild deletes it before anything
else. What fails there is passed on as it is. Main fact: `Session.Leads.failure_iff`, which says for builds
and rebuilds when this happens; in a tree without links a build meets it exactly when a file stands where a
directory of the artifact should be. `Session.build_fails_otherwise` has one failure of each step.
-/

namespace EndpointIndex

/-- The artifact cannot be saved: its directory cannot be made, or it has no name. -/
def FileSystem.Unsavable (fs : FileSystem) (path : Path) (now : Int) (e : FileError) : Prop :=
  fs.makeDirectories path.parent (now * 1000000) = .error e ∨
    path.parts = [] ∧ e = .unnamed ∧ ∃ made, fs.makeDirectories path.parent (now * 1000000) = .ok made

/-- The artifact is there, or something is in its way, and it cannot be deleted. -/
def FileSystem.Undeletable (fs : FileSystem) (path : Path) (now : Int) (e : FileError) : Prop :=
  fs.remove path (now * 1000000) = .error e ∧ e ≠ .notFound

namespace FileSystem

/-- A tree without links in which a path starts at a directory. -/
def Grounded (fs : FileSystem) (path : Path) : Prop :=
  fs.Tidy ∧ ∃ es since, fs.get? (startOf fs.workDir path) = some (.directory es since)

/-- The artifact has no name, or a file stands where one of its directories should be. -/
def BarsSaving (fs : FileSystem) (path : Path) : Prop :=
  path.parts = [] ∨ fs.Blocked (startOf fs.workDir path) path.parent.parts

theorem Grounded.unsavable_iff {fs : FileSystem} {path : Path} (h : fs.Grounded path) (now : Int) :
    (∃ e, fs.Unsavable path now e) ↔ fs.BarsSaving path := by
  have hmade : (∃ made, fs.makeDirectories path.parent (now * 1000000) = .ok made) ↔
      ¬ fs.Blocked (startOf fs.workDir path) path.parent.parts :=
    h.1.makeDirectories_iff (p := path.parent) h.2
  constructor
  · rintro ⟨e, herror | ⟨hparts, -⟩⟩
    · right
      by_contra hfree
      obtain ⟨made, hmake⟩ := hmade.2 hfree
      rw [hmake] at herror
      cases herror
    · exact .inl hparts
  · intro hbars
    cases hmake : fs.makeDirectories path.parent (now * 1000000) with
    | error e => exact ⟨e, .inl hmake⟩
    | ok made =>
      have hparts := hbars.resolve_right (hmade.1 ⟨made, hmake⟩)
      exact ⟨.unnamed, .inr ⟨hparts, rfl, made, hmake⟩⟩

end FileSystem

namespace Cache

/-- What fails after the directory has been made is passed over. -/
theorem writeArtifact_eq_error_iff (cache : Cache) (fs : FileSystem) (path : Path) (e : FileError) :
    cache.writeArtifact fs path = .error e ↔ fs.Unsavable path cache.lastUpdate e := by
  unfold FileSystem.Unsavable
  cases hmake : fs.makeDirectories path.parent (cache.lastUpdate * 1000000) with
  | error e' =>
    rw [writeArtifact, hmake]
    simp [bind, Except.bind]
  | ok made =>
    by_cases hparts : path.parts = []
    · rw [writeArtifact, hmake]
      simp only [hparts, bind, Except.bind, List.isEmpty_nil, if_true]
      show Except.error FileError.unnamed = Except.error e ↔ _
      simp [eq_comm]
    · obtain ⟨fs', hwrite⟩ := writeArtifact_returns cache hparts hmake
      rw [hwrite]
      simp [hparts]

theorem deleteArtifact_eq_error_iff {cache : Cache} {path : Path} (hpath : cache.path = some path)
    (fs : FileSystem) (now : Int) (e : FileError) :
    cache.deleteArtifact fs now = .error e ↔ fs.Undeletable path now e := by
  unfold FileSystem.Undeletable
  rw [deleteArtifact, hpath]
  dsimp only
  split
  · rename_i hremove
    rw [hremove]
    simp [eq_comm]
  · rename_i hremove
    constructor
    · rintro herror
      refine ⟨herror, ?_⟩
      rintro rfl
      exact hremove herror
    · exact And.left

end Cache

namespace Session

/-- The session in which a build saves its cache. -/
def beforeSaving (s : Session) (c : IndexConfig) (hook : Hook) (files : Option (List String)) : Session :=
  ((s.setGate .building).buildBody c hook files).2

/-- The session in which a rebuild begins to build. -/
def forgotten (s : Session) (fs : FileSystem) : Session := { s with index := s.index.clear, files := fs }

variable {s : Session} {c : IndexConfig} {hook : Hook} {reactions : Reactions} {path : Path}

theorem saveCache_eq_error_iff (hpath : s.index.cache.path = some path) (now : Int) (e : FileError) :
    (s.saveCache c now).1 = .error e ↔ c.settings.enableCache = true ∧ s.files.Unsavable path now e := by
  rw [← Cache.writeArtifact_eq_error_iff ⟨some path, now, s.index.cache.entries⟩]
  unfold saveCache
  by_cases hcache : c.settings.enableCache = true
  · rw [if_pos hcache, Cache.save, hpath]
    simp only [hcache, true_and]
    split
    · rename_i hwrite
      simp [(Prod.mk.inj hwrite).1]
    · rename_i hwrite
      simp [(Prod.mk.inj hwrite).1]
  · rw [if_neg hcache]
    simp [hcache]

/-- A build that is alone has changed no file when it saves its cache. -/
theorem files_beforeSaving (hook_spares : hook.SparesBuilds) (hook_keeps : hook.KeepsFiles)
    (files : Option (List String)) : (s.beforeSaving c hook files).files = s.files := by
  have hlook : ∀ {t v file known r}, t.files = s.files ∧ t.index.gate = .building →
      Looks c hook t file known r v → v.files = s.files ∧ v.index.gate = .building := by
    rintro t v file known r ⟨hfiles, hgate⟩ hlook
    refine ⟨(hlook.files_eq hook_keeps hgate).trans hfiles, ?_⟩
    rw [hlook.index_eq hook_spares hgate]
    exact hgate
  have hlasts : LastsThroughBuild c hook fun t => t.files = s.files ∧ t.index.gate = .building := by
    constructor
    · exact fun _ ht hlooks => hlook ht hlooks
    · intro t v file known f _ ht hlooks
      obtain ⟨hfiles, hgate⟩ := hlook ht hlooks
      exact ⟨hfiles, (Index.gate_commit _ _ _).trans hgate⟩
    · exact fun found ht => ⟨ht.1, (Index.gate_prune _ _).trans ht.2⟩
  exact (hlasts.buildBody files (s := s.setGate .building) ⟨rfl, rfl⟩).1

/-- A build fails in one of two ways, and a failure to save hides the other one. -/
theorem build_eq_error_iff (hook_spares : hook.SparesBuilds) (hpath : s.index.cache.path = some path)
    (now : Int) (files : Option (List String)) (failure : IndexFailure) :
    (s.build c hook now files reactions).1 = .error failure ↔ s.index.gate = .idle ∧
      ((∃ e, failure = .files e ∧ c.settings.enableCache = true ∧
          (s.beforeSaving c hook files).files.Unsavable path now e) ∨
        ∃ cause, failure = .build c.root cause ∧
          ((s.setGate .building).buildBody c hook files).1 = .error cause ∧
          ∀ e, ¬ (c.settings.enableCache = true ∧
            (s.beforeSaving c hook files).files.Unsavable path now e)) := by
  by_cases hidle : s.index.gate = .idle
  · have hpath' : (s.beforeSaving c hook files).index.cache.path = some path :=
      buildBody_keeps (s := s.setGate .building) (c := c) (Index.invariant_cachePath (some path)) trivial
        hook_spares rfl hpath files
    simp only [hidle, true_and, ← saveCache_eq_error_iff (c := c) hpath' now]
    rw [build_of_idle hidle, beforeSaving]
    dsimp only
    -- saving is looked at first: whether the body has failed or not, its failure is what is passed on
    split
    · rename_i e hsaved
      rw [hsaved]
      simp [eq_comm]
    · rename_i cause hsaved hbody
      rw [hsaved, hbody]
      simp [eq_comm]
    · rename_i p hsaved hbody
      rw [hsaved, hbody]
      simp
  · rw [build_of_busy hidle]
    simp [hidle]

theorem rebuild_eq_error_iff (hpath : s.index.cache.path = some path)
    (now : Int) (failure : IndexFailure) :
    (s.rebuild c hook now reactions).1 = .error failure ↔ s.index.gate = .idle ∧
      ((∃ e, failure = .files e ∧ s.files.Undeletable path now e) ∨
        ∃ fs, s.index.cache.deleteArtifact s.files now = .ok fs ∧
          ((s.forgotten fs).build c hook now none reactions).1 = .error failure) := by
  by_cases hidle : s.index.gate = .idle
  · simp only [hidle, true_and, ← Cache.deleteArtifact_eq_error_iff hpath]
    rw [rebuild, if_pos hidle]
    dsimp only
    -- what is forgotten is what the cache holds, not where its artifact is
    have hsame : s.index.clear.cache.deleteArtifact s.files now = s.index.cache.deleteArtifact s.files now := rfl
    rw [hsame]
    cases hdelete : s.index.cache.deleteArtifact s.files now with
    | error e => simp [eq_comm]
    | ok fs => simp [forgotten]
  · rw [rebuild, if_neg hidle]
    simp [hidle]

/-- After any operations on a new index, builds and rebuilds return a report, or they fail as builds, or
they fail with an error from saving or deleting the artifact. A build meets such an error exactly if it is
admitted, uses its cache and finds at its end that the artifact cannot be saved; in a tree without links
that is so if the artifact has no name or a file stands where one of its directories should be. A rebuild
meets one exactly if it is admitted and the artifact cannot be deleted, or can, and the build that follows
meets one. -/
theorem Leads.failure_iff {fs : FileSystem} {home : Option Path} (h : Leads (start c fs home) s)
    (inner : ∀ file u, Leads u (hook file u)) (reactions : Reactions) (now : Int) (files : Option (List String)) :
    (∀ failure, (s.build c hook now files reactions).1 = .error failure ∨
        (s.rebuild c hook now reactions).1 = .error failure →
      (∃ cause, failure = .build c.root cause) ∨ ∃ e, failure = .files e) ∧
    (∀ e, (s.build c hook now files reactions).1 = .error (.files e) ↔ s.index.gate = .idle ∧
      c.settings.enableCache = true ∧ (s.beforeSaving c hook files).files.Unsavable c.cachePath now e) ∧
    ((s.beforeSaving c hook files).files.Grounded c.cachePath →
      ((∃ e, (s.build c hook now files reactions).1 = .error (.files e)) ↔ s.index.gate = .idle ∧
        c.settings.enableCache = true ∧ (s.beforeSaving c hook files).files.BarsSaving c.cachePath)) ∧
    ∀ e, (s.rebuild c hook now reactions).1 = .error (.files e) ↔ s.index.gate = .idle ∧
      (s.files.Undeletable c.cachePath now e ∨ ∃ fs, s.index.cache.deleteArtifact s.files now = .ok fs ∧
        c.settings.enableCache = true ∧
        ((s.forgotten fs).beforeSaving c hook none).files.Unsavable c.cachePath now e) := by
  have hpath := h.cachePath
  have hook_spares := sparesBuilds_of_leads inner
  -- both are said of any session, as a rebuild builds in one that has forgotten what it knew
  have hkinds : ∀ (u : Session) (files : Option (List String)) (failure : IndexFailure),
      u.index.cache.path = some c.cachePath → (u.build c hook now files reactions).1 = .error failure →
      (∃ cause, failure = .build c.root cause) ∨ ∃ e, failure = .files e := by
    intro u files failure hu hfailure
    rcases (build_eq_error_iff hook_spares hu now files failure).1 hfailure with
      ⟨-, ⟨e, rfl, -⟩ | ⟨cause, rfl, -⟩⟩
    · exact .inr ⟨e, rfl⟩
    · exact .inl ⟨cause, rfl⟩
  have hfiles : ∀ (u : Session) (files : Option (List String)) (e : FileError),
      u.index.cache.path = some c.cachePath →
      ((u.build c hook now files reactions).1 = .error (.files e) ↔ u.index.gate = .idle ∧
        c.settings.enableCache = true ∧
        (u.beforeSaving c hook files).files.Unsavable c.cachePath now e) := by
    intro u files e hu
    rw [build_eq_error_iff hook_spares hu now files]
    simp
  refine ⟨?_, fun e => hfiles s files e hpath, ?_, ?_⟩
  · rintro failure (hfailure | hfailure)
    · exact hkinds s files failure hpath hfailure
    · rcases (rebuild_eq_error_iff hpath now failure).1 hfailure with
        ⟨-, ⟨e, rfl, -⟩ | ⟨fs', -, hagain⟩⟩
      · exact .inr ⟨e, rfl⟩
      · exact hkinds (s.forgotten fs') none failure hpath hagain
  · intro hgrounded
    rw [← hgrounded.unsavable_iff now]
    simp only [hfiles s files _ hpath, exists_and_left]
  · intro e
    rw [rebuild_eq_error_iff hpath now]
    constructor
    · rintro ⟨hidle, ⟨e', he', hundeletable⟩ | ⟨fs', hdelete, hagain⟩⟩
      · cases he'
        exact ⟨hidle, .inl hundeletable⟩
      · exact ⟨hidle, .inr ⟨fs', hdelete, ((hfiles (s.forgotten fs') none e hpath).1 hagain).2⟩⟩
    · rintro ⟨hidle, hundeletable | ⟨fs', hdelete, hagain⟩⟩
      · exact ⟨hidle, .inl ⟨e, rfl, hundeletable⟩⟩
      · exact ⟨hidle, .inr ⟨fs', hdelete, (hfiles (s.forgotten fs') none e hpath).2 ⟨hidle, hagain⟩⟩⟩

/-- The sample with a cache. -/
def savingConfig : IndexConfig := { sampleConfig with settings := Settings.defaults }

/-- One file to index, and one where the directory of the artifact should be. -/
def obstructedFiles : FileSystem :=
  ⟨.directory [("r", .directory [("A.java", .file [] 5), (".routefinder", .file [] 5)] 0)] 0, []⟩

/-- A directory in the place of the artifact. -/
def occupiedFiles : FileSystem :=
  ⟨.directory [("r", .directory [("A.java", .file [] 5),
    (".routefinder", .directory [("endpoints-cache.json", .directory [] 0)] 0)] 0)] 0, []⟩

theorem failure_iff_obstructed :
    ∃ e, ((start savingConfig obstructedFiles).build savingConfig Hook.none 0 none).1 =
      .error (.files e) := by
  have hfiles : ((start savingConfig obstructedFiles).beforeSaving savingConfig Hook.none none).files =
      obstructedFiles := files_beforeSaving Hook.sparesBuilds_none Hook.keepsFiles_none none
  obtain ⟨-, -, hiff, -⟩ :=
    Leads.failure_iff (.refl (start savingConfig obstructedFiles)) leads_none Reactions.none 0 none
  rw [hfiles] at hiff
  have htidy : obstructedFiles.Tidy := by
    show obstructedFiles.tree.tidy = true
    decide
  refine (hiff ⟨htidy, _, _, rfl⟩).2 ⟨by cbv, by cbv, .inr ⟨["r", ".routefinder"], ?_⟩⟩
  refine ⟨⟨[], ?_⟩, [], 5, ?_⟩
  · cbv
  · cbv

/-- Failures of another kind: a file stands where the directory of the artifact should be, and a
directory where the artifact should be. -/
theorem build_fails_otherwise :
    ((start savingConfig obstructedFiles).build savingConfig Hook.none 0 none).1 =
        .error (.files .alreadyThere) ∧
      ((start savingConfig occupiedFiles).rebuild savingConfig Hook.none 0).1 =
        .error (.files .isDirectory) := by
  constructor
  · rw [build_eq_error_iff Hook.sparesBuilds_none (cachePath_start savingConfig obstructedFiles none)]
    refine ⟨gate_start _ _ _, .inl ⟨.alreadyThere, rfl, rfl, .inl ?_⟩⟩
    rw [files_beforeSaving Hook.sparesBuilds_none Hook.keepsFiles_none]
    cbv
  · cbv

end Session

end EndpointIndex
