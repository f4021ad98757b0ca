import EndpointIndex.Proofs.Index.Batching
import EndpointIndex.Proofs.Index.Keeps

/-!
# Indexing step by step

Files are written, touched, moved and deleted, indexes are made, updated, stopped and made again from
the artifact, in any order (`World.Step`). Every entry of every cache and of every artifact goes back
to something that was read (`World.Sound`). Hence a build over the listed files that comes to its end
answers for each of them what is in the file now, and answers nothing for any other file: what an
index answers that starts from nothing (`World.build_eq_scratch`).
-/

namespace EndpointIndex

open IndexConfig

/-- What the indexes of a world share. -/
structure Setup where
  cachePath : Path
  /-- Where relative paths start. -/
  workDir : Location
  prefilter : Bool

/-- Where the artifact stands. -/
def Setup.place (u : Setup) : Location :=
  FileSystem.walk (FileSystem.startOf u.workDir u.cachePath) u.cachePath.parts

/-- An index and what it was made with. -/
structure Manager where
  config : IndexConfig
  index : Index

/-- The files, as they are and as they were, and the indexes over them. -/
structure World where
  files : FileSystem
  /-- The latest first. -/
  past : List FileSystem
  managers : List Manager

namespace World

def history (w : World) : List FileSystem := w.files :: w.past

/-- An operation of a manager begins. -/
def session (w : World) (m : Manager) (stop : Bool) (home : Option Path := none) : Session :=
  ⟨w.files, m.index, stop, [], home⟩

/-- What may happen. Files change in any way, but nobody else writes an artifact: what can be read in
its place is something that stood there before. Managers share the path of the artifact and the
prefilter, and nothing else. Reading may fail, a build may be stopped, and listeners may come, go and raise. -/
inductive Step (u : Setup) : World → World → Prop
  | event (w : World) (fs : FileSystem) (htidy : fs.Tidy) (hdir : fs.workDir = u.workDir)
      (hartifact : ∀ content a, fs.Holds u.place content →
        Artifact.decode u.cachePath content = .ok a → ∃ g ∈ w.history, g.Holds u.place content) :
      Step u w { w with files := fs, past := w.history }
  | create (w : World) (c : IndexConfig) (hpath : c.cachePath = u.cachePath)
      (hprefilter : c.settings.usePrefilter = u.prefilter) :
      Step u w { w with managers := w.managers ++ [⟨c, .new c w.files⟩] }
  | register (w : World) (before after : List Manager) (m : Manager)
      (hm : w.managers = before ++ m :: after) (listeners : List String) :
      Step u w
        { w with managers := before ++ ⟨m.config, { m.index with listeners := listeners }⟩ :: after }
  | operate (w : World) (before after : List Manager) (m : Manager)
      (hm : w.managers = before ++ m :: after) (c : IndexConfig)
      (hsettings : c.settings = m.config.settings) (hc : c.Faithful u.prefilter) (hook : Hook)
      (hook_quiet : hook.Quiet) (reactions : Reactions) (hreactions : reactions.Quiet) (stop : Bool)
      (home : Option Path) (op : Operation) :
      Step u w
        { files := ((w.session m stop home).perform c hook op reactions).files
          past := (w.session m stop home).through op ++ w.past
          managers :=
            before ++ ⟨m.config, ((w.session m stop home).perform c hook op reactions).index⟩ :: after }

/-- The worlds that steps lead to from one without managers and without a readable artifact. -/
inductive Reachable (u : Setup) : World → Prop
  | start (fs : FileSystem) (htidy : fs.Tidy) (hdir : fs.workDir = u.workDir)
      (hartifact : ∀ content a, fs.Holds u.place content → Artifact.decode u.cachePath content ≠ .ok a) :
      Reachable u ⟨fs, [], []⟩
  | step {w w' : World} (h : Reachable u w) (hstep : Step u w w') : Reachable u w'

/-- What holds throughout. -/
structure Sound (u : Setup) (w : World) : Prop where
  tidy : w.files.Tidy
  workDir : w.files.workDir = u.workDir
  managers : ∀ m ∈ w.managers, m.index.gate = .idle ∧ m.index.cache.path = some u.cachePath ∧
    AllSighted u.prefilter w.history m.index.cache.entries
  artifacts : ∀ g ∈ w.history, ∀ content a, g.Holds u.place content →
    Artifact.decode u.cachePath content = .ok a → AllSighted u.prefilter w.history a.entries

theorem Sound.ready {u : Setup} {w : World} (h : w.Sound u) {m : Manager} (hm : m ∈ w.managers)
    (stop : Bool) (home : Option Path) :
    (w.session m stop home).Ready u.prefilter u.cachePath
      ((w.session m stop home).files :: w.past) := by
  obtain ⟨hidle, hpath, hentries⟩ := h.managers m hm
  exact ⟨h.tidy, hidle, hpath, hentries⟩

/-- An artifact that can be read stands in its place. -/
theorem holds_of_read {u : Setup} {fs : FileSystem} (htidy : fs.Tidy) (hdir : fs.workDir = u.workDir)
    {a : Artifact} (hread : Artifact.read fs u.cachePath = .ok a) :
    ∃ content, fs.Holds u.place content ∧ Artifact.decode u.cachePath content = .ok a := by
  rw [Artifact.read_eq_decode] at hread
  split at hread
  · cases hread
  · rename_i bytes hbytes
    refine ⟨bytes, ?_, hread⟩
    unfold FileSystem.read at hbytes
    split at hbytes
    · rename_i l content time hfind
      cases hbytes
      obtain ⟨hl, hfile⟩ := htidy.find_eq_spelled hfind
      refine ⟨time, ?_⟩
      rw [hl, FileSystem.spelled, hdir] at hfile
      exact hfile
    · cases hbytes
    · cases hbytes

/-- A new index takes over what the artifact holds, or nothing. -/
theorem sighted_new {u : Setup} {w : World} (h : w.Sound u) {c : IndexConfig}
    (hpath : c.cachePath = u.cachePath) :
    (Index.new c w.files).gate = .idle ∧ (Index.new c w.files).cache.path = some u.cachePath ∧
      AllSighted u.prefilter w.history (Index.new c w.files).cache.entries := by
  unfold Index.new
  rw [hpath]
  dsimp only
  split
  · simp only [Index.restore, Cache.load, Cache.new]
    cases hread : Artifact.read w.files u.cachePath with
    | error e => exact ⟨trivial, rfl, AllSighted.empty⟩
    | ok a =>
      obtain ⟨content, hholds, hdecode⟩ := holds_of_read h.tidy h.workDir hread
      exact ⟨trivial, rfl, h.artifacts w.files List.mem_cons_self content a hholds hdecode⟩
  · exact ⟨rfl, rfl, AllSighted.empty⟩

theorem holds_of_through {u : Setup} {s : Session} (htidy : s.files.Tidy)
    (hpath : s.index.cache.path = some u.cachePath) (op : Operation) {g : FileSystem}
    (hg : g ∈ s.through op) {content : List UInt8} (h : g.Holds u.place content) :
    s.files.Holds u.place content := by
  unfold Session.through at hg
  split at hg
  · split at hg
    · rename_i fs hdelete
      rcases List.mem_cons.1 hg with rfl | hg
      · have hchanges : s.files.Changes _ _ fun _ => False :=
          Cache.changes_deleteArtifact htidy hpath hdelete
        exact (hchanges.holds _ _ h).resolve_right id
      · rw [List.mem_singleton.1 hg] at h
        exact h
    · rw [List.mem_singleton.1 hg] at h
      exact h
  · rw [List.mem_singleton.1 hg] at h
    exact h

theorem mem_through (s : Session) (op : Operation) : s.files ∈ s.through op := by
  unfold Session.through
  split
  · split
    · exact List.mem_cons_of_mem _ List.mem_cons_self
    · exact List.mem_cons_self
  · exact List.mem_cons_self

namespace Sound

variable {u : Setup} {w : World}

/-- An artifact that can be read stood there before the files changed. -/
theorem event (h : w.Sound u) {fs : FileSystem} (htidy : fs.Tidy) (hdir : fs.workDir = u.workDir)
    (hartifact : ∀ content a, fs.Holds u.place content →
      Artifact.decode u.cachePath content = .ok a → ∃ g ∈ w.history, g.Holds u.place content) :
    Sound u { w with files := fs, past := w.history } := by
  refine ⟨htidy, hdir, ?_, ?_⟩
  · intro m hm
    obtain ⟨hidle, hpath, hentries⟩ := h.managers m hm
    exact ⟨hidle, hpath, hentries.mono (List.subset_cons_self _ _)⟩
  · intro g hg content a hholds hdecode
    have hbefore : ∃ g' ∈ w.history, g'.Holds u.place content := by
      rcases List.mem_cons.1 hg with rfl | hg
      · exact hartifact content a hholds hdecode
      · exact ⟨g, hg, hholds⟩
    obtain ⟨g', hg', hholds'⟩ := hbefore
    exact (h.artifacts g' hg' content a hholds' hdecode).mono (List.subset_cons_self _ _)

theorem create (h : w.Sound u) {c : IndexConfig} (hpath : c.cachePath = u.cachePath) :
    Sound u { w with managers := w.managers ++ [⟨c, .new c w.files⟩] } := by
  refine ⟨h.tidy, h.workDir, ?_, h.artifacts⟩
  intro m hm
  rcases List.mem_append.1 hm with hm | hm
  · exact h.managers m hm
  · rw [List.mem_singleton.1 hm]
    exact sighted_new h hpath

theorem register (h : w.Sound u) {before after : List Manager} {m : Manager}
    (hm : w.managers = before ++ m :: after) (listeners : List String) :
    Sound u
      { w with managers := before ++ ⟨m.config, { m.index with listeners := listeners }⟩ :: after } := by
  have hmanagers := h.managers
  rw [hm, List.forall_mem_append, List.forall_mem_cons] at hmanagers
  exact ⟨h.tidy, h.workDir,
    List.forall_mem_append.2 ⟨hmanagers.1, List.forall_mem_cons.2 hmanagers.2⟩, h.artifacts⟩

section Operate

variable {m : Manager} {c : IndexConfig} {hook : Hook} {reactions : Reactions}

/-- What stands in the artifact's place after an operation was there before, or the operation wrote it. -/
theorem held_or_written (h : w.Sound u) (hm : m ∈ w.managers) (hc : c.Faithful u.prefilter)
    (hook_quiet : hook.Quiet) (hreactions : reactions.Quiet) {stop : Bool} {home : Option Path}
    {op : Operation} {g : FileSystem}
    (hg : g ∈ ((w.session m stop home).perform c hook op reactions).files ::
      ((w.session m stop home).through op ++ w.past)) {content : List UInt8} (hholds : g.Holds u.place content) :
    (∃ g' ∈ w.history, g'.Holds u.place content) ∨
      Session.SightedPayload u.prefilter ((w.session m stop home).through op ++ w.past) content := by
  have hkeeps := Session.keeps_perform (h.ready hm stop home) hc hook_quiet hreactions op
  rcases List.mem_cons.1 hg with rfl | hg
  · exact (hkeeps.files.holds _ content hholds).imp (fun hbefore => ⟨_, List.mem_cons_self, hbefore⟩) id
  · left
    rcases List.mem_append.1 hg with hg | hg
    · exact ⟨_, List.mem_cons_self,
        holds_of_through (s := w.session m stop home) h.tidy (h.managers m hm).2.1 op hg hholds⟩
    · exact ⟨g, List.mem_cons_of_mem _ hg, hholds⟩

theorem operate (h : w.Sound u) {before after : List Manager} (hm : w.managers = before ++ m :: after)
    (hc : c.Faithful u.prefilter) (hook_quiet : hook.Quiet) (hreactions : reactions.Quiet)
    (stop : Bool) (home : Option Path) (op : Operation) :
    Sound u
      { files := ((w.session m stop home).perform c hook op reactions).files
        past := (w.session m stop home).through op ++ w.past
        managers :=
          before ++ ⟨m.config, ((w.session m stop home).perform c hook op reactions).index⟩ :: after } := by
  have hmem : m ∈ w.managers := by
    rw [hm]
    exact List.mem_append_right _ List.mem_cons_self
  have hkeeps := Session.keeps_perform (h.ready hmem stop home) hc hook_quiet hreactions op
  -- the files that the operation sees come between the files after it and those before it
  have hthrough : w.history ⊆ (w.session m stop home).through op ++ w.past := by
    intro g hg
    rcases List.mem_cons.1 hg with rfl | hg
    · exact List.mem_append_left _ (mem_through (w.session m stop home) op)
    · exact List.mem_append_right _ hg
  have hlater : (w.session m stop home).through op ++ w.past ⊆
      ((w.session m stop home).perform c hook op reactions).files :: ((w.session m stop home).through op ++ w.past) :=
    List.subset_cons_self _ _
  have hhistory := List.Subset.trans hthrough hlater
  have hothers : ∀ m' ∈ w.managers, m'.index.gate = .idle ∧ m'.index.cache.path = some u.cachePath ∧
      AllSighted u.prefilter
        (((w.session m stop home).perform c hook op reactions).files :: ((w.session m stop home).through op ++ w.past))
        m'.index.cache.entries := by
    intro m' hm'
    obtain ⟨hidle, hpath, hentries⟩ := h.managers m' hm'
    exact ⟨hidle, hpath, hentries.mono hhistory⟩
  rw [hm] at hothers
  refine ⟨hkeeps.files.tidy, hkeeps.files.workDir.trans h.workDir, ?_, ?_⟩
  · intro m' hm'
    rcases List.mem_append.1 hm' with hbefore | hm'
    · exact hothers m' (List.mem_append_left _ hbefore)
    · rcases List.mem_cons.1 hm' with rfl | hafter
      · exact ⟨hkeeps.idle, hkeeps.cachePath, hkeeps.entries.mono hlater⟩
      · exact hothers m' (List.mem_append_right _ (List.mem_cons_of_mem _ hafter))
  · intro g hg content a hholds hdecode
    rcases h.held_or_written hmem hc hook_quiet hreactions hg hholds with ⟨g', hg', hbefore⟩ | ⟨cache, rfl, hentries⟩
    · exact (h.artifacts g' hg' content a hbefore hdecode).mono hhistory
    · -- what was written is read as it was written
      rw [Cache.decode_payload] at hdecode
      split at hdecode
      · cases hdecode
        exact hentries.mono hlater
      · cases hdecode

end Operate

end Sound

/-- One step of any kind keeps what holds throughout. -/
theorem Step.sound {u : Setup} {w w' : World} (hstep : Step u w w') (h : w.Sound u) : w'.Sound u := by
  cases hstep with
  | event fs htidy hdir hartifact => exact h.event htidy hdir hartifact
  | create c hpath hprefilter => exact h.create hpath
  | register before after m hm listeners => exact h.register hm listeners
  | operate before after m hm c hsettings hc hook hook_quiet reactions hreactions stop home op =>
    exact h.operate hm hc hook_quiet hreactions stop home op

theorem Reachable.sound {u : Setup} {w : World} (h : Reachable u w) : w.Sound u := by
  induction h with
  | start fs htidy hdir hartifact =>
    refine ⟨htidy, hdir, by simp, ?_⟩
    intro g hg content a hholds hdecode
    rw [List.mem_singleton.1 hg] at hholds
    exact absurd hdecode (hartifact content a hholds)
  | step h hstep ih => exact hstep.sound ih

end World

/-! ## A build that comes to its end -/

/-- What an index shows of a file after a finding. -/
def Finding.shown (f : Finding) : Option (List Endpoint) :=
  if f.endpoints = [] then none else some f.endpoints

namespace Index

theorem store_get?_commit (i : Index) (file : String) (f : Finding) (g : String) :
    (i.commit file f).store.get? g = if g = file then f.shown else i.store.get? g := by
  cases f with
  | missing => exact Store.get?_remove i.store file g
  | cached es => exact Store.get?_set i.store file g es
  | parsed time es => exact Store.get?_set i.store file g es

theorem store_get?_enterAll_of_not_mem (i : Index) (verdicts : String → Except String Finding)
    {files : List String} {g : String} (h : g ∉ files) :
    (i.enterAll verdicts files).store.get? g = i.store.get? g := by
  induction files generalizing i with
  | nil => rfl
  | cons file files ih =>
    rw [List.mem_cons, not_or] at h
    rw [enterAll, List.foldl_cons, ← enterAll, ih _ h.2]
    cases verdicts file with
    | error cause => rfl
    | ok f => rw [enter, store_get?_commit, if_neg h.1]

theorem cachePath_enterAll (i : Index) (verdicts : String → Except String Finding) (files : List String) :
    (i.enterAll verdicts files).cache.path = i.cache.path := by
  induction files generalizing i with
  | nil => rfl
  | cons file files ih =>
    rw [enterAll, List.foldl_cons, ← enterAll, ih]
    cases verdicts file with
    | error cause => rfl
    | ok f => exact cachePath_commit i file f

/-- Each file is shown as it was found. -/
theorem store_get?_enterAll (i : Index) (verdicts : String → Except String Finding)
    {files : List String} (hdiffer : files.Nodup) {g : String} (hg : g ∈ files) {f : Finding}
    (hf : verdicts g = .ok f) : (i.enterAll verdicts files).store.get? g = f.shown := by
  induction files generalizing i with
  | nil => cases hg
  | cons file files ih =>
    obtain ⟨hnew, hdiffer⟩ := List.nodup_cons.1 hdiffer
    rw [enterAll, List.foldl_cons, ← enterAll]
    by_cases hgf : g = file
    · -- nothing that follows is about this file again
      subst hgf
      rw [store_get?_enterAll_of_not_mem _ _ hnew, hf, enter, store_get?_commit, if_pos rfl]
    · exact ih _ hdiffer ((List.mem_cons.1 hg).resolve_left hgf)

end Index

namespace IndexConfig

/-- What is to be answered for a file: its endpoints, if it has any. -/
def answer (prefilter : Bool) (fs : FileSystem) (file : String) : Option (List Endpoint) :=
  match parseWith prefilter fs file with
  | .endpoints (e :: es) => some (e :: es)
  | _ => none

theorem answer_eq {prefilter : Bool} {fs : FileSystem} {file : String} {es : List Endpoint}
    (h : parseWith prefilter fs file = .endpoints es) :
    answer prefilter fs file = if es = [] then none else some es := by
  rw [answer, h]
  cases es <;> rfl

/-- The standard readers read every content. -/
theorem parseContent_eq_endpoints (prefilter : Bool) (file : String) (content : List UInt8) :
    ∃ es, parseContent prefilter file content = .endpoints es := by
  obtain ⟨es, hes⟩ := ReadingPlan.endpoints_standard prefilter file (Text.Utf8.decodeLossy content)
  exact ⟨es, by rw [parseContent, ReadingPlan.endpointsOfBytes, hes]⟩

/-- The same without a cache. -/
def uncached (c : IndexConfig) : IndexConfig :=
  { c with settings := { c.settings with enableCache := false } }

end IndexConfig

namespace Session

variable {s : Session} {c : IndexConfig} {hook : Hook} {reactions : Reactions} {prefilter : Bool}
  {past : List FileSystem}

/-- A look at a file comes to what the file holds, whether it is read or taken from a cache all of
whose entries have been seen. -/
theorem verdict_of_sighted (hparse : c.parse = parseWith prefilter)
    (hentries : AllSighted prefilter (s.files :: past) s.index.cache.entries) {file : String}
    (horder : Chronological (s.files :: past) file) (hfile : (s.files.fileAt file).isSome) :
    ∃ f, s.verdict c file = .ok f ∧ f.shown = answer prefilter s.files file := by
  obtain ⟨⟨content, time⟩, hat⟩ := Option.isSome_iff_exists.1 hfile
  have hm := modified?_of_fileAt hat
  obtain ⟨t, hlook⟩ : ∃ t, Looks c Hook.none s file (s.index.snapshot? c.settings file)
      (s.verdict c file) t := ⟨_, examine_looks s c Hook.none file _⟩
  generalize hr : s.verdict c file = r at hlook
  cases hlook with
  | gone hgone =>
    rw [hm] at hgone
    cases hgone
  | fresh dated e hdated hknown hfresh =>
    -- an entry that is up to date has what the file holds, because it has been seen
    rw [hm] at hdated
    cases hdated
    have hentry : s.index.cache.get? file = some e := by
      unfold Index.snapshot? at hknown
      split at hknown
      · exact hknown
      · cases hknown
    have hle : time ≤ e.lastModified := by simpa [CacheEntry.isFresh] using hfresh
    have hes := (hentries file e hentry).parseWith_eq horder hat hle
    exact ⟨_, rfl, (answer_eq hes).symm⟩
  | read dated hdated hknown =>
    have hfiles : (s.opened Hook.none file).files = s.files := rfl
    obtain ⟨es, hes⟩ := parseContent_eq_endpoints prefilter file content
    rw [← parseWith_of_fileAt hat] at hes
    refine ⟨.parsed dated es, ?_, (answer_eq hes).symm⟩
    rw [hfiles, hparse, hes]
    rfl

/-- A build that is not stopped has looked at all its candidates. -/
theorem course_of_uncancelled (hidle : s.index.gate = .idle) (hook_spares : hook.SparesBuilds)
    (hook_keeps : hook.KeepsFiles) (hspares : reactions.SparesIndex) {now : Int}
    {files : Option (List String)} {report : BuildReport} {t : Session}
    (hbuild : s.build c hook now files reactions = (.ok report, t))
    (hcancelled : report.cancelled = false) :
    ∃ found, s.listed c files = .ok found ∧ Course s c hook found found.length .complete := by
  cases hlisted : s.listed c files with
  | error cause =>
    obtain ⟨⟨failure, hfailure⟩, -⟩ := @build_of_unlisted s c hook hidle files cause hlisted now reactions
    rw [hbuild] at hfailure
    cases hfailure
  | ok found =>
    obtain ⟨n, e, -, hcourse, -⟩ :=
      runBatches_course (s := s) (c := c) hook_spares hook_keeps (listed_nodup hlisted)
    have hbuilds := build_of_course hidle hook_spares hook_keeps hlisted hcourse now hspares
    rw [hbuild] at hbuilds
    refine ⟨found, rfl, ?_⟩
    -- the other courses do not return an uncancelled report
    cases e with
    | complete =>
      cases hcourse with
      | complete hok hgo => exact .complete hok hgo
    | stopped =>
      have hstopped := (hbuilds.cancelled report rfl).2 rfl
      rw [hcancelled] at hstopped
      cases hstopped
    | failed cause =>
      obtain ⟨failure, hfailure⟩ := hbuilds.failed cause rfl
      cases hfailure

/-- A complete build over the listed files shows each of them as it was found, and nothing else. -/
theorem store_of_verdicts (hidle : s.index.gate = .idle) (hook_spares : hook.SparesBuilds)
    (hook_keeps : hook.KeepsFiles) (hspares : reactions.SparesIndex) {found : List String}
    (hlisted : s.listed c none = .ok found) {now : Int} {report : BuildReport} {t : Session}
    (hbuild : s.build c hook now none reactions = (.ok report, t)) (hcancelled : report.cancelled = false) :
    (∀ file ∈ found, ∀ f, s.verdict c file = .ok f → t.index.store.get? file = f.shown) ∧
      ∀ file, file ∉ found → t.index.store.get? file = none := by
  obtain ⟨found', hlisted', hcourse⟩ :=
    course_of_uncancelled hidle hook_spares hook_keeps hspares hbuild hcancelled
  obtain rfl : found = found' := Except.ok.inj (hlisted.symm.trans hlisted')
  have hbuilds := build_of_course hidle hook_spares hook_keeps hlisted hcourse now hspares
  -- the build is complete, so of what was in the store only the files found are left
  have hget : ∀ file, t.index.store.get? file =
      if found.contains file then (s.oneByOne c found).store.get? file else none := by
    intro file
    have hstore := hbuilds.store
    rw [hbuild] at hstore
    rw [hstore, leftBy, if_pos ⟨rfl, rfl⟩, List.take_length]
    exact FileMap.get?_restrict _ _ _
  constructor
  · intro file hmem f hf
    rw [hget, if_pos (List.contains_iff_mem.2 hmem)]
    exact Index.store_get?_enterAll s.index (s.verdict c) (listed_nodup hlisted) hmem hf
  · intro file hmem
    rw [hget, if_neg fun h => hmem (List.contains_iff_mem.1 h)]

/-- A complete build over the listed files shows what is in them and nothing else. -/
theorem store_of_build (hidle : s.index.gate = .idle) (hparse : c.parse = parseWith prefilter)
    (hentries : AllSighted prefilter (s.files :: past) s.index.cache.entries) {found : List String}
    (hlisted : s.listed c none = .ok found) (hfiles : ∀ file ∈ found, (s.files.fileAt file).isSome)
    (horder : ∀ file ∈ found, Chronological (s.files :: past) file) (hook_quiet : hook.Quiet)
    (hspares : reactions.SparesIndex) {now : Int} {report : BuildReport} {t : Session}
    (hbuild : s.build c hook now none reactions = (.ok report, t)) (hcancelled : report.cancelled = false)
    (file : String) :
    t.index.store.get? file = if file ∈ found then answer prefilter s.files file else none := by
  obtain ⟨hshown, hrest⟩ := store_of_verdicts hidle hook_quiet.sparesBuilds
    hook_quiet.keepsFiles hspares hlisted hbuild hcancelled
  by_cases hmem : file ∈ found
  · obtain ⟨f, hf, hanswer⟩ :=
      verdict_of_sighted hparse hentries (horder file hmem) (hfiles file hmem)
    rw [if_pos hmem, ← hanswer, hshown file hmem f hf]
  · rw [if_neg hmem, hrest file hmem]

/-! ## Builds that come to their end -/

theorem stopRequested_lookThrough (known : String → Option CacheEntry) (files : List String)
    (u : Session) : (lookThrough c Hook.none known files u).stopRequested = u.stopRequested := by
  induction files generalizing u with
  | nil => rfl
  | cons file files ih =>
    have hstop : (u.examine c Hook.none file (known file)).2.stopRequested = u.stopRequested :=
      (examine_looks u c Hook.none file (known file)).holds
        (P := fun v => v.stopRequested = u.stopRequested) rfl rfl
    rw [lookThrough]
    generalize u.examine c Hook.none file (known file) = p at hstop
    obtain ⟨_ | f, v⟩ := p
    · exact hstop
    · exact (ih _).trans hstop

/-- Whether a cache can be saved: the artifact has a name, and its directory is there or can be
made. -/
def CanSave (s : Session) (c : IndexConfig) (path : Path) (now : Int) : Prop :=
  c.settings.enableCache = true →
    path.parts ≠ [] ∧ ∃ fs, s.files.makeDirectories path.parent (now * 1000000) = .ok fs

theorem saveCache_of_canSave {path : Path} (hpath : s.index.cache.path = some path)
    {now : Int} (h : s.CanSave c path now) : (s.saveCache c now).1 = .ok () := by
  unfold saveCache
  split
  · rename_i hcache
    obtain ⟨hparts, fs, hfs⟩ := h hcache
    obtain ⟨fs', hfs'⟩ :=
      Cache.writeArtifact_returns ⟨some path, now, s.index.cache.entries⟩ hparts hfs
    simp only [Cache.save, hpath, hfs']
  · rfl

theorem cachePath_leftBy (files : Option (List String)) (found : List String) (n : Nat) (e : Ending) :
    (s.leftBy c files found n e).cache.path = s.index.cache.path := by
  unfold leftBy
  split
  · exact Index.cachePath_enterAll s.index (s.verdict c) (found.take n)
  · exact Index.cachePath_enterAll s.index (s.verdict c) (found.take n)

/-- A build whose candidates can all be parsed fails in no look. -/
theorem exists_course_of_ok (hook_spares : hook.SparesBuilds) (hook_keeps : hook.KeepsFiles)
    {found : List String} (hdiffer : found.Nodup)
    (hok : ∀ file ∈ found, ∃ f, s.verdict c file = .ok f) :
    ∃ n e, Course s c hook found n e ∧ ∀ cause, e ≠ .failed cause := by
  obtain ⟨n, e, -, hcourse, -⟩ := runBatches_course (s := s) (c := c) hook_spares hook_keeps hdiffer
  refine ⟨n, e, hcourse, ?_⟩
  rintro cause rfl
  cases hcourse with
  | failed _ file _ hn hfile =>
    obtain ⟨f, hf⟩ := hok file (List.mem_of_getElem? hn)
    rw [hf] at hfile
    cases hfile

/-- A build that fails in no look returns, if the artifact can be saved. -/
theorem build_returns_of_course (hidle : s.index.gate = .idle) (hook_spares : hook.SparesBuilds)
    (hook_keeps : hook.KeepsFiles) {files : Option (List String)} {found : List String}
    (hlisted : s.listed c files = .ok found) {n : Nat} {e : Ending}
    (hcourse : Course s c hook found n e) (hnot : ∀ cause, e ≠ .failed cause) {path : Path}
    (hpath : s.index.cache.path = some path) {now : Int} (hsave : s.CanSave c path now)
    (hspares : reactions.SparesIndex) :
    ∃ report, (s.build c hook now files reactions).1 = .ok report := by
  have hbuilds := build_of_course hidle hook_spares hook_keeps hlisted hcourse now hspares
  rcases hbuilds.returned hnot with hreport | ⟨failure, hfailure⟩
  · exact hreport
  · obtain ⟨r, t, hbody, hindex, hfiles, -⟩ :=
      buildBody_of_course hook_spares hook_keeps hlisted hcourse
    have hpath' : t.index.cache.path = some path := by
      rw [hindex]
      exact (cachePath_leftBy files found n e).trans hpath
    -- the files are as they were before the looks, so the directory of the artifact is there
    have hsave' : t.CanSave c path now := by
      intro hcache
      rw [hfiles]
      exact hsave hcache
    rw [build_of_idle hidle, hbody] at hfailure
    dsimp only at hfailure
    rw [saveCache_of_canSave hpath' hsave'] at hfailure
    cases r with
    | error cause => cases hfailure
    | ok p => cases hfailure

/-- A build that nobody stops comes to its end, if all candidates can be parsed and the artifact can be
saved. -/
theorem build_uncancelled (hidle : s.index.gate = .idle) (hstop : s.stopRequested = false)
    {files : Option (List String)} {found : List String} (hlisted : s.listed c files = .ok found)
    (hok : ∀ file ∈ found, ∃ f, s.verdict c file = .ok f) {path : Path}
    (hpath : s.index.cache.path = some path) {now : Int} (hsave : s.CanSave c path now) :
    Course s c Hook.none found found.length .complete ∧
      ∃ report t, s.build c Hook.none now files = (.ok report, t) ∧ report.cancelled = false := by
  have hspares := Hook.sparesBuilds_none
  have hkeeps := Hook.keepsFiles_none
  have hcourse : Course s c Hook.none found found.length .complete :=
    -- no look asks to stop, as no hook runs inside it
    .complete hok fun j _ => (stopRequested_lookThrough _ _ _).trans hstop
  have hbuilds := build_of_course hidle hspares hkeeps hlisted hcourse now Reactions.sparesIndex_none
  obtain ⟨report, hreport⟩ := build_returns_of_course hidle hspares hkeeps hlisted
    hcourse (by simp) hpath hsave Reactions.sparesIndex_none
  refine ⟨hcourse, report, _, Prod.ext hreport rfl, ?_⟩
  have hcancelled := hbuilds.cancelled report hreport
  simpa using hcancelled

/-- A build over files that can be read comes to its end when nobody stops it and its cache can be
saved. -/
theorem build_returns {path : Path} (h : s.Ready prefilter path (s.files :: past))
    (hparse : c.parse = parseWith prefilter) {found : List String}
    (hlisted : s.listed c none = .ok found) (hfiles : ∀ file ∈ found, (s.files.fileAt file).isSome)
    (horder : ∀ file ∈ found, Chronological (s.files :: past) file) (hstop : s.stopRequested = false)
    {now : Int} (hsave : s.CanSave c path now) :
    ∃ report t, s.build c Hook.none now none = (.ok report, t) ∧ report.cancelled = false := by
  have hok : ∀ file ∈ found, ∃ f, s.verdict c file = .ok f := by
    intro file hfile
    obtain ⟨f, hf, -⟩ :=
      verdict_of_sighted hparse h.entries (horder file hfile) (hfiles file hfile)
    exact ⟨f, hf⟩
  exact (build_uncancelled h.idle hstop hlisted hok h.cachePath hsave).2

end Session

/-! ## Incremental and from nothing -/

theorem Session.endpointsOf_eq {s : Session} {path file : String}
    (h : s.normalize path = .ok file) : s.endpointsOf path = .ok (s.index.store.get? file) := by
  rw [endpointsOf, h]

/-- What is answered for a path after a complete build over the listed files. -/
theorem Session.endpointsOf_of_build {s t : Session} {c : IndexConfig} {hook : Hook}
    {reactions : Reactions} {prefilter : Bool} {path : Path} {past : List FileSystem}
    (h : s.Ready prefilter path (s.files :: past)) (hparse : c.parse = parseWith prefilter)
    {found : List String} (hlisted : s.listed c none = .ok found)
    (hfiles : ∀ file ∈ found, (s.files.fileAt file).isSome)
    (horder : ∀ file ∈ found, Chronological (s.files :: past) file) (hook_quiet : hook.Quiet)
    (hreactions : reactions.Quiet) {now : Int} {report : BuildReport}
    (hbuild : s.build c hook now none reactions = (.ok report, t)) (hcancelled : report.cancelled = false)
    (p : String) :
    t.endpointsOf p =
      match (Path.ofString p).expandHome? s.home with
      | some q =>
        .ok (if (s.files.spelled q).toString ∈ found then
          answer prefilter s.files (s.files.spelled q).toString else none)
      | none => .error (.loop .tilde) := by
  have hkeeps := keeps_build h (faithful_of_parse hparse) hook_quiet hreactions now none
  rw [hbuild] at hkeeps
  cases hq : (Path.ofString p).expandHome? s.home with
  | none =>
    rw [endpointsOf, normalize, FileSystem.normalize, hkeeps.home, hq]
  | some q =>
    have hnormal : t.normalize p = .ok (s.files.spelled q).toString := by
      rw [normalize, hkeeps.home, hkeeps.files.tidy.normalize_eq_spelled hq, hkeeps.files.spelled_eq]
    rw [endpointsOf_eq hnormal, store_of_build h.idle hparse h.entries hlisted hfiles horder hook_quiet
      hreactions.sparesIndex hbuild hcancelled]

/-- What an index answers after a build over the listed files has come to its end: for each listed
file what is in it, for other files nothing. This is what an index answers that has no cache and has
seen nothing before. Files other than the artifact and its draft are left as they are. No file is
meant by a path that begins with a tilde for which no home is known. -/
theorem World.build_eq_scratch {u : Setup} {w : World} (h : Reachable u w) {m : Manager}
    (hm : m ∈ w.managers) {stop : Bool} {home : Option Path} {c : IndexConfig}
    (hparse : c.parse = parseWith u.prefilter) {source : List String}
    (hprovide : c.provide w.files = .ok source)
    (hfiles : ∀ q ∈ source, ∀ file, w.files.normalize home q = .ok file → (w.files.fileAt file).isSome)
    (horder : ∀ q ∈ source, ∀ file, w.files.normalize home q = .ok file →
      Chronological w.history file)
    {hook : Hook} (hook_quiet : hook.Quiet) {reactions : Reactions} (hreactions : reactions.Quiet)
    {now : Int} {report : BuildReport} {t : Session}
    (hbuild : (w.session m stop home).build c hook now none reactions = (.ok report, t))
    (hcancelled : report.cancelled = false) :
    (∀ p, (∃ file, w.files.normalize home p = .ok file ∧
      ((∃ q ∈ source, w.files.normalize home q = .ok file) →
        t.endpointsOf p = .ok (answer u.prefilter w.files file)) ∧
      ((¬ ∃ q ∈ source, w.files.normalize home q = .ok file) → t.endpointsOf p = .ok none)) ∨
      (Path.ofString p).expandHome? home = none ∧ t.endpointsOf p = .error (.loop .tilde)) ∧
    (∀ file, (w.files.fileAt file).isSome →
      w.files.spelled (.ofString file) ∉ Cache.places w.files u.cachePath →
        t.files.fileAt file = w.files.fileAt file) ∧
    ∃ report₀ t₀, (Session.start c.uncached w.files home).build c.uncached Hook.none now none =
        (.ok report₀, t₀) ∧ report₀.cancelled = false ∧ ∀ p, t₀.endpointsOf p = t.endpointsOf p := by
  have hsound := h.sound
  have hready := hsound.ready hm stop home
  have hfaithful := faithful_of_parse hparse
  obtain ⟨found, hlisted, -⟩ := Session.course_of_uncancelled hready.idle hook_quiet.sparesBuilds
    hook_quiet.keepsFiles hreactions.sparesIndex hbuild hcancelled
  obtain ⟨source', hprovide', hfound⟩ := Session.mem_listed_iff hlisted
  obtain rfl : source = source' := Except.ok.inj (hprovide.symm.trans hprovide')
  have hfiles' : ∀ file ∈ found, (w.files.fileAt file).isSome := by
    intro file hfile
    obtain ⟨q, hq, hnormal⟩ := (hfound file).1 hfile
    exact hfiles q hq file hnormal
  have horder' : ∀ file ∈ found, Chronological w.history file := by
    intro file hfile
    obtain ⟨q, hq, hnormal⟩ := (hfound file).1 hfile
    exact horder q hq file hnormal
  have hanswers := Session.endpointsOf_of_build hready hparse hlisted hfiles' horder' hook_quiet
    hreactions hbuild hcancelled
  refine ⟨?_, ?_, ?_⟩
  · intro p
    have hanswer := hanswers p
    cases hq : (Path.ofString p).expandHome? home with
    | none =>
      rw [show (w.session m stop home).home = home from rfl, hq] at hanswer
      exact .inr ⟨rfl, hanswer⟩
    | some q =>
      rw [show (w.session m stop home).home = home from rfl, hq] at hanswer
      refine .inl ⟨_, hsound.tidy.normalize_eq_spelled hq, ?_, ?_⟩
      · intro hmem
        exact hanswer.trans (congrArg Except.ok (if_pos ((hfound _).2 hmem)))
      · intro hnot
        exact hanswer.trans (congrArg Except.ok (if_neg fun hmem => hnot ((hfound _).1 hmem)))
  · intro file hfile hplace
    have hkeeps := Session.keeps_build hready hfaithful hook_quiet hreactions now none
    rw [hbuild] at hkeeps
    exact hkeeps.files.fileAt_eq hsound.tidy hfile hplace
  · -- the same lemmas apply to the index that starts from nothing: its history is one state long
    let s₀ := Session.start c.uncached w.files home
    have hready₀ : s₀.Ready u.prefilter c.cachePath (s₀.files :: []) :=
      ⟨hsound.tidy, rfl, rfl, AllSighted.empty⟩
    have horder₀ : ∀ file ∈ found, Chronological (s₀.files :: []) file :=
      fun _ _ => List.pairwise_singleton _ _
    have hlisted₀ : s₀.listed c.uncached none = .ok found :=
      (Session.listed_congr (s := w.session m stop home) (t := s₀) rfl rfl c none).trans hlisted
    obtain ⟨report₀, t₀, hbuild₀, hcancelled₀⟩ := Session.build_returns (c := c.uncached) hready₀ hparse
      hlisted₀ hfiles' horder₀ rfl (fun hcache => nomatch hcache)
    refine ⟨report₀, t₀, hbuild₀, hcancelled₀, ?_⟩
    intro p
    rw [hanswers p]
    exact Session.endpointsOf_of_build (c := c.uncached) hready₀ hparse hlisted₀ hfiles' horder₀
      Hook.quiet_none Reactions.quiet_none hbuild₀ hcancelled₀ p

namespace World

/-- The sample with a cache and the standard readers. -/
def cachedConfig : IndexConfig :=
  { Session.sampleConfig with settings := Settings.defaults, parse := parseWith true }

def sampleSetup : Setup := ⟨cachedConfig.cachePath, [], true⟩

theorem tidy_earlierFiles : earlierFiles.Tidy := by
  unfold earlierFiles
  generalize Text.Utf8.encodeText controllerText = bytes
  rfl

theorem tidy_writtenFiles : writtenFiles.Tidy := by
  unfold writtenFiles
  generalize Text.Utf8.encodeText controllerText = bytes
  rfl

theorem normalize_earlierFiles : earlierFiles.normalize none "/r/B.java" = .ok "/r/B.java" := by
  unfold earlierFiles
  generalize Text.Utf8.encodeText controllerText = bytes
  cbv

theorem get?_place_earlierFiles : earlierFiles.get? sampleSetup.place = none := by
  unfold earlierFiles
  generalize Text.Utf8.encodeText controllerText = bytes
  cbv

theorem get?_place_writtenFiles : writtenFiles.get? sampleSetup.place = none := by
  unfold writtenFiles
  generalize Text.Utf8.encodeText controllerText = bytes
  cbv

/-- An index is made and the second file is updated; then the first file is written again. -/
theorem reachable_written :
    ∃ m, Reachable sampleSetup ⟨writtenFiles, [earlierFiles, earlierFiles], [m]⟩ ∧
      m.index.cache.get? "/r/B.java" = some ⟨5, [controllerEndpoint "/r/B.java"]⟩ := by
  have hartifact : ∀ fs : FileSystem, fs.get? sampleSetup.place = none →
      ∀ content, ¬ fs.Holds sampleSetup.place content := by
    rintro fs hnone content ⟨time, htime⟩
    rw [hnone] at htime
    cases htime
  have hstart : Reachable sampleSetup ⟨earlierFiles, [], []⟩ := by
    refine .start _ tidy_earlierFiles rfl ?_
    intro content a hholds
    exact absurd hholds (hartifact _ get?_place_earlierFiles content)
  let m : Manager := ⟨cachedConfig, .new cachedConfig earlierFiles⟩
  let w : World := ⟨earlierFiles, [], [m]⟩
  -- a manager starts and is told of the second file; then the first one is written
  have hcreate : Reachable sampleSetup w := hstart.step (.create _ cachedConfig rfl rfl)
  let t := ((w.session m false).update cachedConfig Hook.none "/r/B.java").2
  have hupdate : Reachable sampleSetup ⟨t.files, [earlierFiles], [⟨cachedConfig, t.index⟩]⟩ :=
    hcreate.step (.operate w [] [] m rfl cachedConfig rfl (faithful_of_parse rfl) Hook.none
      Hook.quiet_none Reactions.none Reactions.quiet_none false none (.update "/r/B.java"))
  rw [Session.files_update Hook.quiet_none Reactions.quiet_none] at hupdate
  refine ⟨_, hupdate.step (.event _ writtenFiles tidy_writtenFiles rfl ?_), ?_⟩
  · intro content a hholds
    exact absurd hholds (hartifact _ get?_place_writtenFiles content)
  · have hparse : cachedConfig.parse earlierFiles "/r/B.java" =
        .endpoints [controllerEndpoint "/r/B.java"] := by
      rw [show cachedConfig.parse = parseWith true from rfl, parseWith_of_fileAt fileAt_earlierFiles.2,
        parseContent_controllerText (by simp)]
    have hcache := Session.cache_update_of_endpoints (s := w.session m false) (c := cachedConfig) rfl
      normalize_earlierFiles (Session.modified?_of_fileAt fileAt_earlierFiles.2) hparse
    rw [hcache, Cache.get?_put, if_pos rfl]

theorem inOrder_written {q : String} (hq : q ∈ ["/r/A.java", "/r/B.java"]) :
    InOrder q writtenFiles earlierFiles := by
  obtain ⟨hfirst, hsecond⟩ := fileAt_earlierFiles
  obtain ⟨hfirst', hsecond'⟩ := fileAt_writtenFiles
  simp only [List.mem_cons, List.not_mem_nil, or_false] at hq
  unfold InOrder
  rcases hq with rfl | rfl
  · rw [hfirst', hfirst]
    rintro _ _ _ _ ⟨⟩ ⟨⟩
    decide
  · rw [hsecond', hsecond]
    rintro _ _ _ _ ⟨⟩ ⟨⟩
    exact ⟨Int.le_refl _, fun _ => rfl⟩

theorem chronological_written {q : String} (hq : q ∈ ["/r/A.java", "/r/B.java"]) :
    Chronological [writtenFiles, earlierFiles, earlierFiles] q := by
  have hordered := inOrder_written hq
  refine .cons ?_ (.cons ?_ (List.pairwise_singleton _ _))
  · simp only [List.mem_cons, List.not_mem_nil, or_false, or_self]
    rintro g rfl
    exact hordered
  · intro g hg
    rw [List.mem_singleton.1 hg]
    exact .refl q _

theorem normalize_written {q : String} (hq : q ∈ ["/r/A.java", "/r/B.java"]) :
    writtenFiles.normalize none q = .ok q ∧ (writtenFiles.fileAt q).isSome := by
  simp only [List.mem_cons, List.not_mem_nil, or_false] at hq
  unfold writtenFiles
  generalize Text.Utf8.encodeText controllerText = bytes
  rcases hq with rfl | rfl
  · exact ⟨by cbv, by cbv⟩
  · exact ⟨by cbv, by cbv⟩

theorem listed_written (i : Index) :
    (Session.mk writtenFiles i false [] none).listed cachedConfig none =
      .ok ["/r/A.java", "/r/B.java"] := by
  unfold writtenFiles
  generalize Text.Utf8.encodeText controllerText = bytes
  cbv

theorem canSave_written (i : Index) :
    (Session.mk writtenFiles i false [] none).CanSave cachedConfig sampleSetup.cachePath 1 := by
  unfold writtenFiles
  generalize Text.Utf8.encodeText controllerText = bytes
  exact fun _ => ⟨by cbv; simp, _, by cbv⟩

theorem spelled_written :
    writtenFiles.spelled (.ofString "/r/A.java") ∉ Cache.places writtenFiles sampleSetup.cachePath := by
  have hplaces : Cache.places writtenFiles sampleSetup.cachePath =
      [["r", ".routefinder", "endpoints-cache.json"],
       ["r", ".routefinder", "endpoints-cache.json.tmp"]] := by
    unfold writtenFiles
    generalize Text.Utf8.encodeText controllerText = bytes
    cbv
  have hspelled : writtenFiles.spelled (.ofString "/r/A.java") = ["r", "A.java"] := by
    unfold writtenFiles
    generalize Text.Utf8.encodeText controllerText = bytes
    cbv
  rw [hplaces, hspelled]
  decide

/-- The cache knows the second file as it is, and the first one is read again. -/
theorem build_eq_scratch_written :
    ∃ w m report t, Reachable sampleSetup w ∧ m ∈ w.managers ∧
      w.history = [writtenFiles, earlierFiles, earlierFiles] ∧
      m.index.cache.get? "/r/B.java" = some ⟨5, [controllerEndpoint "/r/B.java"]⟩ ∧
      (w.session m false).build cachedConfig Hook.none 1 none = (.ok report, t) ∧
      report.cancelled = false ∧
      t.endpointsOf "/r/A.java" = .ok (some [controllerEndpoint "/r/A.java"]) ∧
      t.endpointsOf "/r/B.java" = .ok (some [controllerEndpoint "/r/B.java"]) ∧
      t.files.fileAt "/r/A.java" = some (Text.Utf8.encodeText controllerText, 9) := by
  obtain ⟨m, hreach, hknown⟩ := reachable_written
  let w : World := ⟨writtenFiles, [earlierFiles, earlierFiles], [m]⟩
  have hm : m ∈ w.managers := List.mem_singleton.2 rfl
  obtain ⟨report, t, hbuild, hcancelled⟩ := Session.build_returns (hreach.sound.ready hm false none) rfl
    (listed_written m.index) (fun q hq => (normalize_written hq).2)
    (fun q hq => chronological_written hq) rfl (canSave_written m.index)
  have hnormal : ∀ q ∈ ["/r/A.java", "/r/B.java"], ∀ file,
      w.files.normalize none q = .ok file → file = q := by
    intro q hq file hfile
    exact Except.ok.inj (hfile.symm.trans (normalize_written hq).1)
  obtain ⟨hanswers, hfiles, -⟩ := build_eq_scratch hreach hm (c := cachedConfig) rfl rfl
    (fun q hq file hfile => hnormal q hq file hfile ▸ (normalize_written hq).2)
    (fun q hq file hfile => hnormal q hq file hfile ▸ chronological_written hq)
    Hook.quiet_none Reactions.quiet_none hbuild hcancelled
  have hlisted : ∀ q ∈ ["/r/A.java", "/r/B.java"], t.endpointsOf q = .ok (some [controllerEndpoint q]) := by
    intro q hq
    have hanswer := answer_eq (parseWith_writtenFiles hq)
    rcases hanswers q with ⟨file, hfile, hmem, -⟩ | ⟨hhome, -⟩
    · obtain rfl := hnormal q hq file hfile
      exact (hmem ⟨_, hq, hfile⟩).trans (congrArg Except.ok hanswer)
    · simp only [List.mem_cons, List.not_mem_nil, or_false] at hq
      rcases hq with rfl | rfl <;> cases hhome
  refine ⟨w, m, report, t, hreach, hm, rfl, hknown, hbuild, hcancelled, hlisted _ (by simp),
    hlisted _ (by simp), ?_⟩
  have hfirst : (writtenFiles.fileAt "/r/A.java").isSome := (normalize_written List.mem_cons_self).2
  rw [hfiles "/r/A.java" hfirst spelled_written, show w.files = writtenFiles from rfl,
    fileAt_writtenFiles.1]

end World

end EndpointIndex
