import EndpointIndex.Proofs.Index.Failures

/-!
# Turning the prefilter on or off

An entry of the cache does not say whether the prefilter was used when its file was read. So an index
that takes over a cache from one with the other setting takes over its answers: it reads no file that
stands as it stood, and answers for it what the first setting made of it. Only a rebuild, which forgets
the cache, gives the answers of the new setting. Main fact: `Session.build_switched`;
`Session.switch_without_effect` has a file whose endpoint is found without the prefilter only, and is not
found after the prefilter was turned off.
-/

namespace EndpointIndex

open IndexConfig

namespace IndexConfig

/-- The same configuration with the prefilter turned on or off. -/
def switched (c : IndexConfig) (prefilter : Bool) : IndexConfig :=
  { c with settings := { c.settings with usePrefilter := prefilter }, parse := parseWith prefilter }

/-- For an index as it is set up by default, nothing else depends on the setting. -/
theorem switched_standard (root : Location) (settings : Settings) (prefilter : Bool) :
    (standard root settings).switched prefilter =
      standard root { settings with usePrefilter := prefilter } := rfl

/-- The prefilter makes no difference to which files can be read. -/
theorem parseWith_eq_unreadable_iff (prefilter : Bool) (fs : FileSystem) (file : String) :
    parseWith prefilter fs file = .unreadable ↔ fs.fileAt file = none := by
  rw [parseWith_eq]
  cases fs.fileAt file with
  | none => simp
  | some p =>
    obtain ⟨es, hes⟩ := parseContent_eq_endpoints prefilter file p.1
    simp [hes]

end IndexConfig

namespace Session

variable {s t u : Session} {c : IndexConfig} {hook : Hook} {reactions : Reactions} {prefilter : Bool}

/-! ## Without a cache -/

/-- A file of which nothing is known is shown as it is. -/
theorem verdict_of_scratch (hparse : c.parse = parseWith prefilter) {file : String}
    (hknown : s.index.cache.get? file = none) :
    ∃ f, s.verdict c file = .ok f ∧ f.shown = answer prefilter s.files file := by
  cases hm : s.modified? file with
  | none =>
    refine ⟨.missing, verdict_of_gone hm, ?_⟩
    have hnone : s.files.fileAt file = none := by
      cases hfile : s.files.fileAt file with
      | none => rfl
      | some p =>
        cases hm.symm.trans (modified?_of_fileAt hfile)
    rw [answer, (parseWith_eq_unreadable_iff _ _ _).2 hnone]
    rfl
  | some time =>
    rw [verdict_of_unknown hm hknown, hparse]
    cases hfile : s.files.fileAt file with
    | none =>
      -- a directory has a time, but cannot be read
      rw [answer, (parseWith_eq_unreadable_iff _ _ _).2 hfile]
      exact ⟨.missing, rfl, rfl⟩
    | some p =>
      obtain ⟨es, hes⟩ := parseContent_eq_endpoints prefilter file p.1
      rw [← parseWith_of_fileAt hfile] at hes
      rw [hes]
      exact ⟨_, rfl, (answer_eq hes).symm⟩

/-- A complete build that begins with an empty cache shows what is in the files. -/
theorem store_of_scratch (hidle : s.index.gate = .idle) (hook_spares : hook.SparesBuilds)
    (hook_keeps : hook.KeepsFiles) (hparse : c.parse = parseWith prefilter)
    (hempty : ∀ file, s.index.cache.get? file = none) (hspares : reactions.SparesIndex) {now : Int}
    {report : BuildReport} (hbuild : s.build c hook now none reactions = (.ok report, t))
    (hcancelled : report.cancelled = false) :
    ∃ found, s.listed c none = .ok found ∧ ∀ file,
      t.index.store.get? file = if file ∈ found then answer prefilter s.files file else none := by
  obtain ⟨found, hlisted, -⟩ :=
    course_of_uncancelled hidle hook_spares hook_keeps hspares hbuild hcancelled
  obtain ⟨hshown, hrest⟩ :=
    store_of_verdicts hidle hook_spares hook_keeps hspares hlisted hbuild hcancelled
  refine ⟨found, hlisted, fun file => ?_⟩
  split
  · rename_i hmem
    obtain ⟨f, hf, hanswer⟩ := verdict_of_scratch hparse (hempty file)
    rw [hshown file hmem f hf, hanswer]
  · rename_i hmem
    exact hrest file hmem

theorem rebuild_eq_ok (hidle : s.index.gate = .idle) {now : Int} {report : BuildReport}
    (h : s.rebuild c hook now reactions = (.ok report, t)) :
    ∃ fs, s.index.cache.deleteArtifact s.files now = .ok fs ∧
      (s.forgotten fs).build c hook now none reactions = (.ok report, t) := by
  rw [rebuild, if_pos hidle] at h
  dsimp only at h
  split at h
  · cases h
  · rename_i fs hdelete
    exact ⟨fs, hdelete, h⟩

/-! ## With the cache of the other setting -/

/-- Looks with either setting come to the same, once a look with one of them has been entered. -/
theorem verdict_switched (hcache : c.settings.enableCache = true)
    (hparse : c.parse = parseWith c.settings.usePrefilter) (prefilter : Bool) {file : String}
    (hm : u.modified? file = s.modified? file) (hread : c.parse u.files file = c.parse s.files file)
    {f : Finding} (hknown : u.index.cache.get? file = f.entry (s.index.cache.get? file))
    (hf : s.verdict c file = .ok f) : u.verdict (c.switched prefilter) file = .ok f.again := by
  have hreads := (faithful_of_parse hparse).readsFiles
  have hcache' : (c.switched prefilter).settings.enableCache = true := hcache
  -- an unreadable file is unreadable with either setting, and nothing else is asked of the second parser
  have hunreadable : c.parse s.files file = .unreadable →
      (c.switched prefilter).parse u.files file = .unreadable := by
    intro hbefore
    rw [hbefore, hparse, parseWith_eq_unreadable_iff] at hread
    exact (parseWith_eq_unreadable_iff prefilter _ _).2 hread
  exact verdict_again hcache hcache' hreads hm hunreadable hknown hf

theorem gate_idle_of_new {fs : FileSystem} (hu : u.index = Index.new c fs) : u.index.gate = .idle := by
  rw [hu]
  exact gate_start c fs none

theorem shown_again (f : Finding) : f.again.shown = f.shown := by
  cases f <;> rfl

section TakingOver

variable {fs₀ : FileSystem} {home₀ : Option Path} {now : Int} {report : BuildReport} (hcache : c.settings.enableCache = true)
  (hparse : c.parse = parseWith c.settings.usePrefilter) (hprior : Leads (start c fs₀ home₀) s)
  (inner : ∀ file v, Leads v (hook file v)) (hook_keeps : hook.KeepsFiles) (hreactions : reactions.Quiet)
  (hbuild : s.build c hook now none reactions = (.ok report, t)) (hcancelled : report.cancelled = false)
  (hsaved : t.files.read c.cachePath = .ok t.index.cache.payload) (hnow : Json.Convertible now)
  (hentries : ∀ p ∈ t.index.cache.entries.entries, p.2.Convertible)
  (hu : u.index = Index.new (c.switched prefilter) t.files) (hunchanged : Unchanged c none s u)

include hcache hprior inner hreactions hbuild hsaved hnow hentries hu in
/-- What an index has in its cache that takes over the artifact of a build. -/
theorem cache_get?_switched (file : String) :
    u.index.cache.get? file = t.index.cache.get? file := by
  obtain ⟨hlastUpdate, -⟩ := saved_of_build hcache hprior.gate_idle (sparesBuilds_of_leads inner)
    hreactions hprior.cachePath hbuild
  rw [hu]
  exact Index.cache_get?_new (c := c.switched prefilter) hcache hsaved (by rw [hlastUpdate]; exact hnow)
    hentries file

include hcache hparse hprior inner hook_keeps hreactions hbuild hcancelled hsaved hnow hentries hu hunchanged

/-- Every candidate has been entered by the first build, and is found again by the second. -/
theorem verdicts_switched : ∃ found, s.listed c none = .ok found ∧
    u.listed (c.switched prefilter) none = .ok found ∧ ∀ file ∈ found,
      ∃ f, s.verdict c file = .ok f ∧ u.verdict (c.switched prefilter) file = .ok f.again := by
  have hspares := sparesBuilds_of_leads inner
  obtain ⟨found, hlisted, hcourse⟩ :=
    course_of_uncancelled hprior.gate_idle hspares hook_keeps hreactions.sparesIndex hbuild hcancelled
  have hbuilds := build_of_course hprior.gate_idle hspares hook_keeps hlisted hcourse now
    hreactions.sparesIndex
  rw [hbuild] at hbuilds
  refine ⟨found, hlisted, hunchanged.listed.trans hlisted, fun file hfile => ?_⟩
  obtain ⟨f, hf⟩ := hcourse.ok file (by rw [List.take_length]; exact hfile)
  have hknown : u.index.cache.get? file = f.entry (s.index.cache.get? file) := by
    rw [cache_get?_switched hcache hprior inner hreactions hbuild hsaved hnow hentries hu,
      hbuilds.cache_get? (listed_nodup hlisted) hcourse, if_pos hfile, hf]
    rfl
  exact ⟨f, hf, verdict_switched hcache hparse prefilter (hunchanged.modified found hlisted file hfile)
    (hunchanged.parse found hlisted file hfile) hknown hf⟩

variable {hook' : Hook} (hook_spares' : hook'.SparesBuilds) (hook_keeps' : hook'.KeepsFiles)
  {reactions' : Reactions} (hspares' : reactions'.SparesIndex)

include hook_spares' hook_keeps' hspares'

/-- The second build returns and has nothing to parse. -/
theorem build_returns_switched (now' : Int) :
    ∃ report' t', u.build (c.switched prefilter) hook' now' none reactions' = (.ok report', t') ∧
      report'.tally.parsed = 0 := by
  obtain ⟨found, -, hlisted', hverdicts⟩ := verdicts_switched hcache hparse hprior inner hook_keeps
    hreactions hbuild hcancelled hsaved hnow hentries hu hunchanged
  have hpath : u.index.cache.path = some c.cachePath := by
    rw [hu]
    exact cachePath_start (c.switched prefilter) t.files none
  -- the artifact can be saved where the first build has saved one
  obtain ⟨bytes, hread⟩ := hunchanged.artifact
  obtain ⟨-, hwrite⟩ := saved_of_build hcache hprior.gate_idle (sparesBuilds_of_leads inner)
    hreactions hprior.cachePath hbuild
  obtain ⟨-, -, hparts, -⟩ := Cache.writeArtifact_cases hwrite
  obtain ⟨-, -, report', t', -, hbuild', -, hparsed, -⟩ := build_of_again hlisted' hverdicts
    (gate_idle_of_new hu) hpath (canSave_of_read hparts hread now') hook_spares' hook_keeps' hspares'
  exact ⟨report', t', hbuild', hparsed⟩

/-- The second build, if it comes to its end, answers what the first one answers. -/
theorem store_switched {now' : Int} {report' : BuildReport} {t' : Session}
    (hbuild' : u.build (c.switched prefilter) hook' now' none reactions' = (.ok report', t'))
    (hcancelled' : report'.cancelled = false) (file : String) :
    t'.index.store.get? file = t.index.store.get? file := by
  obtain ⟨found, hlisted, hlisted', hverdicts⟩ := verdicts_switched hcache hparse hprior inner hook_keeps
    hreactions hbuild hcancelled hsaved hnow hentries hu hunchanged
  have hidle := gate_idle_of_new hu
  obtain ⟨hshown, hrest⟩ := store_of_verdicts hprior.gate_idle (sparesBuilds_of_leads inner) hook_keeps
    hreactions.sparesIndex hlisted hbuild hcancelled
  obtain ⟨hshown', hrest'⟩ :=
    store_of_verdicts hidle hook_spares' hook_keeps' hspares' hlisted' hbuild' hcancelled'
  by_cases hmem : file ∈ found
  · obtain ⟨f, hf, hagain⟩ := hverdicts file hmem
    rw [hshown file hmem f hf, hshown' file hmem _ hagain, shown_again]
  · rw [hrest file hmem, hrest' file hmem]

end TakingOver

/-- An index builds over the listed files and saves its cache; then another one, whose settings differ in
the use of the prefilter only, is made from this cache and builds over the same files, unchanged. It
parses nothing and answers what the first one answers: for a file that the first one has found for the
first time, what is in the file by the setting of the first one. A rebuild in its place answers what is in
the files by its own setting. -/
theorem build_switched {fs₀ : FileSystem} {home₀ : Option Path} (hcache : c.settings.enableCache = true)
    (hparse : c.parse = parseWith c.settings.usePrefilter) (hprior : Leads (start c fs₀ home₀) s)
    (inner : ∀ file v, Leads v (hook file v)) (hook_keeps : hook.KeepsFiles)
    (hreactions : reactions.Quiet) {now : Int} {report : BuildReport}
    (hbuild : s.build c hook now none reactions = (.ok report, t))
    (hcancelled : report.cancelled = false)
    (hsaved : t.files.read c.cachePath = .ok t.index.cache.payload) (hnow : Json.Convertible now)
    (hentries : ∀ p ∈ t.index.cache.entries.entries, p.2.Convertible) (prefilter : Bool)
    (hu : u.index = Index.new (c.switched prefilter) t.files) (hunchanged : Unchanged c none s u)
    {hook' : Hook} (inner' : ∀ file v, Leads v (hook' file v)) (hook_keeps' : hook'.KeepsFiles)
    {reactions' : Reactions} (hreactions' : reactions'.SparesIndex) (now' : Int) :
    (∃ found report' t', s.listed c none = .ok found ∧
      u.build (c.switched prefilter) hook' now' none reactions' = (.ok report', t') ∧ report'.tally.parsed = 0 ∧
      (report'.cancelled = false →
        (∀ file, t'.index.store.get? file = t.index.store.get? file) ∧
        ∀ file ∈ found, s.index.cache.get? file = none →
          t'.index.store.get? file = answer c.settings.usePrefilter s.files file)) ∧
    ∀ report' t', u.rebuild (c.switched prefilter) hook' now' reactions' = (.ok report', t') →
      report'.cancelled = false → ∃ fs found, u.index.cache.deleteArtifact u.files now' = .ok fs ∧
        (u.forgotten fs).listed c none = .ok found ∧ ∀ file,
          t'.index.store.get? file = if file ∈ found then answer prefilter fs file else none := by
  have hspares := sparesBuilds_of_leads inner
  have hspares' := sparesBuilds_of_leads inner'
  constructor
  · -- the build takes every file from the saved entries, whichever way it was read
    obtain ⟨found, hlisted, -⟩ :=
      course_of_uncancelled hprior.gate_idle hspares hook_keeps hreactions.sparesIndex hbuild hcancelled
    obtain ⟨report', t', hbuild', hparsed⟩ := build_returns_switched hcache hparse hprior inner hook_keeps
      hreactions hbuild hcancelled hsaved hnow hentries hu hunchanged hspares' hook_keeps' hreactions' now'
    refine ⟨found, report', t', hlisted, hbuild', hparsed, fun hcancelled' => ?_⟩
    have hsame := store_switched hcache hparse hprior inner hook_keeps hreactions hbuild hcancelled hsaved
      hnow hentries hu hunchanged hspares' hook_keeps' hreactions' hbuild' hcancelled'
    refine ⟨hsame, fun file hmem hnew => ?_⟩
    obtain ⟨f, hf, hanswer⟩ := verdict_of_scratch hparse hnew
    obtain ⟨hshown, -⟩ :=
      store_of_verdicts hprior.gate_idle hspares hook_keeps hreactions.sparesIndex hlisted hbuild hcancelled
    rw [hsame, hshown file hmem f hf, hanswer]
  · -- a rebuild begins with no entries, so every file is read the new way
    intro report' t' hrebuild hcancelled'
    have hidle := gate_idle_of_new hu
    obtain ⟨fs, hdelete, hagain⟩ := rebuild_eq_ok hidle hrebuild
    have hparse' : (c.switched prefilter).parse = parseWith prefilter := rfl
    have hempty : ∀ file, (u.forgotten fs).index.cache.get? file = none :=
      fun _ => FileMap.get?_empty _
    obtain ⟨found, hfound, hstore⟩ :=
      store_of_scratch (s := u.forgotten fs) hidle hspares' hook_keeps' hparse' hempty hreactions'
        hagain hcancelled'
    exact ⟨fs, found, hdelete, hfound, hstore⟩

/-! ## A sample -/

/-- Annotations whose case is not the usual one. -/
def looseText : String := "@restcontroller class A \x7b @getmapping(\"/a\") void f() \x7b\x7d \x7d"

def looseFiles : FileSystem :=
  ⟨.directory [("r", .directory [("A.java", .file (Text.Utf8.encodeText looseText) 5)] 0)] 0, []⟩

/-- The files of the sample with an artifact. -/
def looseArchive (bytes : List UInt8) (time : Int) : FileSystem :=
  ⟨.directory [("r", .directory [("A.java", .file (Text.Utf8.encodeText looseText) 5)] 0),
    ("c", .file bytes time)] time, []⟩

/-- One candidate, the prefilter in use, and the artifact at the top. -/
def looseConfig : IndexConfig := { topConfig with provide := fun _ => .ok ["/r/A.java"] }

theorem parseContent_looseText :
    parseContent true "/r/A.java" (Text.Utf8.encodeText looseText) = .endpoints [] ∧
      parseContent false "/r/A.java" (Text.Utf8.encodeText looseText) =
        .endpoints [controllerEndpoint "/r/A.java"] := by
  have hcandidate : (ReadingPlan.standard true).isCandidate looseText.toList = false := by decide +kernel
  have hall : (ReadingPlan.standard false).isCandidate looseText.toList = true := rfl
  have hprimary : (ReadingPlan.standard false).primaryEndpoints "/r/A.java" looseText.toList =
      [controllerEndpoint "/r/A.java"] := by decide +kernel
  have htext := Text.Utf8.decodeLossy_eq_of_decode? (Text.Utf8.decode?_encodeText looseText)
  constructor
  · rw [parseContent, ReadingPlan.endpointsOfBytes, htext, ReadingPlan.endpoints_of_not_candidate hcandidate]
  · rw [parseContent, ReadingPlan.endpointsOfBytes, htext, ReadingPlan.endpoints, if_pos hall, hprimary]

/-- What either build sees of its candidate. -/
structure LooseCandidate (u : Session) : Prop where
  listed : u.listed looseConfig none = .ok ["/r/A.java"]
  file : u.files.fileAt "/r/A.java" = some (Text.Utf8.encodeText looseText, 5)

theorem looseCandidate_start : LooseCandidate (start looseConfig looseFiles) := by
  unfold start looseFiles
  generalize Index.new looseConfig _ = i
  constructor
  all_goals generalize Text.Utf8.encodeText looseText = content
  all_goals cbv

theorem looseCandidate_archive (i : Index) (home : Option Path) (bytes : List UInt8) (time : Int) :
    LooseCandidate ⟨looseArchive bytes time, i, false, [], home⟩ := by
  unfold looseArchive
  constructor
  all_goals generalize Text.Utf8.encodeText looseText = content
  all_goals cbv

theorem read_looseArchive (bytes : List UInt8) (time : Int) :
    (looseArchive bytes time).read looseConfig.cachePath = .ok bytes := by
  unfold looseArchive
  generalize Text.Utf8.encodeText looseText = content
  cbv

theorem unchanged_looseArchive (i : Index) (home : Option Path) (bytes : List UInt8) (time : Int) :
    Unchanged looseConfig none (start looseConfig looseFiles) ⟨looseArchive bytes time, i, false, [], home⟩ := by
  have hbefore := looseCandidate_start
  have hafter := looseCandidate_archive i home bytes time
  have hone : ∀ found, (start looseConfig looseFiles).listed looseConfig none = .ok found →
      ∀ file ∈ found, file = "/r/A.java" := by
    intro found hfound file hfile
    rw [hbefore.listed] at hfound
    cases hfound
    exact List.mem_singleton.1 hfile
  refine ⟨hafter.listed.trans hbefore.listed.symm, ?_, ?_, bytes, read_looseArchive bytes time⟩
  · intro found hfound file hfile
    rw [hone found hfound file hfile, modified?_of_fileAt hbefore.file, modified?_of_fileAt hafter.file]
  · intro found hfound file hfile
    rw [hone found hfound file hfile]
    show parseWith true _ _ = parseWith true _ _
    rw [parseWith_of_fileAt hbefore.file, parseWith_of_fileAt hafter.file]

theorem read_looseFiles : looseFiles.read looseConfig.cachePath = .error .notFound := by
  unfold looseFiles
  generalize Text.Utf8.encodeText looseText = content
  cbv

theorem canSave_looseFiles (now : Int) :
    (start looseConfig looseFiles).CanSave looseConfig looseConfig.cachePath now := by
  unfold looseFiles
  generalize Text.Utf8.encodeText looseText = content
  exact fun _ => ⟨by cbv; simp, _, by cbv⟩

theorem writeArtifact_looseFiles (cache : Cache) :
    cache.writeArtifact looseFiles looseConfig.cachePath =
      .ok (looseArchive cache.payload (cache.lastUpdate * 1000000)) := by
  unfold Cache.writeArtifact looseFiles looseArchive
  generalize cache.payload = bytes
  generalize cache.lastUpdate * 1000000 = time
  generalize Text.Utf8.encodeText looseText = content
  cbv

theorem verdict_looseFiles :
    (start looseConfig looseFiles).verdict looseConfig "/r/A.java" = .ok (.parsed 5 []) := by
  have hfile := looseCandidate_start.file
  have hparse : looseConfig.parse (start looseConfig looseFiles).files "/r/A.java" = .endpoints [] :=
    (parseWith_of_fileAt hfile true).trans parseContent_looseText.1
  rw [verdict_of_unknown (modified?_of_fileAt hfile)
    (Index.cache_get?_new_of_unread read_looseFiles _), hparse]
  rfl

/-- The first build finds no endpoint, remembers that, and saves it. -/
theorem build_looseFiles :
    ∃ report t, (start looseConfig looseFiles).build looseConfig Hook.none 7 none = (.ok report, t) ∧
      report.cancelled = false ∧ t.files = looseArchive t.index.cache.payload 7000000 ∧
      t.index.store.get? "/r/A.java" = none ∧
      ∀ p ∈ t.index.cache.entries.entries, p.2.Convertible := by
  let s := start looseConfig looseFiles
  have hlisted : s.listed looseConfig none = .ok ["/r/A.java"] := looseCandidate_start.listed
  have hspares := Hook.sparesBuilds_none
  have hkeeps := Hook.keepsFiles_none
  have hidle : s.index.gate = .idle := gate_start _ _ _
  have hpath := cachePath_start looseConfig looseFiles none
  have hverdict : s.verdict looseConfig "/r/A.java" = .ok (.parsed 5 []) := verdict_looseFiles
  have hok : ∀ file ∈ ["/r/A.java"], ∃ f, s.verdict looseConfig file = .ok f := by
    intro file hfile
    rw [List.mem_singleton.1 hfile]
    exact ⟨_, hverdict⟩
  obtain ⟨hcourse, report, t, hbuild, hcancelled⟩ := build_uncancelled hidle rfl hlisted hok hpath
    (canSave_looseFiles 7)
  have hbuilds := build_of_course hidle hspares hkeeps hlisted hcourse 7 Reactions.sparesIndex_none
  rw [hbuild] at hbuilds
  refine ⟨report, t, hbuild, hcancelled, ?_, ?_, ?_⟩
  · obtain ⟨hlastUpdate, hwrite⟩ :=
      writeArtifact_of_build rfl hidle hspares hkeeps Reactions.quiet_none hpath hlisted hcourse hbuild
    rw [show s.files = looseFiles from rfl, writeArtifact_looseFiles, hlastUpdate] at hwrite
    exact (Except.ok.inj hwrite).symm
  · exact (store_of_verdicts hidle hspares hkeeps Reactions.sparesIndex_none hlisted hbuild hcancelled).1 _
      (List.mem_singleton.2 rfl) _ hverdict
  · intro p hp
    have hget := hbuilds.cache_get? (by decide) hcourse p.1
    rw [Cache.get?, (FileMap.get?_eq_some_iff _ _ _).2 hp] at hget
    split at hget
    · rename_i hfile
      rw [List.mem_singleton.1 hfile, hverdict] at hget
      rw [Option.some.inj hget]
      refine ⟨by decide, fun _ h => ?_⟩
      cases h
    · rw [if_pos rfl] at hget
      cases hget

/-- The prefilter is turned off, the second build has nothing to parse, and there is still no endpoint. -/
theorem build_switched_sample :
    ∃ report t report' t',
      (start looseConfig looseFiles).build looseConfig Hook.none 7 none = (.ok report, t) ∧
      (start (looseConfig.switched false) t.files).build (looseConfig.switched false) Hook.none 9 none =
        (.ok report', t') ∧ report'.tally.parsed = 0 ∧
      (report'.cancelled = false → t'.index.store.get? "/r/A.java" = t.index.store.get? "/r/A.java") := by
  obtain ⟨report, t, hbuild, hcancelled, hfiles, -, hentries⟩ := build_looseFiles
  have hsaved : t.files.read looseConfig.cachePath = .ok t.index.cache.payload := by
    rw [hfiles]
    exact read_looseArchive _ _
  have hunchanged : Unchanged looseConfig none (start looseConfig looseFiles)
      (start (looseConfig.switched false) t.files) := by
    rw [hfiles]
    exact unchanged_looseArchive _ _ _ _
  obtain ⟨⟨found, report', t', -, hbuild', hparsed, hsame⟩, -⟩ := build_switched (c := looseConfig) rfl rfl
    (.refl _) leads_none Hook.keepsFiles_none Reactions.quiet_none hbuild hcancelled hsaved (by decide) hentries false
    (u := start (looseConfig.switched false) t.files) rfl hunchanged leads_none Hook.keepsFiles_none
    Reactions.sparesIndex_none 9
  exact ⟨report, t, report', t', hbuild, hbuild', hparsed, fun h => (hsame h).1 _⟩

/-- A file whose endpoint is found without the prefilter only. The first index uses the prefilter and finds
nothing, and the second one does not use it and finds nothing either. -/
theorem switch_without_effect :
    ∃ report t report' t',
      (start looseConfig looseFiles).build looseConfig Hook.none 7 none = (.ok report, t) ∧
      report.cancelled = false ∧ t.files.read looseConfig.cachePath = .ok t.index.cache.payload ∧
      (start (looseConfig.switched false) t.files).build (looseConfig.switched false) Hook.none 9 none =
        (.ok report', t') ∧ report'.cancelled = false ∧
      t'.index.store.get? "/r/A.java" = none ∧
      answer false t.files "/r/A.java" = some [controllerEndpoint "/r/A.java"] := by
  obtain ⟨report, t, hbuild, hcancelled, hfiles, hnone, hentries⟩ := build_looseFiles
  let u := start (looseConfig.switched false) t.files
  have hsaved : t.files.read looseConfig.cachePath = .ok t.index.cache.payload := by
    rw [hfiles]
    exact read_looseArchive _ _
  have hunchanged : Unchanged looseConfig none (start looseConfig looseFiles) u := by
    show Unchanged looseConfig none _ (start (looseConfig.switched false) t.files)
    rw [hfiles]
    exact unchanged_looseArchive _ _ _ _
  have hspares := Hook.sparesBuilds_none
  have hkeeps := Hook.keepsFiles_none
  obtain ⟨found, -, hlisted, hverdicts⟩ := verdicts_switched (c := looseConfig) (u := u) rfl rfl (.refl _)
    leads_none hkeeps Reactions.quiet_none hbuild hcancelled hsaved (by decide) hentries rfl hunchanged
  have hok : ∀ file ∈ found, ∃ f, u.verdict (looseConfig.switched false) file = .ok f := by
    intro file hfile
    obtain ⟨f, -, hagain⟩ := hverdicts file hfile
    exact ⟨f.again, hagain⟩
  have hsave : u.CanSave (looseConfig.switched false) looseConfig.cachePath 9 :=
    canSave_of_read (by cbv; simp) hsaved 9
  -- the second build finds the entries of the first one up to date
  obtain ⟨-, report', t', hbuild', hcancelled'⟩ := build_uncancelled (gate_start _ _ _) rfl hlisted hok
    (cachePath_start (looseConfig.switched false) t.files none) hsave
  have hsame := store_switched (c := looseConfig) (u := u) rfl rfl (.refl _) leads_none hkeeps
    Reactions.quiet_none hbuild hcancelled hsaved (by decide) hentries rfl hunchanged hspares hkeeps
    Reactions.sparesIndex_none hbuild' hcancelled' "/r/A.java"
  refine ⟨report, t, report', t', hbuild, hcancelled, hsaved, hbuild', hcancelled', hsame.trans hnone, ?_⟩
  rw [hfiles, answer, parseWith_of_fileAt (looseCandidate_archive u.index none _ _).file,
    parseContent_looseText.2]

end Session

end EndpointIndex
