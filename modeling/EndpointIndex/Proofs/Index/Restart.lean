import Mathlib.Data.List.Permutation
import EndpointIndex.Proofs.Bystanders
import EndpointIndex.Proofs.Index.Entries
import EndpointIndex.Proofs.Index.Exclusion
import EndpointIndex.Proofs.Index.Incremental
import EndpointIndex.Proofs.Persistence

/-!
# Builds that are made again

After a build has come to its end and its artifact is saved, a new index answers what the old one
answers. A second build over the same files, by either of them, reads nothing: what was read the first
time is up to date now, what was up to date still is, and what was missing is missing again
(`verdict_again`). So it leaves every entry as it was. Main fact: `Session.build_again`. It is about
candidates that saving the cache passes by and listeners that start no operation: a build that looks for
the artifact among its candidates misses it the first time and reads it the second time, and what a
listener forgets stays in the artifact (`Session.not_build_again`).
-/

namespace EndpointIndex

/-! ## Maps with the same contents -/

theorem FileMap.perm_of_get? {α : Type} {m n : FileMap α} (h : ∀ file, m.get? file = n.get? file) :
    m.entries.Perm n.entries := by
  rw [List.perm_ext_iff_of_nodup (List.Nodup.of_map _ m.nodup) (List.Nodup.of_map _ n.nodup)]
  intro p
  rw [← get?_eq_some_iff m p.1 p.2, ← get?_eq_some_iff n p.1 p.2, h]

/-- The order of the files does not matter to the count. -/
theorem Store.count_eq_of_get? {a b : Store} (h : ∀ file, a.get? file = b.get? file) :
    a.count = b.count := by
  rw [count_eq_length_snapshot, count_eq_length_snapshot]
  exact ((FileMap.perm_of_get? h).flatMap_right Prod.snd).length_eq

/-! ## What the cache holds after a build -/

/-- What the cache holds of a file after a finding, where it held `before`. -/
def Finding.entry (before : Option CacheEntry) : Finding → Option CacheEntry
  | .missing => none
  | .cached _ => before
  | .parsed time es => some ⟨time, es⟩

/-- What the cache holds of a file after a look, where it held `before`. -/
def entered (before : Option CacheEntry) : Except String Finding → Option CacheEntry
  | .ok f => f.entry before
  | .error _ => before

namespace Index

theorem cache_get?_enter (i : Index) (file : String) (verdict : Except String Finding) (g : String) :
    (i.enter file verdict).cache.get? g =
      if g = file then entered (i.cache.get? file) verdict else i.cache.get? g := by
  cases verdict with
  | error cause =>
    show i.cache.get? g = if g = file then i.cache.get? file else i.cache.get? g
    split
    · rename_i hg
      rw [hg]
    · rfl
  | ok f =>
    by_cases hg : g = file
    · subst hg
      rw [if_pos rfl]
      cases f with
      | missing => exact (Cache.get?_remove _ _ _).trans (if_pos rfl)
      | cached es => rfl
      | parsed time es => exact (Cache.get?_put _ _ _ _).trans (if_pos rfl)
    · rw [if_neg hg]
      exact cache_get?_commit_of_ne i f hg

theorem cache_get?_enterAll (i : Index) (verdicts : String → Except String Finding)
    {files : List String} (hdiffer : files.Nodup) (g : String) :
    (i.enterAll verdicts files).cache.get? g =
      if g ∈ files then entered (i.cache.get? g) (verdicts g) else i.cache.get? g := by
  induction files generalizing i with
  | nil => rfl
  | cons file files ih =>
    obtain ⟨hnew, hdiffer⟩ := List.nodup_cons.1 hdiffer
    rw [enterAll, List.foldl_cons, ← enterAll, ih _ hdiffer, cache_get?_enter]
    by_cases hg : g = file
    · subst hg
      rw [if_neg hnew, if_pos rfl, if_pos List.mem_cons_self]
    · rw [if_neg hg]
      simp only [List.mem_cons, hg, false_or]

theorem Mirrors.store_get?_eq {i j : Index} (hi : i.Mirrors) (hj : j.Mirrors)
    (h : ∀ file, i.cache.get? file = j.cache.get? file) (file : String) :
    i.store.get? file = j.store.get? file := by
  rw [hi file, hj file, h]

/-- A new index knows what was saved, if its integers can be read back. -/
theorem cache_get?_new {c : IndexConfig} {fs : FileSystem} {cache : Cache}
    (hcache : c.settings.enableCache = true) (hread : fs.read c.cachePath = .ok cache.payload)
    (htime : Json.Convertible cache.lastUpdate)
    (hentries : ∀ p ∈ cache.entries.entries, p.2.Convertible) (file : String) :
    (new c fs).cache.get? file = cache.get? file := by
  have hlegible : cache.artifact.toJson.legible = true := Artifact.legible_toJson htime hentries
  rw [Cache.get?, entries_new_of_payload hcache hread, if_pos hlegible]
  rfl

theorem invariant_cachePath (path : Option Path) :
    Invariant (fun _ => True) fun i => i.cache.path = path where
  gate _ h := h
  listeners _ h := h
  saved _ h := h
  cleared h := h
  commit h _ := (cachePath_commit _ _ _).trans h

end Index

namespace Session

theorem cachePath_start (c : IndexConfig) (fs : FileSystem) (home : Option Path) :
    (start c fs home).index.cache.path = some c.cachePath := by
  show (Index.new c fs).cache.path = _
  unfold Index.new
  dsimp only
  split
  · simp only [Index.restore, Cache.load, Cache.new]
    cases Artifact.read fs c.cachePath with
    | ok a => rfl
    | error e => rfl
  · rfl

theorem Leads.cachePath {c : IndexConfig} {fs : FileSystem} {home : Option Path} {t : Session}
    (h : Leads (start c fs home) t) : t.index.cache.path = some c.cachePath :=
  h.leadsWith.invariant (Index.invariant_cachePath _) (cachePath_start c fs home)

/-- Quiet listeners are like others that start no operation. -/
theorem leads_of_quiet {reactions : Reactions} (h : reactions.Quiet) (listener : String) (count : Nat)
    (u : Session) : Leads u (reactions listener count u).2 := by
  obtain ⟨hfiles, hindex, hhome⟩ := h listener count u
  have hsession : (reactions listener count u).2 =
      ⟨u.files, u.index, (reactions listener count u).2.stopRequested,
        (reactions listener count u).2.events, u.home⟩ := by
    rw [← hfiles, ← hindex, ← hhome]
  rw [hsession]
  exact .outside (.refl u) _ _ _ _

variable {s u : Session} {c : IndexConfig} {hook : Hook}

/-- What the cache holds when a build has followed its course. -/
theorem cache_get?_leftBy {found : List String} (hdiffer : found.Nodup) {n : Nat} {e : Ending}
    (hcourse : Course s c hook found n e) (files : Option (List String)) (file : String) :
    (s.leftBy c files found n e).cache.get? file =
      if file ∈ found.take n then entered (s.index.cache.get? file) (s.verdict c file)
      else if files = none ∧ e = .complete then none else s.index.cache.get? file := by
  have hentered := Index.cache_get?_enterAll s.index (s.verdict c) (hdiffer.sublist (List.take_sublist n found))
    file
  unfold leftBy
  split
  · rename_i hend
    have hget : ((s.oneByOne c (found.take n)).keepOnly found).cache.get? file =
        if found.contains file then (s.oneByOne c (found.take n)).cache.get? file else none :=
      FileMap.get?_restrict _ _ _
    -- a complete build has looked at all candidates
    obtain rfl : n = found.length := by
      rw [hend.2] at hcourse
      cases hcourse
      rfl
    rw [List.take_length] at hget hentered ⊢
    rw [hget]
    by_cases hmem : file ∈ found
    · rw [if_pos (List.contains_iff_mem.2 hmem), if_pos hmem]
      exact hentered.trans (if_pos hmem)
    · rw [if_neg (fun h => hmem (List.contains_iff_mem.1 h)), if_neg hmem]
  · exact hentered

/-- What the cache holds when a build has come to its end. -/
theorem BuildsTo.cache_get? {files : Option (List String)} {found : List String}
    {r : Except IndexFailure BuildReport} {t : Session}
    (h : BuildsTo s c files found found.length .complete r t) (hdiffer : found.Nodup)
    (hcourse : Course s c hook found found.length .complete) (file : String) :
    t.index.cache.get? file =
      if file ∈ found then entered (s.index.cache.get? file) (s.verdict c file)
      else if files = none then none else s.index.cache.get? file := by
  have hleft := cache_get?_leftBy hdiffer hcourse files file
  simp only [List.take_length, and_true] at hleft
  rw [← hleft, Cache.get?, h.entries]
  rfl

end Session

/-! ## Looking again -/

/-- A configuration that finds endpoints in files only, and in no directory. -/
def IndexConfig.ReadsFiles (c : IndexConfig) : Prop :=
  ∀ fs file es, c.parse fs file = .endpoints es → (fs.fileAt file).isSome

theorem IndexConfig.Faithful.readsFiles {c : IndexConfig} {prefilter : Bool} (h : c.Faithful prefilter) :
    c.ReadsFiles := by
  intro fs file es hparse
  obtain ⟨content, time, hfile, -⟩ := fileAt_of_parseWith (h fs file es hparse)
  rw [hfile]
  rfl

/-- A configuration to which only the content of a file matters. -/
def IndexConfig.ReadsContent (c : IndexConfig) : Prop :=
  ∀ fs fs' file, (fs'.read (.ofString file)).toOption = (fs.read (.ofString file)).toOption →
    c.parse fs' file = c.parse fs file

theorem IndexConfig.readsContent_of_parse {c : IndexConfig} {prefilter : Bool}
    (h : c.parse = parseWith prefilter) : c.ReadsContent := by
  intro fs fs' file hread
  rw [h, parseWith, parseWith]
  rcases FileSystem.eq_or_errors_of_toOption hread with hsame | ⟨⟨e', he'⟩, e, he⟩
  · rw [hsame]
  · rw [he', he]

/-- What a second look comes to. -/
def Finding.again : Finding → Finding
  | .parsed _ es => .cached es
  | f => f

namespace Session

variable {s u : Session} {c : IndexConfig} {hook : Hook}

theorem verdict_of_gone {file : String} (hm : u.modified? file = none) :
    u.verdict c file = .ok .missing := by
  rw [verdict, examine, hm]

theorem verdict_of_fresh {file : String} {time : Int} {e : CacheEntry}
    (hcache : c.settings.enableCache = true) (hm : u.modified? file = some time)
    (hknown : u.index.cache.get? file = some e) (hfresh : e.isFresh time = true) :
    u.verdict c file = .ok (.cached e.endpoints) := by
  rw [verdict, examine, hm, Index.snapshot?, if_pos hcache, hknown]
  dsimp only
  rw [Option.filter_some, if_pos hfresh]

theorem verdict_of_unknown {file : String} {time : Int} (hm : u.modified? file = some time)
    (hknown : u.index.cache.get? file = none) :
    u.verdict c file = (c.parse u.files file).finding time := by
  have hfiles : (Hook.none file (u.record (.parsed file))).files = u.files := rfl
  have hsnapshot : u.index.snapshot? c.settings file = none := by
    rw [Index.snapshot?, hknown, ite_self]
  rw [verdict, examine, hm, hsnapshot]
  dsimp only [Option.filter_none]
  rw [hfiles]
  cases c.parse u.files file with
  | endpoints es => rfl
  | unreadable => rfl
  | broken cause => rfl

/-- A file that stands as it stood at the first look is not read again, by whatever means it would be
read. -/
theorem verdict_again {c' : IndexConfig} (hcache : c.settings.enableCache = true)
    (hcache' : c'.settings.enableCache = true) (hreads : c.ReadsFiles) {file : String}
    (hm : u.modified? file = s.modified? file)
    (hmissing : c.parse s.files file = .unreadable → c'.parse u.files file = .unreadable) {f : Finding}
    (hknown : u.index.cache.get? file = f.entry (s.index.cache.get? file))
    (hf : s.verdict c file = .ok f) : u.verdict c' file = .ok f.again := by
  have hlook := examine_looks s c Hook.none file (s.index.snapshot? c.settings file)
  generalize (s.examine c Hook.none file (s.index.snapshot? c.settings file)).2 = t at hlook
  rw [← verdict, hf] at hlook
  generalize hr : (Except.ok f : Except String Finding) = r at hlook
  cases hlook with
  | gone hgone =>
    cases hr
    exact verdict_of_gone (hm.trans hgone)
  | fresh time e hdated hsnapshot hfresh =>
    cases hr
    rw [Index.snapshot?, if_pos hcache] at hsnapshot
    exact verdict_of_fresh hcache' (hm.trans hdated) (hknown.trans hsnapshot) hfresh
  | read time hdated hsnapshot =>
    have hfiles : (s.opened Hook.none file).files = s.files := rfl
    rw [hfiles] at hr
    cases hp : c.parse s.files file with
    | broken cause =>
      rw [hp] at hr
      cases hr
    | unreadable =>
      rw [hp] at hr
      cases hr
      rw [verdict_of_unknown (hm.trans hdated) hknown, hmissing hp]
      rfl
    | endpoints es =>
      rw [hp] at hr
      cases hr
      -- what was read is a file, so it has a time, and that of the entry is the same
      obtain ⟨⟨content, now⟩, hfile⟩ := Option.isSome_iff_exists.1 (hreads _ _ _ hp)
      obtain rfl : now = time := Option.some.inj ((modified?_of_fileAt hfile).symm.trans hdated)
      exact verdict_of_fresh hcache' (hm.trans hdated) hknown (by simp [CacheEntry.isFresh])

/-- The second time all that was parsed or cached is cached, and nothing is parsed. -/
theorem countVerdicts_again {c' : IndexConfig} {files : List String}
    (h : ∀ file ∈ files, ∃ f, s.verdict c file = .ok f ∧ u.verdict c' file = .ok f.again) :
    u.countVerdicts c' Finding.isParsed files = 0 ∧
      u.countVerdicts c' Finding.isCached files =
        s.countVerdicts c Finding.isParsed files + s.countVerdicts c Finding.isCached files := by
  induction files with
  | nil => exact ⟨rfl, rfl⟩
  | cons file files ih =>
    obtain ⟨f, hfirst, hsecond⟩ := h file List.mem_cons_self
    have hrest := ih fun g hg => h g (List.mem_cons_of_mem _ hg)
    simp only [countVerdicts, List.countP_cons, hfirst, hsecond, passes_ok] at hrest ⊢
    -- what was parsed is cached now, and what was cached still is
    cases f with
    | missing =>
      simp only [Finding.again, Finding.isParsed, Finding.isCached, Bool.false_eq_true, if_false]
      omega
    | cached es =>
      simp only [Finding.again, Finding.isParsed, Finding.isCached, Bool.false_eq_true, if_true, if_false]
      omega
    | parsed time es =>
      simp only [Finding.again, Finding.isParsed, Finding.isCached, Bool.false_eq_true, if_true, if_false]
      omega

/-- A second look leaves the entry that the first one has left. -/
theorem entry_again (f : Finding) (before : Option CacheEntry) :
    f.again.entry (f.entry before) = f.entry before := by
  cases f <;> rfl

/-! ## Building again -/

/-- The files stand as a build has found them: the candidates are the same, each has the time and the
content that it had, and the artifact is in its place. -/
structure Unchanged (c : IndexConfig) (files : Option (List String)) (s u : Session) : Prop where
  listed : u.listed c files = s.listed c files
  modified : ∀ found, s.listed c files = .ok found → ∀ file ∈ found, u.modified? file = s.modified? file
  parse : ∀ found, s.listed c files = .ok found → ∀ file ∈ found,
    c.parse u.files file = c.parse s.files file
  artifact : ∃ bytes, u.files.read c.cachePath = .ok bytes

/-- Where an artifact can be read, one can be saved. -/
theorem canSave_of_read {path : Path} (hparts : path.parts ≠ []) {bytes : List UInt8}
    (hread : u.files.read path = .ok bytes) (now : Int) : u.CanSave c path now := by
  intro _
  refine ⟨hparts, ?_⟩
  cases hfind : u.files.find path with
  | error o =>
    rw [FileSystem.read, hfind] at hread
    cases hread
  | ok p =>
    obtain ⟨d, es, since, hparent⟩ := FileSystem.find_parent_of_find hparts hfind
    exact FileSystem.makeDirectories_of_find hparent _

theorem saveCache_of_ok (hcache : c.settings.enableCache = true) {path : Path}
    (hpath : s.index.cache.path = some path) {now : Int} (h : (s.saveCache c now).1 = .ok ()) :
    (s.saveCache c now).2.index.cache.lastUpdate = now ∧
      (s.saveCache c now).2.index.cache.writeArtifact s.files path = .ok (s.saveCache c now).2.files := by
  unfold saveCache at h ⊢
  rw [if_pos hcache] at h ⊢
  simp only [Cache.save, hpath] at h ⊢
  split at h
  · rename_i fs cache hsave
    obtain ⟨hwrite, rfl⟩ := Prod.mk.inj hsave
    exact ⟨rfl, hwrite⟩
  · cases h

/-- A build that returns has saved its cache, with its time, where its looks have left the files. -/
theorem saved_of_build (hcache : c.settings.enableCache = true) (hidle : s.index.gate = .idle)
    (hook_spares : hook.SparesBuilds) {reactions : Reactions} (hreactions : reactions.Quiet)
    {path : Path} (hpath : s.index.cache.path = some path) {now : Int} {files : Option (List String)}
    {report : BuildReport} {t : Session} (hbuild : s.build c hook now files reactions = (.ok report, t)) :
    t.index.cache.lastUpdate = now ∧
      t.index.cache.writeArtifact ((s.setGate .building).buildBody c hook files).2.files path =
        .ok t.files := by
  have hkeeps := buildBody_keeps (s := s.setGate .building) (c := c)
    (Index.invariant_cachePath (some path)) trivial hook_spares rfl hpath files
  rw [build_of_idle hidle] at hbuild
  dsimp only at hbuild
  split at hbuild
  · cases hbuild
  · cases hbuild
  · rename_i p hsaved hbody
    cases hbuild
    rw [index_notify_of_spares hreactions.sparesIndex, files_notify_of_quiet hreactions]
    exact saveCache_of_ok hcache hkeeps hsaved

/-- The looks of a build that nothing disturbs leave the files alone, so its cache is saved into the files
that it has found. -/
theorem writeArtifact_of_build (hcache : c.settings.enableCache = true) (hidle : s.index.gate = .idle)
    (hook_spares : hook.SparesBuilds) (hook_keeps : hook.KeepsFiles) {reactions : Reactions}
    (hreactions : reactions.Quiet) {path : Path} (hpath : s.index.cache.path = some path)
    {files : Option (List String)} {found : List String} (hlisted : s.listed c files = .ok found)
    {n : Nat} {e : Ending} (hcourse : Course s c hook found n e) {now : Int} {report : BuildReport}
    {t : Session} (hbuild : s.build c hook now files reactions = (.ok report, t)) :
    t.index.cache.lastUpdate = now ∧ t.index.cache.writeArtifact s.files path = .ok t.files := by
  obtain ⟨r, v, hbody, -, hfiles, -⟩ := buildBody_of_course hook_spares hook_keeps hlisted hcourse
  have hsaved := saved_of_build hcache hidle hook_spares hreactions hpath hbuild
  rw [hbody] at hsaved
  rw [← hfiles]
  exact hsaved

/-- A second build that follows its course leaves every entry as the first one has left it. -/
theorem cache_get?_again {hook' : Hook} {files : Option (List String)} {found : List String}
    (hdiffer : found.Nodup) {n : Nat} {e : Ending} (hcourse' : Course u c hook' found n e)
    (hfirst : ∀ file, u.index.cache.get? file =
      if file ∈ found then entered (s.index.cache.get? file) (s.verdict c file)
      else if files = none then none else s.index.cache.get? file)
    (hverdicts : ∀ file ∈ found, ∃ f, s.verdict c file = .ok f ∧ u.verdict c file = .ok f.again)
    (file : String) :
    (u.leftBy c files found n e).cache.get? file = u.index.cache.get? file := by
  rw [cache_get?_leftBy hdiffer hcourse' files file]
  by_cases hmem : file ∈ found.take n
  · obtain ⟨f, hf, hagain⟩ := hverdicts file (List.mem_of_mem_take hmem)
    have hbefore := hfirst file
    rw [if_pos (List.mem_of_mem_take hmem), hf] at hbefore
    rw [if_pos hmem, hagain, hbefore]
    exact entry_again f _
  · rw [if_neg hmem]
    split
    · -- what a complete build drops was dropped by the first one
      rename_i hend
      obtain rfl : n = found.length := by
        rw [hend.2] at hcourse'
        cases hcourse'
        rfl
      rw [List.take_length] at hmem
      rw [hfirst, if_neg hmem, if_pos hend.1]
    · rfl

/-- A build that finds every candidate as an earlier one has entered it returns and parses nothing. If it
comes to its end, it takes from the cache what the earlier one parsed or took from the cache. -/
theorem build_of_again {c' : IndexConfig} {files : Option (List String)} {found : List String}
    (hlisted : u.listed c' files = .ok found)
    (hverdicts : ∀ file ∈ found, ∃ f, s.verdict c file = .ok f ∧ u.verdict c' file = .ok f.again)
    (hidle : u.index.gate = .idle) {path : Path} (hpath : u.index.cache.path = some path)
    {now : Int} (hsave : u.CanSave c' path now) {hook' : Hook} (hook_spares : hook'.SparesBuilds)
    (hook_keeps : hook'.KeepsFiles) {reactions' : Reactions} (hspares : reactions'.SparesIndex) :
    ∃ n e report t, Course u c' hook' found n e ∧
      u.build c' hook' now files reactions' = (.ok report, t) ∧
      BuildsTo u c' files found n e (.ok report) t ∧ report.tally.parsed = 0 ∧
      (report.cancelled = false → report.tally.cached =
        s.countVerdicts c Finding.isParsed found + s.countVerdicts c Finding.isCached found) := by
  have hok : ∀ file ∈ found, ∃ f, u.verdict c' file = .ok f := by
    intro file hfile
    obtain ⟨f, -, hagain⟩ := hverdicts file hfile
    exact ⟨f.again, hagain⟩
  obtain ⟨n, e, hcourse, hnot⟩ := exists_course_of_ok hook_spares hook_keeps (listed_nodup hlisted) hok
  have hbuilds := build_of_course hidle hook_spares hook_keeps hlisted hcourse now hspares
  obtain ⟨report, hreport⟩ := build_returns_of_course hidle hook_spares hook_keeps hlisted hcourse hnot
    hpath hsave hspares
  rw [hreport] at hbuilds
  obtain ⟨hparsed, hcached, -⟩ := hbuilds.counts report rfl
  have htaken := countVerdicts_again fun file hfile => hverdicts file (List.mem_of_mem_take (i := n) hfile)
  refine ⟨n, e, report, _, hcourse, Prod.ext hreport rfl, hbuilds, hparsed.trans htaken.1, ?_⟩
  intro hcancelled
  -- a build that is not cancelled has looked at all candidates
  obtain rfl : n = found.length := by
    cases hcourse with
    | complete => rfl
    | stopped =>
      rw [(hbuilds.cancelled report rfl).2 rfl] at hcancelled
      cases hcancelled
    | failed _ _ cause => exact absurd rfl (hnot cause)
  rw [List.take_length] at hcached htaken
  exact hcached.trans htaken.2

/-- A build over candidates that stand as a complete build has left them returns, parses nothing and
leaves every entry as it was. -/
theorem build_unchanged (hcache : c.settings.enableCache = true) (hreads : c.ReadsFiles)
    {files : Option (List String)} {found : List String} (hlisted : s.listed c files = .ok found)
    (hcourse : Course s c hook found found.length .complete)
    (hfirst : ∀ file, u.index.cache.get? file =
      if file ∈ found then entered (s.index.cache.get? file) (s.verdict c file)
      else if files = none then none else s.index.cache.get? file)
    (hidle : u.index.gate = .idle) (hpath : u.index.cache.path = some c.cachePath)
    (hparts : c.cachePath.parts ≠ []) (hunchanged : Unchanged c files s u) {hook' : Hook}
    (hook_spares : hook'.SparesBuilds) (hook_keeps : hook'.KeepsFiles) {reactions' : Reactions}
    (hspares : reactions'.SparesIndex) (now : Int) :
    ∃ report t, u.build c hook' now files reactions' = (.ok report, t) ∧ report.skipped = false ∧
      report.tally.parsed = 0 ∧
      (report.cancelled = false → report.tally.cached =
        s.countVerdicts c Finding.isParsed found + s.countVerdicts c Finding.isCached found) ∧
      ∀ file, t.index.cache.get? file = u.index.cache.get? file := by
  -- the first build left an entry for each file, and its date still fits
  have hverdicts : ∀ file ∈ found, ∃ f, s.verdict c file = .ok f ∧ u.verdict c file = .ok f.again := by
    intro file hfile
    obtain ⟨f, hf⟩ := hcourse.ok file (by rw [List.take_length]; exact hfile)
    have hknown : u.index.cache.get? file = f.entry (s.index.cache.get? file) := by
      rw [hfirst, if_pos hfile, hf]
      rfl
    exact ⟨f, hf, verdict_again hcache hcache hreads (hunchanged.modified found hlisted file hfile)
      (hunchanged.parse found hlisted file hfile).trans hknown hf⟩
  obtain ⟨bytes, hread⟩ := hunchanged.artifact
  obtain ⟨n, e, report, t, hcourse', hbuild, hbuilds, hparsed, hcached⟩ :=
    build_of_again (hunchanged.listed.trans hlisted) hverdicts hidle hpath
      (canSave_of_read hparts hread now) hook_spares hook_keeps hspares
  refine ⟨report, t, hbuild, (hbuilds.total report rfl).2, hparsed, hcached, fun file => ?_⟩
  rw [Cache.get?, hbuilds.entries]
  exact cache_get?_again (listed_nodup hlisted) hcourse' hfirst hverdicts file

/-- A build leaves the store in step with the cache, if its listeners spare the index. -/
theorem mirrors_build (hmirrors : s.index.Mirrors) (hook_spares : hook.SparesBuilds)
    {reactions : Reactions} (hspares : reactions.SparesIndex) {now : Int} {files : Option (List String)}
    {r : Except IndexFailure BuildReport} {t : Session}
    (hbuild : s.build c hook now files reactions = (r, t)) : t.index.Mirrors := by
  have houter (listener : String) (count : Nat) (v : Session) (hv : v.index.Mirrors) :
      (reactions listener count v).2.index.Mirrors := (hspares listener count v).symm ▸ hv
  have hkept := build_keeps (c := c) Index.invariant_mirrors trivial hook_spares houter hmirrors now files
  rw [hbuild] at hkept
  exact hkept

/-- The index that has saved an artifact and a new one that is made from it are ready for the same build. -/
theorem ready_of_saved {fs₀ : FileSystem} {home₀ : Option Path} {t : Session}
    (hafter : Leads (start c fs₀ home₀) t)
    (hnew : ∀ file, (Index.new c t.files).cache.get? file = t.index.cache.get? file)
    (hu : u.index = t.index ∨ u.index = Index.new c t.files) :
    u.index.gate = .idle ∧ u.index.cache.path = some c.cachePath ∧ u.index.Mirrors ∧
      ∀ file, u.index.cache.get? file = t.index.cache.get? file := by
  rcases hu with hu | hu
  · rw [hu]
    exact ⟨hafter.gate_idle, hafter.cachePath, hafter.mirrors (Index.mirrors_new c fs₀), fun _ => rfl⟩
  · rw [hu]
    exact ⟨gate_start c t.files none, cachePath_start c t.files none, Index.mirrors_new c t.files, hnew⟩

theorem endpointsOf_congr {t : Session} (hfiles : s.files = t.files) (hhome : s.home = t.home)
    (hstore : ∀ file, s.index.store.get? file = t.index.store.get? file) (path : String) :
    s.endpointsOf path = t.endpointsOf path := by
  unfold endpointsOf
  rw [normalize_congr (s := t) (t := s) hfiles hhome]
  cases t.normalize path with
  | error e => rfl
  | ok file =>
    dsimp only
    rw [hstore]

/-- Files that stand as a build has left them stand as it has found them, if saving the cache passes them
by. -/
theorem Unchanged.of_saved {t : Session} {files : Option (List String)} {found : List String}
    (hcontent : c.ReadsContent) (hbefore : s.listed c files = .ok found)
    (hafter : t.listed c files = .ok found) {cache : Cache}
    (hwrite : cache.writeArtifact s.files c.cachePath = .ok t.files)
    (hpassed : ∀ file ∈ found, Cache.PassedBy s.files c.cachePath cache.lastUpdate file)
    (h : Unchanged c files t u) : Unchanged c files s u := by
  have hfind := fun file hfile => (hpassed file hfile).find_eq hwrite
  refine ⟨h.listed.trans (hafter.trans hbefore.symm), ?_, ?_, h.artifact⟩
  · intro found' hfound' file hfile
    obtain rfl : found = found' := Except.ok.inj (hbefore.symm.trans hfound')
    exact (h.modified found hafter file hfile).trans
      (FileSystem.toOption_modified_congr (hfind file hfile))
  · intro found' hfound' file hfile
    obtain rfl : found = found' := Except.ok.inj (hbefore.symm.trans hfound')
    exact (h.parse found hafter file hfile).trans
      (hcontent _ _ file (FileSystem.toOption_read_congr (hfind file hfile)))

theorem listeners_enterAll (i : Index) (verdicts : String → Except String Finding) (files : List String) :
    (i.enterAll verdicts files).listeners = i.listeners := by
  induction files generalizing i with
  | nil => rfl
  | cons file files ih =>
    have henter : (i.enter file (verdicts file)).listeners = i.listeners := by
      cases verdicts file with
      | error cause => rfl
      | ok f => cases f <;> rfl
    exact (ih _).trans henter

/-- A build registers and removes no listeners. -/
theorem listeners_build_of_course (hidle : s.index.gate = .idle) (hook_spares : hook.SparesBuilds)
    (hook_keeps : hook.KeepsFiles) {files : Option (List String)} {found : List String}
    (hlisted : s.listed c files = .ok found) {n : Nat} {e : Ending} (hcourse : Course s c hook found n e)
    (now : Int) : (s.build c hook now files).2.index.listeners = s.index.listeners := by
  obtain ⟨r, t, hbody, hindex, -⟩ := buildBody_of_course hook_spares hook_keeps hlisted hcourse
  have hleft : (s.leftBy c files found n e).listeners = s.index.listeners := by
    unfold leftBy
    split
    · exact listeners_enterAll _ _ _
    · exact listeners_enterAll _ _ _
  have hsaved : (t.saveCache c now).2.index.listeners = s.index.listeners := by
    rcases index_saveCache t c now with h | h
    · rw [h, hindex]
      exact hleft
    · rw [h, hindex]
      exact hleft
  rw [build_of_idle hidle, hbody]
  dsimp only
  split
  · exact hsaved
  · exact hsaved
  · rw [index_notify]
    exact hsaved

/-- What listeners do comes last in a build. -/
theorem build_notify (hidle : s.index.gate = .idle) {now : Int} {files : Option (List String)}
    {report : BuildReport} {t : Session} (hbuild : s.build c hook now files = (.ok report, t)) :
    ∃ v : Session, v.index = t.index ∧ v.files = t.files ∧ v.index.gate = .idle ∧
      ∀ reactions, s.build c hook now files reactions =
        (.ok { report with indexedFiles := (v.notify reactions).index.store.size }, v.notify reactions) := by
  rw [build_of_idle hidle] at hbuild
  dsimp only at hbuild
  split at hbuild
  · cases hbuild
  · cases hbuild
  · rename_i p hsaved hbody
    obtain ⟨hreport, rfl⟩ := Prod.mk.inj hbuild
    obtain rfl := Except.ok.inj hreport
    refine ⟨_, (index_notify _).symm, (files_notify _).symm, rfl, fun reactions => ?_⟩
    rw [build_of_idle hidle]
    dsimp only
    rw [hsaved, hbody]

/-- What is forgotten has no endpoints, and nothing else is changed. -/
theorem remove_of_idle (hidle : s.index.gate = .idle) {path file : String}
    (hfile : s.normalize path = .ok file) :
    (s.remove path).2.files = s.files ∧ (s.remove path).2.home = s.home ∧
      ∀ g, (s.remove path).2.index.store.get? g = if g = file then none else s.index.store.get? g := by
  have hstore : ∀ g, (s.index.drop file).store.get? g = if g = file then none else s.index.store.get? g :=
    s.index.store.get?_remove file
  rw [remove, hfile]
  dsimp only
  rw [hidle]
  dsimp only [Gate.beginUpdate?]
  split
  · refine ⟨files_notify _, home_notify_of_quiet Reactions.quiet_none _, fun g => ?_⟩
    rw [index_notify]
    exact hstore g
  · exact ⟨rfl, rfl, hstore⟩

/-! ## Samples -/

/-- The artifact is kept at the top. Of the two candidates only the first is there. -/
def topConfig : IndexConfig :=
  { readingConfig with
    settings := { Settings.defaults with cacheDir := some ⟨.root, []⟩, cacheFileName := "c" } }

/-- The files of the sample with an artifact. -/
def archivedFiles (bytes : List UInt8) (time : Int) : FileSystem :=
  ⟨.directory [("r", .directory [("A.java", .file (Text.Utf8.encodeText controllerText) 5)] 0),
    ("c", .file bytes time)] time, []⟩

theorem writeArtifact_controllerFiles (cache : Cache) :
    cache.writeArtifact controllerFiles topConfig.cachePath =
      .ok (archivedFiles cache.payload (cache.lastUpdate * 1000000)) := by
  unfold Cache.writeArtifact controllerFiles archivedFiles
  generalize cache.payload = bytes
  generalize cache.lastUpdate * 1000000 = time
  generalize Text.Utf8.encodeText controllerText = content
  cbv

theorem read_controllerFiles_top : controllerFiles.read topConfig.cachePath = .error .notFound := by
  unfold controllerFiles
  generalize Text.Utf8.encodeText controllerText = content
  cbv

theorem canSave_top {u : Session}
    (h : u.files = controllerFiles ∨ ∃ bytes time, u.files = archivedFiles bytes time) (now : Int) :
    u.CanSave topConfig topConfig.cachePath now := by
  unfold controllerFiles archivedFiles at h
  generalize Text.Utf8.encodeText controllerText = content at h
  unfold CanSave
  rcases h with h | ⟨bytes, time, h⟩
  · rw [h]
    exact fun _ => ⟨by cbv; simp, _, by cbv⟩
  · rw [h]
    exact fun _ => ⟨by cbv; simp, _, by cbv⟩

/-- What a build can see of its candidates. -/
structure SampleCandidates (u : Session) : Prop where
  listed : u.listed topConfig none = .ok ["/r/A.java", "/r/B.java"]
  first : u.files.fileAt "/r/A.java" = some (Text.Utf8.encodeText controllerText, 5)
  second : u.files.find (.ofString "/r/B.java") = .error .missing

namespace SampleCandidates

theorem start_controllerFiles : SampleCandidates (start topConfig controllerFiles) := by
  unfold start controllerFiles
  generalize Index.new topConfig _ = i
  refine ⟨?_, ?_, ?_⟩
  all_goals generalize Text.Utf8.encodeText controllerText = content
  all_goals cbv

theorem of_archivedFiles {u : Session} {bytes : List UInt8} {time : Int}
    (h : u.files = archivedFiles bytes time) : SampleCandidates u := by
  obtain ⟨files, i, stop, events, home⟩ := u
  dsimp only at h
  subst h
  unfold archivedFiles
  refine ⟨?_, ?_, ?_⟩
  all_goals generalize Text.Utf8.encodeText controllerText = content
  all_goals cbv

variable {u : Session} (h : SampleCandidates u)

include h

theorem modified?_first : u.modified? "/r/A.java" = some 5 := modified?_of_fileAt h.first

theorem modified?_second : u.modified? "/r/B.java" = none := by
  rw [modified?, FileSystem.modified, h.second]
  rfl

end SampleCandidates

/-- A build over the controller and a file that is not there reads the one and misses the other. -/
theorem build_controllerFiles (hparse : c.parse = IndexConfig.parseWith true)
    (hcache : c.settings.enableCache = true) (hfiles : s.files = controllerFiles)
    (hidle : s.index.gate = .idle) (hstop : s.stopRequested = false)
    (hpath : s.index.cache.path = some c.cachePath) (hempty : ∀ file, s.index.cache.get? file = none)
    {files : Option (List String)} {other : String} (hother : other ≠ "/r/A.java")
    (hlisted : s.listed c files = .ok ["/r/A.java", other]) (hgone : s.modified? other = none)
    (hsave : s.CanSave c c.cachePath 7) :
    ∃ report t, s.build c Hook.none 7 files = (.ok report, t) ∧
      report.cancelled = false ∧ report.tally.parsed = 1 ∧ report.tally.cached = 0 ∧
      t.index.listeners = s.index.listeners ∧ t.index.cache.lastUpdate = 7 ∧
      t.index.cache.writeArtifact controllerFiles c.cachePath = .ok t.files ∧
      ∀ file, t.index.cache.get? file =
        if file = "/r/A.java" then some ⟨5, [controllerEndpoint "/r/A.java"]⟩ else none := by
  have hspares := Hook.sparesBuilds_none
  have hkeeps := Hook.keepsFiles_none
  have hfile := fileAt_controllerFiles
  rw [← hfiles] at hfile
  have hfirst : s.verdict c "/r/A.java" = .ok (.parsed 5 [controllerEndpoint "/r/A.java"]) := by
    rw [verdict_of_unknown (modified?_of_fileAt hfile) (hempty _), hparse]
    show (IndexConfig.parseWith true s.files "/r/A.java").finding 5 = _
    rw [IndexConfig.parseWith_of_fileAt hfile, parseContent_controllerText List.mem_cons_self]
    rfl
  have hsecond : s.verdict c other = .ok .missing := verdict_of_gone hgone
  have hok : ∀ file ∈ ["/r/A.java", other], ∃ f, s.verdict c file = .ok f := by
    intro file hfile
    simp only [List.mem_cons, List.not_mem_nil, or_false] at hfile
    rcases hfile with rfl | rfl
    · exact ⟨_, hfirst⟩
    · exact ⟨_, hsecond⟩
  obtain ⟨hcourse, report, t, hbuild, hcancelled⟩ := build_uncancelled hidle hstop hlisted hok hpath hsave
  have hbuilds := build_of_course hidle hspares hkeeps hlisted hcourse 7 Reactions.sparesIndex_none
  rw [hbuild] at hbuilds
  obtain ⟨hparsed, hcached, -⟩ := hbuilds.counts report rfl
  obtain ⟨hlastUpdate, hwrite⟩ := writeArtifact_of_build hcache hidle hspares hkeeps Reactions.quiet_none
    hpath hlisted hcourse hbuild
  have hlisteners := listeners_build_of_course hidle hspares hkeeps hlisted hcourse 7
  rw [hbuild] at hlisteners
  refine ⟨report, t, hbuild, hcancelled, ?_, ?_, hlisteners, hlastUpdate, hfiles ▸ hwrite, ?_⟩
  · rw [hparsed]
    simp [countVerdicts, hfirst, hsecond, Finding.isParsed]
  · rw [hcached]
    simp [countVerdicts, hfirst, hsecond, Finding.isCached]
  · intro file
    rw [hbuilds.cache_get? (by simpa using hother.symm) hcourse file, hempty]
    by_cases hA : file = "/r/A.java"
    · subst hA
      rw [if_pos List.mem_cons_self, if_pos rfl, hfirst]
      rfl
    · rw [if_neg hA]
      split
      · rename_i hfile
        obtain rfl : file = other := by simpa [hA] using hfile
        rw [hsecond]
        rfl
      · rw [ite_self]

/-- The integers of the entry can be read back. -/
theorem convertible_controllerEndpoint {t : Session}
    (hget : ∀ file, t.index.cache.get? file =
      if file = "/r/A.java" then some ⟨5, [controllerEndpoint "/r/A.java"]⟩ else none) :
    ∀ p ∈ t.index.cache.entries.entries, p.2.Convertible := by
  intro p hp
  have hp' : t.index.cache.get? p.1 = some p.2 := (FileMap.get?_eq_some_iff _ _ _).2 hp
  rw [hget] at hp'
  split at hp'
  · rw [← Option.some.inj hp']
    refine ⟨by decide, ?_⟩
    intro endpoint hendpoint i hi
    rw [List.mem_singleton.1 hendpoint] at hi
    simp only [Endpoint.positions, controllerEndpoint, List.mem_cons, List.not_mem_nil, or_false] at hi
    rcases hi with rfl | rfl | rfl | rfl <;> decide
  · cases hp'

theorem passedBy_controllerFiles {file : String} (hfile : file ∈ ["/r/A.java", "/r/B.java"]) :
    Cache.PassedBy controllerFiles topConfig.cachePath 7 file := by
  have htidy : controllerFiles.Tidy := by
    unfold controllerFiles
    generalize Text.Utf8.encodeText controllerText = content
    rfl
  have hmake : controllerFiles.makeDirectories topConfig.cachePath.parent (7 * 1000000) =
      .ok controllerFiles := by
    unfold controllerFiles
    generalize Text.Utf8.encodeText controllerText = content
    cbv
  have hplace : controllerFiles.entryPlace topConfig.cachePath = .ok ["c"] := by
    unfold controllerFiles
    generalize Text.Utf8.encodeText controllerText = content
    cbv
  have hdraft : controllerFiles.entryPlace (Cache.draftPath topConfig.cachePath) = .ok ["c.tmp"] := by
    unfold controllerFiles
    generalize Text.Utf8.encodeText controllerText = content
    cbv
  have hwritten : controllerFiles.locate (Cache.draftPath topConfig.cachePath) = .ok ["c.tmp"] := by
    unfold controllerFiles
    generalize Text.Utf8.encodeText controllerText = content
    cbv
  have hspelled : ∃ x, controllerFiles.spelled (.ofString file) = ["r", x] ∧
      ".." ∉ (Path.ofString file).parts ∧
      ∀ es since, controllerFiles.get? ["r", x] ≠ some (.directory es since) := by
    unfold controllerFiles
    generalize Text.Utf8.encodeText controllerText = content
    simp only [List.mem_cons, List.not_mem_nil, or_false] at hfile
    rcases hfile with rfl | rfl
    · exact ⟨"A.java", by cbv, by decide +kernel, by rintro es since ⟨⟩⟩
    · exact ⟨"B.java", by cbv, by decide +kernel, by rintro es since ⟨⟩⟩
  obtain ⟨x, hx, hup, hplain⟩ := hspelled
  refine ⟨⟨hup, fun q _ => htidy.get?_ne_link q⟩, ?_⟩
  intro made hmade
  obtain rfl : controllerFiles = made := Except.ok.inj (hmake.symm.trans hmade)
  rw [hx]
  refine ⟨hplain, ?_, ?_, ?_⟩
  · intro l hl
    obtain rfl : ["c"] = l := Except.ok.inj (hplace.symm.trans hl)
    simp
  · intro l hl
    obtain rfl : ["c.tmp"] = l := Except.ok.inj (hdraft.symm.trans hl)
    simp
  · rw [hwritten]
    simp

theorem unchanged_self {t : Session} {files : Option (List String)} {bytes : List UInt8}
    (hread : t.files.read c.cachePath = .ok bytes) (hfiles : u.files = t.files) (hhome : u.home = t.home) :
    Unchanged c files t u := by
  refine ⟨listed_congr hfiles hhome c files, ?_, ?_, bytes, hfiles ▸ hread⟩
  · intro _ _ file _
    rw [modified?, modified?, hfiles]
  · intro _ _ file _
    rw [hfiles]

/-- The artifact is kept beside the sources. -/
def besideConfig : IndexConfig :=
  { readingConfig with
    settings := { Settings.defaults with cacheDir := some ⟨.root, ["r"]⟩, cacheFileName := "c" } }

/-- The files of the sample with an artifact beside the source. -/
def besideFiles (bytes : List UInt8) (time : Int) : FileSystem :=
  ⟨.directory [("r", .directory [("A.java", .file (Text.Utf8.encodeText controllerText) 5),
    ("c", .file bytes time)] time)] 0, []⟩

theorem writeArtifact_beside (cache : Cache) :
    cache.writeArtifact controllerFiles besideConfig.cachePath =
      .ok (besideFiles cache.payload (cache.lastUpdate * 1000000)) := by
  unfold Cache.writeArtifact controllerFiles besideFiles
  generalize cache.payload = bytes
  generalize cache.lastUpdate * 1000000 = time
  generalize Text.Utf8.encodeText controllerText = content
  cbv

theorem sees_controllerFiles {s : Session} (h : s.files = controllerFiles) :
    controllerFiles.read besideConfig.cachePath = .error .notFound ∧
      s.listed besideConfig (some ["/r/A.java", "/r/c"]) = .ok ["/r/A.java", "/r/c"] ∧
      s.modified? "/r/c" = none ∧ s.CanSave besideConfig besideConfig.cachePath 7 := by
  obtain ⟨files, i, stop, events, home⟩ := s
  dsimp only at h
  subst h
  unfold controllerFiles CanSave
  generalize Text.Utf8.encodeText controllerText = content
  exact ⟨by cbv, by cbv, by cbv, fun _ => ⟨by cbv; simp, _, by cbv⟩⟩

theorem sees_besideFiles {u : Session} {bytes : List UInt8} {time : Int}
    (h : u.files = besideFiles bytes time) :
    u.files.read besideConfig.cachePath = .ok bytes ∧ u.normalize "/r/A.java" = .ok "/r/A.java" ∧
      u.listed besideConfig (some ["/r/A.java", "/r/c"]) = .ok ["/r/A.java", "/r/c"] ∧
      u.files.fileAt "/r/A.java" = some (Text.Utf8.encodeText controllerText, 5) ∧
      u.files.fileAt "/r/c" = some (bytes, time) ∧
      u.CanSave besideConfig besideConfig.cachePath 9 := by
  obtain ⟨files, i, stop, events, home⟩ := u
  dsimp only at h
  subst h
  unfold besideFiles CanSave
  generalize Text.Utf8.encodeText controllerText = content
  exact ⟨by cbv, by cbv, by cbv, by cbv, by cbv, fun _ => ⟨by cbv; simp, _, by cbv⟩⟩

/-- A listener forgets the file. -/
def removingReactions : Reactions := fun _ _ u => (.ok (), (u.remove "/r/A.java").2)

/-- The first build, with or without somebody who listens. -/
theorem build_beside {s : Session} (hs : s = start besideConfig controllerFiles ∨
      s = (start besideConfig controllerFiles).listen "l") :
    ∃ report t, s.build besideConfig Hook.none 7 (some ["/r/A.java", "/r/c"]) = (.ok report, t) ∧
      report.cancelled = false ∧ t.index.listeners = s.index.listeners ∧ t.index.cache.lastUpdate = 7 ∧
      t.files = besideFiles t.index.cache.payload 7000000 ∧
      ∀ file, t.index.cache.get? file =
        if file = "/r/A.java" then some ⟨5, [controllerEndpoint "/r/A.java"]⟩ else none := by
  have hstart : s.files = controllerFiles ∧ s.stopRequested = false ∧ s.index.gate = .idle ∧
      s.index.cache = (start besideConfig controllerFiles).index.cache := by
    rcases hs with rfl | rfl
    · exact ⟨rfl, rfl, gate_start _ _ _, rfl⟩
    · exact ⟨rfl, rfl, gate_start besideConfig controllerFiles none, rfl⟩
  obtain ⟨hfiles, hstop, hidle, hcache⟩ := hstart
  obtain ⟨hunread, hlisted, hgone, hsave⟩ := sees_controllerFiles hfiles
  have hpath : s.index.cache.path = some besideConfig.cachePath := by
    rw [hcache]
    exact cachePath_start _ _ _
  have hempty : ∀ file, s.index.cache.get? file = none := by
    rw [hcache]
    exact Index.cache_get?_new_of_unread hunread
  obtain ⟨report, t, hbuild, hcancelled, -, -, hlisteners, hlastUpdate, hwrite, hget⟩ :=
    build_controllerFiles rfl rfl hfiles hidle hstop hpath hempty (by decide) hlisted hgone hsave
  rw [writeArtifact_beside, hlastUpdate] at hwrite
  exact ⟨report, t, hbuild, hcancelled, hlisteners, hlastUpdate, (Except.ok.inj hwrite).symm, hget⟩

/-- A candidate that is the artifact is not there at the first look, and a second build reads what the
first one has saved. -/
theorem parsed_artifact :
    ∃ report t report' t',
      (start besideConfig controllerFiles).build besideConfig Hook.none 7 (some ["/r/A.java", "/r/c"]) =
        (.ok report, t) ∧
      report.cancelled = false ∧ t.files.read besideConfig.cachePath = .ok t.index.cache.payload ∧
      (start besideConfig t.files t.home).build besideConfig Hook.none 9 (some ["/r/A.java", "/r/c"]) =
        (.ok report', t') ∧
      report'.cancelled = false ∧ report'.tally.parsed = 1 ∧
      t.index.cache.get? "/r/c" = none ∧ (t'.index.cache.get? "/r/c").isSome := by
  obtain ⟨report, t, hbuild, hcancelled, -, hlastUpdate, hfiles, hget⟩ := build_beside (.inl rfl)
  let u := start besideConfig t.files t.home
  obtain ⟨hread, -, hlisted', hA, hc, hsave'⟩ := sees_besideFiles (u := u) hfiles
  have hnew : ∀ file, u.index.cache.get? file = t.index.cache.get? file :=
    Index.cache_get?_new rfl hread (by rw [hlastUpdate]; decide) (convertible_controllerEndpoint hget)
  have hfirst : u.verdict besideConfig "/r/A.java" = .ok (.cached [controllerEndpoint "/r/A.java"]) :=
    verdict_of_fresh rfl (modified?_of_fileAt hA) ((hnew _).trans (hget _)) (by decide)
  obtain ⟨es, hes⟩ := IndexConfig.parseContent_eq_endpoints true "/r/c" t.index.cache.payload
  have hsecond : u.verdict besideConfig "/r/c" = .ok (.parsed 7000000 es) := by
    rw [verdict_of_unknown (modified?_of_fileAt hc) ((hnew _).trans (hget _))]
    show (IndexConfig.parseWith true u.files "/r/c").finding 7000000 = _
    rw [IndexConfig.parseWith_of_fileAt hc, hes]
    rfl
  have hok : ∀ file ∈ ["/r/A.java", "/r/c"], ∃ f, u.verdict besideConfig file = .ok f := by
    intro file hfile
    simp only [List.mem_cons, List.not_mem_nil, or_false] at hfile
    rcases hfile with rfl | rfl
    · exact ⟨_, hfirst⟩
    · exact ⟨_, hsecond⟩
  have hidle : u.index.gate = .idle := gate_start _ _ _
  obtain ⟨hcourse, report', t', hbuild', hcancelled'⟩ := build_uncancelled hidle rfl hlisted' hok
    (cachePath_start besideConfig t.files t.home) hsave'
  have hbuilds := build_of_course hidle Hook.sparesBuilds_none Hook.keepsFiles_none hlisted' hcourse 9
    Reactions.sparesIndex_none
  rw [hbuild'] at hbuilds
  refine ⟨report, t, report', t', hbuild, hcancelled, hread, hbuild', hcancelled', ?_, hget _, ?_⟩
  · rw [(hbuilds.counts report' rfl).1]
    simp [countVerdicts, hfirst, hsecond, Finding.isParsed]
  · rw [hbuilds.cache_get? (by decide) hcourse, if_pos (by decide), hsecond]
    rfl

/-- A listener forgets the file when it is told of the build. A new index still knows the file. -/
theorem restored_removed :
    ∃ report t,
      ((start besideConfig controllerFiles).listen "l").build besideConfig Hook.none 7
        (some ["/r/A.java", "/r/c"]) removingReactions = (.ok report, t) ∧
      report.cancelled = false ∧ (∃ bytes, t.files.read besideConfig.cachePath = .ok bytes) ∧
      t.endpointsOf "/r/A.java" = .ok none ∧
      (start besideConfig t.files).endpointsOf "/r/A.java" =
        .ok (some [controllerEndpoint "/r/A.java"]) := by
  let s := (start besideConfig controllerFiles).listen "l"
  obtain ⟨report, t, hbuild, hcancelled, hlisteners, hlastUpdate, hfiles, hget⟩ :=
    build_beside (s := s) (.inr rfl)
  obtain ⟨v, hindex, hfiles', hidle, hnotify⟩ :=
    build_notify (s := s) (gate_start besideConfig controllerFiles none) hbuild
  -- the one listener is told, and forgets the file
  let w := v.record (.notified "l" v.index.store.count)
  have htold : v.notify removingReactions = (w.remove "/r/A.java").2 := by
    have hl : v.index.listeners = ["l"] := by
      rw [hindex, hlisteners]
      rfl
    rw [notify, hl]
    rfl
  obtain ⟨hread, hnormal, -⟩ := sees_besideFiles (u := w) (hfiles'.trans hfiles)
  obtain ⟨hkept, hhome, hforgot⟩ := remove_of_idle (s := w) hidle hnormal
  refine ⟨_, _, hnotify removingReactions, hcancelled, ⟨t.index.cache.payload, ?_⟩, ?_, ?_⟩
  · rw [htold, hkept]
    exact hread
  · rw [htold, endpointsOf, normalize_congr (s := w) hkept hhome, hnormal]
    dsimp only
    rw [hforgot, if_pos rfl]
  · rw [htold, hkept]
    let u := start besideConfig w.files
    obtain ⟨hread', hnormal', -⟩ := sees_besideFiles (u := u) (hfiles'.trans hfiles)
    have hknown : u.index.cache.get? "/r/A.java" = some ⟨5, [controllerEndpoint "/r/A.java"]⟩ :=
      (Index.cache_get?_new rfl hread' (by rw [hlastUpdate]; decide)
        (convertible_controllerEndpoint hget) _).trans (hget _)
    have hshown : u.index.store.get? "/r/A.java" = some [controllerEndpoint "/r/A.java"] := by
      refine (Index.mirrors_new besideConfig w.files "/r/A.java").trans ?_
      exact congrArg (·.bind CacheEntry.shown) hknown
    show u.endpointsOf "/r/A.java" = _
    rw [endpointsOf, hnormal']
    exact congrArg Except.ok hshown

end Session

end EndpointIndex
