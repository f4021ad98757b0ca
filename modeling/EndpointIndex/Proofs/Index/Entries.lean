import EndpointIndex.Proofs.Artifact
import EndpointIndex.Proofs.Endpoint.Place
import EndpointIndex.Proofs.Index.Mirror
import EndpointIndex.Proofs.Index.Sighting

/-!
# What every entry satisfies

Entries come into a cache in two ways only: a file is read, or an artifact is loaded. So a property of
all that configurations read holds of every entry, through any operations (`invariant_allEntries`) and
through the artifact (`allEntries_new`), and the store shows nothing else. With the standard readers
this makes every endpoint of every index well formed (`Attained.endpoints_wellFormed`).
-/

namespace EndpointIndex

/-! ## Entries -/

/-- Whatever is read has a property that a file and its endpoints may have. -/
def IndexConfig.Yields (P : String → List Endpoint → Prop) (c : IndexConfig) : Prop :=
  ∀ fs file es, c.parse fs file = .endpoints es → P file es

variable {P : String → List Endpoint → Prop}

namespace Index

/-- Every entry of the cache has the property. -/
def AllEntries (P : String → List Endpoint → Prop) (i : Index) : Prop :=
  ∀ file e, i.cache.get? file = some e → P file e.endpoints

theorem AllEntries.congr {i j : Index} (h : i.AllEntries P) (hentries : j.cache.entries = i.cache.entries) :
    j.AllEntries P := by
  intro file e he
  rw [Cache.get?, hentries] at he
  exact h file e he

theorem allEntries_of_empty {i : Index} (hentries : i.cache.entries = .empty) : i.AllEntries P := by
  intro file e he
  rw [Cache.get?, hentries] at he
  cases he

/-- Only what was read adds to the cache. -/
theorem AllEntries.commit {i : Index} (h : i.AllEntries P) {file : String} {f : Finding}
    (hf : ∀ time es, f = .parsed time es → P file es) : (i.commit file f).AllEntries P := by
  intro g e he
  by_cases hg : g = file
  · subst hg
    cases f with
    | missing =>
      have hremove := (Cache.get?_remove i.cache g g).symm.trans he
      rw [if_pos rfl] at hremove
      cases hremove
    | cached es => exact h g e he
    | parsed time es =>
      have hput := (Cache.get?_put i.cache g g ⟨time, es⟩).symm.trans he
      rw [if_pos rfl] at hput
      cases hput
      exact hf time es rfl
  · rw [cache_get?_commit_of_ne i f hg] at he
    exact h g e he

theorem invariant_allEntries {allowed : IndexConfig → Prop} (hyields : ∀ c, allowed c → c.Yields P) :
    Invariant allowed (AllEntries P) where
  gate g h := h.congr rfl
  listeners listeners h := h.congr rfl
  saved now h := h.congr rfl
  cleared _ := allEntries_of_empty rfl
  commit h hrests := by
    apply h.commit
    rintro time es rfl
    obtain ⟨c, fs, hc, hparse⟩ := hrests
    exact hyields c hc fs _ es hparse

/-- A new index has the entries that were saved, unless they have integers of too many digits. -/
theorem entries_new_of_payload {c : IndexConfig} {fs : FileSystem} {cache : Cache}
    (hcache : c.settings.enableCache = true) (hread : fs.read c.cachePath = .ok cache.payload) :
    (new c fs).cache.entries = if cache.artifact.toJson.legible then cache.entries else .empty := by
  have hartifact : Artifact.read fs c.cachePath =
      if cache.artifact.toJson.legible then .ok cache.artifact else .error (.unreadable c.cachePath) := by
    rw [Artifact.read_eq_decode, hread]
    exact cache.decode_payload c.cachePath
  unfold new
  rw [if_pos hcache]
  simp only [restore, Cache.load, Cache.new]
  rw [hartifact]
  cases cache.artifact.toJson.legible with
  | true => rfl
  | false => rfl

theorem entries_new_of_unreadable {c : IndexConfig} {fs : FileSystem}
    (h : c.settings.enableCache = true → ∀ a, Artifact.read fs c.cachePath ≠ .ok a) :
    (new c fs).cache.entries = .empty := by
  unfold new
  dsimp only
  split
  · rename_i hcache
    simp only [restore, Cache.load, Cache.new]
    cases hread : Artifact.read fs c.cachePath with
    | ok a => exact absurd hread (h hcache a)
    | error e => rfl
  · rfl

theorem cache_get?_new_of_unread {c : IndexConfig} {fs : FileSystem} {e : FileError}
    (h : fs.read c.cachePath = .error e) (file : String) : (new c fs).cache.get? file = none := by
  rw [Cache.get?, entries_new_of_unreadable fun _ => Artifact.read_ne_ok h, FileMap.get?_empty]

theorem allEntries_new {c : IndexConfig} {fs : FileSystem} {i : Index} {now : Int}
    (h : i.AllEntries P) (hread : fs.read c.cachePath = .ok { i.cache with lastUpdate := now }.payload) :
    (new c fs).AllEntries P := by
  by_cases hcache : c.settings.enableCache = true
  · have hentries := entries_new_of_payload hcache hread
    split at hentries
    · exact h.congr hentries
    · exact allEntries_of_empty hentries
  · exact allEntries_of_empty (entries_new_of_unreadable fun henabled => absurd henabled hcache)

end Index

/-! ## Endpoints that were read -/

namespace Session

/-- The sessions that come about when files are read by the standard readers, which may fail, and an
artifact that an index finds is one that was saved in such a session. Nothing else is asked of the
files, and nothing at all of those of an index that does not use its cache. -/
inductive Attained : Session → Prop
  | first (c : IndexConfig) (fs : FileSystem) (home : Option Path)
      (hnone : c.settings.enableCache = true → ∀ a, Artifact.read fs c.cachePath ≠ .ok a) :
      Attained (start c fs home)
  | again {s : Session} (h : Attained s) (c : IndexConfig) (fs : FileSystem) (home : Option Path)
      (now : Int)
      (hread : fs.read c.cachePath = .ok { s.index.cache with lastUpdate := now }.payload) :
      Attained (start c fs home)
  | run {s t : Session} (h : Attained s)
      (hrun : LeadsWith (fun c => ∃ prefilter, c.Faithful prefilter) s t) : Attained t

theorem Attained.mirrors {t : Session} (h : Attained t) : t.index.Mirrors := by
  induction h with
  | first c fs home hnone => exact Index.mirrors_new c fs
  | again h c fs home now hread ih => exact Index.mirrors_new c fs
  | run h hrun ih => exact hrun.leads.mirrors ih

end Session

theorem IndexConfig.yields_wellFormed {c : IndexConfig} {prefilter : Bool} (hc : c.Faithful prefilter) :
    c.Yields fun file es => ∀ e ∈ es, e.WellFormed file := by
  intro fs file es hparse
  obtain ⟨content, time, -, hcontent⟩ := fileAt_of_parseWith (hc fs file es hparse)
  unfold parseContent at hcontent
  split at hcontent
  · rename_i found hfound
    cases hcontent
    exact ReadingPlan.wellFormed_endpoints hfound
  · cases hcontent
    simp
  · cases hcontent

namespace Session

theorem Attained.allEntries {t : Session} (h : Attained t) :
    t.index.AllEntries fun file es => ∀ e ∈ es, e.WellFormed file := by
  induction h with
  | first c fs home hnone => exact Index.allEntries_of_empty (Index.entries_new_of_unreadable hnone)
  | again h c fs home now hread ih => exact Index.allEntries_new ih hread
  | run h hrun ih =>
    refine hrun.invariant (Index.invariant_allEntries ?_) ih
    rintro c ⟨prefilter, hc⟩
    exact IndexConfig.yields_wellFormed hc

/-- Whatever operations have run and whatever has happened to the files, every endpoint that the cache
or the store holds under a file is well formed for that file; the store holds no file without
endpoints, and it counts the endpoints that it lists. -/
theorem Attained.endpoints_wellFormed {t : Session} (h : Attained t) :
    (∀ file e, t.index.cache.get? file = some e → ∀ x ∈ e.endpoints, x.WellFormed file) ∧
      (∀ file es, t.index.store.get? file = some es → es ≠ [] ∧ ∀ x ∈ es, x.WellFormed file) ∧
      t.index.store.count = t.index.store.snapshot.length := by
  refine ⟨h.allEntries, ?_, Store.count_eq_length_snapshot _⟩
  intro file es hes
  -- what the store shows is in the cache
  rw [h.mirrors file, Option.bind_eq_some_iff] at hes
  obtain ⟨e, he, hshown⟩ := hes
  unfold CacheEntry.shown at hshown
  split at hshown
  · cases hshown
  · rename_i hne
    cases hshown
    exact ⟨hne, h.allEntries file e he⟩

/-! ## A sample -/

def controllerFiles : FileSystem :=
  ⟨.directory [("r", .directory [("A.java", .file (Text.Utf8.encodeText controllerText) 5)] 0)] 0, []⟩

/-- The sample with a cache and the standard readers. -/
def readingConfig : IndexConfig :=
  { sampleConfig with settings := Settings.defaults, parse := IndexConfig.parseWith true }

theorem fileAt_controllerFiles :
    controllerFiles.fileAt "/r/A.java" = some (Text.Utf8.encodeText controllerText, 5) := by
  unfold controllerFiles
  generalize Text.Utf8.encodeText controllerText = bytes
  cbv

theorem normalize_controllerFiles : controllerFiles.normalize none "/r/A.java" = .ok "/r/A.java" := by
  unfold controllerFiles
  generalize Text.Utf8.encodeText controllerText = bytes
  cbv

theorem unreadable_controllerFiles (a : Artifact) :
    Artifact.read controllerFiles readingConfig.cachePath ≠ .ok a := by
  have hread : controllerFiles.read readingConfig.cachePath = .error .notFound := by
    unfold controllerFiles
    generalize Text.Utf8.encodeText controllerText = bytes
    cbv
  exact Artifact.read_ne_ok hread a

/-- The file has been read by an update. -/
def updatedSession : Session :=
  ((start readingConfig controllerFiles).update readingConfig Hook.none "/r/A.java").2

theorem attained_updatedSession : Attained updatedSession := by
  refine .run (.first readingConfig controllerFiles none fun _ => unreadable_controllerFiles) ?_
  exact .update (.refl _) readingConfig ⟨true, IndexConfig.faithful_of_parse rfl⟩ Hook.none
    (fun _ u => .refl u) Reactions.none (fun _ _ u => .refl u) "/r/A.java"

theorem entries_updatedSession :
    updatedSession.index.cache.entries = FileMap.empty.put "/r/A.java" ⟨5, [controllerEndpoint "/r/A.java"]⟩ := by
  have hm : (start readingConfig controllerFiles).modified? "/r/A.java" = some 5 :=
    modified?_of_fileAt fileAt_controllerFiles
  have hparse : IndexConfig.parseWith true controllerFiles "/r/A.java" =
      .endpoints [controllerEndpoint "/r/A.java"] := by
    rw [IndexConfig.parseWith_of_fileAt fileAt_controllerFiles, parseContent_controllerText List.mem_cons_self]
  have hnew : (start readingConfig controllerFiles).index.cache.entries = .empty :=
    Index.entries_new_of_unreadable fun _ => unreadable_controllerFiles
  have hnormal : (start readingConfig controllerFiles).normalize "/r/A.java" = .ok "/r/A.java" :=
    normalize_controllerFiles
  rw [updatedSession, cache_update_of_endpoints rfl hnormal hm hparse, Cache.put, hnew]

/-- The source is gone, and the artifact is what the session would save. -/
def savedFiles : FileSystem :=
  ⟨.directory [("r", .directory [(".routefinder", .directory [("endpoints-cache.json",
    .file { updatedSession.index.cache with lastUpdate := 7 }.payload 7)] 7)] 0)] 0, []⟩

theorem read_savedFiles :
    savedFiles.read readingConfig.cachePath =
      .ok { updatedSession.index.cache with lastUpdate := 7 }.payload := by
  unfold savedFiles
  generalize Cache.payload _ = bytes
  cbv

/-- A new index takes the endpoint from the artifact. -/
theorem Attained.endpoints_wellFormed_restarted :
    (start readingConfig savedFiles).index.store.get? "/r/A.java" = some [controllerEndpoint "/r/A.java"] ∧
      (controllerEndpoint "/r/A.java").WellFormed "/r/A.java" := by
  have hstart : Attained (start readingConfig savedFiles) :=
    .again attained_updatedSession readingConfig savedFiles none 7 read_savedFiles
  have hlegible : (Cache.artifact { updatedSession.index.cache with lastUpdate := 7 }).toJson.legible = true := by
    rw [Cache.artifact, entries_updatedSession]
    decide
  have hentries : (start readingConfig savedFiles).index.cache.entries = _ :=
    Index.entries_new_of_payload rfl read_savedFiles
  have hstore : (start readingConfig savedFiles).index.store.get? "/r/A.java" = some [controllerEndpoint "/r/A.java"] := by
    rw [hstart.mirrors, Cache.get?, hentries, if_pos hlegible, entries_updatedSession]
    rfl
  exact ⟨hstore, (hstart.endpoints_wellFormed.2.1 _ _ hstore).2 _ (List.mem_singleton.2 rfl)⟩

end Session

end EndpointIndex
