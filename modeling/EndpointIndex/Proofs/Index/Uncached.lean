import Mathlib.Data.Set.Insert
import EndpointIndex.Proofs.Index.Batching
import EndpointIndex.Proofs.Index.Keeps

/-!
# An index without a cache

An index whose cache is turned off finds everything out by parsing. It neither reads the artifact nor
writes it, and its builds, updates and removals leave the files as others have made them. A rebuild is
the exception: it deletes the artifact, with or without a cache. Main fact: `Session.Works.uncached`;
`Session.rebuild_deletes_unused` has an artifact that is deleted by an index that makes no use of it.
-/

namespace EndpointIndex

/-- The states of the files that others have brought about, and, where an index rebuilds, those in which
it has since deleted its artifact. -/
inductive FileSystem.Left (states : Set FileSystem) (rebuilds : Prop) (path : Path) : FileSystem → Prop
  | state {fs : FileSystem} (h : fs ∈ states) : Left states rebuilds path fs
  | deleted {fs fs' : FileSystem} (hr : rebuilds) (h : Left states rebuilds path fs) {now : Int}
      (hdelete : (Cache.new (some path)).deleteArtifact fs now = .ok fs') : Left states rebuilds path fs'

theorem FileSystem.Left.mem {states : Set FileSystem} {rebuilds : Prop} {path : Path} {fs : FileSystem}
    (h : fs.Left states rebuilds path) (hr : ¬ rebuilds) : fs ∈ states := by
  cases h with
  | state h => exact h
  | deleted hyes => exact absurd hyes hr

namespace Session

/-- Operations with configurations among `configs`, in any order and inside each other, while others
bring about states of the files among `states` and listeners come and go; what these do when they are
told something is of the same kind. Rebuilds are among the operations only if `rebuilds` holds. -/
inductive Works (configs : Set IndexConfig) (states : Set FileSystem) (rebuilds : Prop) :
    Session → Session → Prop
  | refl (s : Session) : Works configs states rebuilds s s
  | outside {s t : Session} (h : Works configs states rebuilds s t) {fs : FileSystem} (hfs : fs ∈ states)
      (stop : Bool) (events : List Event) (home : Option Path) (listeners : List String) :
      Works configs states rebuilds s
        ⟨fs, { t.index with listeners := listeners }, stop, events, home⟩
  | operate {s t : Session} (h : Works configs states rebuilds s t) {c : IndexConfig} (hc : c ∈ configs)
      (hook : Hook) (inner : ∀ file u, Works configs states rebuilds u (hook file u))
      (reactions : Reactions)
      (outer : ∀ listener count u, Works configs states rebuilds u (reactions listener count u).2)
      (op : Operation) (hop : ∀ now, op = .rebuild now → rebuilds) :
      Works configs states rebuilds s (t.perform c hook op reactions)

/-- The endpoints of a file have been found by parsing it. -/
def Parsed (configs : Set IndexConfig) (states : FileSystem → Prop) (file : String)
    (es : List Endpoint) : Prop :=
  ∃ c ∈ configs, ∃ fs, states fs ∧ c.parse fs file = .endpoints es

/-- The files are as they were left by others, and the store has what was found by parsing. -/
structure Unaided (configs : Set IndexConfig) (states : Set FileSystem) (rebuilds : Prop) (path : Path)
    (s : Session) : Prop where
  files : s.files.Left states rebuilds path
  cachePath : s.index.cache.path = some path
  store : ∀ file es, s.index.store.get? file = some es →
    Parsed configs (·.Left states rebuilds path) file es

section Operations

variable {configs : Set IndexConfig} {states : Set FileSystem} {rebuilds : Prop} {path : Path}
  {s t : Session} {c : IndexConfig} {hook : Hook} {reactions : Reactions}

theorem Unaided.congr (h : s.Unaided configs states rebuilds path) (hfiles : t.files = s.files)
    (hpath : t.index.cache.path = s.index.cache.path) (hstore : t.index.store = s.index.store) :
    t.Unaided configs states rebuilds path := by
  refine ⟨hfiles ▸ h.files, hpath.trans h.cachePath, ?_⟩
  rw [hstore]
  exact h.store

theorem Unaided.notify (h : s.Unaided configs states rebuilds path)
    (outer : ∀ listener count u, Unaided configs states rebuilds path u →
      (reactions listener count u).2.Unaided configs states rebuilds path) :
    (s.notify reactions).Unaided configs states rebuilds path :=
  notify_holds (P := Unaided configs states rebuilds path)
    (fun listener count _ hu => outer listener count _ (hu.congr rfl rfl rfl)) h

/-- What is entered into the store is what a file was parsed to. -/
theorem Unaided.commit (h : s.Unaided configs states rebuilds path) {file : String} {f : Finding}
    (hf : f = .missing ∨ ∃ time es, f = .parsed time es ∧
      Parsed configs (·.Left states rebuilds path) file es) :
    (s.commit file f).Unaided configs states rebuilds path := by
  refine ⟨h.files, (Index.cachePath_commit _ _ _).trans h.cachePath, ?_⟩
  intro g es hg
  rcases hf with rfl | ⟨time, found, rfl, hfound⟩
  · rw [show (s.commit file .missing).index.store = s.index.store.remove file from rfl,
      Store.get?_remove] at hg
    split at hg
    · cases hg
    · exact h.store g es hg
  · rw [show (s.commit file (.parsed time found)).index.store = s.index.store.set file found from rfl,
      Store.get?_set] at hg
    split at hg
    · rename_i heq
      split at hg
      · cases hg
      · obtain rfl : found = es := by simpa using hg
        exact heq ▸ hfound
    · exact h.store g es hg

theorem store_get?_drop {i : Index} {file g : String} {es : List Endpoint}
    (h : (i.drop file).store.get? g = some es) : i.store.get? g = some es := by
  rw [show (i.drop file).store = i.store.remove file from rfl, Store.get?_remove] at h
  split at h
  · cases h
  · exact h

variable (hc : c ∈ configs)
  (inner : ∀ file u, Unaided configs states rebuilds path u →
    (hook file u).Unaided configs states rebuilds path)
  (outer : ∀ listener count u, Unaided configs states rebuilds path u →
    (reactions listener count u).2.Unaided configs states rebuilds path)

include hc inner

/-- Without a known entry a look ends in one of two findings. -/
theorem Looks.unaided {file : String} {r : Except String Finding}
    (hlook : Looks c hook s file none r t) (h : s.Unaided configs states rebuilds path) :
    t.Unaided configs states rebuilds path ∧ ∀ f, r = .ok f →
      f = .missing ∨ ∃ time es, f = .parsed time es ∧
        Parsed configs (·.Left states rebuilds path) file es := by
  cases hlook with
  | gone hm =>
    refine ⟨h, fun f hf => .inl ?_⟩
    cases hf
    rfl
  -- nothing is known of the file beforehand
  | fresh time e hm hk => cases hk
  | read time hm hk =>
    have hopened : (s.opened hook file).Unaided configs states rebuilds path :=
      inner file _ (h.congr rfl rfl rfl)
    refine ⟨hopened, fun f hf => ?_⟩
    cases hp : c.parse (s.opened hook file).files file with
    | endpoints es =>
      rw [hp] at hf
      cases hf
      exact .inr ⟨_, es, rfl, c, hc, _, hopened.files, hp⟩
    | unreadable =>
      rw [hp] at hf
      cases hf
      exact .inl rfl
    | broken cause =>
      rw [hp] at hf
      cases hf

theorem unaided_lasts (hoff : c.settings.enableCache = false) :
    LastsThroughBuild c hook (Unaided configs states rebuilds path) := by
  constructor
  · intro s t file known r hknown hs hlook
    obtain rfl := hknown hoff
    exact (hlook.unaided hc inner hs).1
  · intro s t file known f hknown hs hlook
    obtain rfl := hknown hoff
    obtain ⟨ht, hf⟩ := hlook.unaided hc inner hs
    exact ht.commit (hf f rfl)
  · intro s found hs
    refine ⟨hs.files, (Index.cachePath_prune _ _).trans hs.cachePath, ?_⟩
    apply Index.prune_keeps (P := fun i => ∀ file es, i.store.get? file = some es →
      Parsed configs (·.Left states rebuilds path) file es) ?_ hs.store
    exact fun i file hi g es hg => hi g es (store_get?_drop hg)

include outer

theorem unaided_build (hoff : c.settings.enableCache = false)
    (h : s.Unaided configs states rebuilds path) (now : Int) (files : Option (List String)) :
    (s.build c hook now files reactions).2.Unaided configs states rebuilds path := by
  by_cases hidle : s.index.gate = .idle
  · have hbody := (unaided_lasts hc inner hoff).buildBody files (s := s.setGate .building)
      (h.congr rfl rfl rfl)
    -- without a cache there is nothing to save, and saving cannot fail
    have hsaved : ∀ u : Session, u.saveCache c now = (.ok (), u) := by
      intro u
      rw [saveCache, if_neg (by rw [hoff]; decide)]
    rw [build_of_idle hidle]
    simp only [hsaved]
    split
    · exact hbody.congr rfl rfl rfl
    · exact hbody.congr rfl rfl rfl
    · refine Unaided.notify ?_ outer
      exact hbody.congr rfl rfl rfl
  · rw [build_of_busy hidle]
    exact h

/-- A rebuild deletes the artifact before it builds. -/
theorem unaided_rebuild (hr : rebuilds) (hoff : c.settings.enableCache = false)
    (h : s.Unaided configs states rebuilds path) (now : Int) :
    (s.rebuild c hook now reactions).2.Unaided configs states rebuilds path := by
  have hforgotten : ∀ fs, fs.Left states rebuilds path →
      Unaided configs states rebuilds path { s with files := fs, index := s.index.clear } :=
    fun fs hfs => ⟨hfs, h.cachePath, fun file es hes => nomatch hes⟩
  unfold rebuild
  split
  · dsimp only
    split
    · -- the artifact cannot be deleted, and is still there
      exact hforgotten s.files h.files
    · rename_i fs hdelete
      have hdeleted : (Cache.new (some path)).deleteArtifact s.files now = .ok fs := by
        rw [← hdelete, Cache.deleteArtifact, Cache.deleteArtifact,
          show s.index.clear.cache.path = some path from h.cachePath]
        rfl
      exact unaided_build hc inner outer hoff (hforgotten fs (.deleted hr h.files hdeleted)) now none
  · exact h

theorem unaided_update (h : s.Unaided configs states rebuilds path) (file : String) :
    (s.update c hook file reactions).2.Unaided configs states rebuilds path := by
  unfold update
  split
  · exact h
  · rename_i file hfile
    split
    · exact h
    · rename_i g hg
      have hlook := examine_looks (s.setGate g) c hook file none
      obtain ⟨hafter, hfound⟩ := hlook.unaided hc inner (h.congr rfl rfl rfl)
      split
      · rename_i cause t hexamine
        rw [hexamine] at hafter
        exact hafter.congr rfl rfl rfl
      · rename_i f t hexamine
        rw [hexamine] at hafter hfound
        refine Unaided.notify ?_ outer
        exact (hafter.commit (hfound f rfl)).congr rfl rfl rfl

omit hc inner in
theorem unaided_remove (h : s.Unaided configs states rebuilds path) (file : String) :
    (s.remove file reactions).2.Unaided configs states rebuilds path := by
  unfold remove
  split
  · exact h
  · rename_i file hfile
    split
    · exact h
    · have hdrop : Unaided configs states rebuilds path { s with index := s.index.drop file } :=
        ⟨h.files, h.cachePath, fun g es hg => h.store g es (store_get?_drop hg)⟩
      dsimp only
      split
      · refine Unaided.notify ?_ outer
        exact hdrop.congr rfl rfl rfl
      · exact hdrop.congr rfl rfl rfl

end Operations

variable {configs : Set IndexConfig} {states : Set FileSystem} {rebuilds : Prop} {path : Path}
  {s t : Session}

theorem Works.unaided (h : Works configs states rebuilds s t)
    (hoff : ∀ c ∈ configs, c.settings.enableCache = false)
    (hs : s.Unaided configs states rebuilds path) : t.Unaided configs states rebuilds path := by
  -- the hypotheses for `inner` and `outer` say it of what runs inside
  induction h with
  | refl => exact hs
  | outside h hfs stop events home listeners ih =>
    exact ⟨.state hfs, (ih hs).cachePath, (ih hs).store⟩
  | operate h hc hook inner reactions outer op hop ih ih_inner ih_outer =>
    have hinner := fun file u (hu : Unaided configs states rebuilds path u) => ih_inner file u hu
    have houter := fun listener count u (hu : Unaided configs states rebuilds path u) =>
      ih_outer listener count u hu
    cases op with
    | build now files => exact unaided_build hc hinner houter (hoff _ hc) (ih hs) now files
    | rebuild now => exact unaided_rebuild hc hinner houter (hop now rfl) (hoff _ hc) (ih hs) now
    | update file => exact unaided_update hc hinner houter (ih hs) file
    | remove file => exact unaided_remove houter (ih hs) file

/-- Whatever an index does that was created without a cache, the files are as others left them, except
that its rebuilds delete the artifact; and every endpoint that it serves was found by parsing the file
under which it is kept. -/
theorem Works.uncached {c : IndexConfig} {fs : FileSystem} {home : Option Path}
    (h : Works configs states rebuilds (start c fs home) t) (hc : c ∈ configs) (hfs : fs ∈ states)
    (hoff : ∀ c ∈ configs, c.settings.enableCache = false) :
    t.files.Left states rebuilds c.cachePath ∧ (¬ rebuilds → t.files ∈ states) ∧
    (∀ file es, t.index.store.get? file = some es →
      Parsed configs (·.Left states rebuilds c.cachePath) file es) ∧
    ∀ e ∈ t.allEndpoints, ∃ file es, e ∈ es ∧
      Parsed configs (·.Left states rebuilds c.cachePath) file es := by
  -- whatever the artifact says, nothing of it is in a new index
  have hstart : (start c fs home).Unaided configs states rebuilds c.cachePath := by
    have hnew : (start c fs home).index = ⟨Cache.new (some c.cachePath), .empty, .idle, []⟩ := by
      show Index.new c fs = _
      rw [Index.new, if_neg (by rw [hoff c hc]; decide)]
    refine ⟨.state hfs, by rw [hnew]; rfl, fun file es hes => ?_⟩
    rw [hnew] at hes
    cases hes
  have hend := h.unaided hoff hstart
  refine ⟨hend.files, hend.files.mem, hend.store, ?_⟩
  intro e he
  obtain ⟨⟨file, es⟩, hmem, hin⟩ := List.mem_flatMap.1 he
  exact ⟨file, es, hin, hend.store file es ((FileMap.get?_eq_some_iff _ _ _).2 hmem)⟩

/-- The files of the sample, with an artifact of unknown origin. -/
def cachedFiles : FileSystem :=
  ⟨.directory [("r", .directory [("A.java", .file [] 5), ("B.java", .file [] 5),
    (".routefinder", .directory [("endpoints-cache.json", .file [65] 5)] 5)] 5)] 5, []⟩

/-- What is left of them without the artifact. -/
def strippedFiles : FileSystem :=
  ⟨.directory [("r", .directory [("A.java", .file [] 5), ("B.java", .file [] 5),
    (".routefinder", .directory [] 0)] 5)] 5, []⟩

theorem works_sampleHook (states : Set FileSystem) (s : Session) :
    Works {sampleConfig} states False s (s.perform sampleConfig sampleHook (.update "/r/A.java")) := by
  have hc : sampleConfig ∈ ({sampleConfig} : Set IndexConfig) := Set.mem_singleton _
  refine .operate (.refl s) hc sampleHook (fun _ u => ?_) Reactions.none (fun _ _ u => .refl u) _ nofun
  exact .operate (.refl u) hc Hook.none (fun _ v => .refl v) Reactions.none (fun _ _ v => .refl v)
    (.update "/r/B.java") nofun

/-- Two updates, one inside the other, leave the artifact where it is. -/
theorem uncached_sample :
    ((start sampleConfig cachedFiles).perform sampleConfig sampleHook (.update "/r/A.java")).files =
        cachedFiles ∧
      Parsed {sampleConfig} (·.Left {cachedFiles} False sampleConfig.cachePath) "/r/B.java"
        [sampleEndpoint] := by
  obtain ⟨-, hfiles, hstore, -⟩ :=
    Works.uncached (works_sampleHook {cachedFiles} (start sampleConfig cachedFiles))
      (Set.mem_singleton _) (Set.mem_singleton _) (by rintro c rfl; rfl)
  exact ⟨hfiles id, hstore "/r/B.java" [sampleEndpoint] (by cbv)⟩

/-- A rebuild deletes the artifact although the cache is turned off. -/
theorem rebuild_deletes_unused :
    sampleConfig.settings.enableCache = false ∧
      cachedFiles.read sampleConfig.cachePath = .ok [65] ∧
      ((start sampleConfig cachedFiles).rebuild sampleConfig Hook.none 0).2.files.read
        sampleConfig.cachePath = .error .notFound := by
  let u : Session := ⟨strippedFiles, (start sampleConfig cachedFiles).index.clear, false, [], none⟩
  have hdelete : (start sampleConfig cachedFiles).index.clear.cache.deleteArtifact
      (start sampleConfig cachedFiles).files = .ok strippedFiles := by cbv
  have hforgotten : u.Unaided {sampleConfig} {strippedFiles} False sampleConfig.cachePath := by
    refine ⟨.state (Set.mem_singleton _), rfl, fun file es hes => ?_⟩
    cases hes
  -- the build that follows leaves the files as they are then
  have hbuilt : (u.build sampleConfig Hook.none 0 none).2.Unaided {sampleConfig} {strippedFiles} False
      sampleConfig.cachePath :=
    unaided_build (Set.mem_singleton _) (fun _ _ hu => hu) (fun _ _ _ hu => hu) rfl hforgotten 0 none
  have hfiles : ((start sampleConfig cachedFiles).rebuild sampleConfig Hook.none 0).2.files =
      strippedFiles := by
    have hidle : (start sampleConfig cachedFiles).index.gate = .idle := rfl
    rw [rebuild, if_pos hidle]
    dsimp only
    rw [hdelete]
    exact hbuilt.files.mem id
  refine ⟨rfl, by cbv, ?_⟩
  rw [hfiles]
  cbv

end Session

end EndpointIndex
