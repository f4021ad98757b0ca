import EndpointIndex.Proofs.Artifact
import EndpointIndex.Proofs.Index.Batching
import EndpointIndex.Proofs.Index.Sighting

/-!
# What an operation adds to a cache

Operations add to a cache only what they have read from the files, and they write to the artifact only
what is in the cache (`Session.Keeps`). A file that cannot be read adds nothing, and neither does an
operation that is stopped or fails.
-/

namespace EndpointIndex

open IndexConfig

/-- A hook that leaves files, index and home alone; it may still ask a build to stop. -/
def Hook.Quiet (hook : Hook) : Prop :=
  ∀ file s, (hook file s).files = s.files ∧ (hook file s).index = s.index ∧ (hook file s).home = s.home

theorem Hook.Quiet.sparesBuilds {hook : Hook} (h : hook.Quiet) : hook.SparesBuilds :=
  fun file s _ => (h file s).2.1

theorem Hook.Quiet.keepsFiles {hook : Hook} (h : hook.Quiet) : hook.KeepsFiles :=
  fun file s _ => (h file s).1

theorem Hook.quiet_none : Hook.none.Quiet := fun _ _ => ⟨rfl, rfl, rfl⟩

/-- Listeners that leave files, index and home alone. They may raise, and may ask a build to stop. -/
def Reactions.Quiet (reactions : Reactions) : Prop :=
  ∀ listener count s, (reactions listener count s).2.files = s.files ∧
    (reactions listener count s).2.index = s.index ∧ (reactions listener count s).2.home = s.home

theorem Reactions.Quiet.sparesIndex {reactions : Reactions} (h : reactions.Quiet) :
    reactions.SparesIndex :=
  fun listener count s => (h listener count s).2.1

theorem Reactions.quiet_none : Reactions.none.Quiet := fun _ _ _ => ⟨rfl, rfl, rfl⟩

namespace Index

theorem cachePath_commit (i : Index) (file : String) (f : Finding) :
    (i.commit file f).cache.path = i.cache.path := by
  cases f <;> rfl

theorem cachePath_prune (i : Index) (keep : List String) :
    (i.prune keep).cache.path = i.cache.path :=
  prune_keeps (P := fun j => j.cache.path = i.cache.path) (fun _ _ hj => hj) rfl keep

end Index

/-- What can be asked of an index. -/
inductive Operation where
  | build (now : Int) (files : Option (List String))
  | rebuild (now : Int)
  | update (file : String)
  | remove (file : String)

namespace Session

def perform (s : Session) (c : IndexConfig) (hook : Hook) (op : Operation)
    (reactions : Reactions := .none) : Session :=
  match op with
  | .build now files => (s.build c hook now files reactions).2
  | .rebuild now => (s.rebuild c hook now reactions).2
  | .update file => (s.update c hook file reactions).2
  | .remove file => (s.remove file reactions).2

/-- The states of the files that an operation sees, the latest first. A rebuild deletes the artifact
before it looks at the files. -/
def through (s : Session) : Operation → List FileSystem
  | .rebuild now =>
    match s.index.clear.cache.deleteArtifact s.files now with
    | .ok fs => [fs, s.files]
    | .error _ => [s.files]
  | _ => [s.files]

theorem files_notify_of_quiet {reactions : Reactions} (h : reactions.Quiet) (s : Session) :
    (s.notify reactions).files = s.files :=
  notify_holds (P := fun u => u.files = s.files) (fun l n _ hu => (h l n _).1.trans hu) rfl

theorem home_notify_of_quiet {reactions : Reactions} (h : reactions.Quiet) (s : Session) :
    (s.notify reactions).home = s.home :=
  notify_holds (P := fun u => u.home = s.home) (fun l n _ hu => (h l n _).2.2.trans hu) rfl

@[simp] theorem files_notify (s : Session) : s.notify.files = s.files :=
  files_notify_of_quiet Reactions.quiet_none s

/-- The bytes of an artifact all of whose entries have been seen. -/
def SightedPayload (prefilter : Bool) (history : List FileSystem) (content : List UInt8) : Prop :=
  ∃ cache : Cache, content = cache.payload ∧ AllSighted prefilter history cache.entries

/-- What an operation leads to: nothing is in the cache and nothing is written that was not seen in
the files, and only the artifact and its draft are written. -/
structure Keeps (prefilter : Bool) (path : Path) (history : List FileSystem) (s t : Session) : Prop where
  files : s.files.Changes t.files (Cache.places s.files path) (SightedPayload prefilter history)
  home : t.home = s.home
  idle : t.index.gate = .idle
  cachePath : t.index.cache.path = some path
  entries : AllSighted prefilter history t.index.cache.entries

/-- A session between two operations. -/
structure Ready (prefilter : Bool) (path : Path) (history : List FileSystem) (s : Session) : Prop where
  tidy : s.files.Tidy
  idle : s.index.gate = .idle
  cachePath : s.index.cache.path = some path
  entries : AllSighted prefilter history s.index.cache.entries

theorem Ready.keeps {prefilter : Bool} {path : Path} {history : List FileSystem} {s : Session}
    (h : s.Ready prefilter path history) : Keeps prefilter path history s s :=
  ⟨h.tidy.changes_self, rfl, h.idle, h.cachePath, h.entries⟩

section Operations

variable {prefilter : Bool} {path : Path} {past : List FileSystem} {s : Session} {c : IndexConfig}
  {hook : Hook} {reactions : Reactions}

/-- What a look reads from a file is seen in the file. -/
theorem Looks.sighted (hc : c.Faithful prefilter) (hook_quiet : hook.Quiet) {t : Session}
    {file : String} {known : Option CacheEntry} {f : Finding}
    (hlook : Looks c hook s file known (.ok f) t) (past : List FileSystem) {time : Int}
    {es : List Endpoint} (hf : f = .parsed time es) : Sighted prefilter (s.files :: past) file ⟨time, es⟩ := by
  subst hf
  generalize hr : (Except.ok (Finding.parsed time es) : Except String Finding) = r at hlook
  cases hlook with
  | gone => cases hr
  | fresh => cases hr
  | read dated hm hk =>
    -- the file is read as it was when it was dated
    have hfiles : (s.opened hook file).files = s.files := (hook_quiet file _).1
    rw [hfiles] at hr
    cases hp : c.parse s.files file with
    | unreadable =>
      rw [hp] at hr
      cases hr
    | broken cause =>
      rw [hp] at hr
      cases hr
    | endpoints found =>
      rw [hp] at hr
      cases hr
      obtain ⟨content, now, hfile, hparse⟩ := fileAt_of_parseWith (hc s.files file es hp)
      have hdated := modified?_of_fileAt hfile
      rw [hm] at hdated
      cases hdated
      exact ⟨s.files, List.mem_cons_self, content, time, hfile, Int.le_refl _, hparse⟩

/-- What holds of a session inside an operation: its files are those at the beginning. -/
structure Inside (prefilter : Bool) (path : Path) (past : List FileSystem) (s u : Session) : Prop where
  files : u.files = s.files
  home : u.home = s.home
  cachePath : u.index.cache.path = some path
  entries : AllSighted prefilter (s.files :: past) u.index.cache.entries

theorem Inside.setGate {u : Session} (hu : s.Inside prefilter path past u) (g : Gate) :
    s.Inside prefilter path past (u.setGate g) :=
  ⟨hu.files, hu.home, hu.cachePath, hu.entries⟩

theorem Inside.opened (hook_quiet : hook.Quiet) {u : Session} (hu : s.Inside prefilter path past u)
    (file : String) : s.Inside prefilter path past (u.opened hook file) := by
  obtain ⟨hfiles, hindex, hhome⟩ := hook_quiet file (u.record (.parsed file))
  unfold Session.opened
  refine ⟨hfiles.trans hu.files, hhome.trans hu.home, ?_, ?_⟩
  · rw [hindex]
    exact hu.cachePath
  · rw [hindex]
    exact hu.entries

theorem Inside.commit (hc : c.Faithful prefilter) (hook_quiet : hook.Quiet) {u t : Session}
    (hu : s.Inside prefilter path past u) (ht : s.Inside prefilter path past t) {file : String}
    {known : Option CacheEntry} {f : Finding} (hlook : Looks c hook u file known (.ok f) t) :
    s.Inside prefilter path past (t.commit file f) := by
  refine ⟨ht.files, ht.home, (Index.cachePath_commit _ _ _).trans ht.cachePath, ht.entries.commit ?_⟩
  intro time es hf
  have hsighted := hlook.sighted hc hook_quiet past hf
  rw [hu.files] at hsighted
  exact hsighted

/-- The body of a build stays inside, whatever stops it. -/
theorem inside_buildBody (hc : c.Faithful prefilter) (hook_quiet : hook.Quiet) {u : Session}
    (hu : s.Inside prefilter path past u) (hbuilding : u.index.gate = .building)
    (files : Option (List String)) : s.Inside prefilter path past (u.buildBody c hook files).2 := by
  apply buildBody_invariant hook_quiet.sparesBuilds ?_ ?_ ?_ files hbuilding hu
  · exact fun v file _ hv => hv.opened hook_quiet file
  · exact fun v t file known f _ hv ht _ hlook => hv.commit hc hook_quiet ht hlook
  · intro v found hv
    exact ⟨hv.files, hv.home, (Index.cachePath_prune _ _).trans hv.cachePath, hv.entries.prune found⟩

theorem Inside.keeps {u : Session} (hu : s.Inside prefilter path past u) (hs : s.files.Tidy) :
    Keeps prefilter path (s.files :: past) s (u.setGate .idle) := by
  obtain ⟨hfiles, hhome, hpath, hentries⟩ := hu
  refine ⟨?_, hhome, rfl, hpath, hentries⟩
  change s.files.Changes u.files _ _
  rw [hfiles]
  exact hs.changes_self

/-- Saving writes what is in the cache. -/
theorem keeps_saveCache {u : Session} (hs : s.files.Tidy) (hu : s.Inside prefilter path past u)
    (now : Int) :
    Keeps prefilter path (s.files :: past) s ((u.saveCache c now).2.setGate .idle) := by
  have hidle := hu.keeps hs
  obtain ⟨hfiles, hhome, hpath, hentries⟩ := hu
  unfold saveCache
  split
  · simp only [Cache.save, hpath]
    split
    · -- the bytes written are those of the cache, and all its entries have been seen
      rename_i fs' cache hsave
      obtain ⟨hwrite, rfl⟩ := Prod.mk.inj hsave
      rw [hfiles] at hwrite
      refine ⟨(Cache.changes_writeArtifact hs hwrite).mono (List.Subset.refl _) ?_, hhome, rfl, rfl,
        hentries⟩
      intro content hcontent
      exact ⟨_, hcontent, hentries⟩
    · rename_i e cache hsave
      obtain ⟨-, rfl⟩ := Prod.mk.inj hsave
      exact ⟨hidle.files, hhome, rfl, rfl, hentries⟩
  · exact hidle

theorem Keeps.notify {history : List FileSystem} {t : Session} (h : Keeps prefilter path history s t)
    {reactions : Reactions} (hreactions : reactions.Quiet) :
    Keeps prefilter path history s (t.notify reactions) := by
  have hindex := index_notify_of_spares hreactions.sparesIndex t
  refine ⟨?_, (home_notify_of_quiet hreactions t).trans h.home, ?_, ?_, ?_⟩
  · rw [files_notify_of_quiet hreactions]
    exact h.files
  · rw [hindex]
    exact h.idle
  · rw [hindex]
    exact h.cachePath
  · rw [hindex]
    exact h.entries

theorem Ready.inside (h : s.Ready prefilter path (s.files :: past)) :
    s.Inside prefilter path past s :=
  ⟨rfl, rfl, h.cachePath, h.entries⟩

theorem keeps_build (h : s.Ready prefilter path (s.files :: past)) (hc : c.Faithful prefilter)
    (hook_quiet : hook.Quiet) (hreactions : reactions.Quiet) (now : Int)
    (files : Option (List String)) :
    Keeps prefilter path (s.files :: past) s (s.build c hook now files reactions).2 := by
  have hbody := inside_buildBody hc hook_quiet (h.inside.setGate .building) rfl files
  -- the cache is saved in all three cases
  have hsave := keeps_saveCache (c := c) h.tidy hbody now
  rw [build, h.idle]
  simp only [Gate.beginBuild?, Gate.endBuild]
  split
  · exact hsave
  · exact hsave
  · exact hsave.notify hreactions

theorem keeps_update (h : s.Ready prefilter path (s.files :: past)) (hc : c.Faithful prefilter)
    (hook_quiet : hook.Quiet) (hreactions : reactions.Quiet) (file : String) :
    Keeps prefilter path (s.files :: past) s (s.update c hook file reactions).2 := by
  unfold update
  split
  · exact h.keeps
  · rename_i file' hfile'
    rw [h.idle]
    simp only [Gate.beginUpdate?]
    have hlook := examine_looks (s.setGate (.updating 0)) c hook file' none
    have hstart : s.Inside prefilter path past (s.setGate (.updating 0)) :=
      h.inside.setGate (.updating 0)
    have hafter : s.Inside prefilter path past
        ((s.setGate (.updating 0)).examine c hook file' none).2 :=
      hlook.holds hstart (hstart.opened hook_quiet file')
    -- the hook is quiet, so no second update has begun meanwhile
    have hgate : ((s.setGate (.updating 0)).examine c hook file' none).2.index.gate = .updating 0 := by
      apply hlook.holds (P := fun u => u.index.gate = .updating 0)
      · rfl
      · rw [Session.opened, (hook_quiet file' _).2.1]
        rfl
    split
    · rename_i cause t hex
      rw [hex] at hafter hgate
      rw [hgate]
      exact hafter.keeps h.tidy
    · rename_i f t hex
      rw [hex] at hafter hgate hlook
      rw [index_commit, Index.gate_commit, hgate]
      exact ((hstart.commit hc hook_quiet hafter hlook).keeps h.tidy).notify hreactions

/-- Updates leave the files alone. -/
theorem files_update (hook_quiet : hook.Quiet) (hreactions : reactions.Quiet) (s : Session)
    (c : IndexConfig) (file : String) : (s.update c hook file reactions).2.files = s.files := by
  unfold update
  split
  · rfl
  · rename_i file' hfile'
    split
    · rfl
    · rename_i g hg
      have hfiles : ((s.setGate g).examine c hook file' none).2.files = s.files :=
        (examine_looks (s.setGate g) c hook file' none).holds (P := fun u => u.files = s.files) rfl
          (hook_quiet file' _).1
      split
      · rename_i hex
        rw [hex] at hfiles
        exact hfiles
      · rename_i hex
        rw [hex] at hfiles
        rw [files_notify_of_quiet hreactions]
        exact hfiles

theorem keeps_remove (h : s.Ready prefilter path (s.files :: past)) (hreactions : reactions.Quiet)
    (file : String) : Keeps prefilter path (s.files :: past) s (s.remove file reactions).2 := by
  unfold remove
  split
  · exact h.keeps
  · rename_i file' hfile'
    rw [h.idle]
    simp only [Gate.beginUpdate?]
    have hdrop : s.Inside prefilter path past
        { s.setGate (.updating 0) with index := (s.setGate (.updating 0)).index.drop file' } :=
      ⟨rfl, rfl, h.cachePath, h.entries.drop file'⟩
    split
    · exact (hdrop.keeps h.tidy).notify hreactions
    · exact hdrop.keeps h.tidy

/-- A rebuild is a build after the artifact was deleted, which is one more state of the files. -/
theorem keeps_rebuild (h : s.Ready prefilter path (s.files :: past)) (hc : c.Faithful prefilter)
    (hook_quiet : hook.Quiet) (hreactions : reactions.Quiet) (now : Int) :
    Keeps prefilter path (s.through (.rebuild now) ++ past) s (s.rebuild c hook now reactions).2 := by
  unfold rebuild through
  rw [if_pos h.idle]
  dsimp only
  cases hdelete : s.index.clear.cache.deleteArtifact s.files now with
  | error e => exact ⟨h.tidy.changes_self, rfl, h.idle, h.cachePath, AllSighted.empty⟩
  | ok fs =>
    have hchanges : s.files.Changes fs (Cache.places s.files path)
        (SightedPayload prefilter (fs :: s.files :: past)) :=
      Cache.changes_deleteArtifact h.tidy h.cachePath hdelete
    -- the build starts from an empty cache
    let u : Session := { s with files := fs, index := s.index.clear }
    have hready : u.Ready prefilter path (u.files :: s.files :: past) :=
      ⟨hchanges.tidy, h.idle, h.cachePath, AllSighted.empty⟩
    have hbuild := keeps_build hready hc hook_quiet hreactions now none
    have hfiles := hbuild.files
    rw [Cache.places_eq hchanges] at hfiles
    exact ⟨hchanges.trans hfiles, hbuild.home, hbuild.idle, hbuild.cachePath, hbuild.entries⟩

theorem keeps_perform (h : s.Ready prefilter path (s.files :: past)) (hc : c.Faithful prefilter)
    (hook_quiet : hook.Quiet) (hreactions : reactions.Quiet) (op : Operation) :
    Keeps prefilter path (s.through op ++ past) s (s.perform c hook op reactions) := by
  cases op with
  | build now files => exact keeps_build h hc hook_quiet hreactions now files
  | rebuild now => exact keeps_rebuild h hc hook_quiet hreactions now
  | update file => exact keeps_update h hc hook_quiet hreactions file
  | remove file => exact keeps_remove h hreactions file

end Operations

end Session

end EndpointIndex
