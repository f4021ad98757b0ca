import EndpointIndex.Proofs.Index.Examine

/-!
# Properties that every operation keeps

A property of an index that is kept when a finding is committed, when everything is forgotten and when
the cache is saved (`Index.Invariant`) is kept by every operation, whatever happens to the files, to the
request to stop and to the operation itself. It is kept by every run of operations too, and also when
other operations run inside one (`LeadsWith.invariant`, `Leads.invariant`).
-/

namespace EndpointIndex

/-- What a finding rests on: an entry of the cache, or something that a configuration has read. -/
def Finding.Rests (allowed : IndexConfig → Prop) (i : Index) (file : String) : Finding → Prop
  | .cached es => ∃ e, i.cache.get? file = some e ∧ e.endpoints = es
  | .parsed _ es => ∃ c fs, allowed c ∧ c.parse fs file = .endpoints es
  | .missing => True

/-- A property that survives what operations do to an index. -/
structure Index.Invariant (allowed : IndexConfig → Prop) (I : Index → Prop) : Prop where
  gate : ∀ {i} g, I i → I { i with gate := g }
  listeners : ∀ {i} listeners, I i → I { i with listeners := listeners }
  saved : ∀ {i} now, I i → I { i with cache := { i.cache with lastUpdate := now } }
  cleared : ∀ {i}, I i → I i.clear
  commit : ∀ {i file f}, I i → f.Rests allowed i file → I (i.commit file f)

namespace Index.Invariant

variable {allowed : IndexConfig → Prop} {I : Index → Prop} (hI : Index.Invariant allowed I)

include hI

theorem drop {i : Index} (h : I i) (file : String) : I (i.drop file) :=
  hI.commit (f := .missing) h trivial

theorem prune {i : Index} (h : I i) (keep : List String) : I (i.prune keep) :=
  Index.prune_keeps (P := I) (fun _ file hj => hI.drop hj file) h keep

end Index.Invariant

/-- Listeners that leave the index alone. They may raise, and do anything else. -/
def Reactions.SparesIndex (reactions : Reactions) : Prop :=
  ∀ listener count s, (reactions listener count s).2.index = s.index

theorem Reactions.sparesIndex_none : Reactions.none.SparesIndex := fun _ _ _ => rfl

namespace Session

/-! ## One operation -/

theorem tell_eq (reactions : Reactions) (count : Nat) (s : Session) (listener : String) :
    tell reactions count s listener =
      (reactions listener count (s.record (.notified listener count))).2 := by
  unfold tell
  split
  · rename_i hreact
    rw [hreact]
  · rename_i hreact
    rw [hreact]

/-- What holds of a session, and is left by everyone who is told something, holds when all have been
told. -/
theorem notify_holds {P : Session → Prop} {reactions : Reactions}
    (htell : ∀ listener count u, P u → P (reactions listener count (u.record (.notified listener count))).2)
    {s : Session} (hs : P s) : P (s.notify reactions) := by
  unfold notify
  generalize s.index.listeners = listeners
  generalize s.index.store.count = count
  induction listeners generalizing s with
  | nil => exact hs
  | cons l listeners ih =>
    refine ih ?_
    rw [tell_eq]
    exact htell l count s hs

theorem index_notify_of_spares {reactions : Reactions} (hspares : reactions.SparesIndex) (s : Session) :
    (s.notify reactions).index = s.index :=
  notify_holds (P := fun u => u.index = s.index) (fun l n _ hu => (hspares l n _).trans hu) rfl

@[simp] theorem index_notify (s : Session) : s.notify.index = s.index :=
  index_notify_of_spares Reactions.sparesIndex_none s

/-- Saving a cache changes its time, or nothing. -/
theorem index_saveCache (s : Session) (c : IndexConfig) (now : Int) :
    (s.saveCache c now).2.index = s.index ∨
      (s.saveCache c now).2.index = { s.index with cache := { s.index.cache with lastUpdate := now } } := by
  have hsave : (s.index.cache.save now s.files).2 = s.index.cache ∨
      (s.index.cache.save now s.files).2 = { s.index.cache with lastUpdate := now } := by
    unfold Cache.save
    split
    · exact .inl rfl
    · exact .inr rfl
  unfold saveCache
  split
  · split
    · rename_i hs
      rw [hs] at hsave
      exact hsave.imp (congrArg fun cache => { s.index with cache }) (congrArg fun cache => { s.index with cache })
    · rename_i hs
      rw [hs] at hsave
      exact hsave.imp (congrArg fun cache => { s.index with cache }) (congrArg fun cache => { s.index with cache })
  · exact .inl rfl

theorem store_saveCache (s : Session) (c : IndexConfig) (now : Int) :
    (s.saveCache c now).2.index.store = s.index.store := by
  rcases index_saveCache s c now with hindex | hindex
  · rw [hindex]
  · rw [hindex]

theorem entries_saveCache (s : Session) (c : IndexConfig) (now : Int) :
    (s.saveCache c now).2.index.cache.entries = s.index.cache.entries := by
  rcases index_saveCache s c now with hindex | hindex
  · rw [hindex]
  · rw [hindex]

theorem Looks.rests {allowed : IndexConfig → Prop} {c : IndexConfig} (hc : allowed c) {hook : Hook}
    {s t : Session} {file : String} {known : Option CacheEntry} {f : Finding}
    (hlook : Looks c hook s file known (.ok f) t)
    (hknown : ∀ e, known = some e → s.index.cache.get? file = some e) : f.Rests allowed t.index file := by
  generalize hr : (Except.ok f : Except String Finding) = r at hlook
  -- what is shown is the entry known before, or what the parser has just answered
  cases hlook with
  | gone =>
    cases hr
    trivial
  | fresh time e hm hk hf =>
    cases hr
    exact ⟨e, hknown e hk, rfl⟩
  | read time hm hk =>
    cases hp : c.parse (s.opened hook file).files file with
    | endpoints es =>
      rw [hp] at hr
      cases hr
      exact ⟨c, _, hc, hp⟩
    | unreadable =>
      rw [hp] at hr
      cases hr
      trivial
    | broken cause =>
      rw [hp] at hr
      cases hr

section Operations

variable {allowed : IndexConfig → Prop} {I : Index → Prop} (hI : Index.Invariant allowed I)
  {c : IndexConfig} (hc : allowed c) {hook : Hook} {s : Session}

include hI

theorem saveCache_keeps (h : I s.index) (now : Int) : I (s.saveCache c now).2.index := by
  rcases index_saveCache s c now with hindex | hindex
  · rw [hindex]
    exact h
  · rw [hindex]
    exact hI.saved now h

theorem remove_keeps {reactions : Reactions}
    (houter : ∀ listener count (u : Session), I u.index → I (reactions listener count u).2.index)
    (h : I s.index) (path : String) : I (s.remove path reactions).2.index := by
  unfold remove
  split
  · exact h
  · rename_i file hfile
    split
    · exact h
    · rename_i g hg
      have hdrop := hI.gate ((s.setGate g).index.drop file).gate.endUpdate
        (hI.drop (hI.gate g h) file)
      dsimp only
      split
      · exact notify_holds (P := fun u => I u.index) (fun l n u hu => houter l n _ hu) hdrop
      · exact hdrop

include hc

theorem buildBody_keeps (hook_spares : hook.SparesBuilds) (hs : s.index.gate = .building)
    (h : I s.index) (files : Option (List String)) : I (s.buildBody c hook files).2.index := by
  apply buildBody_invariant (P := fun u => I u.index) hook_spares ?_ ?_ ?_ files hs h
  · intro u file hu hm
    rw [index_opened hook_spares hu]
    exact hm
  · intro u t file known f _ _ ht hknown hlook
    exact hI.commit ht (hlook.rests hc hknown)
  · intro u found hu
    exact hI.prune hu found

theorem build_keeps (hook_spares : hook.SparesBuilds) {reactions : Reactions}
    (houter : ∀ listener count (u : Session), I u.index → I (reactions listener count u).2.index)
    (h : I s.index) (now : Int) (files : Option (List String)) :
    I (s.build c hook now files reactions).2.index := by
  unfold build
  split
  · exact h
  · rename_i g hg
    have hbuilding : g = .building := (Gate.building_of_beginBuild? hg).2
    have hbody := buildBody_keeps (s := s.setGate g) hI hc hook_spares hbuilding (hI.gate g h) files
    have hend := hI.gate .idle (saveCache_keeps (c := c) hI hbody now)
    dsimp only
    split
    · exact hend
    · exact hend
    · exact notify_holds (P := fun u => I u.index) (fun l n u hu => houter l n _ hu) hend

theorem rebuild_keeps (hook_spares : hook.SparesBuilds) {reactions : Reactions}
    (houter : ∀ listener count (u : Session), I u.index → I (reactions listener count u).2.index)
    (h : I s.index) (now : Int) : I (s.rebuild c hook now reactions).2.index := by
  unfold rebuild
  split
  · dsimp only
    split
    · exact hI.cleared h
    · exact build_keeps (s := { s with index := s.index.clear, files := _ }) hI hc hook_spares
        houter (hI.cleared h) now none
  · exact h

theorem update_keeps (hinner : ∀ file (u : Session), I u.index → I (hook file u).index)
    {reactions : Reactions}
    (houter : ∀ listener count (u : Session), I u.index → I (reactions listener count u).2.index)
    (h : I s.index) (path : String) : I (s.update c hook path reactions).2.index := by
  unfold update
  split
  · exact h
  · rename_i file hfile
    split
    · exact h
    · rename_i g hg
      have hlook := examine_looks (s.setGate g) c hook file none
      -- the hook is called only when the file is read
      have hafter : I ((s.setGate g).examine c hook file none).2.index :=
        hlook.holds (P := fun u => I u.index) (hI.gate g h) (hinner file _ (hI.gate g h))
      split
      · rename_i cause t hexamine
        rw [hexamine] at hafter
        exact hI.gate _ hafter
      · rename_i f t hexamine
        rw [hexamine] at hafter hlook
        exact notify_holds (P := fun u => I u.index) (fun l n u hu => houter l n _ hu)
          (hI.gate _ (hI.commit hafter (hlook.rests hc (by simp))))

end Operations

/-! ## Runs -/

/-- What a sequence of operations leads to. Between the operations the files may become anything, a
stop may be requested and listeners come and go. The same may happen, and the same operations may run,
at the moment at which a file is about to be read inside an operation, and whenever a listener is told
something: hooks and reactions are made of such sequences. Each operation comes with a configuration of
its own, so that a reader that fails once may succeed later. -/
inductive Leads : Session → Session → Prop
  | refl (s : Session) : Leads s s
  | outside {s t : Session} (h : Leads s t) (fs : FileSystem) (stop : Bool) (events : List Event)
      (home : Option Path) : Leads s ⟨fs, t.index, stop, events, home⟩
  | register {s t : Session} (h : Leads s t) (hgate : t.index.gate ≠ .building)
      (listeners : List String) : Leads s { t with index := { t.index with listeners := listeners } }
  | build {s t : Session} (h : Leads s t) (c : IndexConfig) (hook : Hook)
      (inner : ∀ file u, Leads u (hook file u)) (reactions : Reactions)
      (outer : ∀ listener count u, Leads u (reactions listener count u).2) (now : Int)
      (files : Option (List String)) : Leads s (t.build c hook now files reactions).2
  | rebuild {s t : Session} (h : Leads s t) (c : IndexConfig) (hook : Hook)
      (inner : ∀ file u, Leads u (hook file u)) (reactions : Reactions)
      (outer : ∀ listener count u, Leads u (reactions listener count u).2) (now : Int) :
      Leads s (t.rebuild c hook now reactions).2
  | update {s t : Session} (h : Leads s t) (c : IndexConfig) (hook : Hook)
      (inner : ∀ file u, Leads u (hook file u)) (reactions : Reactions)
      (outer : ∀ listener count u, Leads u (reactions listener count u).2) (path : String) :
      Leads s (t.update c hook path reactions).2
  | remove {s t : Session} (h : Leads s t) (reactions : Reactions)
      (outer : ∀ listener count u, Leads u (reactions listener count u).2) (path : String) :
      Leads s (t.remove path reactions).2

theorem build_of_building {s : Session} (hs : s.index.gate = .building) (c : IndexConfig)
    (hook : Hook) (now : Int) (files : Option (List String)) (reactions : Reactions) :
    s.build c hook now files reactions = (.ok .rejected, s) := by
  rw [build, hs]
  rfl

theorem rebuild_of_building {s : Session} (hs : s.index.gate = .building) (c : IndexConfig)
    (hook : Hook) (now : Int) (reactions : Reactions) :
    s.rebuild c hook now reactions = (.ok .rejected, s) := by
  rw [rebuild, hs]
  rfl

theorem session_update_of_building {s : Session} (hs : s.index.gate = .building) (c : IndexConfig)
    (hook : Hook) (path : String) (reactions : Reactions) : (s.update c hook path reactions).2 = s := by
  rw [update, hs]
  split <;> rfl

theorem session_remove_of_building {s : Session} (hs : s.index.gate = .building) (path : String)
    (reactions : Reactions) : (s.remove path reactions).2 = s := by
  rw [remove, hs]
  split <;> rfl

/-- While a build runs, nothing that happens inside it gets at the index. -/
theorem Leads.index_eq_of_building {s t : Session} (h : Leads s t) (hs : s.index.gate = .building) :
    t.index = s.index := by
  induction h with
  | refl => rfl
  | outside h fs stop events home ih => exact ih hs
  | register h hgate listeners ih => exact absurd (by rw [ih hs, hs]) hgate
  | build h c hook inner reactions outer now files ih =>
    rw [build_of_building (by rw [ih hs, hs]), ih hs]
  | rebuild h c hook inner reactions outer now ih =>
    rw [rebuild_of_building (by rw [ih hs, hs]), ih hs]
  | update h c hook inner reactions outer path ih =>
    rw [session_update_of_building (by rw [ih hs, hs]), ih hs]
  | remove h reactions outer path ih =>
    rw [session_remove_of_building (by rw [ih hs, hs]), ih hs]

theorem sparesBuilds_of_leads {hook : Hook} (inner : ∀ file u, Leads u (hook file u)) :
    hook.SparesBuilds :=
  fun file s hs => (inner file s).index_eq_of_building hs

/-- What a sequence of operations leads to when every configuration in it is an allowed one. Otherwise
it is as in `Leads`: the files may become anything in between, and hooks and reactions are made of such
sequences. -/
inductive LeadsWith (allowed : IndexConfig → Prop) : Session → Session → Prop
  | refl (s : Session) : LeadsWith allowed s s
  | outside {s t : Session} (h : LeadsWith allowed s t) (fs : FileSystem) (stop : Bool)
      (events : List Event) (home : Option Path) :
      LeadsWith allowed s ⟨fs, t.index, stop, events, home⟩
  | register {s t : Session} (h : LeadsWith allowed s t) (hgate : t.index.gate ≠ .building)
      (listeners : List String) :
      LeadsWith allowed s { t with index := { t.index with listeners := listeners } }
  | build {s t : Session} (h : LeadsWith allowed s t) (c : IndexConfig) (hc : allowed c) (hook : Hook)
      (inner : ∀ file u, LeadsWith allowed u (hook file u)) (reactions : Reactions)
      (outer : ∀ listener count u, LeadsWith allowed u (reactions listener count u).2) (now : Int)
      (files : Option (List String)) : LeadsWith allowed s (t.build c hook now files reactions).2
  | rebuild {s t : Session} (h : LeadsWith allowed s t) (c : IndexConfig) (hc : allowed c) (hook : Hook)
      (inner : ∀ file u, LeadsWith allowed u (hook file u)) (reactions : Reactions)
      (outer : ∀ listener count u, LeadsWith allowed u (reactions listener count u).2) (now : Int) :
      LeadsWith allowed s (t.rebuild c hook now reactions).2
  | update {s t : Session} (h : LeadsWith allowed s t) (c : IndexConfig) (hc : allowed c) (hook : Hook)
      (inner : ∀ file u, LeadsWith allowed u (hook file u)) (reactions : Reactions)
      (outer : ∀ listener count u, LeadsWith allowed u (reactions listener count u).2) (path : String) :
      LeadsWith allowed s (t.update c hook path reactions).2
  | remove {s t : Session} (h : LeadsWith allowed s t) (reactions : Reactions)
      (outer : ∀ listener count u, LeadsWith allowed u (reactions listener count u).2) (path : String) :
      LeadsWith allowed s (t.remove path reactions).2

theorem LeadsWith.leads {allowed : IndexConfig → Prop} {s t : Session} (h : LeadsWith allowed s t) :
    Leads s t := by
  induction h with
  | refl s => exact .refl s
  | outside h fs stop events home ih => exact .outside ih fs stop events home
  | register h hgate listeners ih => exact .register ih hgate listeners
  | build h c hc hook inner reactions outer now files ih ih_inner ih_outer =>
    exact .build ih c hook ih_inner reactions ih_outer now files
  | rebuild h c hc hook inner reactions outer now ih ih_inner ih_outer =>
    exact .rebuild ih c hook ih_inner reactions ih_outer now
  | update h c hc hook inner reactions outer path ih ih_inner ih_outer =>
    exact .update ih c hook ih_inner reactions ih_outer path
  | remove h reactions outer path ih ih_outer => exact .remove ih reactions ih_outer path

theorem Leads.leadsWith {s t : Session} (h : Leads s t) : LeadsWith (fun _ => True) s t := by
  induction h with
  | refl s => exact .refl s
  | outside h fs stop events home ih => exact .outside ih fs stop events home
  | register h hgate listeners ih => exact .register ih hgate listeners
  | build h c hook inner reactions outer now files ih ih_inner ih_outer =>
    exact .build ih c trivial hook ih_inner reactions ih_outer now files
  | rebuild h c hook inner reactions outer now ih ih_inner ih_outer =>
    exact .rebuild ih c trivial hook ih_inner reactions ih_outer now
  | update h c hook inner reactions outer path ih ih_inner ih_outer =>
    exact .update ih c trivial hook ih_inner reactions ih_outer path
  | remove h reactions outer path ih ih_outer => exact .remove ih reactions ih_outer path

theorem LeadsWith.invariant {allowed : IndexConfig → Prop} {I : Index → Prop}
    (hI : Index.Invariant allowed I) {s t : Session} (h : LeadsWith allowed s t) (hs : I s.index) :
    I t.index := by
  -- the hypothesis for `inner` is needed for updates only: a build lets nobody in
  induction h with
  | refl => exact hs
  | outside h fs stop events home ih => exact ih hs
  | register h hgate listeners ih => exact hI.listeners listeners (ih hs)
  | build h c hc hook inner reactions outer now files ih ih_inner ih_outer =>
    have hspares := sparesBuilds_of_leads fun file u => (inner file u).leads
    exact build_keeps hI hc hspares ih_outer (ih hs) now files
  | rebuild h c hc hook inner reactions outer now ih ih_inner ih_outer =>
    have hspares := sparesBuilds_of_leads fun file u => (inner file u).leads
    exact rebuild_keeps hI hc hspares ih_outer (ih hs) now
  | update h c hc hook inner reactions outer path ih ih_inner ih_outer =>
    exact update_keeps hI hc ih_inner ih_outer (ih hs) path
  | remove h reactions outer path ih ih_outer => exact remove_keeps hI ih_outer (ih hs) path

theorem Leads.invariant {I : Index → Prop} (hI : Index.Invariant (fun _ => True) I) {s t : Session}
    (h : Leads s t) (hs : I s.index) : I t.index :=
  h.leadsWith.invariant hI hs

/-- An update of a file that can be read enters what was read. -/
theorem cache_update_of_endpoints {s : Session} {c : IndexConfig} {path file : String} {time : Int}
    {es : List Endpoint} (hidle : s.index.gate = .idle) (hnormal : s.normalize path = .ok file)
    (hm : s.modified? file = some time) (hparse : c.parse s.files file = .endpoints es) :
    (s.update c Hook.none path).2.index.cache = s.index.cache.put file ⟨time, es⟩ := by
  have hm' : (s.setGate (.updating 0)).modified? file = some time := hm
  have hparse' : c.parse (Hook.none file ((s.setGate (.updating 0)).record (.parsed file))).files file =
      .endpoints es := hparse
  have hexamine : (s.setGate (.updating 0)).examine c Hook.none file none =
      (.ok (.parsed time es), (s.setGate (.updating 0)).record (.parsed file)) := by
    rw [examine, hm']
    dsimp only [Option.filter]
    rw [hparse']
    rfl
  rw [update, hnormal, hidle]
  dsimp only [Gate.beginUpdate?]
  rw [hexamine]
  dsimp only
  rw [index_notify]
  rfl

/-- Listeners that do nothing lead nowhere. -/
theorem leads_reactionsNone (listener : String) (count : Nat) (u : Session) :
    Leads u (Reactions.none listener count u).2 :=
  .refl u

end Session

end EndpointIndex
