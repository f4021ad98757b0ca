import EndpointIndex.Index.Update
import EndpointIndex.Proofs.FileMap

/-!
# Looking at files

What a look at one file can come to (`examine_looks`), and a rule for what a batch of looks keeps
(`runBatch_invariant`). The rule gives each committed finding what it rests on: an entry that a batch
took from the cache at its beginning is still there when the finding is committed, because the files
of a batch differ and nothing else enters while a build runs.
-/

namespace EndpointIndex

/-- What is known about a file that had the given time before it was read. -/
def ParseResult.finding (time : Int) : ParseResult → Except String Finding
  | .endpoints es => .ok (.parsed time es)
  | .unreadable => .ok .missing
  | .broken cause => .error cause

/-- A hook that leaves the index alone while a build runs. -/
def Hook.SparesBuilds (hook : Hook) : Prop :=
  ∀ file s, s.index.gate = .building → (hook file s).index = s.index

theorem Cache.get?_put (c : Cache) (file g : String) (e : CacheEntry) :
    (c.put file e).get? g = if g = file then some e else c.get? g :=
  FileMap.get?_put c.entries file g e

theorem Cache.get?_remove (c : Cache) (file g : String) :
    (c.remove file).get? g = if g = file then none else c.get? g :=
  FileMap.get?_erase c.entries file g

namespace Index

@[simp] theorem gate_commit (i : Index) (file : String) (f : Finding) :
    (i.commit file f).gate = i.gate := by
  cases f <;> rfl

/-- What dropping one file keeps, dropping all that are not listed keeps. -/
theorem prune_keeps {P : Index → Prop} (hdrop : ∀ i file, P i → P (i.drop file)) {i : Index} (hi : P i)
    (keep : List String) : P (i.prune keep) := by
  unfold prune
  generalize i.stale keep = gone
  induction gone generalizing i with
  | nil => exact hi
  | cons file gone ih => exact ih (hdrop i file hi)

theorem gate_prune (i : Index) (keep : List String) : (i.prune keep).gate = i.gate :=
  prune_keeps (P := fun j => j.gate = i.gate) (fun _ _ hj => hj) rfl keep

/-- A finding concerns its own file only. -/
theorem cache_get?_commit_of_ne (i : Index) {file g : String} (f : Finding) (h : g ≠ file) :
    (i.commit file f).cache.get? g = i.cache.get? g := by
  cases f with
  | missing => exact (Cache.get?_remove _ _ _).trans (if_neg h)
  | cached es => rfl
  | parsed time es => exact (Cache.get?_put _ _ _ _).trans (if_neg h)

end Index

namespace Session

/-- The moment at which a file is about to be read. -/
def opened (s : Session) (hook : Hook) (file : String) : Session :=
  hook file (s.record (.parsed file))

/-- The ways in which a look at a file ends. -/
inductive Looks (c : IndexConfig) (hook : Hook) (s : Session) (file : String)
    (known : Option CacheEntry) : Except String Finding → Session → Prop
  | gone (hm : s.modified? file = none) : Looks c hook s file known (.ok .missing) s
  | fresh (time : Int) (e : CacheEntry) (hm : s.modified? file = some time)
      (hk : known = some e) (hf : e.isFresh time = true) :
      Looks c hook s file known (.ok (.cached e.endpoints)) s
  | read (time : Int) (hm : s.modified? file = some time)
      (hk : known.filter (·.isFresh time) = none) :
      Looks c hook s file known ((c.parse (s.opened hook file).files file).finding time)
        (s.opened hook file)

theorem examine_looks (s : Session) (c : IndexConfig) (hook : Hook) (file : String)
    (known : Option CacheEntry) :
    Looks c hook s file known (s.examine c hook file known).1 (s.examine c hook file known).2 := by
  unfold examine
  split
  · rename_i hm
    exact .gone hm
  · rename_i time hm
    split
    · rename_i e he
      obtain ⟨hk, hf⟩ := Option.filter_eq_some_iff.1 he
      exact .fresh time e hm hk hf
    · rename_i hk
      have hread : Looks c hook s file known _ _ := .read time hm hk
      simp only [opened] at hread
      -- the three results of parsing are those of `finding`
      cases hp : c.parse (hook file (s.record (.parsed file))).files file with
      | endpoints es => simpa only [hp, ParseResult.finding] using hread
      | unreadable => simpa only [hp, ParseResult.finding] using hread
      | broken cause => simpa only [hp, ParseResult.finding] using hread

@[simp] theorem files_record (s : Session) (e : Event) : (s.record e).files = s.files := rfl

@[simp] theorem index_commit (s : Session) (file : String) (f : Finding) :
    (s.commit file f).index = s.index.commit file f := rfl

theorem index_opened {hook : Hook} (hook_spares : hook.SparesBuilds) {s : Session}
    (hs : s.index.gate = .building) (file : String) : (s.opened hook file).index = s.index :=
  hook_spares file _ hs

theorem Looks.session_eq {c : IndexConfig} {hook : Hook} {s t : Session} {file : String}
    {known : Option CacheEntry} {r : Except String Finding} (h : Looks c hook s file known r t) :
    t = s ∨ t = s.opened hook file := by
  cases h with
  | gone => exact .inl rfl
  | fresh => exact .inl rfl
  | read => exact .inr rfl

/-- What holds of a session, and of that which its hook makes of it, holds after a look. -/
theorem Looks.holds {P : Session → Prop} {c : IndexConfig} {hook : Hook} {s t : Session} {file : String}
    {known : Option CacheEntry} {r : Except String Finding} (h : Looks c hook s file known r t)
    (hkept : P s) (hopened : P (s.opened hook file)) : P t := by
  rcases h.session_eq with rfl | rfl
  · exact hkept
  · exact hopened

theorem Looks.index_eq {c : IndexConfig} {hook : Hook} (hook_spares : hook.SparesBuilds)
    {s t : Session} {file : String} {known : Option CacheEntry} {r : Except String Finding}
    (h : Looks c hook s file known r t) (hs : s.index.gate = .building) : t.index = s.index :=
  h.holds (P := fun u => u.index = s.index) rfl (index_opened hook_spares hs file)

/-- Everything that a batch knows of its files is what the cache holds. -/
def Knows (s : Session) (batch : List (String × Option CacheEntry)) : Prop :=
  ∀ p ∈ batch, ∀ e, p.2 = some e → s.index.cache.get? p.1 = some e

section Batches

variable {c : IndexConfig} {hook : Hook} {P : Session → Prop}

/-- A property that survives the opening of a file and the commit of a finding survives a batch. -/
theorem runBatch_invariant (hook_spares : hook.SparesBuilds)
    (hopen : ∀ s file, s.index.gate = .building → P s → P (s.opened hook file))
    (hcommit : ∀ s t file known f, s.index.gate = .building → P s → P t →
      (∀ e, known = some e → s.index.cache.get? file = some e) →
      Looks c hook s file known (.ok f) t → P (t.commit file f))
    (batch : List (String × Option CacheEntry)) (tally : Tally) (s : Session)
    (hdiffer : (batch.map Prod.fst).Nodup) (hknows : s.Knows batch)
    (hs : s.index.gate = .building) (hp : P s) :
    P (runBatch c hook batch tally s).2 ∧ (runBatch c hook batch tally s).2.index.gate = .building := by
  induction batch generalizing tally s with
  | nil => exact ⟨hp, hs⟩
  | cons p batch ih =>
    obtain ⟨file, known⟩ := p
    have hlook := examine_looks s c hook file known
    have hindex := hlook.index_eq hook_spares hs
    have hpt : P (s.examine c hook file known).2 := hlook.holds hp (hopen s file hs hp)
    simp only [List.map_cons, List.nodup_cons] at hdiffer
    unfold runBatch
    split
    · rename_i cause t hex
      rw [hex] at hindex hpt
      exact ⟨hpt, by rw [hindex, hs]⟩
    · rename_i f t hex
      rw [hex] at hlook hindex hpt
      apply ih
      · exact hdiffer.2
      · -- the rest of the batch is about other files
        intro q hq e he
        have hne : q.1 ≠ file := fun heq => hdiffer.1 (heq ▸ List.mem_map_of_mem hq)
        rw [index_commit, Index.cache_get?_commit_of_ne _ f hne, hindex]
        exact hknows q (List.mem_cons_of_mem _ hq) e he
      · rw [index_commit, Index.gate_commit, hindex, hs]
      · exact hcommit s t file known f hs hp hpt (hknows _ List.mem_cons_self) hlook

theorem knows_snapshot (s : Session) (settings : Settings) (files : List String) :
    s.Knows (files.map fun f => (f, s.index.snapshot? settings f)) := by
  intro p hp e he
  obtain ⟨f, -, rfl⟩ := List.mem_map.1 hp
  simp only [Index.snapshot?] at he
  split at he
  · exact he
  · cases he

theorem runBatches_invariant (hook_spares : hook.SparesBuilds)
    (hopen : ∀ s file, s.index.gate = .building → P s → P (s.opened hook file))
    (hcommit : ∀ s t file known f, s.index.gate = .building → P s → P t →
      (∀ e, known = some e → s.index.cache.get? file = some e) →
      Looks c hook s file known (.ok f) t → P (t.commit file f))
    (batches : List (List String)) (tally : Tally) (s : Session)
    (hdiffer : ∀ b ∈ batches, b.Nodup) (hs : s.index.gate = .building) (hp : P s) :
    P (runBatches c hook batches tally s).2 ∧
      (runBatches c hook batches tally s).2.index.gate = .building := by
  induction batches generalizing tally s with
  | nil => exact ⟨hp, hs⟩
  | cons b batches ih =>
    have hb : ((b.map fun f => (f, s.index.snapshot? c.settings f)).map Prod.fst).Nodup := by
      simpa [Function.comp_def] using hdiffer b List.mem_cons_self
    -- what the cache knows of a batch is looked up when the batch begins
    obtain ⟨hp', hs'⟩ := runBatch_invariant hook_spares hopen hcommit _ tally s hb
      (knows_snapshot s c.settings b) hs hp
    unfold runBatches
    split
    · exact ⟨hp, hs⟩
    · split
      · rename_i cause t hrun
        rw [hrun] at hp' hs'
        exact ⟨hp', hs'⟩
      · rename_i tally' t hrun
        rw [hrun] at hp' hs'
        exact ih tally' t (fun b' hb' => hdiffer b' (List.mem_cons_of_mem _ hb')) hs' hp'

end Batches

/-- A property that lasts through a build: through looks at files, of which nothing is known without
a cache, through the commits of what was found, and through the dropping of other files. -/
structure LastsThroughBuild (c : IndexConfig) (hook : Hook) (P : Session → Prop) : Prop where
  look : ∀ {s t file known r}, (c.settings.enableCache = false → known = none) → P s →
    Looks c hook s file known r t → P t
  commit : ∀ {s t file known f}, (c.settings.enableCache = false → known = none) → P s →
    Looks c hook s file known (.ok f) t → P (t.commit file f)
  prune : ∀ {s} found, P s → P { s with index := s.index.prune found }

namespace LastsThroughBuild

variable {c : IndexConfig} {hook : Hook} {P : Session → Prop} (h : LastsThroughBuild c hook P)

include h

theorem runBatch (batch : List (String × Option CacheEntry))
    (hknown : ∀ p ∈ batch, c.settings.enableCache = false → p.2 = none) (tally : Tally) {s : Session}
    (hs : P s) : P (runBatch c hook batch tally s).2 := by
  induction batch generalizing tally s with
  | nil => exact hs
  | cons p batch ih =>
    obtain ⟨file, known⟩ := p
    have hfirst := hknown (file, known) List.mem_cons_self
    have hlook := examine_looks s c hook file known
    unfold Session.runBatch
    split
    · rename_i cause t hexamine
      rw [hexamine] at hlook
      exact h.look hfirst hs hlook
    · rename_i f t hexamine
      rw [hexamine] at hlook
      exact ih (fun q hq => hknown q (List.mem_cons_of_mem _ hq)) _ (h.commit hfirst hs hlook)

theorem runBatches (batches : List (List String)) (tally : Tally) {s : Session} (hs : P s) :
    P (runBatches c hook batches tally s).2 := by
  induction batches generalizing tally s with
  | nil => exact hs
  | cons b batches ih =>
    have hknown : ∀ p ∈ b.map fun f => (f, s.index.snapshot? c.settings f),
        c.settings.enableCache = false → p.2 = none := by
      intro p hp hoff
      obtain ⟨f, -, rfl⟩ := List.mem_map.1 hp
      simp [Index.snapshot?, hoff]
    have hbatch := h.runBatch _ hknown tally hs
    unfold Session.runBatches
    split
    · exact hs
    · split
      · rename_i cause t hrun
        rw [hrun] at hbatch
        exact hbatch
      · rename_i tally' t hrun
        rw [hrun] at hbatch
        exact ih tally' hbatch

theorem buildBody (files : Option (List String)) {s : Session} (hs : P s) :
    P (s.buildBody c hook files).2 := by
  unfold Session.buildBody
  split
  · exact hs
  · rename_i found hfound
    have hrun := h.runBatches (batches c.settings.batchSize found) ⟨0, 0, 0⟩ hs
    split
    · rename_i hr
      rw [hr] at hrun
      exact hrun
    · rename_i hr
      rw [hr] at hrun
      split
      · exact h.prune found hrun
      · exact hrun

end LastsThroughBuild

/-! ## Candidates -/

theorem normalize_congr {s t : Session} (hfiles : t.files = s.files) (hhome : t.home = s.home)
    (path : String) : t.normalize path = s.normalize path := by
  rw [normalize, normalize, hfiles, hhome]

theorem candidates_congr {s t : Session} (hfiles : t.files = s.files) (hhome : t.home = s.home)
    (seen source : List String) : t.candidates seen source = s.candidates seen source := by
  induction source generalizing seen with
  | nil => rfl
  | cons p source ih =>
    rw [candidates, candidates, normalize_congr hfiles hhome]
    cases s.normalize p with
    | error e => rfl
    | ok file =>
      dsimp only
      rw [ih, ih]

/-- Which files are looked at depends on the files and on the home only. -/
theorem listed_congr {s t : Session} (hfiles : t.files = s.files) (hhome : t.home = s.home)
    (c : IndexConfig) (files : Option (List String)) : t.listed c files = s.listed c files := by
  unfold listed
  rw [hfiles]
  simp only [candidates_congr hfiles hhome]

@[simp] theorem listed_setGate (s : Session) (g : Gate) (c : IndexConfig)
    (files : Option (List String)) : (s.setGate g).listed c files = s.listed c files :=
  listed_congr (s := s) (t := s.setGate g) rfl rfl c files

theorem candidates_nodup {s : Session} {seen source found : List String}
    (h : s.candidates seen source = .ok found) : found.Nodup ∧ ∀ f ∈ found, f ∉ seen := by
  induction source generalizing seen found with
  | nil =>
    cases h
    exact ⟨List.nodup_nil, by simp⟩
  | cons p source ih =>
    unfold candidates at h
    split at h
    · cases h
    · rename_i file hfile
      split at h
      · exact ih h
      · rename_i hseen
        cases hrest : s.candidates (file :: seen) source with
        | error e => rw [hrest] at h; cases h
        | ok rest =>
          rw [hrest] at h
          cases h
          -- the rest was searched with this file among those seen
          obtain ⟨hnodup, hnew⟩ := ih hrest
          constructor
          · refine List.nodup_cons.2 ⟨fun hmem => ?_, hnodup⟩
            exact hnew file hmem List.mem_cons_self
          · intro f hf hs
            rcases List.mem_cons.1 hf with rfl | hf
            · exact hseen (List.contains_iff_mem.2 hs)
            · exact hnew f hf (List.mem_cons_of_mem _ hs)

/-- The candidates are the absolute paths in the order of their first mention. -/
theorem candidates_eq_ok {s : Session} {seen source found : List String}
    (h : s.candidates seen source = .ok found) :
    ∃ names, source.mapM s.normalize = .ok names ∧
      found = (names.filter fun f => !seen.contains f).eraseDups := by
  induction source generalizing seen found with
  | nil =>
    cases h
    exact ⟨[], rfl, rfl⟩
  | cons p source ih =>
    unfold candidates at h
    split at h
    · cases h
    · rename_i file hfile
      rw [List.mapM_cons, hfile]
      split at h
      · -- a file that was mentioned before is filtered out
        rename_i hseen
        obtain ⟨names, hnames, rfl⟩ := ih h
        refine ⟨file :: names, by rw [hnames]; rfl, ?_⟩
        rw [List.filter_cons_of_neg (by simpa using hseen)]
      · rename_i hseen
        cases hrest : s.candidates (file :: seen) source with
        | error e => rw [hrest] at h; cases h
        | ok rest =>
          rw [hrest] at h
          cases h
          obtain ⟨names, hnames, rfl⟩ := ih hrest
          refine ⟨file :: names, by rw [hnames]; rfl, ?_⟩
          rw [List.filter_cons_of_pos (by simpa using hseen), List.eraseDups_cons, List.filter_filter]
          congr 2
          apply List.filter_congr
          intro f _
          rw [List.contains_cons, Bool.not_or]

/-- The files to look at come from the request or from the configuration, and are made absolute. -/
theorem listed_eq_ok {s : Session} {c : IndexConfig} {files : Option (List String)}
    {found : List String} (h : s.listed c files = .ok found) :
    ∃ source, (files = some source ∨ files = none ∧ c.provide s.files = .ok source) ∧
      s.candidates [] source = .ok found := by
  cases files with
  | some source =>
    simp only [listed, pure_bind] at h
    split at h
    · rename_i found' hfound
      cases h
      exact ⟨source, .inl rfl, hfound⟩
    · cases h
  | none =>
    simp only [listed] at h
    cases hprovide : c.provide s.files with
    | error e =>
      rw [hprovide] at h
      cases h
    | ok source =>
      simp only [hprovide, bind, Except.bind] at h
      split at h
      · rename_i found' hfound
        cases h
        exact ⟨source, .inr ⟨rfl, rfl⟩, hfound⟩
      · cases h

theorem listed_eq_eraseDups {s : Session} {c : IndexConfig} {files : Option (List String)}
    {found : List String} (h : s.listed c files = .ok found) :
    ∃ source names, (files = some source ∨ files = none ∧ c.provide s.files = .ok source) ∧
      source.mapM s.normalize = .ok names ∧ found = names.eraseDups := by
  obtain ⟨source, hsource, hfound⟩ := listed_eq_ok h
  obtain ⟨names, hnames, rfl⟩ := candidates_eq_ok hfound
  have hall : (names.filter fun f => !([] : List String).contains f) = names :=
    List.filter_eq_self.2 fun _ _ => rfl
  exact ⟨source, names, hsource, hnames, by rw [hall]⟩

theorem mem_of_mapM_normalize {s : Session} {source names : List String}
    (h : source.mapM s.normalize = .ok names) (file : String) :
    file ∈ names ↔ ∃ q ∈ source, s.normalize q = .ok file := by
  induction source generalizing names with
  | nil =>
    cases h
    simp
  | cons q source ih =>
    rw [List.mapM_cons] at h
    cases hq : s.normalize q with
    | error e =>
      rw [hq] at h
      cases h
    | ok name =>
      cases hrest : source.mapM s.normalize with
      | error e =>
        rw [hq, hrest] at h
        cases h
      | ok rest =>
        rw [hq, hrest] at h
        cases h
        rw [List.mem_cons, ih hrest]
        constructor
        · rintro (rfl | ⟨p, hp, hfile⟩)
          · exact ⟨q, List.mem_cons_self, hq⟩
          · exact ⟨p, List.mem_cons_of_mem _ hp, hfile⟩
        · rintro ⟨p, hp, hfile⟩
          rcases List.mem_cons.1 hp with rfl | hp
          · rw [hq] at hfile
            cases hfile
            exact .inl rfl
          · exact .inr ⟨p, hp, hfile⟩

/-- The listed files are those that the configuration lists, by their absolute paths. -/
theorem mem_listed_iff {s : Session} {c : IndexConfig} {found : List String}
    (h : s.listed c none = .ok found) :
    ∃ source, c.provide s.files = .ok source ∧
      ∀ file, file ∈ found ↔ ∃ q ∈ source, s.normalize q = .ok file := by
  obtain ⟨source, names, hsource, hnames, rfl⟩ := listed_eq_eraseDups h
  obtain ⟨-, hprovide⟩ := hsource.resolve_left (by simp)
  refine ⟨source, hprovide, fun file => ?_⟩
  rw [List.mem_eraseDups, mem_of_mapM_normalize hnames]

theorem listed_nodup {s : Session} {c : IndexConfig} {files : Option (List String)}
    {found : List String} (h : s.listed c files = .ok found) : found.Nodup := by
  obtain ⟨source, -, hfound⟩ := listed_eq_ok h
  exact (candidates_nodup hfound).1

theorem flatten_batches {size : Nat} (hsize : 0 < size) (files : List String) :
    (batches size files).flatten = files := by
  fun_induction batches size files with
  | case1 files h =>
    rcases h with h | h
    · omega
    · rw [h]
      rfl
  | case2 files h ih => rw [List.flatten_cons, ih, List.take_append_drop]

theorem nodup_of_mem_batches {size : Nat} (hsize : 0 < size) {files b : List String}
    (h : files.Nodup) (hb : b ∈ batches size files) : b.Nodup := by
  rw [← flatten_batches hsize files] at h
  exact h.sublist (List.sublist_flatten_of_mem hb)

/-- A property that survives the opening of a file, the commit of a finding and the dropping of files
survives the body of a build. What a batch knows of its files is still in the cache when it is used: no
hook can reach the cache, and the files of a batch differ. -/
theorem buildBody_invariant {c : IndexConfig} {hook : Hook} {P : Session → Prop}
    (hook_spares : hook.SparesBuilds)
    (hopen : ∀ s file, s.index.gate = .building → P s → P (s.opened hook file))
    (hcommit : ∀ s t file known f, s.index.gate = .building → P s → P t →
      (∀ e, known = some e → s.index.cache.get? file = some e) →
      Looks c hook s file known (.ok f) t → P (t.commit file f))
    (hprune : ∀ s found, P s → P { s with index := s.index.prune found })
    (files : Option (List String)) {s : Session} (hs : s.index.gate = .building) (hp : P s) :
    P (s.buildBody c hook files).2 := by
  unfold buildBody
  split
  · exact hp
  · rename_i found hfound
    have hrun := (runBatches_invariant hook_spares hopen hcommit (batches c.settings.batchSize found)
      ⟨0, 0, 0⟩ s
      (fun b hb => nodup_of_mem_batches c.settings.batchSize_pos (listed_nodup hfound) hb) hs hp).1
    split
    · rename_i hr
      rw [hr] at hrun
      exact hrun
    · rename_i hr
      rw [hr] at hrun
      split
      · exact hprune _ found hrun
      · exact hrun

end Session

end EndpointIndex
