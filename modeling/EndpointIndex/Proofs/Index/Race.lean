import EndpointIndex.Proofs.Index.Mirror
import EndpointIndex.Proofs.Index.Sighting

/-!
# Writes that race with looks

Looks at files run beside each other, and files are written and deleted at any time. A look has three
parts: the file is dated, it is read, and what was found is committed (`Look`); anything may happen
between two of them. Where every write gives a file a later time than there was before at its path
(`Advances`), no entry of the cache is ever taken for up to date when it is not
(`Race.parseWith_eq_of_entry`). The reason is that a file is dated before it is read: the
entry has the earlier of the two times, and a file that is read later than it was dated is not older.
-/

namespace EndpointIndex

open IndexConfig

/-- The first part of a look. Either it settles what the look comes to, or the file is to be read and
this is its time. -/
def Session.date (s : Session) (file : String) (known : Option CacheEntry) : Int ⊕ Finding :=
  match s.modified? file with
  | none => .inr .missing
  | some time =>
    match known.filter (·.isFresh time) with
    | some e => .inr (.cached e.endpoints)
    | none => .inl time

/-- A look is its first part and, where that does not settle it, the reading of the file. -/
theorem Session.examine_eq_date (s : Session) (c : IndexConfig) (hook : Hook) (file : String)
    (known : Option CacheEntry) :
    s.examine c hook file known =
      match s.date file known with
      | .inr f => (.ok f, s)
      | .inl time => ((c.parse (s.opened hook file).files file).finding time, s.opened hook file) := by
  unfold examine date opened
  cases s.modified? file with
  | none => rfl
  | some time =>
    dsimp only
    cases known.filter (·.isFresh time) with
    | some e => rfl
    | none =>
      dsimp only
      cases c.parse (hook file (s.record (.parsed file))).files file <;> rfl

/-- A change of the files after which everything that was written has a later time than there has
been at its path. -/
def Advances (now : FileSystem) (past : List FileSystem) (fs : FileSystem) : Prop :=
  ∀ file, fs.fileAt file = none ∨ fs.fileAt file = now.fileAt file ∨
    ∃ content time, fs.fileAt file = some (content, time) ∧
      ∀ g ∈ now :: past, ∀ time', g.modified (.ofString file) = .ok time' → time' < time

/-- How far a look has come. -/
inductive Stage where
  | waiting
  /-- The file is to be read; this was its time. -/
  | dated (time : Int)
  | found (f : Finding)

def Stage.ofDate : Int ⊕ Finding → Stage
  | .inl time => .dated time
  | .inr f => .found f

/-- A look at a file, and what the cache knew of the file before. -/
structure Look where
  file : String
  known : Option CacheEntry
  stage : Stage

/-- Looks that run beside each other. -/
structure Race where
  session : Session
  /-- The files as they were before, the latest first. -/
  past : List FileSystem
  /-- The batches of a build that have not been begun. -/
  queue : List (List String)
  looks : List Look

namespace Race

def history (r : Race) : List FileSystem := r.session.files :: r.past

/-- One step of a build, of one of the updates, or of whoever else changes the files. A read may fail
for reasons of its own. -/
inductive Step (c : IndexConfig) : Race → Race → Prop
  | outside (r : Race) (fs : FileSystem) (hfs : Advances r.session.files r.past fs) :
      Step c r { r with session := { r.session with files := fs }, past := r.history }
  /-- A build is asked to stop, something is told to listeners, another home is set. -/
  | note (r : Race) (stop : Bool) (events : List Event) (home : Option Path) :
      Step c r { r with
        session := { r.session with stopRequested := stop, events := events, home := home } }
  | register (r : Race) (listeners : List String) :
      Step c r { r with
        session := { r.session with index := { r.session.index with listeners := listeners } } }
  | beginBuild (r : Race) (g : Gate) (found : List String)
      (hgate : r.session.index.gate.beginBuild? = some g) :
      Step c r { r with
        session := r.session.setGate g, queue := Session.batches c.settings.batchSize found }
  | openBatch (r : Race) (b : List String) (rest : List (List String))
      (hgate : r.session.index.gate = .building) (hqueue : r.queue = b :: rest)
      (hlooks : r.looks = []) :
      Step c r { r with
        queue := rest
        looks := b.map fun file => ⟨file, r.session.index.snapshot? c.settings file, .waiting⟩ }
  | beginUpdate (r : Race) (g : Gate) (file : String)
      (hgate : r.session.index.gate.beginUpdate? = some g) :
      Step c r { r with session := r.session.setGate g, looks := ⟨file, none, .waiting⟩ :: r.looks }
  | date (r : Race) (before after : List Look) (l : Look) (hl : r.looks = before ++ l :: after)
      (hstage : l.stage = .waiting) :
      Step c r { r with
        looks := before ++ { l with stage := .ofDate (r.session.date l.file l.known) } :: after }
  | read (r : Race) (before after : List Look) (l : Look) (hl : r.looks = before ++ l :: after)
      (time : Int) (hstage : l.stage = .dated time) (p : ParseResult)
      (hp : Reads c.settings.usePrefilter r.session.files l.file p) (f : Finding)
      (hf : p.finding time = .ok f) :
      Step c r { r with looks := before ++ { l with stage := .found f } :: after }
  | fail (r : Race) (before after : List Look) (l : Look) (hl : r.looks = before ++ l :: after) :
      Step c r { r with looks := before ++ after }
  | commit (r : Race) (before after : List Look) (l : Look) (hl : r.looks = before ++ l :: after)
      (f : Finding) (hstage : l.stage = .found f) :
      Step c r { r with session := r.session.commit l.file f, looks := before ++ after }
  | endUpdate (r : Race) (others : Nat) (hgate : r.session.index.gate = .updating others) :
      Step c r { r with session := r.session.setGate r.session.index.gate.endUpdate }
  | drop (r : Race) (file : String) (hgate : r.session.index.gate ≠ .building) :
      Step c r { r with session := { r.session with index := r.session.index.drop file } }
  | prune (r : Race) (keep : List String) (hgate : r.session.index.gate = .building) :
      Step c r { r with session := { r.session with index := r.session.index.prune keep } }
  | save (r : Race) (now : Int) (hgate : r.session.index.gate = .building)
      (hfs : Advances r.session.files r.past (r.session.saveCache c now).2.files) :
      Step c r { r with session := (r.session.saveCache c now).2, past := r.history }
  | endBuild (r : Race) (hgate : r.session.index.gate = .building) :
      Step c r { r with
        session := r.session.setGate r.session.index.gate.endBuild, queue := [], looks := [] }

end Race

/-! ## Later files -/

/-- Of two states of a path, the newer has the file of the older one, or a file with a later time. -/
def Later (file : String) (newer older : FileSystem) : Prop :=
  ∀ content time, newer.fileAt file = some (content, time) →
    older.fileAt file = some (content, time) ∨
      ∀ time', older.modified (.ofString file) = .ok time' → time' < time

theorem Later.inOrder {file : String} {newer older : FileSystem} (h : Later file newer older) :
    InOrder file newer older := by
  intro content time content' time' hnew hold
  rcases h content time hnew with hsame | hlater
  · rw [hsame] at hold
    cases hold
    exact ⟨Int.le_refl _, fun _ => rfl⟩
  · have := hlater time' (FileSystem.modified_of_fileAt hold)
    exact ⟨by omega, by omega⟩

/-- Something that stood at a path before a file is not later than the file. -/
theorem Later.modified_le {file : String} {newer older : FileSystem} (h : Later file newer older)
    {content : List UInt8} {time time' : Int} (hnew : newer.fileAt file = some (content, time))
    (hold : older.modified (.ofString file) = .ok time') : time' ≤ time := by
  rcases h content time hnew with hsame | hlater
  · rw [FileSystem.modified_of_fileAt hsame] at hold
    cases hold
    exact Int.le_refl _
  · exact Int.le_of_lt (hlater time' hold)

theorem pairwise_later_of_advances {now fs : FileSystem} {past : List FileSystem} {file : String}
    (h : Advances now past fs) (hpast : (now :: past).Pairwise (Later file)) :
    (fs :: now :: past).Pairwise (Later file) := by
  refine List.pairwise_cons.2 ⟨?_, hpast⟩
  intro g hg content time hnew
  -- a file that was not written is compared with the past as it was before
  rcases h file with hnone | hsame | ⟨content', time', hwritten, hlater⟩
  · rw [hnew] at hnone
    cases hnone
  · rw [hnew] at hsame
    rcases List.mem_cons.1 hg with rfl | hg
    · exact .inl hsame.symm
    · exact (List.pairwise_cons.1 hpast).1 g hg content time hsame.symm
  · rw [hnew] at hwritten
    cases hwritten
    exact .inr (hlater g hg)

/-- A write advances the files if it gives a later time than there has been at any path that leads to
the file. -/
theorem advances_write {now fs : FileSystem} {past : List FileSystem} {p : Path}
    {content : List UInt8} {time : Int} (hp : p.parts ≠ []) (h : now.write p content time = .ok fs)
    (hlater : ∀ l file, now.locate p = .ok l → now.locate (.ofString file) = .ok l →
      ∀ g ∈ now :: past, ∀ time', g.modified (.ofString file) = .ok time' → time' < time) :
    Advances now past fs := by
  obtain ⟨l, hlocate, hrewrites⟩ := FileSystem.rewrites_write hp h
  intro file
  rcases hrewrites.fileAt_cases file with ⟨hfile, hwritten⟩ | ⟨-, hsame⟩
  · exact .inr (.inr ⟨content, time, hwritten, hlater l file hlocate hfile⟩)
  · exact .inr (.inl hsame)

/-- Deleting advances the files, where no name stands twice in a directory. -/
theorem advances_remove {now fs : FileSystem} {p : Path} (hp : p.parts ≠ [])
    (h : now.remove p = .ok fs) (hafter : ∀ l, now.entryPlace p = .ok l → fs.get? l = none)
    (past : List FileSystem) : Advances now past fs := by
  obtain ⟨l, hremoves⟩ := FileSystem.removes_remove hp h hafter
  intro file
  rcases hremoves.fileAt_cases file with hnone | hsame
  · exact .inl hnone
  · exact .inr (.inl hsame)

/-! ## Safety -/

/-- What a look that has come so far rests on. -/
def Look.Sound (prefilter : Bool) (history : List FileSystem) (l : Look) : Prop :=
  match l.stage with
  | .waiting => True
  | .dated time => ∃ fs ∈ history, fs.modified (.ofString l.file) = .ok time
  | .found f => ∀ time es, f = .parsed time es → Sighted prefilter history l.file ⟨time, es⟩

namespace Look.Sound

variable {prefilter : Bool} {history : List FileSystem} {l : Look}

theorem mono (h : l.Sound prefilter history) {history' : List FileSystem} (hsub : history ⊆ history') :
    l.Sound prefilter history' := by
  unfold Look.Sound at h ⊢
  split at h
  · trivial
  · obtain ⟨fs, hfs, hmodified⟩ := h
    exact ⟨fs, hsub hfs, hmodified⟩
  · intro time es hf
    exact (h time es hf).mono hsub

/-- Dating a file gives its time, or a finding that adds nothing to the cache. -/
theorem date (s : Session) (past : List FileSystem) (l : Look) :
    { l with stage := .ofDate (s.date l.file l.known) }.Sound prefilter (s.files :: past) := by
  unfold Session.date
  cases hm : s.modified? l.file with
  | none => exact fun time es hf => nomatch hf
  | some time =>
    dsimp only
    cases l.known.filter (·.isFresh time) with
    | some e => exact fun time es hf => nomatch hf
    | none => exact ⟨s.files, List.mem_cons_self, (Session.modified?_eq_some_iff _ _ _).1 hm⟩

/-- What is read from a file that was dated before is a sighting, because the file is not older now. -/
theorem read {fs : FileSystem} {past : List FileSystem} {l : Look}
    (hlater : (fs :: past).Pairwise (Later l.file)) {time : Int} (hstage : l.stage = .dated time)
    (h : l.Sound prefilter (fs :: past)) {p : ParseResult} (hp : Reads prefilter fs l.file p)
    {f : Finding} (hf : p.finding time = .ok f) :
    { l with stage := .found f }.Sound prefilter (fs :: past) := by
  rintro time' es rfl
  simp only [Look.Sound, hstage] at h
  obtain ⟨g, hg, hdated⟩ := h
  cases p with
  | unreadable => cases hf
  | broken cause => cases hf
  | endpoints es' =>
    cases hf
    obtain ⟨content, now, hfile, hparse⟩ := fileAt_of_parseWith (hp es rfl)
    refine ⟨fs, List.mem_cons_self, content, now, hfile, ?_, hparse⟩
    -- the file was dated now or before, and it has not become older since
    rcases List.mem_cons.1 hg with rfl | hg
    · rw [FileSystem.modified_of_fileAt hfile] at hdated
      cases hdated
      exact Int.le_refl _
    · exact ((List.pairwise_cons.1 hlater).1 g hg).modified_le hfile hdated

end Look.Sound

namespace Race

/-- What holds throughout: the files only get later, all that the cache holds has been seen, and so
has what is about to be committed. -/
structure Safe (prefilter : Bool) (r : Race) : Prop where
  later : ∀ file, r.history.Pairwise (Later file)
  entries : AllSighted prefilter r.history r.session.index.cache.entries
  looks : ∀ l ∈ r.looks, l.Sound prefilter r.history

/-- A race that starts with a cache all of whose entries have been read from their files before. -/
structure Starts (prefilter : Bool) (r : Race) : Prop where
  later : ∀ file, r.history.Pairwise (Later file)
  entries : AllSighted prefilter r.history r.session.index.cache.entries
  queue : r.queue = []
  looks : r.looks = []

theorem Starts.safe {prefilter : Bool} {r : Race} (h : r.Starts prefilter) : r.Safe prefilter :=
  ⟨h.later, h.entries, by simp [h.looks]⟩

/-- Nothing that has been seen is lost when the files change. -/
theorem Safe.advance {prefilter : Bool} {r : Race} (h : r.Safe prefilter) {s : Session}
    (hfs : Advances r.session.files r.past s.files)
    (hentries : s.index.cache.entries = r.session.index.cache.entries) :
    { r with session := s, past := r.history }.Safe prefilter where
  later file := pairwise_later_of_advances hfs (h.later file)
  entries := by
    rw [hentries]
    exact h.entries.mono (List.subset_cons_self _ _)
  looks l hl := (h.looks l hl).mono (List.subset_cons_self _ _)

theorem Step.safe {c : IndexConfig} {r r' : Race} (hstep : Step c r r')
    (h : r.Safe c.settings.usePrefilter) : r'.Safe c.settings.usePrefilter := by
  cases hstep with
  | outside fs hfs => exact h.advance hfs rfl
  | note stop events home => exact ⟨h.later, h.entries, h.looks⟩
  | register listeners => exact ⟨h.later, h.entries, h.looks⟩
  | beginBuild g found hgate => exact ⟨h.later, h.entries, h.looks⟩
  | openBatch b rest hgate hqueue hlooks =>
    refine ⟨h.later, h.entries, ?_⟩
    intro l hl
    obtain ⟨file, -, rfl⟩ := List.mem_map.1 hl
    trivial
  | beginUpdate g file hgate =>
    exact ⟨h.later, h.entries, List.forall_mem_cons.2 ⟨trivial, h.looks⟩⟩
  | date before after l hl hstage =>
    refine ⟨h.later, h.entries, ?_⟩
    have hlooks := h.looks
    rw [hl, List.forall_mem_append, List.forall_mem_cons] at hlooks
    exact List.forall_mem_append.2
      ⟨hlooks.1, List.forall_mem_cons.2 ⟨Look.Sound.date r.session r.past l, hlooks.2.2⟩⟩
  | read before after l hl time hstage p hp f hf =>
    refine ⟨h.later, h.entries, ?_⟩
    have hlooks := h.looks
    rw [hl, List.forall_mem_append, List.forall_mem_cons] at hlooks
    exact List.forall_mem_append.2
      ⟨hlooks.1, List.forall_mem_cons.2 ⟨hlooks.2.1.read (h.later l.file) hstage hp hf, hlooks.2.2⟩⟩
  | fail before after l hl =>
    refine ⟨h.later, h.entries, ?_⟩
    have hlooks := h.looks
    rw [hl, List.forall_mem_append, List.forall_mem_cons] at hlooks
    exact List.forall_mem_append.2 ⟨hlooks.1, hlooks.2.2⟩
  | commit before after l hl f hstage =>
    have hlooks := h.looks
    rw [hl, List.forall_mem_append, List.forall_mem_cons] at hlooks
    -- what was found may be older than the files are now, but it has been seen
    have hfound := hlooks.2.1
    simp only [Look.Sound, hstage] at hfound
    exact ⟨h.later, h.entries.commit hfound, List.forall_mem_append.2 ⟨hlooks.1, hlooks.2.2⟩⟩
  | endUpdate others hgate => exact ⟨h.later, h.entries, h.looks⟩
  | drop file hgate => exact ⟨h.later, h.entries.drop file, h.looks⟩
  | prune keep hgate => exact ⟨h.later, h.entries.prune keep, h.looks⟩
  | save now hgate hfs => exact h.advance hfs (Session.entries_saveCache r.session c now)
  | endBuild hgate => exact ⟨h.later, h.entries, by simp⟩

/-- The races that steps lead to. -/
inductive Reachable (c : IndexConfig) : Race → Prop
  | start {r : Race} (h : r.Starts c.settings.usePrefilter) : Reachable c r
  | step {r r' : Race} (h : Reachable c r) (hstep : Step c r r') : Reachable c r'

theorem Reachable.safe {c : IndexConfig} {r : Race} (h : Reachable c r) :
    r.Safe c.settings.usePrefilter := by
  induction h with
  | start h => exact h.safe
  | step h hstep ih => exact hstep.safe ih

/-- However looks and writes interleave, an entry that is up to date by its time has the endpoints that
are in the file now. -/
theorem parseWith_eq_of_entry {c : IndexConfig} {r : Race} (h : Reachable c r) {file : String}
    {e : CacheEntry} (he : r.session.index.cache.get? file = some e) {content : List UInt8} {time : Int}
    (hfile : r.session.files.fileAt file = some (content, time)) (htime : time ≤ e.lastModified) :
    parseWith c.settings.usePrefilter r.session.files file = .endpoints e.endpoints := by
  have horder : Chronological r.history file := (h.safe.later file).imp Later.inOrder
  exact (h.safe.entries file e he).parseWith_eq horder hfile htime

theorem advances_writtenFiles : Advances earlierFiles [] writtenFiles := by
  have hlocate : earlierFiles.locate (.ofString "/r/A.java") = .ok ["r", "A.java"] := by
    unfold earlierFiles
    generalize Text.Utf8.encodeText controllerText = bytes
    cbv
  have hwrite : earlierFiles.write (.ofString "/r/A.java") (Text.Utf8.encodeText controllerText) 9 =
      .ok writtenFiles := by
    unfold earlierFiles writtenFiles
    generalize Text.Utf8.encodeText controllerText = bytes
    cbv
  apply advances_write (by decide) hwrite
  intro l file hl hfile g hg time' hmodified
  rw [hlocate] at hl
  cases hl
  obtain rfl : g = earlierFiles := by simpa using hg
  have hnode : earlierFiles.get? ["r", "A.java"] = some (.file [] 5) := rfl
  simp only [FileSystem.modified, FileSystem.find, hfile, hnode] at hmodified
  cases hmodified
  decide

theorem reads_writtenFiles :
    Reads true writtenFiles "/r/A.java" (.endpoints [controllerEndpoint "/r/A.java"]) := by
  rintro es ⟨⟩
  exact parseWith_writtenFiles List.mem_cons_self

theorem ofDate_of_fileAt {s : Session} {file : String} {content : List UInt8} {time : Int}
    (hfile : s.files.fileAt file = some (content, time)) : .ofDate (s.date file none) = Stage.dated time := by
  rw [Session.date, Session.modified?_of_fileAt hfile]
  rfl

/-- The file is dated by a first update, then written, dated by a second update and read by both. -/
theorem parseWith_eq_of_entry_overlapping :
    ∃ r, Reachable Session.sampleConfig r ∧ r.past = [earlierFiles] ∧
      r.session.index.cache.get? "/r/A.java" = some ⟨9, [controllerEndpoint "/r/A.java"]⟩ ∧
      r.session.files.fileAt "/r/A.java" = some (Text.Utf8.encodeText controllerText, 9) ∧
      parseWith true r.session.files "/r/A.java" = .endpoints [controllerEndpoint "/r/A.java"] := by
  let s := Session.start Session.sampleConfig earlierFiles
  have hstart : Reachable Session.sampleConfig ⟨s, [], [], []⟩ :=
    .start ⟨fun _ => List.pairwise_singleton _ _, AllSighted.empty, rfl, rfl⟩
  have hfirst := (hstart.step (.beginUpdate _ (.updating 0) "/r/A.java" rfl)).step
    (.date _ [] [] _ rfl rfl)
  have hsecond := ((hfirst.step (.outside _ writtenFiles advances_writtenFiles)).step
    (.beginUpdate _ (.updating 1) "/r/A.java" rfl)).step (.date _ [] _ _ rfl rfl)
  have hread := (hsecond.step (.read _ [_] [] _ rfl 5 (ofDate_of_fileAt fileAt_earlierFiles.1) _
    reads_writtenFiles (.parsed 5 _) rfl)).step (.read _ [] [_] _ rfl 9
    (ofDate_of_fileAt fileAt_writtenFiles.1) _ reads_writtenFiles (.parsed 9 _) rfl)
  have hend := (hread.step (.commit _ [_] [] _ rfl _ rfl)).step (.commit _ [] [] _ rfl _ rfl)
  have hentry : ∀ u : Session, (u.commit "/r/A.java" (.parsed 9
      [controllerEndpoint "/r/A.java"])).index.cache.get? "/r/A.java" =
        some ⟨9, [controllerEndpoint "/r/A.java"]⟩ :=
    fun u => (Cache.get?_put _ _ _ _).trans (if_pos rfl)
  exact ⟨_, hend, rfl, hentry _, fileAt_writtenFiles.1,
    @parseWith_eq_of_entry _ _ hend "/r/A.java" ⟨9, _⟩ (hentry _) _ 9 fileAt_writtenFiles.1 (by decide)⟩

end Race

end EndpointIndex
