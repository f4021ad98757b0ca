import EndpointIndex.Proofs.Index.Mirror

/-!
# Builds in batches

A build takes the files in batches, and what the cache knows of a batch is looked up before the batch.
As the candidates differ, this comes to the same as looking at one file after another, each judged by
what the cache knew before the build (`runBatches_course`). How far a build comes and why it ends
there does not depend on anything else (`Course`): it ends when all candidates have been looked at,
when a request to stop is seen before a batch, or when a candidate cannot be parsed.
-/

namespace EndpointIndex

namespace Index

/-- The part of an index that is about certain files, in the order it has. -/
def keepOnly (i : Index) (keep : List String) : Index :=
  { i with
    store := ⟨i.store.byFile.restrict keep.contains⟩
    cache := { i.cache with entries := i.cache.entries.restrict keep.contains } }

theorem foldl_drop (i : Index) (gone : List String) :
    gone.foldl drop i =
      { i with
        store := ⟨i.store.byFile.restrict fun f => !gone.contains f⟩
        cache := { i.cache with entries := i.cache.entries.restrict fun f => !gone.contains f } } := by
  rw [← FileMap.foldl_erase, ← FileMap.foldl_erase]
  induction gone generalizing i with
  | nil => rfl
  | cons g gone ih =>
    rw [List.foldl_cons, ih]
    rfl

theorem mem_tracked_of_store {i : Index} {file : String} (h : file ∈ i.store.files) :
    file ∈ i.tracked :=
  List.mem_append_left _ h

theorem mem_tracked_of_cache {i : Index} {file : String} (h : file ∈ i.cache.entries.files) :
    file ∈ i.tracked := by
  unfold tracked
  by_cases hs : i.store.contains file
  · exact List.mem_append_left _ ((FileMap.mem_files_iff _ _).2 hs)
  · exact List.mem_append_right _ (List.mem_filter.2 ⟨h, by simpa using hs⟩)

theorem contains_stale_of_tracked {i : Index} {keep : List String} {file : String}
    (h : file ∈ i.tracked) : (!(i.stale keep).contains file) = keep.contains file := by
  have hstale : (i.stale keep).contains file = !keep.contains file := by
    rw [stale, Bool.eq_iff_iff, List.contains_iff_mem, List.mem_filter]
    exact ⟨fun hf => hf.2, fun hf => ⟨h, hf⟩⟩
  rw [hstale, Bool.not_not]

/-- Dropping the stale files one after another leaves what is about the files to keep. -/
theorem prune_eq_keepOnly (i : Index) (keep : List String) : i.prune keep = i.keepOnly keep := by
  have hrestrict : ∀ {α : Type} (m : FileMap α), (∀ f ∈ m.files, f ∈ i.tracked) →
      (m.restrict fun f => !(i.stale keep).contains f) = m.restrict keep.contains := by
    intro α m hm
    apply FileMap.eq_of_entries
    apply List.filter_congr
    intro p hp
    exact contains_stale_of_tracked (hm p.1 (List.mem_map_of_mem hp))
  rw [prune, foldl_drop, keepOnly, hrestrict _ fun _ => mem_tracked_of_store,
    hrestrict _ fun _ => mem_tracked_of_cache]

/-- Enters what a look came to, if it came to anything. -/
def enter (i : Index) (file : String) : Except String Finding → Index
  | .ok f => i.commit file f
  | .error _ => i

/-- Enters what looks at several files came to, one after another. -/
def enterAll (i : Index) (verdicts : String → Except String Finding) (files : List String) : Index :=
  files.foldl (fun i file => i.enter file (verdicts file)) i

end Index

/-- Counts what a look came to, if it came to anything. -/
def Tally.note (t : Tally) : Except String Finding → Tally
  | .ok f => t.count f
  | .error _ => t

namespace Finding

def isParsed : Finding → Bool
  | .parsed .. => true
  | _ => false

def isCached : Finding → Bool
  | .cached _ => true
  | _ => false

def isMissing : Finding → Bool
  | .missing => true
  | _ => false

end Finding

/-- A hook that leaves the files alone while a build runs. -/
def Hook.KeepsFiles (hook : Hook) : Prop :=
  ∀ file s, s.index.gate = .building → (hook file s).files = s.files

theorem Hook.sparesBuilds_none : Hook.none.SparesBuilds := fun _ _ _ => rfl

theorem Hook.keepsFiles_none : Hook.none.KeepsFiles := fun _ _ _ => rfl

theorem Session.leads_none (file : String) (s : Session) : Leads s (Hook.none file s) := .refl s

namespace Session

/-- What a look at a file comes to while nothing else happens. -/
def verdict (s : Session) (c : IndexConfig) (file : String) : Except String Finding :=
  (s.examine c Hook.none file (s.index.snapshot? c.settings file)).1

/-- The index after files have been looked at and entered one after another, all of them judged by
what the cache knew at the beginning. -/
def oneByOne (s : Session) (c : IndexConfig) (files : List String) : Index :=
  s.index.enterAll (s.verdict c) files

/-- The session in which files are looked at and committed one after another. -/
def lookThrough (c : IndexConfig) (hook : Hook) (known : String → Option CacheEntry) :
    List String → Session → Session
  | [], u => u
  | file :: rest, u =>
    match u.examine c hook file (known file) with
    | (.error _, u) => u
    | (.ok f, u) => lookThrough c hook known rest (u.commit file f)

/-- A build after it has looked at the given files. -/
def after (s : Session) (c : IndexConfig) (hook : Hook) (files : List String) : Session :=
  lookThrough c hook (s.index.snapshot? c.settings) files (s.setGate .building)

/-- Whether a stop is requested when the first `n` candidates have been looked at. -/
def stopsAfter (s : Session) (c : IndexConfig) (hook : Hook) (found : List String) (n : Nat) : Bool :=
  (s.after c hook (found.take n)).stopRequested

/-- Why a build ends. -/
inductive Ending where
  | complete
  | stopped
  | failed (cause : String)
  deriving DecidableEq

/-- How many candidates a build looks at and commits, and why it ends after them. -/
inductive Course (s : Session) (c : IndexConfig) (hook : Hook) (found : List String) :
    Nat → Ending → Prop
  | complete (hok : ∀ file ∈ found, ∃ f, s.verdict c file = .ok f)
      (hgo : ∀ j, j * c.settings.batchSize < found.length →
        s.stopsAfter c hook found (j * c.settings.batchSize) = false) :
      Course s c hook found found.length .complete
  | stopped (j : Nat) (hj : j * c.settings.batchSize < found.length)
      (hstop : s.stopsAfter c hook found (j * c.settings.batchSize) = true)
      (hgo : ∀ i < j, s.stopsAfter c hook found (i * c.settings.batchSize) = false)
      (hok : ∀ file ∈ found.take (j * c.settings.batchSize), ∃ f, s.verdict c file = .ok f) :
      Course s c hook found (j * c.settings.batchSize) .stopped
  | failed (n : Nat) (file cause : String) (hn : found[n]? = some file)
      (hfile : s.verdict c file = .error cause)
      (hok : ∀ g ∈ found.take n, ∃ f, s.verdict c g = .ok f)
      (hgo : ∀ j, j * c.settings.batchSize ≤ n →
        s.stopsAfter c hook found (j * c.settings.batchSize) = false) :
      Course s c hook found n (.failed cause)

/-! ## Between two batches -/

/-- The candidates `done` have been looked at batch by batch and can all be parsed, no stop was seen
before any of these batches, and `rest` remains. Only the last batch can be a short one. -/
structure BetweenBatches (s : Session) (c : IndexConfig) (hook : Hook) (found done rest : List String) :
    Prop where
  found_eq : found = done ++ rest
  aligned : rest ≠ [] → ∃ i, done.length = i * c.settings.batchSize
  ok : ∀ file ∈ done, ∃ f, s.verdict c file = .ok f
  goes_on : ∀ j, j * c.settings.batchSize < done.length →
    s.stopsAfter c hook found (j * c.settings.batchSize) = false

namespace BetweenBatches

variable {s : Session} {c : IndexConfig} {hook : Hook} {found done rest : List String}

theorem first (found : List String) : BetweenBatches s c hook found [] found :=
  ⟨rfl, fun _ => ⟨0, by simp⟩, by simp, by simp⟩

theorem take_length (h : BetweenBatches s c hook found done rest) : found.take done.length = done := by
  rw [h.found_eq, List.take_left]

theorem not_mem_done (h : BetweenBatches s c hook found done rest) (hdiffer : found.Nodup) :
    ∀ file ∈ rest.take c.settings.batchSize, file ∉ done := by
  intro file hfile hmem
  rw [h.found_eq] at hdiffer
  exact (List.nodup_append.1 hdiffer).2.2 file hmem file (List.mem_of_mem_take hfile) rfl

/-- A stop is looked for before every batch. If none is seen now, none is seen before the end of the
next batch. -/
theorem goes_on_to_next (h : BetweenBatches s c hook found done rest) (hne : rest ≠ [])
    (hstop : (s.after c hook done).stopRequested = false) {j : Nat}
    (hj : j * c.settings.batchSize < done.length + c.settings.batchSize) :
    s.stopsAfter c hook found (j * c.settings.batchSize) = false := by
  obtain ⟨i, hi⟩ := h.aligned hne
  rw [hi, ← Nat.succ_mul] at hj
  have hle : j ≤ i := Nat.le_of_lt_succ (Nat.lt_of_mul_lt_mul_right hj)
  rcases Nat.lt_or_eq_of_le hle with hlt | rfl
  · apply h.goes_on
    rw [hi]
    exact Nat.mul_lt_mul_of_pos_right hlt c.settings.batchSize_pos
  · rw [stopsAfter, ← hi, h.take_length]
    exact hstop

/-- The whole next batch can be parsed. -/
theorem next (h : BetweenBatches s c hook found done rest) (hne : rest ≠ [])
    (hstop : (s.after c hook done).stopRequested = false)
    (hbatch : ∀ file ∈ rest.take c.settings.batchSize, ∃ f, s.verdict c file = .ok f) :
    BetweenBatches s c hook found (done ++ rest.take c.settings.batchSize)
      (rest.drop c.settings.batchSize) where
  found_eq := by rw [List.append_assoc, List.take_append_drop, h.found_eq]
  aligned := by
    intro hdrop
    obtain ⟨i, hi⟩ := h.aligned hne
    have hlong : c.settings.batchSize < rest.length :=
      Nat.lt_of_not_le fun hle => hdrop (List.drop_eq_nil_of_le hle)
    refine ⟨i + 1, ?_⟩
    rw [List.length_append, List.length_take, hi, Nat.min_eq_left (Nat.le_of_lt hlong), Nat.succ_mul]
  ok := fun g hg => (List.mem_append.1 hg).elim (h.ok g) (hbatch g)
  goes_on := by
    intro j hj
    rw [List.length_append, List.length_take] at hj
    exact h.goes_on_to_next hne hstop (by omega)

theorem course_of_nil (h : BetweenBatches s c hook found done []) :
    Course s c hook found done.length .complete := by
  obtain rfl : found = done := h.found_eq.trans (List.append_nil done)
  exact .complete h.ok h.goes_on

theorem course_of_stop (h : BetweenBatches s c hook found done rest) (hne : rest ≠ [])
    (hstop : (s.after c hook done).stopRequested = true) :
    Course s c hook found done.length .stopped := by
  obtain ⟨i, hi⟩ := h.aligned hne
  have htake : found.take (i * c.settings.batchSize) = done := hi ▸ h.take_length
  have hlength : i * c.settings.batchSize < found.length := by
    rw [h.found_eq, List.length_append, hi]
    exact Nat.lt_add_of_pos_right (List.length_pos_iff.2 hne)
  rw [hi]
  refine .stopped i hlength ?_ ?_ ?_
  · rw [stopsAfter, htake]
    exact hstop
  · intro j hj
    apply h.goes_on
    rw [hi]
    exact Nat.mul_lt_mul_of_pos_right hj c.settings.batchSize_pos
  · rw [htake]
    exact h.ok

section Failure

variable {good bad : List String} {file cause : String}

theorem found_split (h : BetweenBatches s c hook found done rest)
    (hsplit : rest.take c.settings.batchSize = good ++ file :: bad) :
    found = (done ++ good) ++ file :: (bad ++ rest.drop c.settings.batchSize) := by
  rw [h.found_eq, List.append_assoc, ← List.cons_append, ← List.append_assoc good, ← hsplit,
    List.take_append_drop]

theorem take_of_split (h : BetweenBatches s c hook found done rest)
    (hsplit : rest.take c.settings.batchSize = good ++ file :: bad) :
    found.take (done ++ good).length = done ++ good := by
  rw [h.found_split hsplit, List.take_left]

/-- In the next batch `file` is the first that cannot be parsed. -/
theorem course_of_error (h : BetweenBatches s c hook found done rest) (hne : rest ≠ [])
    (hstop : (s.after c hook done).stopRequested = false)
    (hsplit : rest.take c.settings.batchSize = good ++ file :: bad)
    (hgood : ∀ g ∈ good, ∃ f, s.verdict c g = .ok f) (hfile : s.verdict c file = .error cause) :
    Course s c hook found (done ++ good).length (.failed cause) := by
  refine .failed _ file cause ?_ hfile ?_ ?_
  · rw [h.found_split hsplit, List.getElem?_append_right (Nat.le_refl _), Nat.sub_self]
    rfl
  · rw [h.take_of_split hsplit]
    exact fun g hg => (List.mem_append.1 hg).elim (h.ok g) (hgood g)
  · intro j hj
    have hshort := congrArg List.length hsplit
    rw [List.length_take, List.length_append, List.length_cons] at hshort
    rw [List.length_append] at hj
    exact h.goes_on_to_next hne hstop (by omega)

end Failure

end BetweenBatches

/-! ## Looks that nothing disturbs -/

/-- A look that leaves the files alone depends on them only. -/
theorem examine_fst_eq {s u : Session} {hook : Hook} (hook_keeps : hook.KeepsFiles)
    (hu : u.index.gate = .building) (h : u.files = s.files) (c : IndexConfig) (file : String)
    (known : Option CacheEntry) :
    (u.examine c hook file known).1 = (s.examine c Hook.none file known).1 := by
  have hm : u.modified? file = s.modified? file := by simp only [modified?, h]
  have hopened : (hook file (u.record (.parsed file))).files = s.files := by
    rw [hook_keeps file (u.record (.parsed file)) hu, files_record, h]
  unfold examine
  rw [hm]
  -- the time of the file and the file itself are all that a look depends on
  split
  · rfl
  · split
    · rfl
    · simp only [hopened, Hook.none, files_record]
      split <;> rfl

theorem Looks.files_eq {c : IndexConfig} {hook : Hook} (hook_keeps : hook.KeepsFiles) {s t : Session}
    {file : String} {known : Option CacheEntry} {r : Except String Finding}
    (h : Looks c hook s file known r t) (hs : s.index.gate = .building) : t.files = s.files :=
  h.holds (P := fun u => u.files = s.files) rfl (hook_keeps file (s.record (.parsed file)) hs)

section Undisturbed

variable {s : Session} {c : IndexConfig} {hook : Hook} (hook_spares : hook.SparesBuilds)
  (hook_keeps : hook.KeepsFiles)

/-- A session inside a build of `s`, with the files as they were. -/
def Within (s u : Session) : Prop := u.files = s.files ∧ u.index.gate = .building

include hook_spares hook_keeps

/-- A look inside a build comes to its verdict and leaves the index alone. -/
theorem examine_within {u : Session} (hu : s.Within u) (file : String) :
    ∃ t, u.examine c hook file (s.index.snapshot? c.settings file) = (s.verdict c file, t) ∧
      t.index = u.index ∧ s.Within t := by
  have hlook := examine_looks u c hook file (s.index.snapshot? c.settings file)
  have hindex := hlook.index_eq hook_spares hu.2
  have hverdict : (u.examine c hook file (s.index.snapshot? c.settings file)).1 = s.verdict c file :=
    examine_fst_eq hook_keeps hu.2 hu.1 c file _
  refine ⟨(u.examine c hook file (s.index.snapshot? c.settings file)).2,
    Prod.ext hverdict rfl, hindex, ?_, ?_⟩
  · rw [hlook.files_eq hook_keeps hu.2, hu.1]
  · rw [hindex, hu.2]

omit hook_spares hook_keeps in
theorem Within.commit {u : Session} (hu : s.Within u) (file : String) (f : Finding) :
    s.Within (u.commit file f) :=
  ⟨hu.1, (Index.gate_commit _ _ _).trans hu.2⟩

/-- Files that can all be parsed are entered one after another. -/
theorem lookThrough_of_ok (files : List String) (hok : ∀ file ∈ files, ∃ f, s.verdict c file = .ok f)
    {u : Session} (hu : s.Within u) :
    (lookThrough c hook (s.index.snapshot? c.settings) files u).index =
        u.index.enterAll (s.verdict c) files ∧
      s.Within (lookThrough c hook (s.index.snapshot? c.settings) files u) := by
  induction files generalizing u with
  | nil => exact ⟨rfl, hu⟩
  | cons file files ih =>
    obtain ⟨t, hex, hindex, hwithin⟩ := examine_within (c := c) hook_spares hook_keeps hu file
    obtain ⟨f, hf⟩ := hok file List.mem_cons_self
    have hrest := ih (fun g hg => hok g (List.mem_cons_of_mem _ hg)) (hwithin.commit file f)
    rw [index_commit, hindex] at hrest
    rw [lookThrough, hex, Index.enterAll, List.foldl_cons, hf]
    exact hrest

theorem lookThrough_append {xs : List String} (hok : ∀ file ∈ xs, ∃ f, s.verdict c file = .ok f)
    (ys : List String) {u : Session} (hu : s.Within u) :
    lookThrough c hook (s.index.snapshot? c.settings) (xs ++ ys) u =
      lookThrough c hook (s.index.snapshot? c.settings) ys
        (lookThrough c hook (s.index.snapshot? c.settings) xs u) := by
  induction xs generalizing u with
  | nil => rfl
  | cons file xs ih =>
    obtain ⟨t, hex, -, hwithin⟩ := examine_within (c := c) hook_spares hook_keeps hu file
    obtain ⟨f, hf⟩ := hok file List.mem_cons_self
    rw [List.cons_append, lookThrough, lookThrough, hex, hf]
    exact ih (fun g hg => hok g (List.mem_cons_of_mem _ hg)) (hwithin.commit file f)

omit hook_spares hook_keeps in
theorem runBatch_snd (known : String → Option CacheEntry) (files : List String) (tally : Tally)
    (u : Session) :
    (runBatch c hook (files.map fun f => (f, known f)) tally u).2 = lookThrough c hook known files u := by
  induction files generalizing tally u with
  | nil => rfl
  | cons file files ih =>
    rw [List.map_cons, runBatch, lookThrough]
    rcases u.examine c hook file (known file) with ⟨_ | f, t⟩
    · rfl
    · exact ih _ _

theorem runBatch_fst_of_ok (files : List String) (hok : ∀ file ∈ files, ∃ f, s.verdict c file = .ok f)
    (tally : Tally) {u : Session} (hu : s.Within u) :
    (runBatch c hook (files.map fun f => (f, s.index.snapshot? c.settings f)) tally u).1 =
      .ok (files.foldl (fun t file => t.note (s.verdict c file)) tally) := by
  induction files generalizing tally u with
  | nil => rfl
  | cons file files ih =>
    obtain ⟨t, hex, -, hwithin⟩ := examine_within (c := c) hook_spares hook_keeps hu file
    obtain ⟨f, hf⟩ := hok file List.mem_cons_self
    rw [List.map_cons, runBatch, List.foldl_cons, hex, hf]
    exact ih (fun g hg => hok g (List.mem_cons_of_mem _ hg)) _ (hwithin.commit file f)

/-- A file that cannot be parsed ends its batch; nothing of it and of what follows is entered. -/
theorem runBatch_of_error {done : List String} {file cause : String}
    (hok : ∀ g ∈ done, ∃ f, s.verdict c g = .ok f) (hfile : s.verdict c file = .error cause)
    (rest : List String) (tally : Tally) {u : Session} (hu : s.Within u) :
    ∃ t, runBatch c hook ((done ++ file :: rest).map fun f => (f, s.index.snapshot? c.settings f))
        tally u = (.error cause, t) ∧
      t.index = u.index.enterAll (s.verdict c) done ∧
      s.Within t := by
  induction done generalizing tally u with
  | nil =>
    obtain ⟨t, hex, hindex, hwithin⟩ := examine_within (c := c) hook_spares hook_keeps hu file
    refine ⟨t, ?_, hindex, hwithin⟩
    rw [List.nil_append, List.map_cons, runBatch, hex, hfile]
  | cons g done ih =>
    obtain ⟨t, hex, hindex, hwithin⟩ := examine_within (c := c) hook_spares hook_keeps hu g
    obtain ⟨f, hf⟩ := hok g List.mem_cons_self
    have hrest := ih (fun g hg => hok g (List.mem_cons_of_mem _ hg)) (tally.count f)
      (hwithin.commit g f)
    rw [index_commit, hindex] at hrest
    rw [List.cons_append, List.map_cons, runBatch, Index.enterAll, List.foldl_cons, hex, hf]
    exact hrest

omit hook_spares hook_keeps in
/-- Either all files can be parsed, or there is a first one that cannot. -/
theorem verdicts_cases (s : Session) (c : IndexConfig) (files : List String) :
    (∀ file ∈ files, ∃ f, s.verdict c file = .ok f) ∨
      ∃ done file rest cause, files = done ++ file :: rest ∧
        (∀ g ∈ done, ∃ f, s.verdict c g = .ok f) ∧ s.verdict c file = .error cause := by
  induction files with
  | nil => exact .inl (by simp)
  | cons file files ih =>
    cases hfile : s.verdict c file with
    | error cause => exact .inr ⟨[], file, files, cause, rfl, by simp, hfile⟩
    | ok f =>
      rcases ih with hok | ⟨done, g, rest, cause, rfl, hok, hg⟩
      · left
        intro g hg
        rcases List.mem_cons.1 hg with rfl | hg
        · exact ⟨f, hfile⟩
        · exact hok g hg
      · right
        refine ⟨file :: done, g, rest, cause, rfl, ?_, hg⟩
        intro x hx
        rcases List.mem_cons.1 hx with rfl | hx
        · exact ⟨f, hfile⟩
        · exact hok x hx

omit hook_spares hook_keeps in
/-- What is entered for other files does not touch what the cache knows of a file. -/
theorem snapshot?_enterAll (settings : Settings) {files : List String} {file : String}
    (h : file ∉ files) (verdicts : String → Except String Finding) (i : Index) :
    (i.enterAll verdicts files).snapshot? settings file =
      i.snapshot? settings file := by
  induction files generalizing i with
  | nil => rfl
  | cons g files ih =>
    rw [List.mem_cons, not_or] at h
    rw [Index.enterAll, List.foldl_cons, ← Index.enterAll, ih h.2]
    simp only [Index.snapshot?]
    cases verdicts g with
    | error cause => rfl
    | ok f => rw [Index.enter, Index.cache_get?_commit_of_ne i f h.1]

/-- The counts of files that can all be parsed. -/
def tallyOf (s : Session) (c : IndexConfig) (files : List String) : Tally :=
  files.foldl (fun t file => t.note (s.verdict c file)) ⟨0, 0, 0⟩

/-- What the loop over the batches returns for each way in which a build ends. -/
def Ending.result (tally : Tally) : Ending → Except String (Tally × Bool)
  | .complete => .ok (tally, false)
  | .stopped => .ok (tally, true)
  | .failed cause => .error cause

omit hook_spares hook_keeps in
theorem within_setGate (s : Session) : s.Within (s.setGate .building) := ⟨rfl, rfl⟩

theorem after_of_ok {files : List String} (hok : ∀ file ∈ files, ∃ f, s.verdict c file = .ok f) :
    (s.after c hook files).index = (s.setGate .building).index.enterAll (s.verdict c) files ∧
      s.Within (s.after c hook files) :=
  lookThrough_of_ok hook_spares hook_keeps files hok s.within_setGate

/-- What the cache knows of a file that has not been looked at is what it knew at the beginning. -/
theorem snapshot?_after {done : List String} (hok : ∀ file ∈ done, ∃ f, s.verdict c file = .ok f)
    {file : String} (hnew : file ∉ done) :
    (s.after c hook done).index.snapshot? c.settings file = s.index.snapshot? c.settings file := by
  rw [(after_of_ok hook_spares hook_keeps hok).1, snapshot?_enterAll c.settings hnew]
  rfl

/-- A batch that can be parsed as a whole carries the build over its files. -/
theorem runBatch_after {done batch : List String}
    (hok : ∀ file ∈ done, ∃ f, s.verdict c file = .ok f)
    (hbatch : ∀ file ∈ batch, ∃ f, s.verdict c file = .ok f) :
    runBatch c hook (batch.map fun f => (f, s.index.snapshot? c.settings f)) (s.tallyOf c done)
        (s.after c hook done) =
      (.ok (s.tallyOf c (done ++ batch)), s.after c hook (done ++ batch)) := by
  apply Prod.ext
  · rw [runBatch_fst_of_ok hook_spares hook_keeps _ hbatch _
      (after_of_ok hook_spares hook_keeps hok).2, tallyOf, tallyOf, List.foldl_append]
  · rw [runBatch_snd, after, after, lookThrough_append hook_spares hook_keeps hok _ s.within_setGate]

/-- A batch is judged by what the cache knew at the beginning: its files have not been looked at yet. -/
theorem snapshots_after {done batch : List String} (hok : ∀ file ∈ done, ∃ f, s.verdict c file = .ok f)
    (hnew : ∀ file ∈ batch, file ∉ done) :
    batch.map (fun f => (f, (s.after c hook done).index.snapshot? c.settings f)) =
      batch.map fun f => (f, s.index.snapshot? c.settings f) := by
  apply List.map_congr_left
  intro f hf
  rw [snapshot?_after hook_spares hook_keeps hok (hnew f hf)]

/-- The batches of what remains, after the candidates `done` have been looked at one by one, end the
build as its course says. -/
theorem runBatches_after {found : List String} (hdiffer : found.Nodup) (rest done : List String)
    (hbetween : BetweenBatches s c hook found done rest) :
    ∃ n e t, Course s c hook found n e ∧
      runBatches c hook (batches c.settings.batchSize rest) (s.tallyOf c done) (s.after c hook done) =
        (e.result (s.tallyOf c (found.take n)), t) ∧
      t.index = (s.setGate .building).index.enterAll (s.verdict c) (found.take n) ∧ s.Within t := by
  obtain ⟨hindex, hwithin⟩ := after_of_ok (c := c) hook_spares hook_keeps hbetween.ok
  have hdone : found.take done.length = done := hbetween.take_length
  -- each round moves one batch from `rest` to `done`
  fun_induction batches c.settings.batchSize rest generalizing done with
  | case1 rest hrest =>
    obtain rfl : rest = [] := hrest.resolve_left (Nat.pos_iff_ne_zero.1 c.settings.batchSize_pos)
    refine ⟨done.length, .complete, _, hbetween.course_of_nil, ?_, ?_, hwithin⟩
    · rw [hdone]
      rfl
    · rw [hdone]
      exact hindex
  | case2 rest hrest ih =>
    have hne : rest ≠ [] := fun h => hrest (.inr h)
    rw [runBatches]
    split
    · rename_i hstop
      refine ⟨done.length, .stopped, _, hbetween.course_of_stop hne hstop, ?_, ?_, hwithin⟩
      · rw [hdone]
        rfl
      · rw [hdone]
        exact hindex
    · rename_i hstop
      rw [Bool.not_eq_true] at hstop
      rw [snapshots_after hook_spares hook_keeps hbetween.ok (hbetween.not_mem_done hdiffer)]
      rcases verdicts_cases s c (rest.take c.settings.batchSize) with hbatch |
        ⟨good, file, bad, cause, hsplit, hgood, hfile⟩
      · have hnext := hbetween.next hne hstop hbatch
        obtain ⟨hindex', hwithin'⟩ := after_of_ok (c := c) hook_spares hook_keeps hnext.ok
        rw [runBatch_after hook_spares hook_keeps hbetween.ok hbatch]
        exact ih _ hnext hindex' hwithin' hnext.take_length
      · obtain ⟨t, hrun, ht, htwithin⟩ := runBatch_of_error hook_spares hook_keeps hgood hfile bad
          (s.tallyOf c done) hwithin
        rw [hsplit, hrun]
        refine ⟨(done ++ good).length, .failed cause, t,
          hbetween.course_of_error hne hstop hsplit hgood hfile, rfl, ?_, htwithin⟩
        rw [ht, hindex, hbetween.take_of_split hsplit, Index.enterAll, Index.enterAll, Index.enterAll,
          List.foldl_append]

/-- A build over candidates has a course, and its loop follows it. -/
theorem runBatches_course {found : List String} (hdiffer : found.Nodup) :
    ∃ n e t, Course s c hook found n e ∧
      runBatches c hook (batches c.settings.batchSize found) ⟨0, 0, 0⟩ (s.setGate .building) =
        (e.result (s.tallyOf c (found.take n)), t) ∧
      t.index = (s.setGate .building).index.enterAll (s.verdict c) (found.take n) ∧ s.Within t :=
  runBatches_after hook_spares hook_keeps hdiffer found [] (.first found)

end Undisturbed

/-! ## There is one course only -/

namespace Course

variable {s : Session} {c : IndexConfig} {hook : Hook} {found : List String} {n : Nat} {e : Ending}

theorem le_length (h : Course s c hook found n e) : n ≤ found.length := by
  cases h with
  | complete => exact Nat.le_refl _
  | stopped j hj => exact Nat.le_of_lt hj
  | failed _ file cause hn =>
    obtain ⟨hlt, -⟩ := List.getElem?_eq_some_iff.1 hn
    exact Nat.le_of_lt hlt

theorem ok (h : Course s c hook found n e) :
    ∀ file ∈ found.take n, ∃ f, s.verdict c file = .ok f := by
  cases h with
  | complete hok =>
    intro file hfile
    exact hok file (List.mem_of_mem_take hfile)
  | stopped j hj hstop hgo hok => exact hok
  | failed _ file cause hn hfile hok => exact hok

theorem go (h : Course s c hook found n e) {j : Nat} (hj : j * c.settings.batchSize < n) :
    s.stopsAfter c hook found (j * c.settings.batchSize) = false := by
  cases h with
  | complete hok hgo => exact hgo j hj
  | stopped i hi hstop hgo => exact hgo j (Nat.lt_of_mul_lt_mul_right hj)
  | failed _ file cause hn hfile hok hgo => exact hgo j (Nat.le_of_lt hj)

/-- No course goes on where another one ends. -/
theorem le {n' : Nat} {e' : Ending} (h : Course s c hook found n e) (h' : Course s c hook found n' e') :
    n ≤ n' := by
  apply Nat.le_of_not_lt
  intro hlt
  cases h' with
  | complete =>
    have := h.le_length
    omega
  | stopped j hj hstop =>
    rw [h.go hlt] at hstop
    cases hstop
  | failed _ file cause hn hfile =>
    have hmem : file ∈ found.take n := by
      apply List.mem_of_getElem?
      rw [List.getElem?_take_of_lt hlt]
      exact hn
    obtain ⟨f, hf⟩ := h.ok file hmem
    rw [hf] at hfile
    cases hfile

theorem unique {n' : Nat} {e' : Ending} (h : Course s c hook found n e)
    (h' : Course s c hook found n' e') : n = n' ∧ e = e' := by
  obtain rfl : n = n' := Nat.le_antisymm (h.le h') (h'.le h)
  refine ⟨rfl, ?_⟩
  -- two ends at the same place exclude each other: a stop is looked for before anything is read
  generalize hm : n = m at h'
  cases h with
  | complete =>
    cases h' with
    | complete => rfl
    | stopped j hj => omega
    | failed _ file cause hn =>
      obtain ⟨hlt, -⟩ := List.getElem?_eq_some_iff.1 hn
      omega
  | stopped i hi hstop =>
    cases h' with
    | complete => omega
    | stopped => rfl
    | failed _ file cause hn hfile hok hgo =>
      rw [hgo i (Nat.le_of_eq hm)] at hstop
      cases hstop
  | failed _ file cause hn hfile hok hgo =>
    cases h' with
    | complete =>
      obtain ⟨hlt, -⟩ := List.getElem?_eq_some_iff.1 hn
      omega
    | stopped j hj hstop =>
      rw [hgo j (Nat.le_of_eq hm.symm)] at hstop
      cases hstop
    | failed _ file' cause' hn' hfile' =>
      subst hm
      rw [hn'] at hn
      cases hn
      rw [hfile'] at hfile
      cases hfile
      rfl

end Course

/-! ## Counts -/

/-- Whether a look came to a finding that passes a test. -/
def passes (test : Finding → Bool) : Except String Finding → Bool
  | .ok f => test f
  | .error _ => false

@[simp] theorem passes_ok (test : Finding → Bool) (f : Finding) : passes test (.ok f) = test f := rfl

@[simp] theorem passes_error (test : Finding → Bool) (cause : String) :
    passes test (.error cause) = false := rfl

/-- How many of the files come to a finding that passes a test. -/
def countVerdicts (s : Session) (c : IndexConfig) (test : Finding → Bool) (files : List String) : Nat :=
  files.countP fun file => passes test (s.verdict c file)

theorem tallyOf_eq_counts (s : Session) (c : IndexConfig) (files : List String) :
    s.tallyOf c files =
      ⟨s.countVerdicts c Finding.isParsed files, s.countVerdicts c Finding.isCached files,
        s.countVerdicts c Finding.isMissing files⟩ := by
  -- the fold carries its counts along, so the statement is made for any start
  suffices h : ∀ t : Tally, files.foldl (fun t file => t.note (s.verdict c file)) t =
      ⟨t.parsed + s.countVerdicts c Finding.isParsed files,
        t.cached + s.countVerdicts c Finding.isCached files,
        t.removed + s.countVerdicts c Finding.isMissing files⟩ by
    rw [tallyOf, h]
    simp
  induction files with
  | nil => exact fun t => rfl
  | cons file files ih =>
    intro t
    rw [List.foldl_cons, ih]
    simp only [countVerdicts, List.countP_cons]
    cases hv : s.verdict c file with
    | error cause => simp [Tally.note]
    | ok f =>
      cases f <;> simp [Tally.note, Tally.count, Finding.isParsed, Finding.isCached,
        Finding.isMissing] <;> omega

/-- Every file that can be parsed is counted once. -/
theorem countVerdicts_total {s : Session} {c : IndexConfig} {files : List String}
    (hok : ∀ file ∈ files, ∃ f, s.verdict c file = .ok f) :
    s.countVerdicts c Finding.isParsed files + s.countVerdicts c Finding.isCached files +
      s.countVerdicts c Finding.isMissing files = files.length := by
  induction files with
  | nil => rfl
  | cons file files ih =>
    obtain ⟨f, hf⟩ := hok file List.mem_cons_self
    have hrest := ih fun g hg => hok g (List.mem_cons_of_mem _ hg)
    simp only [countVerdicts, List.countP_cons, List.length_cons, hf] at hrest ⊢
    cases f <;> simp only [passes_ok, Finding.isParsed, Finding.isCached, Finding.isMissing,
      Bool.false_eq_true, if_true, if_false] <;> omega

/-! ## Builds -/

/-- The index that a build leaves whose course is known: what the candidates looked at came to, and of
that, after a complete build over the listed files, only what is about those files. -/
def leftBy (s : Session) (c : IndexConfig) (files : Option (List String)) (found : List String)
    (n : Nat) (e : Ending) : Index :=
  if files = none ∧ e = .complete then (s.oneByOne c (found.take n)).keepOnly found
  else s.oneByOne c (found.take n)

/-- How many files a build drops because they are no longer listed. -/
def droppedBy (s : Session) (c : IndexConfig) (files : Option (List String)) (found : List String)
    (n : Nat) (e : Ending) : Nat :=
  if files = none ∧ e = .complete then ((s.oneByOne c (found.take n)).stale found).length else 0

/-- What a build returns and leaves behind when it looks at `n` candidates and ends as `e` says. -/
structure BuildsTo (s : Session) (c : IndexConfig) (files : Option (List String))
    (found : List String) (n : Nat) (e : Ending) (r : Except IndexFailure BuildReport) (t : Session) :
    Prop where
  store : t.index.store = (s.leftBy c files found n e).store
  entries : t.index.cache.entries = (s.leftBy c files found n e).cache.entries
  failed : ∀ cause, e = .failed cause → ∃ failure, r = .error failure
  returned : (∀ cause, e ≠ .failed cause) →
    (∃ report, r = .ok report) ∨ ∃ failure, r = .error (.files failure)
  cancelled : ∀ report, r = .ok report → (report.cancelled = true ↔ e = .stopped)
  total : ∀ report, r = .ok report → report.filesTotal = found.length ∧ report.skipped = false
  counts : ∀ report, r = .ok report →
    report.tally.parsed = s.countVerdicts c Finding.isParsed (found.take n) ∧
    report.tally.cached = s.countVerdicts c Finding.isCached (found.take n) ∧
    report.tally.removed = s.countVerdicts c Finding.isMissing (found.take n) +
      s.droppedBy c files found n e ∧
    report.tally.parsed + report.tally.cached +
      s.countVerdicts c Finding.isMissing (found.take n) = n

theorem gate_enterAll (i : Index) (verdicts : String → Except String Finding) (files : List String)
    (g : Gate) :
    { i with gate := g }.enterAll verdicts files = { i.enterAll verdicts files with gate := g } := by
  induction files generalizing i with
  | nil => rfl
  | cons file files ih =>
    have hstep : { i with gate := g }.enter file (verdicts file) =
        { i.enter file (verdicts file) with gate := g } := by
      cases verdicts file with
      | error cause => rfl
      | ok f => cases f <;> rfl
    rw [Index.enterAll, List.foldl_cons, hstep]
    exact ih _

theorem build_of_busy {s : Session} (hs : s.index.gate ≠ .idle) (c : IndexConfig) (hook : Hook)
    (now : Int) (files : Option (List String)) (reactions : Reactions) :
    s.build c hook now files reactions = (.ok .rejected, s) := by
  unfold build
  cases hg : s.index.gate with
  | idle => exact absurd hg hs
  | building => rfl
  | updating others => rfl

section Build

variable {s : Session} {c : IndexConfig} {hook : Hook}

/-- What a build that is admitted consists of. -/
theorem build_of_idle (hidle : s.index.gate = .idle) (now : Int) (files : Option (List String))
    (reactions : Reactions) :
    s.build c hook now files reactions =
      (let body := (s.setGate .building).buildBody c hook files
       let saved := body.2.saveCache c now
       let t := saved.2.setGate .idle
       match saved.1, body.1 with
       | .error e, _ => (.error (.files e), t)
       | .ok (), .error cause => (.error (.build c.root cause), t)
       | .ok (), .ok p =>
         (.ok { t.report p with indexedFiles := (t.notify reactions).index.store.size },
           t.notify reactions)) := by
  rw [build, hidle]
  rfl

theorem buildBody_of_error {files : Option (List String)} {cause : String}
    (hlisted : s.listed c files = .error cause) :
    (s.setGate .building).buildBody c hook files = (.error cause, s.setGate .building) := by
  have hlisted' : (s.setGate .building).listed c files = .error cause :=
    (listed_setGate s .building c files).trans hlisted
  rw [buildBody, hlisted']

/-- The body of a build follows the course of the build. -/
theorem buildBody_of_course (hook_spares : hook.SparesBuilds) (hook_keeps : hook.KeepsFiles)
    {files : Option (List String)} {found : List String} (hlisted : s.listed c files = .ok found)
    {n : Nat} {e : Ending} (hcourse : Course s c hook found n e) :
    ∃ r t, (s.setGate .building).buildBody c hook files = (r, t) ∧
      t.index = { s.leftBy c files found n e with gate := .building } ∧ t.files = s.files ∧
      (∀ cause, e = .failed cause → r = .error cause) ∧
      ((∀ cause, e ≠ .failed cause) → r = .ok ⟨found.length,
        { s.tallyOf c (found.take n) with
          removed := (s.tallyOf c (found.take n)).removed + s.droppedBy c files found n e },
        decide (e = .stopped)⟩) := by
  have hlisted' : (s.setGate .building).listed c files = .ok found :=
    (listed_setGate s .building c files).trans hlisted
  -- the loop follows a course, and there is only one
  obtain ⟨n', e', t, hcourse', hrun, hindex, hwithin⟩ :=
    runBatches_course (s := s) (c := c) hook_spares hook_keeps (listed_nodup hlisted)
  obtain ⟨rfl, rfl⟩ := hcourse.unique hcourse'
  have hindex' : t.index = { s.oneByOne c (found.take n) with gate := .building } :=
    hindex.trans (gate_enterAll s.index (s.verdict c) (found.take n) .building)
  rw [buildBody, hlisted']
  dsimp only
  rw [hrun]
  cases e with
  | failed cause =>
    refine ⟨_, _, rfl, ?_, hwithin.1, ?_, ?_⟩
    · rw [hindex', leftBy, if_neg (by simp)]
    · intro cause' hcause
      cases hcause
      rfl
    · exact fun h => absurd rfl (h cause)
  | stopped =>
    refine ⟨_, _, ?_, ?_, hwithin.1, by simp, fun _ => rfl⟩
    · simp only [Ending.result, Bool.not_true, Bool.and_false, Bool.false_eq_true, if_false, droppedBy,
        reduceCtorEq, and_false, Nat.add_zero, decide_true]
    · rw [hindex', leftBy, if_neg (by simp)]
  | complete =>
    cases files with
    | some source =>
      refine ⟨_, _, ?_, ?_, hwithin.1, by simp, fun _ => rfl⟩
      · simp only [Ending.result, Option.isNone_some, Bool.false_and, Bool.false_eq_true, if_false,
          droppedBy, reduceCtorEq, false_and, Nat.add_zero, decide_false]
      · rw [hindex', leftBy, if_neg (by simp)]
    | none =>
      refine ⟨_, { t with index := t.index.prune found }, ?_, ?_, hwithin.1, by simp, fun _ => rfl⟩
      · simp only [Ending.result, Option.isNone_none, Bool.not_false, Bool.and_true, if_true, droppedBy,
          and_self, reduceCtorEq, decide_false, hindex']
        rfl
      · simp only [leftBy, and_self, if_true, Index.prune_eq_keepOnly, hindex']
        rfl

/-- A build without candidates to look at fails and changes nothing. -/
theorem build_of_unlisted (hidle : s.index.gate = .idle) {files : Option (List String)} {cause : String}
    (hlisted : s.listed c files = .error cause) (now : Int) (reactions : Reactions) :
    (∃ failure, (s.build c hook now files reactions).1 = .error failure) ∧
      (s.build c hook now files reactions).2.index.store = s.index.store ∧
      (s.build c hook now files reactions).2.index.cache.entries = s.index.cache.entries := by
  have hstore := store_saveCache (s.setGate .building) c now
  have hentries := entries_saveCache (s.setGate .building) c now
  rw [build_of_idle hidle, buildBody_of_error hlisted]
  dsimp only
  cases ((s.setGate .building).saveCache c now).1 with
  | error e => exact ⟨⟨_, rfl⟩, hstore, hentries⟩
  | ok => exact ⟨⟨_, rfl⟩, hstore, hentries⟩

theorem build_of_course (hidle : s.index.gate = .idle) (hook_spares : hook.SparesBuilds)
    (hook_keeps : hook.KeepsFiles) {files : Option (List String)} {found : List String}
    (hlisted : s.listed c files = .ok found) {n : Nat} {e : Ending}
    (hcourse : Course s c hook found n e) (now : Int) {reactions : Reactions}
    (hspares : reactions.SparesIndex) :
    BuildsTo s c files found n e (s.build c hook now files reactions).1
      (s.build c hook now files reactions).2 := by
  obtain ⟨r, t, hbody, hindex, -, hfailed, hreturned⟩ :=
    buildBody_of_course hook_spares hook_keeps hlisted hcourse
  have hstore : (t.saveCache c now).2.index.store = (s.leftBy c files found n e).store := by
    rw [store_saveCache, hindex]
  have hentries : (t.saveCache c now).2.index.cache.entries =
      (s.leftBy c files found n e).cache.entries := by
    rw [entries_saveCache, hindex]
  have hlength : (found.take n).length = n := by
    rw [List.length_take, Nat.min_eq_left hcourse.le_length]
  have htotal := countVerdicts_total hcourse.ok
  rw [hlength] at htotal
  rw [build_of_idle hidle, hbody]
  dsimp only
  -- a build whose cache cannot be saved fails, but what it entered stays
  cases hsaved : (t.saveCache c now).1 with
  | error failure =>
    exact ⟨hstore, hentries, fun _ _ => ⟨_, rfl⟩, fun _ => .inr ⟨_, rfl⟩, by simp, by simp, by simp⟩
  | ok =>
    cases r with
    | error cause =>
      refine ⟨hstore, hentries, fun _ _ => ⟨_, rfl⟩, ?_, by simp, by simp, by simp⟩
      intro h
      cases hreturned h
    | ok p =>
      have hnot : ∀ cause, e ≠ .failed cause := by
        intro cause he
        cases hfailed cause he
      have hp := hreturned hnot
      rw [Except.ok.injEq, tallyOf_eq_counts] at hp
      subst hp
      refine ⟨?_, ?_, fun cause he => absurd he (hnot cause), fun _ => .inl ⟨_, rfl⟩, ?_, ?_, ?_⟩
      · rw [index_notify_of_spares hspares]
        exact hstore
      · rw [index_notify_of_spares hspares]
        exact hentries
      · rintro report ⟨⟩
        exact decide_eq_true_iff
      · rintro report ⟨⟩
        exact ⟨rfl, rfl⟩
      · rintro report ⟨⟩
        exact ⟨rfl, rfl, rfl, htotal⟩

end Build

/-! ## Batches of another size -/

section Resized

variable {s : Session} {c : IndexConfig} {hook : Hook} {settings : Settings}
  (hcache : settings.enableCache = c.settings.enableCache)

include hcache

theorem snapshot?_resized (i : Index) (file : String) :
    i.snapshot? settings file = i.snapshot? c.settings file := by
  rw [Index.snapshot?, Index.snapshot?, hcache]

theorem verdict_resized : s.verdict { c with settings } = s.verdict c := by
  funext file
  rw [verdict, verdict, snapshot?_resized hcache]
  rfl

omit hcache in
theorem lookThrough_resized (known : String → Option CacheEntry) (files : List String) (u : Session) :
    lookThrough { c with settings } hook known files u = lookThrough c hook known files u := by
  induction files generalizing u with
  | nil => rfl
  | cons file files ih =>
    rw [lookThrough, lookThrough]
    change (match u.examine c hook file (known file) with
      | (.error _, u) => u
      | (.ok f, u) => lookThrough { c with settings } hook known files (u.commit file f)) = _
    rcases u.examine c hook file (known file) with ⟨_ | f, t⟩
    · rfl
    · exact ih _

theorem stopsAfter_resized (found : List String) (n : Nat) :
    s.stopsAfter { c with settings } hook found n = s.stopsAfter c hook found n := by
  have hsnapshot : s.index.snapshot? settings = s.index.snapshot? c.settings :=
    funext (snapshot?_resized hcache s.index)
  rw [stopsAfter, stopsAfter, after, after, lookThrough_resized, hsnapshot]

theorem leftBy_resized (files : Option (List String)) (found : List String) (n : Nat) (e : Ending) :
    s.leftBy { c with settings } files found n e = s.leftBy c files found n e := by
  simp only [leftBy, oneByOne, verdict_resized hcache]

/-- Where no stop is ever requested, the course is the same for batches of every size. -/
theorem Course.resized {found : List String} {n : Nat} {e : Ending} (h : Course s c hook found n e)
    (hgo : ∀ m, s.stopsAfter c hook found m = false) :
    Course s { c with settings } hook found n e := by
  have hgo' : ∀ m, s.stopsAfter { c with settings } hook found m = false := by
    intro m
    rw [stopsAfter_resized hcache, hgo]
  have hverdict := verdict_resized (s := s) hcache
  cases h with
  | complete hok =>
    rw [← hverdict] at hok
    exact .complete hok fun j _ => hgo' _
  | stopped j hj hstop =>
    rw [hgo] at hstop
    cases hstop
  | failed n file cause hn hfile hok =>
    rw [← hverdict] at hfile hok
    exact .failed n file cause hn hfile hok fun j _ => hgo' _

end Resized

/-- A build that is admitted comes to what looking at one candidate after another comes to, each
judged by what the cache knew before the build. It commits the candidates before the end of its
course, and only when it is complete and nobody named the files it drops what is not a candidate.
Where no stop is requested, the size of the batches does not matter. Listeners may do anything but
change the index. -/
theorem build_refines_oneByOne (s : Session) (c : IndexConfig) (hook : Hook)
    (inner : ∀ file u, Leads u (hook file u)) (hook_keeps : hook.KeepsFiles) (now : Int)
    (files : Option (List String)) (reactions : Reactions) (hspares : reactions.SparesIndex) :
    (s.index.gate ≠ .idle → s.build c hook now files reactions = (.ok .rejected, s)) ∧
    (s.index.gate = .idle →
      (∀ cause, s.listed c files = .error cause →
        (∃ failure, (s.build c hook now files reactions).1 = .error failure) ∧
        (s.build c hook now files reactions).2.index.store = s.index.store ∧
        (s.build c hook now files reactions).2.index.cache.entries = s.index.cache.entries) ∧
      ∀ found, s.listed c files = .ok found →
        (∃ source names, (files = some source ∨ files = none ∧ c.provide s.files = .ok source) ∧
          source.mapM s.normalize = .ok names ∧ found = names.eraseDups) ∧
        (∃ n e, Course s c hook found n e) ∧
        (∀ n e, Course s c hook found n e →
          BuildsTo s c files found n e (s.build c hook now files reactions).1
            (s.build c hook now files reactions).2) ∧
        ((∀ m, s.stopsAfter c hook found m = false) →
          ∀ settings : Settings, settings.enableCache = c.settings.enableCache →
            (s.build { c with settings } hook now files reactions).2.index.store =
              (s.build c hook now files reactions).2.index.store ∧
            (s.build { c with settings } hook now files reactions).2.index.cache.entries =
              (s.build c hook now files reactions).2.index.cache.entries)) := by
  have hook_spares := sparesBuilds_of_leads inner
  refine ⟨fun hbusy => build_of_busy hbusy c hook now files reactions, fun hidle => ⟨?_, ?_⟩⟩
  · intro cause hlisted
    exact build_of_unlisted hidle hlisted now reactions
  · intro found hlisted
    obtain ⟨n, e, -, hcourse, -⟩ :=
      runBatches_course (s := s) (c := c) hook_spares hook_keeps (listed_nodup hlisted)
    refine ⟨listed_eq_eraseDups hlisted, ⟨n, e, hcourse⟩, ?_, ?_⟩
    · intro n e hcourse
      exact build_of_course hidle hook_spares hook_keeps hlisted hcourse now hspares
    · -- a course that nothing stops is the same for batches of any size
      intro hgo settings hcache
      have hbuilds := build_of_course hidle hook_spares hook_keeps hlisted hcourse now hspares
      have hbuilds' := build_of_course (c := { c with settings }) hidle hook_spares hook_keeps hlisted
        (hcourse.resized hcache hgo) now hspares
      rw [hbuilds.store, hbuilds.entries, hbuilds'.store, hbuilds'.entries, leftBy_resized hcache]
      exact ⟨rfl, rfl⟩

/-- A hook that asks the build to stop. -/
def stoppingHook : Hook := fun _ u => { u with stopRequested := true }

theorem leads_stoppingHook (file : String) (u : Session) : Leads u (stoppingHook file u) :=
  .outside (.refl u) u.files true u.events u.home

/-- A stop that is requested while the first of two batches is read is seen before the second. -/
theorem build_refines_oneByOne_stopped :
    ((start sampleConfig sampleFiles).build sampleConfig stoppingHook 0 none).1 =
        .ok ⟨2, ⟨1, 0, 0⟩, 1, 1, true, false⟩ ∧
      ((start sampleConfig sampleFiles).build sampleConfig stoppingHook 0 none).2.allEndpoints =
        [sampleEndpoint] ∧
      BuildsTo (start sampleConfig sampleFiles) sampleConfig none ["/r/A.java", "/r/B.java"] 1 .stopped
        ((start sampleConfig sampleFiles).build sampleConfig stoppingHook 0 none).1
        ((start sampleConfig sampleFiles).build sampleConfig stoppingHook 0 none).2 := by
  have hlisted : (start sampleConfig sampleFiles).listed sampleConfig none =
      .ok ["/r/A.java", "/r/B.java"] := by cbv
  have hrefines := (build_refines_oneByOne (start sampleConfig sampleFiles) sampleConfig stoppingHook
    leads_stoppingHook (fun _ _ _ => rfl) 0 none Reactions.none Reactions.sparesIndex_none).2 rfl
  -- the candidates are listed by the build itself; the rest is evaluated
  have hbuild : ∃ t, (start sampleConfig sampleFiles).build sampleConfig stoppingHook 0 none =
      (.ok ⟨2, ⟨1, 0, 0⟩, 1, 1, true, false⟩, t) ∧ t.allEndpoints = [sampleEndpoint] := by
    unfold build buildBody
    simp only [Option.isNone_none, Bool.true_and]
    exact ⟨_, by cbv, by cbv⟩
  obtain ⟨t, hbuild, hendpoints⟩ := hbuild
  refine ⟨by rw [hbuild], by rw [hbuild, hendpoints], (hrefines.2 _ hlisted).2.2.1 _ _ ?_⟩
  apply Course.stopped 1
  · decide
  · cbv
  · intro i hi
    obtain rfl : i = 0 := by omega
    cbv
  · intro file hfile
    obtain rfl : file = "/r/A.java" := List.mem_singleton.1 hfile
    exact ⟨.parsed 5 [sampleEndpoint], by cbv⟩

end Session

end EndpointIndex
