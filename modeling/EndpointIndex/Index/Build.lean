import EndpointIndex.Index.Basic

/-!
# Building

A build looks at every candidate file in batches, drops what is no longer listed, saves the cache
and tells the listeners. A request to stop is looked at between batches; what has been committed
stays.
-/

namespace EndpointIndex

/-- Why an operation on an index fails. -/
inductive IndexFailure where
  | build (root : Location) (cause : String)
  /-- The file that was to be updated could not be parsed. -/
  | parse (cause : String)
  | loop (e : PathLoop)
  | files (e : FileError)

def IndexFailure.buildMessage (root : Location) (cause : String) : String :=
  "index build failed for " ++ root.toString ++ ": " ++ cause

structure Tally where
  parsed : Nat
  cached : Nat
  removed : Nat
  deriving DecidableEq, Repr

def Tally.count (t : Tally) : Finding → Tally
  | .parsed .. => { t with parsed := t.parsed + 1 }
  | .cached _ => { t with cached := t.cached + 1 }
  | .missing => { t with removed := t.removed + 1 }

structure BuildReport where
  filesTotal : Nat
  tally : Tally
  totalEndpoints : Nat
  indexedFiles : Nat
  cancelled : Bool
  skipped : Bool
  deriving DecidableEq, Repr

/-- The report of a build that was not admitted. -/
def BuildReport.rejected : BuildReport := ⟨0, ⟨0, 0, 0⟩, 0, 0, false, true⟩

namespace Session

/-- The absolute paths of files, each once, in the order of their first mention. -/
def candidates (s : Session) (seen : List String) : List String → Except PathLoop (List String)
  | [] => .ok []
  | p :: rest =>
    match s.normalize p with
    | .error e => .error e
    | .ok file =>
      if seen.contains file then candidates s seen rest
      else (candidates s (file :: seen) rest).map (file :: ·)

/-- Looks at the files of a batch and commits each finding. -/
def runBatch (c : IndexConfig) (hook : Hook) :
    List (String × Option CacheEntry) → Tally → Session → Except String Tally × Session
  | [], t, s => (.ok t, s)
  | (file, known) :: rest, t, s =>
    match s.examine c hook file known with
    | (.error cause, s) => (.error cause, s)
    | (.ok f, s) => runBatch c hook rest (t.count f) (s.commit file f)

/-- Stretches of the given length; the last may be shorter. -/
def batches (size : Nat) (files : List String) : List (List String) :=
  if _h : size = 0 ∨ files = [] then []
  else files.take size :: batches size (files.drop size)
termination_by files.length
decreasing_by
  simp only [not_or] at _h
  have := List.length_pos_iff.2 _h.2
  simp only [List.length_drop]
  omega

/-- Runs batches until a request to stop is seen. What the cache knows of a batch's files is looked
up before the first of them is examined. The result says whether the build was stopped. -/
def runBatches (c : IndexConfig) (hook : Hook) :
    List (List String) → Tally → Session → Except String (Tally × Bool) × Session
  | [], t, s => (.ok (t, false), s)
  | b :: rest, t, s =>
    if s.stopRequested then (.ok (t, true), s)
    else
      match runBatch c hook (b.map fun f => (f, s.index.snapshot? c.settings f)) t s with
      | (.error cause, s) => (.error cause, s)
      | (.ok t, s) => runBatches c hook rest t s

/-- What a build that went through has done. -/
structure Progress where
  filesTotal : Nat
  tally : Tally
  cancelled : Bool

/-- The files to look at: the named ones, or those that the configuration lists. -/
def listed (s : Session) (c : IndexConfig) (files : Option (List String)) :
    Except String (List String) := do
  let source ← match files with
    | some fs => pure fs
    | none => c.provide s.files
  match s.candidates [] source with
  | .ok found => return found
  | .error e => throw e.message

/-- The part of a build between the gates. Only a complete build over the listed files drops others. -/
def buildBody (s : Session) (c : IndexConfig) (hook : Hook) (files : Option (List String)) :
    Except String Progress × Session :=
  match s.listed c files with
  | .error cause => (.error cause, s)
  | .ok found =>
    match runBatches c hook (batches c.settings.batchSize found) ⟨0, 0, 0⟩ s with
    | (.error cause, s) => (.error cause, s)
    | (.ok (t, cancelled), s) =>
      if files.isNone && !cancelled then
        let removed := (s.index.stale found).length
        (.ok ⟨found.length, { t with removed := t.removed + removed }, false⟩,
          { s with index := s.index.prune found })
      else (.ok ⟨found.length, t, cancelled⟩, s)

/-- Saves the cache of an index that uses it. -/
def saveCache (s : Session) (c : IndexConfig) (now : Int) : Except FileError Unit × Session :=
  if c.settings.enableCache then
    match s.index.cache.save now s.files with
    | (.ok fs, cache) => (.ok (), { s with files := fs, index := { s.index with cache := cache } })
    | (.error e, cache) => (.error e, { s with index := { s.index with cache := cache } })
  else (.ok (), s)

def report (s : Session) (p : Progress) : BuildReport :=
  ⟨p.filesTotal, p.tally, s.index.store.count, s.index.store.size, p.cancelled, false⟩

/-- Builds the index from the named files, or from all listed ones. The cache is saved and the gate
opened again whatever happens in between. -/
def build (s : Session) (c : IndexConfig) (hook : Hook) (now : Int) (files : Option (List String))
    (reactions : Reactions := .none) : Except IndexFailure BuildReport × Session :=
  match s.index.gate.beginBuild? with
  | none => (.ok .rejected, s)
  | some g =>
    let (outcome, s) := (s.setGate g).buildBody c hook files
    let (saved, s) := s.saveCache c now
    let s := s.setGate s.index.gate.endBuild
    -- a failure to save hides one of the build itself
    match saved, outcome with
    | .error e, _ => (.error (.files e), s)
    | .ok (), .error cause => (.error (.build c.root cause), s)
    | .ok (), .ok p =>
      let told := s.notify reactions
      -- the endpoints are counted before the listeners are told, the files afterwards
      (.ok { s.report p with indexedFiles := told.index.store.size }, told)

/-- Forgets everything, deletes the artifact and builds anew. -/
def rebuild (s : Session) (c : IndexConfig) (hook : Hook) (now : Int)
    (reactions : Reactions := .none) : Except IndexFailure BuildReport × Session :=
  -- while other work runs, nothing is forgotten
  if s.index.gate = .idle then
    let s := { s with index := s.index.clear }
    match s.index.cache.deleteArtifact s.files now with
    | .error e => (.error (.files e), s)
    | .ok fs => { s with files := fs }.build c hook now none reactions
  else (.ok .rejected, s)

end Session

end EndpointIndex
