import EndpointIndex.Cache
import EndpointIndex.Index.Gate
import EndpointIndex.Reader.Basic
import EndpointIndex.Scan
import EndpointIndex.Settings.Basic
import EndpointIndex.Store

/-!
# The index

The store that answers are read from and the cache that survives a restart, kept in step: what is
found out about one file is committed to both at once. The three steps of looking at a file stay
apart, because files change between them: asking for its time, reading it, committing.
-/

namespace EndpointIndex

structure Index where
  cache : Cache
  store : Store
  gate : Gate
  /-- Who is told of changes, in the order of registration. What they do then is another matter, see
  `Reactions`. -/
  listeners : List String

/-- What reading a file for its endpoints comes to. -/
inductive ParseResult where
  | endpoints (found : List Endpoint)
  /-- The file could not be read. -/
  | unreadable
  | broken (cause : String)

/-- What an index works with. -/
structure IndexConfig where
  root : Location
  settings : Settings
  /-- Reads the endpoints of a file. -/
  parse : FileSystem → String → ParseResult
  /-- Lists the files to index when none are named. -/
  provide : FileSystem → Except String (List String)

/-- What an observer sees of a running operation. -/
inductive Event where
  | parsed (file : String)
  | notified (listener : String) (count : Nat)
  /-- What a hook has to say. -/
  | remark (text : String)
  deriving DecidableEq, Repr

/-- Everything that an operation reads and changes. -/
structure Session where
  files : FileSystem
  index : Index
  /-- Whether a running build has been asked to stop. -/
  stopRequested : Bool
  /-- What has happened, the latest last. -/
  events : List Event
  /-- Where paths that begin with a tilde start, if that is known. -/
  home : Option Path := none

/-- What else happens at the moment at which a file is about to be read. -/
abbrev Hook := String → Session → Session

def Hook.none : Hook := fun _ s => s

/-- What listeners do when they are told a count: a listener may raise, and may do with the session
whatever its holder can do. -/
abbrev Reactions := String → Nat → Session → Except String Unit × Session

def Reactions.none : Reactions := fun _ _ s => (.ok (), s)

/-! ## Paths -/

/-- A path that leads back to itself: by links, or by a tilde for which no home is known. -/
inductive PathLoop where
  | links (e : FileSystem.LinkLoop)
  | tilde

/-- How a loop of links is reported. -/
def FileSystem.LinkLoop.message (e : FileSystem.LinkLoop) : String :=
  "Symlink loop from " ++ String.ofList (Json.displayQuoted e.place.toString)

def PathLoop.message : PathLoop → String
  | .links e => e.message
  | .tilde => "Could not determine home directory."

/-- The absolute path, without links, by which a file is known. -/
def FileSystem.normalize (fs : FileSystem) (home : Option Path) (path : String) :
    Except PathLoop String :=
  match (Path.ofString path).expandHome? home with
  | none => .error .tilde
  | some p =>
    match fs.resolve p with
    | .error e => .error (.links e)
    | .ok l => .ok l.toString

namespace IndexConfig

def rootPath (c : IndexConfig) : Path := FileSystem.ofLocation c.root

def cachePath (c : IndexConfig) : Path := c.settings.cachePath c.rootPath

/-- Reads a file with the two readers. -/
def parseWith (prefilter : Bool) (fs : FileSystem) (file : String) : ParseResult :=
  match fs.read (.ofString file) with
  | .error _ => .unreadable
  | .ok bytes =>
    match (ReadingPlan.standard prefilter).endpointsOfBytes file bytes with
    | .ok found => .endpoints found
    | .error .malformed => .endpoints []
    | .error (.broken cause) => .broken cause

/-- Lists the source files below the root. -/
def scanRoot (root : Location) (settings : Settings) (fs : FileSystem) :
    Except String (List String) :=
  match Scan.sourceFiles fs (FileSystem.ofLocation root) settings.selection none with
  | .ok files => .ok files
  | .error e => .error e.message

def standard (root : Location) (settings : Settings) : IndexConfig :=
  ⟨root, settings, parseWith settings.usePrefilter, scanRoot root settings⟩

end IndexConfig

/-! ## One file -/

/-- What is known about a file after a look at it. -/
inductive Finding where
  /-- The cache is up to date. -/
  | cached (endpoints : List Endpoint)
  | parsed (modified : Int) (endpoints : List Endpoint)
  | missing

/-- An entry is good for a file that has not been changed after it was made. -/
def CacheEntry.isFresh (e : CacheEntry) (modified : Int) : Bool := modified ≤ e.lastModified

def Finding.endpoints : Finding → List Endpoint
  | .cached es => es
  | .parsed _ es => es
  | .missing => []

namespace Index

/-- Enters a finding into store and cache. -/
def commit (i : Index) (file : String) : Finding → Index
  | .missing => { i with store := i.store.remove file, cache := i.cache.remove file }
  | .cached es => { i with store := i.store.set file es }
  | .parsed modified es =>
    { i with store := i.store.set file es, cache := i.cache.put file ⟨modified, es⟩ }

def drop (i : Index) (file : String) : Index :=
  { i with store := i.store.remove file, cache := i.cache.remove file }

/-- Every file that store or cache know of. -/
def tracked (i : Index) : List String :=
  i.store.files ++ i.cache.entries.files.filter fun f => !i.store.contains f

/-- The tracked files that are not to be kept. -/
def stale (i : Index) (keep : List String) : List String :=
  i.tracked.filter fun f => !keep.contains f

def prune (i : Index) (keep : List String) : Index := (i.stale keep).foldl drop i

def clear (i : Index) : Index := { i with store := .empty, cache := i.cache.clear }

/-- The cache entry of a file, for an index that uses its cache. -/
def snapshot? (i : Index) (settings : Settings) (file : String) : Option CacheEntry :=
  if settings.enableCache then i.cache.get? file else none

/-- Fills the store from the cache. -/
def restore (i : Index) : Index :=
  { i with store := i.cache.entries.entries.foldl (fun s p => s.set p.1 p.2.endpoints) i.store }

/-- A new index. It starts with what the artifact holds, if it uses its cache. -/
def new (c : IndexConfig) (fs : FileSystem) : Index :=
  let cache := Cache.new (some c.cachePath)
  if c.settings.enableCache then
    restore ⟨(cache.load fs).2, .empty, .idle, []⟩
  else ⟨cache, .empty, .idle, []⟩

end Index

namespace Session

def record (s : Session) (e : Event) : Session := { s with events := s.events ++ [e] }

def setGate (s : Session) (g : Gate) : Session := { s with index := { s.index with gate := g } }

def commit (s : Session) (file : String) (f : Finding) : Session :=
  { s with index := s.index.commit file f }

/-- Tells one listener a count. -/
def tell (reactions : Reactions) (count : Nat) (s : Session) (listener : String) : Session :=
  match reactions listener count (s.record (.notified listener count)) with
  | (.ok (), s) => s
  -- that one raises keeps nobody else from being told
  | (.error _, s) => s

/-- Tells every listener how many endpoints there are. Who is told, and what, is settled before the
first of them is called. -/
def notify (s : Session) (reactions : Reactions := .none) : Session :=
  s.index.listeners.foldl (tell reactions s.index.store.count) s

def normalize (s : Session) (path : String) : Except PathLoop String :=
  s.files.normalize s.home path

/-- When a file was last changed, if it is there. -/
def modified? (s : Session) (file : String) : Option Int :=
  (s.files.modified (.ofString file)).toOption

/-- Looks at a file: what has been read before is good while the file is not newer. -/
def examine (s : Session) (c : IndexConfig) (hook : Hook) (file : String)
    (known : Option CacheEntry) : Except String Finding × Session :=
  match s.modified? file with
  | none => (.ok .missing, s)
  | some time =>
    match known.filter (·.isFresh time) with
    | some e => (.ok (.cached e.endpoints), s)
    | none =>
      -- the file may change before it is read; the entry keeps the time asked for above
      let s := hook file (s.record (.parsed file))
      match c.parse s.files file with
      | .endpoints es => (.ok (.parsed time es), s)
      | .unreadable => (.ok .missing, s)
      | .broken cause => (.error cause, s)

end Session

end EndpointIndex
