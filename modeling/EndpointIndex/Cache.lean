import EndpointIndex.Endpoint.Stored
import EndpointIndex.FileMap
import EndpointIndex.FileSystem.Basic
import EndpointIndex.Json.Display
import EndpointIndex.Json.Reader
import EndpointIndex.Text.Utf8

/-!
# The cache

What is remembered of each file: the time of its last change when it was read, and its endpoints.
The cache is kept in one JSON file, the artifact. An artifact of another version, or one that cannot
be read, is as good as none.
-/

namespace EndpointIndex

structure CacheEntry where
  lastModified : Int
  endpoints : List Endpoint
  deriving DecidableEq, Repr

namespace CacheEntry

def fields (r : Json) : Checked CacheEntry :=
  CacheEntry.mk
    <$> Json.required ⟨"lastModified", "last_modified"⟩ Json.checkInt r
    <*> Json.withDefault ⟨"endpoints", "endpoints"⟩ [] (Json.checkList Endpoint.ofJson) r

def ofJson : Json → Checked CacheEntry := Json.checkRecord fields

def toJson (e : CacheEntry) : Json :=
  .object [("lastModified", .int e.lastModified), ("endpoints", .array (e.endpoints.map Endpoint.toJson))]

theorem ofJson_toJson (e : CacheEntry) : ofJson e.toJson = .ok e := by
  simp [ofJson, toJson, Json.checkRecord, fields, Json.required, Json.withDefault, Json.Key.find?,
    Json.member?, Json.checkInt, Json.checkList, Checked.all_map Endpoint.ofJson_toJson]

end CacheEntry

/-! ## The artifact -/

/-- What the artifact holds. -/
structure Artifact where
  lastUpdate : Int
  entries : FileMap CacheEntry

inductive CacheError where
  | unreadable (path : Path)
  | notObject (path : Path)
  | otherVersion (found : Json)
  | malformed (faults : Nat)

namespace Artifact

def version : String := "1.0.0"

def toJson (a : Artifact) : Json :=
  .object
    [("version", .string version), ("lastUpdate", .int a.lastUpdate),
     ("fileData", .object (a.entries.entries.map fun p => (p.1, p.2.toJson)))]

/-- The fields after the version. -/
def fields (r : Json) : Checked Artifact :=
  (fun time pairs => ⟨time, FileMap.ofList pairs⟩)
    <$> Json.withDefault ⟨"lastUpdate", "last_update"⟩ 0 Json.checkInt r
    <*> Json.withDefault ⟨"fileData", "file_data"⟩ [] (Json.checkMap CacheEntry.ofJson) r

/-- The artifact in a JSON value read from a path. The version is compared before anything else. -/
def ofJson (path : Path) (v : Json) : Except CacheError Artifact :=
  match v with
  | .object _ =>
    match (v.member? "version").getD .null with
    | .string s =>
      if s = version then
        match fields v with
        | .ok a => .ok a
        | .faulty fs => .error (.malformed fs.length)
      else .error (.otherVersion (.string s))
    -- also a version that is no text, or none at all
    | found => .error (.otherVersion found)
  | _ => .error (.notObject path)

/-- The artifact in a file. -/
def read (fs : FileSystem) (path : Path) : Except CacheError Artifact :=
  match fs.read path with
  | .error _ => .error (.unreadable path)
  | .ok bytes =>
    match (Text.Utf8.decode? bytes).bind Json.parseChars? with
    | none => .error (.unreadable path)
    | some v => ofJson path v

end Artifact

def CacheError.message : CacheError → String
  | .unreadable path => "cannot read " ++ path.toString
  | .notObject path => path.toString ++ " does not hold a cache object"
  | .otherVersion found =>
    "version mismatch, expected " ++ Artifact.version ++ ", found " ++ found.display
  | .malformed n => "malformed cache artifact: " ++ toString n ++ " errors"

/-! ## The cache -/

structure Cache where
  /-- Where the artifact is kept, if anywhere. -/
  path : Option Path
  /-- When the artifact was last written, in milliseconds. -/
  lastUpdate : Int
  entries : FileMap CacheEntry

namespace Cache

def new (path : Option Path) : Cache := ⟨path, 0, .empty⟩

def get? (c : Cache) (file : String) : Option CacheEntry := c.entries.get? file

def contains (c : Cache) (file : String) : Bool := c.entries.contains file

def size (c : Cache) : Nat := c.entries.size

def put (c : Cache) (file : String) (e : CacheEntry) : Cache :=
  { c with entries := c.entries.put file e }

def remove (c : Cache) (file : String) : Cache := { c with entries := c.entries.erase file }

def clear (c : Cache) : Cache := { c with entries := .empty }

/-- Takes what the artifact holds, and says whether there was one to take. -/
def load (c : Cache) (fs : FileSystem) : Bool × Cache :=
  match c.path with
  | none => (false, c.clear)
  | some path =>
    match Artifact.read fs path with
    | .ok a => (true, ⟨c.path, a.lastUpdate, a.entries⟩)
    | .error _ => (false, c.clear)

def artifact (c : Cache) : Artifact := ⟨c.lastUpdate, c.entries⟩

/-- The bytes of the artifact. -/
def payload (c : Cache) : List UInt8 := Text.Utf8.encodeText c.artifact.toJson.compact

/-- The file in which the artifact is written before it takes its place. -/
def draftPath (path : Path) : Path := path.addSuffix ".tmp"

/-- Writes the artifact beside its place and moves it there. What fails after the directory is there
is passed over. -/
def writeArtifact (c : Cache) (fs : FileSystem) (path : Path) : Except FileError FileSystem := do
  -- the time is in milliseconds here and in nanoseconds in files
  let now := c.lastUpdate * 1000000
  let fs ← fs.makeDirectories path.parent now
  if path.parts.isEmpty then throw .unnamed
  match fs.write (draftPath path) c.payload now with
  | .error _ => return fs
  | .ok fs' =>
    -- a draft that cannot be moved is left where it is
    match fs'.move (draftPath path) path now with
    | .error _ => return fs'
    | .ok fs'' => return fs''

/-- Saves the cache at the given time. -/
def save (c : Cache) (now : Int) (fs : FileSystem) : Except FileError FileSystem × Cache :=
  match c.path with
  | none => (.ok fs, c)
  | some path =>
    let c := { c with lastUpdate := now }
    -- the new time stays also when nothing gets written
    (c.writeArtifact fs path, c)

/-- Deletes the artifact at the given time; that there is none is no failure. -/
def deleteArtifact (c : Cache) (fs : FileSystem) (now : Int := 0) : Except FileError FileSystem :=
  match c.path with
  | none => .ok fs
  | some path =>
    match fs.remove path (now * 1000000) with
    | .error .notFound => .ok fs
    | r => r

end Cache

end EndpointIndex
