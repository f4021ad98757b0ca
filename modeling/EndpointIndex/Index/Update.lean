import EndpointIndex.Index.Build
import EndpointIndex.Search

/-!
# Single files

Updates and removals of one file, and the questions an index answers. While a build runs, updates
and removals are turned away: the build will see the file.
-/

namespace EndpointIndex.Session

/-- Reads one file again, whatever the cache says. The result is the number of its endpoints, or none
when the update was turned away. -/
def update (s : Session) (c : IndexConfig) (hook : Hook) (path : String)
    (reactions : Reactions := .none) : Except IndexFailure (Option Nat) × Session :=
  match s.normalize path with
  | .error e => (.error (.loop e), s)
  | .ok file =>
    match s.index.gate.beginUpdate? with
    | none => (.ok none, s)
    | some g =>
      match (s.setGate g).examine c hook file none with
      | (.error cause, s) => (.error (.parse cause), s.setGate s.index.gate.endUpdate)
      | (.ok f, s) =>
        let s := s.commit file f
        -- the listeners are told after the gate has been opened again
        (.ok (some f.endpoints.length), (s.setGate s.index.gate.endUpdate).notify reactions)

/-- Forgets one file. The result says whether it had endpoints. -/
def remove (s : Session) (path : String) (reactions : Reactions := .none) :
    Except IndexFailure Bool × Session :=
  match s.normalize path with
  | .error e => (.error (.loop e), s)
  | .ok file =>
    match s.index.gate.beginUpdate? with
    | none => (.ok false, s)
    | some g =>
      let existed := s.index.store.contains file
      let s := s.setGate g
      let s := { s with index := s.index.drop file }
      let s := s.setGate s.index.gate.endUpdate
      -- a file without endpoints goes unannounced
      (.ok existed, if existed then s.notify reactions else s)

/-- The endpoints of one file. -/
def endpointsOf (s : Session) (path : String) : Except IndexFailure (Option (List Endpoint)) :=
  match s.normalize path with
  | .error e => .error (.loop e)
  | .ok file => .ok (s.index.store.get? file)

def allEndpoints (s : Session) : List Endpoint := s.index.store.snapshot

def search (s : Session) (query : String) : List Endpoint := Search.search query s.allEndpoints

/-- Registers a listener. -/
def listen (s : Session) (listener : String) : Session :=
  { s with index := { s.index with listeners := s.index.listeners ++ [listener] } }

/-- Removes the first registration of a listener. -/
def unlisten (s : Session) (listener : String) : Session :=
  { s with index := { s.index with listeners := s.index.listeners.erase listener } }

/-- A session with a new index. -/
def start (c : IndexConfig) (fs : FileSystem) (home : Option Path := none) : Session :=
  ⟨fs, .new c fs, false, [], home⟩

end EndpointIndex.Session
