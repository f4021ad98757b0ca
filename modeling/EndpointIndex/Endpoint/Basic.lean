import EndpointIndex.Mapping

/-!
# Endpoints

One HTTP endpoint that an annotated method declares. Two endpoints are the same when type, route,
verb and file agree; where exactly they stand and how their path was written does not count.
-/

namespace EndpointIndex

structure Endpoint where
  fullPath : String
  rawPath : String
  typePath : String
  methodPath : String
  verb : Verb
  typeName : String
  methodName : String
  file : String
  startLine : Int
  startColumn : Int
  endLine : Int
  endColumn : Int
  deriving DecidableEq, Repr

namespace Endpoint

/-- What tells endpoints apart. -/
structure Identity where
  typeName : String
  fullPath : String
  verb : Verb
  file : String
  deriving DecidableEq, Repr

def identity (e : Endpoint) : Identity := ⟨e.typeName, e.fullPath, e.verb, e.file⟩

def same (a b : Endpoint) : Bool := a.identity == b.identity

theorem same_iff (a b : Endpoint) : a.same b = true ↔ a.identity = b.identity := by
  simp [same]

end Endpoint

end EndpointIndex
