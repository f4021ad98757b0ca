import EndpointIndex.Endpoint.Basic
import EndpointIndex.Route.Path

/-!
# Endpoints of declarations

A type that carries a controller or client annotation exposes those of its own methods that carry a
mapping annotation, one endpoint each. Nested types are scopes of their own. Main facts: a method
has at most one endpoint (`length_methodEndpoints_le`), and none outside an exposing type
(`methodEndpoints_of_not_exposes`).
-/

namespace EndpointIndex

open Source (Span)

/-- What the annotations of a type say about its methods. -/
structure Scope where
  name : String
  path : Option String
  isController : Bool
  isClient : Bool
  deriving DecidableEq, Repr

namespace Scope

def exposes (s : Scope) : Bool := s.isController || s.isClient

/-- The paths under which the type is mapped; a type without one has the empty path. -/
def paths (s : Scope) : List String := [s.path.getD ""]

/-- Adds what one more annotation says. A later path replaces an earlier one. -/
def note (s : Scope) (a : Annotation) : Scope :=
  match a.kind with
  | .controller => { s with isController := true }
  | .client => { s with isClient := true }
  -- without a path of its own it leaves the earlier one
  | .requestMapping => { s with path := a.path?.or s.path }
  | _ => s

def ofAnnotations (name : String) (annotations : List Annotation) : Scope :=
  annotations.foldl note ⟨name, none, false, false⟩

end Scope

/-- The mapping annotation that counts: the last one. -/
def lastMapping? (annotations : List Annotation) : Option Annotation :=
  annotations.reverse.find? Annotation.isMapping

/-- Where an endpoint stands when neither its annotation nor its method could be located. -/
def defaultSpan : Span := ⟨1, 1, 1, 1⟩

def makeEndpoint (file typeName typePath methodName : String) (mapping : Annotation)
    (span : Span) : Endpoint :=
  let methodPath := mapping.path?.getD ""
  { fullPath := Route.join [some typePath, some methodPath]
    rawPath := Route.raw typePath methodPath
    typePath := typePath
    methodPath := methodPath
    verb := mapping.verb
    typeName := typeName
    methodName := methodName
    file := file
    startLine := span.startLine
    startColumn := span.startColumn
    endLine := span.endLine
    endColumn := span.endColumn }

/-- The endpoints of one method of a type. -/
def methodEndpoints (file : String) (scope : Scope) (name : String)
    (annotations : List Annotation) (span : Option Span) : List Endpoint :=
  if scope.exposes then
    match lastMapping? annotations with
    | none => []
    | some mapping =>
      let place := (mapping.span.or span).getD defaultSpan
      scope.paths.map fun path => makeEndpoint file scope.name path name mapping place
  else []

mutual

/-- The endpoints of a member of a type with the given scope. -/
def Declaration.endpointsIn (file : String) (scope : Scope) : Declaration → List Endpoint
  | .method name annotations span => methodEndpoints file scope name annotations span
  | .type _ name annotations members _ =>
    memberEndpoints file (.ofAnnotations name annotations) members

def memberEndpoints (file : String) (scope : Scope) : List Declaration → List Endpoint
  | [] => []
  | d :: ds => d.endpointsIn file scope ++ memberEndpoints file scope ds

end

/-- The scope outside all types, which exposes nothing. -/
def topLevel : Scope := ⟨"", none, false, false⟩

/-- The endpoints of a source file, in source order. -/
def extractEndpoints (file : String) (declarations : List Declaration) : List Endpoint :=
  memberEndpoints file topLevel declarations

theorem methodEndpoints_of_not_exposes {file : String} {scope : Scope} {name : String}
    {annotations : List Annotation} {span : Option Span} (h : scope.exposes = false) :
    methodEndpoints file scope name annotations span = [] := by
  simp [methodEndpoints, h]

theorem length_methodEndpoints_le (file : String) (scope : Scope) (name : String)
    (annotations : List Annotation) (span : Option Span) :
    (methodEndpoints file scope name annotations span).length ≤ 1 := by
  unfold methodEndpoints
  split
  · split <;> simp [Scope.paths]
  · simp

theorem memberEndpoints_append (file : String) (scope : Scope) (a b : List Declaration) :
    memberEndpoints file scope (a ++ b) =
      memberEndpoints file scope a ++ memberEndpoints file scope b := by
  induction a with
  | nil => simp [memberEndpoints]
  | cons d a ih => simp [memberEndpoints, ih]

end EndpointIndex
