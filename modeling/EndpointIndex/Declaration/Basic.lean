import EndpointIndex.Source.Position

/-!
# Declarations

What a reader keeps of a Java source: types and methods, their annotations, the values of annotation
arguments, and where each of them stands.
-/

namespace EndpointIndex

open Source (Span)

/-- The value of an annotation argument. -/
inductive Value where
  /-- A string literal, its escapes decoded. -/
  | literal (text : String)
  /-- A name with its qualifier: `RequestMethod.GET`. -/
  | reference (qualifier : Option String) (member : String)
  | array (items : List Value)
  /-- Any other expression, kept as text. -/
  | unresolved (text : String)
  deriving Repr, Inhabited

structure Annotation where
  name : String
  positional : Option Value
  named : List (String × Value)
  span : Option Span
  deriving Repr, Inhabited

inductive TypeKind where
  | classType
  | interfaceType
  deriving DecidableEq, Repr

def TypeKind.keyword : TypeKind → String
  | .classType => "class"
  | .interfaceType => "interface"

inductive Declaration where
  | method (name : String) (annotations : List Annotation) (span : Option Span)
  | type (kind : TypeKind) (name : String) (annotations : List Annotation)
      (members : List Declaration) (span : Option Span)
  deriving Repr, Inhabited

namespace Declaration

def name : Declaration → String
  | method name _ _ => name
  | type _ name _ _ _ => name

def annotations : Declaration → List Annotation
  | method _ annotations _ => annotations
  | type _ _ annotations _ _ => annotations

def isType : Declaration → Bool
  | method .. => false
  | type .. => true

end Declaration

end EndpointIndex
