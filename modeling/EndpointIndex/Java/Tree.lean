import EndpointIndex.Declaration.Basic

/-!
# What is kept of a Java source

The types and methods that a grammar recognises, with their annotations. Of an expression only its
shape is kept.
-/

namespace EndpointIndex.Java

/-- The shapes of expressions that are no literals and no plain names. -/
inductive Shape where
  | assignment | ternary | binary | cast | lambda | methodReference
  | invocation | classReference | voidClassReference | classCreator | arrayCreator
  | innerClassCreator | this | thisInvocation | superInvocation | superMember | superMethod
  | mark
  deriving DecidableEq, Repr

/-- The name under which a shape is reported. -/
def Shape.label : Shape → String
  | .assignment => "Assignment"
  | .ternary => "TernaryExpression"
  | .binary => "BinaryOperation"
  | .cast => "Cast"
  | .lambda => "LambdaExpression"
  | .methodReference => "MethodReference"
  | .invocation => "MethodInvocation"
  | .classReference => "ClassReference"
  | .voidClassReference => "VoidClassReference"
  | .classCreator => "ClassCreator"
  | .arrayCreator => "ArrayCreator"
  | .innerClassCreator => "InnerClassCreator"
  | .this => "This"
  | .thisInvocation => "ExplicitConstructorInvocation"
  | .superInvocation => "SuperConstructorInvocation"
  | .superMember => "SuperMemberReference"
  | .superMethod => "SuperMethodInvocation"
  | .mark => "Annotation"

/-- The value of an annotation element. -/
inductive Element where
  /-- A literal as it is written. -/
  | literal (text : String)
  | name (qualifier : List String) (member : String)
  | array (items : List Element)
  /-- Braces around nothing. -/
  | emptyArray
  | other (shape : Shape)
  deriving Repr, Inhabited

inductive Arguments where
  | pairs (pairs : List (String × Element))
  | single (value : Element)
  deriving Repr, Inhabited

structure Mark where
  name : String
  arguments : Option Arguments
  deriving Repr, Inhabited

/-- A declaration; `line` is that of the first token after its annotations and modifiers. -/
inductive Node where
  | method (name : String) (line : Nat) (marks : List Mark)
  | type (kind : TypeKind) (name : String) (line : Nat) (marks : List Mark) (members : List Node)
  deriving Repr, Inhabited

end EndpointIndex.Java
