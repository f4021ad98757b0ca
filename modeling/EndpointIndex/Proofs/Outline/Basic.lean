import EndpointIndex.Java.Token
import EndpointIndex.Proofs.Outline.Lexeme
import EndpointIndex.Reader.Pattern

/-!
# Outlines of Java sources

Nested classes and interfaces with annotated methods, as trees: what an author means before any of it
is laid out. An outline has lexemes, in the order in which they are written (`Outline.lexemes`), and it
says which declarations a reader should find (`Outline.declared`), up to the places at which they stand.
-/

namespace EndpointIndex

open Source

/-! ## Declarations without places -/

def Annotation.bare (a : Annotation) : Annotation := { a with span := none }

mutual

/-- A declaration without the places at which it stands. -/
def Declaration.bare : Declaration → Declaration
  | .method name annotations _ => .method name (annotations.map Annotation.bare) none
  | .type kind name annotations members _ =>
    .type kind name (annotations.map Annotation.bare) (bareAll members) none

def Declaration.bareAll : List Declaration → List Declaration
  | [] => []
  | d :: ds => d.bare :: bareAll ds

end

theorem Declaration.bareAll_eq_map (ds : List Declaration) : bareAll ds = ds.map bare := by
  induction ds with
  | nil => rfl
  | cons d ds ih => rw [bareAll, ih, List.map_cons]

/-! ## Lists and dotted names -/

/-- Lists of lexemes with commas between them. -/
def listed : List (List Lexeme) → List Lexeme
  | [] => []
  | [ls] => ls
  | ls :: more => ls ++ .sign ',' :: listed more

/-- A name with qualifiers before it. -/
structure DottedName where
  qualifiers : List Name
  simple : Name
  deriving DecidableEq

namespace DottedName

def lexemes (n : DottedName) : List Lexeme :=
  n.qualifiers.flatMap (fun q => [.word q, .sign '.']) ++ [.word n.simple]

def qualifierText (n : DottedName) : String :=
  String.intercalate "." (n.qualifiers.map Name.text)

def text (n : DottedName) : String :=
  String.intercalate "." ((n.qualifiers ++ [n.simple]).map Name.text)

end DottedName

/-! ## Annotations -/

/-- The value of an annotation argument, as far as readers understand it. -/
inductive Term where
  | literal (contents : String)
  | reference (name : DottedName)
  | array (items : List Term)

namespace Term

mutual

def lexemes : Term → List Lexeme
  | literal contents => [.literal contents]
  | reference name => name.lexemes
  | array items => .sign '{' :: listed (lexemesOfAll items) ++ [.sign '}']

def lexemesOfAll : List Term → List (List Lexeme)
  | [] => []
  | t :: ts => t.lexemes :: lexemesOfAll ts

end

mutual

def value : Term → Value
  | literal contents => .literal contents
  | reference name =>
    .reference (if name.qualifiers = [] then none else some name.qualifierText) name.simple.text
  | array items => .array (valuesOfAll items)

def valuesOfAll : List Term → List Value
  | [] => []
  | t :: ts => t.value :: valuesOfAll ts

end

end Term

/-- A named argument. -/
structure NamedTerm where
  key : Name
  term : Term

namespace NamedTerm

def lexemes (a : NamedTerm) : List Lexeme := .word a.key :: .sign '=' :: a.term.lexemes

def value (a : NamedTerm) : String × Value := (a.key.text, a.term.value)

end NamedTerm

/-- The arguments of an annotation: at most one of them is unnamed, and it may stand anywhere. -/
structure ArgumentList where
  before : List NamedTerm
  unnamed : Option Term
  after : List NamedTerm

namespace ArgumentList

def lexemes (a : ArgumentList) : List Lexeme :=
  listed (a.before.map NamedTerm.lexemes ++ a.unnamed.toList.map Term.lexemes ++
    a.after.map NamedTerm.lexemes)

def named (a : ArgumentList) : List NamedTerm := a.before ++ a.after

end ArgumentList

/-- An annotation; without an argument list it has no parentheses either. -/
structure Note where
  name : DottedName
  /-- `@interface` declares an annotation type. -/
  nameable : name.text ≠ "interface"
  arguments : Option ArgumentList

namespace Note

def lexemes (n : Note) : List Lexeme :=
  .sign '@' :: n.name.lexemes ++
    match n.arguments with
    | none => []
    | some a => .sign '(' :: a.lexemes ++ [.sign ')']

def annotation (n : Note) : Annotation where
  name := n.name.text
  positional := n.arguments.bind fun a => a.unnamed.map Term.value
  named := n.arguments.elim [] fun a => a.named.map NamedTerm.value
  span := none

end Note

/-! ## Declarations -/

structure Modifier where
  text : String
  known : text ∈ Java.modifiers

theorem isPlainName_of_mem_modifiers {w : String} (h : w ∈ Java.modifiers) :
    isPlainName w.toList = true := by
  have hall : ∀ v ∈ Java.modifiers, isPlainName v.toList = true := by decide
  exact hall w h

def Modifier.word (m : Modifier) : Name := ⟨m.text, isPlainName_of_mem_modifiers m.known⟩

def TypeKind.word (k : TypeKind) : Name := ⟨k.keyword, by cases k <;> decide⟩

def voidWord : Name := ⟨"void", by decide⟩

/-- The signs that types are written with, besides names. -/
def typeSigns : List Char := ['.', ',', '<', '>', '[', ']', '?', '&']

theorem typeSigns_subset_signs : typeSigns ⊆ signs := List.forall_iff_forall_mem.1 (by decide)

inductive TypePiece where
  | word (name : Name)
  | sign (c : Char) (known : c ∈ typeSigns)

def TypePiece.lexeme : TypePiece → Lexeme
  | word name => .word name
  | sign c known => .sign c (typeSigns_subset_signs known)

structure Parameter where
  notes : List Note
  type : List TypePiece
  name : Name

def Parameter.lexemes (p : Parameter) : List Lexeme :=
  p.notes.flatMap Note.lexemes ++ p.type.map TypePiece.lexeme ++ [.word p.name]

/-- The name of a method; statements start with the others. -/
structure MethodName where
  name : Name
  free : name.text ∉ Pattern.reservedNames

inductive Outline where
  | method (notes : List Note) (modifiers : List Modifier) (name : MethodName)
      (parameters : List Parameter) (body : Option Block)
  | type (notes : List Note) (modifiers : List Modifier) (kind : TypeKind) (name : Name)
      (members : List Outline)

namespace Outline

def isType : Outline → Bool
  | method .. => false
  | type .. => true

/-- Annotations, modifiers and two words, which all declarations start with. -/
def opening (notes : List Note) (modifiers : List Modifier) (keyword name : Name) : List Lexeme :=
  notes.flatMap Note.lexemes ++ modifiers.map (fun m => .word m.word) ++ [.word keyword, .word name]

theorem opening_eq (notes : List Note) (modifiers : List Modifier) (keyword name : Name) :
    opening notes modifiers keyword name =
      notes.flatMap Note.lexemes ++ (modifiers.map Modifier.word ++ [keyword, name]).map .word := by
  simp [opening]

def parameterLexemes (parameters : List Parameter) : List Lexeme :=
  .sign '(' :: listed (parameters.map Parameter.lexemes) ++ [.sign ')']

def bodyLexeme : Option Block → Lexeme
  | none => .sign ';'
  | some b => .block b

mutual

def lexemes : Outline → List Lexeme
  | method notes modifiers name parameters body =>
    opening notes modifiers voidWord name.name ++ parameterLexemes parameters ++ [bodyLexeme body]
  | type notes modifiers kind name members =>
    opening notes modifiers kind.word name ++ .sign '{' :: lexemesOfAll members ++ [.sign '}']

def lexemesOfAll : List Outline → List Lexeme
  | [] => []
  | o :: os => o.lexemes ++ lexemesOfAll os

end

mutual

/-- What a reader should find. -/
def declared : Outline → Declaration
  | method notes _ name _ _ => .method name.name.text (notes.map Note.annotation) none
  | type notes _ kind name members =>
    .type kind name.text (notes.map Note.annotation) (declaredAll members) none

def declaredAll : List Outline → List Declaration
  | [] => []
  | o :: os => o.declared :: declaredAll os

end

theorem declaredAll_eq_map (os : List Outline) : declaredAll os = os.map declared := by
  induction os with
  | nil => rfl
  | cons o os ih => rw [declaredAll, ih, List.map_cons]

end Outline

end EndpointIndex
