import EndpointIndex.Java.Grammar
import EndpointIndex.Reader.Locate
import EndpointIndex.Source.Escape

/-!
# Reading declarations by grammar

The types and methods that the grammar recognises, with the spans at which they are found in the
source. What cannot be found has no span.
-/

namespace EndpointIndex.Structural

open Source Java

/-! ## Values -/

/-- The contents of a string literal. -/
def stringBody? (text : String) : Option (List Char) :=
  match text.toList with
  | '"' :: r => if r.getLast? = some '"' then some r.dropLast else none
  | _ => none

def literalValue (text : String) : Value :=
  match stringBody? text with
  | some body => .literal (String.ofList (unescape body))
  | none => .unresolved text

def nameValue (qualifier : List String) (member : String) : Value :=
  let q := String.intercalate "." qualifier
  .reference (if q.isEmpty then none else some q) member

/-- How braces around nothing are reported where they stand among other values. -/
def emptyArrayText : String := "list"

mutual

def elementValue : Element → Value
  | .literal text => literalValue text
  | .name qualifier member => nameValue qualifier member
  | .array items => .array (elementValues items)
  | .emptyArray => .unresolved emptyArrayText
  | .other shape => .unresolved shape.label

def elementValues : List Element → List Value
  | [] => []
  | e :: es => elementValue e :: elementValues es

end

/-- The unnamed value and the named values of an annotation. Empty braces alone are no value. -/
def argumentValues : Option Arguments → Option Value × List (String × Value)
  | none => (none, [])
  | some (.pairs pairs) => (none, pairs.map fun (k, e) => (k, elementValue e))
  | some (.single .emptyArray) => (none, [])
  | some (.single e) => (some (elementValue e), [])

/-! ## Spans -/

/-- The part of a dotted name after its last dot. -/
def simpleName (name : String) : String :=
  String.ofList (name.toList.reverse.takeWhile (· ≠ '.')).reverse

/-- Locates annotations one after the other before a limit. -/
def locateMarks (lines : LineTable) (limit : Option Nat) : Cursor → List Mark → List Annotation
  | _, [] => []
  | c, m :: ms =>
    let (positional, named) := argumentValues m.arguments
    match findAnnotation? lines (simpleName m.name) c limit with
    | some found =>
      ⟨m.name, positional, named, some found.span⟩ ::
        locateMarks lines limit (c.moveTo (endOffset found)) ms
    -- the next one is searched for from the same place
    | none => ⟨m.name, positional, named, none⟩ :: locateMarks lines limit c ms
where
  /-- The offset at which what was found ends. -/
  endOffset (found : Found) : Nat :=
    match found.after.rest with
    | g :: _ => g.offset
    | [] => limit.getD lines.size

/-- The declaration's annotations, its span, and the place after it. -/
def locate (lines : LineTable) (marks : List Mark) (found : Option Found) (c : Cursor) :
    List Annotation × Option Span × Cursor :=
  match found with
  | some f => (locateMarks lines (some f.start) c marks, some f.span, f.after)
  | none => (locateMarks lines none c marks, none, c)

mutual

/-- Locates a declaration and its members after a place. -/
def declare (lines : LineTable) (c : Cursor) : Java.Node → Declaration × Cursor
  | .method name line marks =>
    let found := findMethod? lines name (c.moveTo (lines.lineStart line))
    -- the annotations stand between the old place and the declaration
    let (annotations, span, after) := locate lines marks found c
    (.method name annotations span, after)
  | .type kind name line marks members =>
    let found := findType? lines kind.keyword name (c.moveTo (lines.lineStart line))
    let (annotations, span, after) := locate lines marks found c
    let (members, after) := declareAll lines after members
    (.type kind name annotations members span, after)

def declareAll (lines : LineTable) (c : Cursor) : List Java.Node → List Declaration × Cursor
  | [] => ([], c)
  | n :: ns =>
    let (d, c) := declare lines c n
    let (ds, c) := declareAll lines c ns
    (d :: ds, c)

end

/-- The types that a source text declares; none if it is no Java. -/
def readTypes? (text : List Char) : Option (List Declaration) :=
  (Java.parse? text).map fun nodes => (declareAll (.ofText text) (.start text) nodes).1

end EndpointIndex.Structural
