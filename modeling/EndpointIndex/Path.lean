/-!
# Paths

Paths as they are written, without looking at a file system. Repeated slashes and single dots carry
nothing; a double dot is kept, because what it leads to depends on links.
-/

namespace EndpointIndex

/-- Where a path starts. Exactly two slashes are kept apart from one. -/
inductive Anchor where
  | relative
  | root
  | doubleRoot
  deriving DecidableEq, Repr

def Anchor.text : Anchor → String
  | relative => ""
  | root => "/"
  | doubleRoot => "//"

structure Path where
  anchor : Anchor
  parts : List String
  deriving DecidableEq, Repr

namespace Path

/-- The stretches between slashes; `part` holds the current one in reverse. -/
def splitSlashes (part : List Char) : List Char → List String
  | [] => [String.ofList part.reverse]
  | c :: r =>
    if c = '/' then String.ofList part.reverse :: splitSlashes [] r else splitSlashes (c :: part) r

/-- The names in a text that slashes divide. -/
def names (text : List Char) : List String :=
  (splitSlashes [] text).filter fun name => name ≠ "" && name ≠ "."

def anchorOf (text : List Char) : Anchor :=
  match (text.takeWhile (· = '/')).length with
  | 0 => .relative
  | 2 => .doubleRoot
  | _ => .root

def ofString (text : String) : Path := ⟨anchorOf text.toList, names text.toList⟩

def toString (p : Path) : String :=
  match p.anchor, p.parts with
  | .relative, [] => "."
  | a, parts => a.text ++ String.intercalate "/" parts

/-- A path taken from another one; an anchored path does not depend on where it is taken from. -/
def join (base p : Path) : Path :=
  match p.anchor with
  | .relative => ⟨base.anchor, base.parts ++ p.parts⟩
  | _ => p

/-- A path whose first name is a tilde starts at the home directory, if that is known. Other homes are
not. -/
def expandHome? (home : Option Path) (p : Path) : Option Path :=
  match p.anchor, p.parts with
  | .relative, name :: rest =>
    match name.toList with
    | ['~'] => home.map (·.join ⟨.relative, rest⟩)
    | '~' :: _ => none
    | _ => some p
  | _, _ => some p

/-- The last name. -/
def name (p : Path) : String := p.parts.getLast?.getD ""

def parent (p : Path) : Path := ⟨p.anchor, p.parts.dropLast⟩

/-- Something appended to the last name. -/
def addSuffix (p : Path) (suffix : String) : Path :=
  ⟨p.anchor, p.parts.dropLast ++ [p.name ++ suffix]⟩

/-- What remains of a path below another one. -/
def below? (p base : Path) : Option Path :=
  if p.anchor = base.anchor && base.parts.isPrefixOf p.parts then
    some ⟨.relative, p.parts.drop base.parts.length⟩
  else none

end Path

end EndpointIndex
