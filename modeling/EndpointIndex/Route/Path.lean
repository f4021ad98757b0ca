import EndpointIndex.Text.Blank

/-!
# Route paths

A route is put together from the path of a type and the path of a method. `join` normalises the
slashes at the seams and starts the result with one; `raw` only concatenates. Main facts: a route is
empty only when no segment takes part in it (`joinParts_eq_nil_iff`), and a missing segment counts as a
blank one (`join_none`).
-/

namespace EndpointIndex.Route

def startsWithSlash (s : List Char) : Bool := s.head? == some '/'

def endsWithSlash (s : List Char) : Bool := s.getLast? == some '/'

/-- Without its first character, when that is a slash. -/
def dropLeadingSlash : List Char → List Char
  | '/' :: r => r
  | s => s

/-- Without its last character, when that is a slash and not the whole path. -/
def dropTrailingSlash (s : List Char) : List Char :=
  if endsWithSlash s && 1 < s.length then s.dropLast else s

/-- Extends a path by one segment. The slash at either side of the seam is trimmed once; one is put
back unless a side is empty or still has one there. -/
def extend (joined segment : List Char) : List Char :=
  let left := dropTrailingSlash joined
  let right := dropTrailingSlash (dropLeadingSlash segment)
  if !left.isEmpty && !right.isEmpty && !endsWithSlash left && !startsWithSlash right then
    left ++ '/' :: right
  else left ++ right

def withLeadingSlash (s : List Char) : List Char :=
  if startsWithSlash s then s else '/' :: s

/-- Joins trimmed segments, the empty ones already left out. -/
def joinParts : List (List Char) → List Char
  | [] => []
  | first :: rest => withLeadingSlash (rest.foldl extend first)

/-- The segments that take part in a route: trimmed, and not empty. -/
def parts (segments : List (Option String)) : List (List Char) :=
  (segments.map fun s => Text.trim (s.getD "").toList).filter fun s => !s.isEmpty

def joinChars (segments : List (Option String)) : List Char := joinParts (parts segments)

def join (segments : List (Option String)) : String := String.ofList (joinChars segments)

/-- The two paths as written, with a slash between them where the second brings none. -/
def raw (typePath methodPath : String) : String :=
  if methodPath.isEmpty then typePath
  else if typePath.isEmpty then methodPath
  else if startsWithSlash methodPath.toList then typePath ++ methodPath
  else typePath ++ "/" ++ methodPath

/-- The non-empty pieces between slashes. -/
def components (s : List Char) : List (List Char) :=
  (s.splitOn '/').filter fun p => !p.isEmpty

theorem startsWithSlash_withLeadingSlash (s : List Char) :
    startsWithSlash (withLeadingSlash s) = true := by
  unfold withLeadingSlash
  split
  · assumption
  · rfl

theorem joinParts_eq_nil_iff (ps : List (List Char)) : joinParts ps = [] ↔ ps = [] := by
  cases ps with
  | nil => simp [joinParts]
  | cons p ps =>
    have h := startsWithSlash_withLeadingSlash (ps.foldl extend p)
    simp only [joinParts, reduceCtorEq, iff_false]
    intro hnil
    simp [hnil, startsWithSlash] at h

theorem join_none (segments : List (Option String)) :
    join (none :: segments) = join segments := by
  simp [join, joinChars, parts, Text.trim, Text.trimLeft, Text.trimRight]

end EndpointIndex.Route
