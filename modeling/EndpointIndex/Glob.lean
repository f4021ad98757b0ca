/-!
# Globs

Patterns for paths: a star stands for any characters, slashes and line ends included, a question mark
for one, and square brackets for one of a set. A leading `**/` may also stand for nothing.
-/

namespace EndpointIndex.Glob

/-! ## Sets of characters -/

/-- A set: the characters, the ranges with both ends, and whether all others are meant. -/
structure CharSet where
  negated : Bool
  singles : List Char
  ranges : List (Char × Char)
  deriving Repr

def CharSet.contains (s : CharSet) (c : Char) : Bool :=
  (s.singles.contains c || s.ranges.any fun r => r.1 ≤ c && c ≤ r.2) != s.negated

/-- Cuts the inside of brackets at the hyphens that make ranges. A hyphen at the start of the inside
makes none, nor does one that stands second in a later stretch; a last one is a character. `piece`
holds the current stretch in reverse. -/
def chunks (piece : List Char) : List Char → List (List Char)
  | [] => [piece.reverse]
  | '-' :: r =>
    if piece = [] then chunks ['-'] r
    else
      match r with
      | [] => [('-' :: piece).reverse]
      | [c] => [piece.reverse, [c]]
      | c :: d :: r' => piece.reverse :: chunks [d, c] r'
  | c :: r => chunks (c :: piece) r

/-- Joins two stretches whose range would be empty; the ends of the range disappear. -/
def dropEmptyRange (left : List Char) : List (List Char) → List (List Char)
  | [] => [left]
  | right :: rest =>
    match left.getLast?, right.head? with
    | some a, some b => if b < a then (left.dropLast ++ right.drop 1) :: rest else left :: right :: rest
    | _, _ => left :: right :: rest

def dropEmptyRanges : List (List Char) → List (List Char)
  | [] => []
  | left :: rest => dropEmptyRange left (dropEmptyRanges rest)

/-- The ranges between stretches. -/
def rangesOf : List (List Char) → List (Char × Char)
  | left :: right :: rest =>
    match left.getLast?, right.head? with
    | some a, some b => (a, b) :: rangesOf (right :: rest)
    | _, _ => rangesOf (right :: rest)
  | _ => []

/-! ## Items of a pattern -/

inductive Item where
  | star
  | anyChar
  | literal (c : Char)
  | set (s : CharSet)
  deriving Repr

/-- The item for the inside of brackets. The mark of negation is what the inside starts with once
empty ranges are gone; the set of no characters matches nothing. -/
def bracketItem (inside : List Char) : Item :=
  let stretches :=
    match inside with
    | '!' :: r =>
      -- a hyphen right after the mark counts as one at the start
      match chunks [] r with
      | first :: rest => dropEmptyRanges (('!' :: first) :: rest)
      | [] => [['!']]
    | _ => dropEmptyRanges (chunks [] inside)
  match stretches with
  | ('!' :: first) :: rest =>
    -- the hyphen between the stretches has nothing to reach from behind the bare mark
    let bare := if first = [] ∧ rest ≠ [] then ['-'] else []
    .set ⟨true, bare ++ first ++ rest.flatten, rangesOf (first :: rest)⟩
  | all => .set ⟨false, all.flatten, rangesOf all⟩

/-- The head of the inside of brackets that closes nothing: the mark of negation and a closing
bracket that stands first. -/
def bracketHead : List Char → List Char × List Char
  | '!' :: ']' :: r => (['!', ']'], r)
  | '!' :: r => (['!'], r)
  | ']' :: r => ([']'], r)
  | r => ([], r)

/-- The inside of brackets and what follows them, given the text after the opening one. -/
def bracket? (s : List Char) : Option (List Char × List Char) :=
  let (head, r) := bracketHead s
  match r.dropWhile (· ≠ ']') with
  | _ :: rest => some (head ++ r.takeWhile (· ≠ ']'), rest)
  | [] => none

theorem length_bracketHead (s : List Char) : (bracketHead s).2.length ≤ s.length := by
  unfold bracketHead
  split
  · simp only [List.length_cons]
    omega
  · simp only [List.length_cons]
    omega
  · simp only [List.length_cons]
    omega
  · exact Nat.le_refl _

theorem length_bracket? {s inside rest : List Char} (h : bracket? s = some (inside, rest)) :
    rest.length < s.length := by
  simp only [bracket?] at h
  split at h
  · rename_i c t hd
    simp only [Option.some.injEq, Prod.mk.injEq] at h
    obtain ⟨-, rfl⟩ := h
    have hdrop := (List.dropWhile_suffix (l := (bracketHead s).2) (· ≠ ']')).length_le
    have hhead := length_bracketHead s
    rw [hd, List.length_cons] at hdrop
    omega
  · simp at h

/-- The items of a pattern. Several stars in a row are one. -/
def items (p : List Char) : List Item :=
  match p with
  | [] => []
  | c :: r =>
    if c = '*' then
      match items r with
      | .star :: rest => .star :: rest
      | rest => .star :: rest
    else if c = '?' then .anyChar :: items r
    else if c = '[' then
      match _h : bracket? r with
      | some (inside, rest) => bracketItem inside :: items rest
      | none => .literal '[' :: items r
    else .literal c :: items r
termination_by p.length
decreasing_by
  all_goals simp only [List.length_cons]
  · omega
  · omega
  · have := length_bracket? _h; omega
  · omega
  · omega

/-! ## Matching -/

def Item.admits : Item → Char → Bool
  | .star, _ => true
  | .anyChar, _ => true
  | .literal d, c => c == d
  | .set s, c => s.contains c

/-- Whether items match a whole text. -/
def matchItems : List Item → List Char → Bool
  | [], s => s.isEmpty
  | .star :: p, [] => matchItems p []
  | .star :: p, c :: r => matchItems p (c :: r) || matchItems (.star :: p) r
  | _ :: _, [] => false
  | item :: p, c :: r => item.admits c && matchItems p r

/-- Whether a pattern matches a whole text. -/
def matchesText (pattern text : String) : Bool := matchItems (items pattern.toList) text.toList

/-- The mark of any directories at the start of a pattern. -/
def anyDirectories : List Char := ['*', '*', '/']

/-- Whether a pattern matches a relative path. -/
def matchesPath (pattern path : String) : Bool :=
  matchesText pattern path ||
    (anyDirectories.isPrefixOf pattern.toList &&
      matchItems (items (pattern.toList.drop anyDirectories.length)) path.toList)

end EndpointIndex.Glob
