import EndpointIndex.Text.Blank
import EndpointIndex.Text.Width

/-!
# Lines of a text

How a text is laid out in lines of a given width. Line feeds end a line, tabs run to the next stop,
and a line that is too long is broken between words. A word that is too long for any line is folded
over several, or else cut off with an ellipsis. Main facts: the words of a text, taken with their
blanks, are the text (`flatten_spacedWords`), and a text without tabs is left alone
(`expandTabs_of_no_tab`).
-/

namespace EndpointIndex.Console

/-! ## Lines and tabs -/

/-- The stretches between the characters that `ends` marks; `line` holds the current one in
reverse. -/
def splitAfter (ends : Char → Bool) (line : List Char) : List Char → List (List Char)
  | [] => [line.reverse]
  | c :: r =>
    if ends c then line.reverse :: splitAfter ends [] r else splitAfter ends (c :: line) r

/-- The stretches between line feeds. -/
def lines (s : List Char) : List (List Char) := splitAfter (· = '\n') [] s

/-- The characters that end a line where the widest line of a text is measured. -/
def isLineBoundary (c : Char) : Bool :=
  (10 ≤ c.toNat && c.toNat ≤ 13) || (28 ≤ c.toNat && c.toNat ≤ 30) || c.toNat = 0x85
    || c.toNat = 0x2028 || c.toNat = 0x2029

/-- The width of the widest line. -/
def naturalWidth (s : List Char) : Nat :=
  ((splitAfter isLineBoundary [] s).map Text.width).foldl max 0

/-- How far apart the stops of a tab are. -/
def tabSize : Nat := 8

/-- A line with blanks up to the next stop for each tab. The stretch since the last stop, at
`column`, is held in reverse by `part`. -/
def expandTabsAfter (column : Nat) (part : List Char) : List Char → List Char
  | [] => part.reverse
  | c :: r =>
    if c = '\t' then
      let reached := column + Text.width (part.reverse ++ [' '])
      let gap := (tabSize - reached % tabSize) % tabSize
      part.reverse ++ List.replicate (gap + 1) ' ' ++ expandTabsAfter (reached + gap) [] r
    else expandTabsAfter column (c :: part) r

def expandTabs (s : List Char) : List Char := expandTabsAfter 0 [] s

theorem expandTabsAfter_of_no_tab {s : List Char} (h : '\t' ∉ s) (column : Nat) (part : List Char) :
    expandTabsAfter column part s = part.reverse ++ s := by
  induction s generalizing part with
  | nil => simp [expandTabsAfter]
  | cons c r ih =>
    have hc : c ≠ '\t' := fun e => h (by simp [e])
    rw [expandTabsAfter, if_neg hc, ih fun e => h (List.mem_cons_of_mem _ e)]
    simp

theorem expandTabs_of_no_tab {s : List Char} (h : '\t' ∉ s) : expandTabs s = s := by
  simp [expandTabs, expandTabsAfter_of_no_tab h]

/-! ## Words -/

def notBlank (c : Char) : Bool := !Text.isBlank c

theorem length_dropWhile_le (p : Char → Bool) (s : List Char) : (s.dropWhile p).length ≤ s.length :=
  (List.dropWhile_suffix p).length_le

/-- The words of a text with the blanks around them: those before the first word belong to it, and
those after a word to that word. A text of blanks has none. -/
def spacedWords (s : List Char) : List (List Char) :=
  match _h : s.dropWhile Text.isBlank with
  | [] => []
  | c :: r =>
    let rest := r.dropWhile notBlank
    (s.takeWhile Text.isBlank ++ c :: r.takeWhile notBlank ++ rest.takeWhile Text.isBlank)
      :: spacedWords (rest.dropWhile Text.isBlank)
termination_by s.length
decreasing_by
  have h1 := length_dropWhile_le Text.isBlank s
  have h2 := length_dropWhile_le notBlank r
  have h3 := length_dropWhile_le Text.isBlank (r.dropWhile notBlank)
  rw [_h, List.length_cons] at h1
  omega

theorem dropWhile_isBlank_idem (s : List Char) :
    (s.dropWhile Text.isBlank).dropWhile Text.isBlank = s.dropWhile Text.isBlank :=
  Text.trimLeft_trimLeft s

/-- Words and blanks together make up the text, unless it is blank. -/
theorem flatten_spacedWords {s : List Char} (h : s.dropWhile Text.isBlank ≠ []) :
    (spacedWords s).flatten = s := by
  fun_induction spacedWords s with
  | case1 s hs => exact absurd hs h
  | case2 s c r hs rest ih =>
    have hrest : (spacedWords (rest.dropWhile Text.isBlank)).flatten
        = rest.dropWhile Text.isBlank := by
      by_cases ht : rest.dropWhile Text.isBlank = []
      · rw [ht, spacedWords]
        rfl
      · exact ih (by rwa [dropWhile_isBlank_idem])
    rw [List.flatten_cons, hrest]
    calc
      _ = s.takeWhile Text.isBlank ++ c :: (r.takeWhile notBlank
            ++ (rest.takeWhile Text.isBlank ++ rest.dropWhile Text.isBlank)) := by simp
      _ = s.takeWhile Text.isBlank ++ c :: r := by
        rw [List.takeWhile_append_dropWhile, List.takeWhile_append_dropWhile]
      _ = s := by rw [← hs, List.takeWhile_append_dropWhile]

/-- What becomes of a line that is too wide. -/
inductive Overflow where
  /-- A long word runs on in the next lines. -/
  | fold
  /-- The end is cut off and marked. -/
  | ellipsis
  deriving DecidableEq, Repr

/-- The lines so far, the latest first, and how many cells the latest takes. -/
structure Breaking where
  lines : List (List Char)
  cells : Nat

namespace Breaking

def start : Breaking := ⟨[], 0⟩

/-- Puts a stretch on the latest line. -/
def extend (b : Breaking) (s : List Char) : Breaking :=
  match b.lines with
  | [] => ⟨[s], b.cells + Text.width s⟩
  | l :: before => ⟨(l ++ s) :: before, b.cells + Text.width s⟩

/-- Puts a stretch on a new line. -/
def next (b : Breaking) (s : List Char) : Breaking := ⟨s :: b.lines, Text.width s⟩

/-- Puts a word where it fits. -/
def put (overflow : Overflow) (width : Nat) (b : Breaking) (word : List Char) : Breaking :=
  let size := Text.width (Text.trimRight word)
  if b.cells + size ≤ width then b.extend word
  else if width < size then
    match overflow with
    | .fold => (Text.chop width word).foldl next b
    | .ellipsis => b.next word
  else if b.cells = 0 then b.extend word
  else b.next word

end Breaking

/-- Breaks a line between words where it is wider than `width`. -/
def breakWords (overflow : Overflow) (width : Nat) (s : List Char) : List (List Char) :=
  match spacedWords s with
  | [] => [s]
  | ws => (ws.foldl (Breaking.put overflow width) .start).lines.reverse

/-! ## Layout -/

/-- How the lines of a text are laid out. -/
structure Layout where
  width : Nat
  /-- Whether lines are broken between words. -/
  wraps : Bool
  overflow : Overflow
  /-- Whether lines are filled up with blanks. -/
  fills : Bool
  deriving DecidableEq, Repr

/-- Drops blanks at the end of a line of more characters than its width, down to the width. -/
def dropOverhang (width : Nat) (line : List Char) : List Char :=
  let blanks := line.length - (Text.trimRight line).length
  line.take (line.length - min blanks (line.length - width))

/-- Marks the end of a line that was cut off. -/
def ellipsis : Char := '…'

/-- Cuts a line that is too wide. -/
def cut (overflow : Overflow) (width : Nat) (line : List Char) : List Char :=
  if Text.width line ≤ width then line
  else
    match overflow with
    | .fold => Text.fitCells width line
    | .ellipsis => Text.fitCells (width - 1) line ++ [ellipsis]

def fill (width : Nat) (line : List Char) : List Char :=
  line ++ List.replicate (width - Text.width line) ' '

namespace Layout

/-- The lines of one line of text. -/
def broken (l : Layout) (s : List Char) : List (List Char) :=
  if l.wraps then breakWords l.overflow l.width s else [s]

def finish (l : Layout) (line : List Char) : List Char :=
  let line := cut l.overflow l.width (dropOverhang l.width line)
  if l.fills then fill l.width line else line

/-- The lines in which a text is shown. -/
def lay (l : Layout) (s : List Char) : List (List Char) :=
  (lines s).flatMap fun line => (l.broken (expandTabs line)).map l.finish

end Layout

/-- Lines, each with its end. -/
def endLines (ls : List (List Char)) : List Char := ls.flatMap (· ++ ['\n'])

end EndpointIndex.Console
