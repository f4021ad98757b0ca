/-!
# Positions in a source text

Offsets count characters from zero; lines and columns count from one, and only a line feed ends a
line. A `LineTable` converts between the two.
-/

namespace EndpointIndex.Source

structure Position where
  line : Nat
  column : Nat
  deriving DecidableEq, Repr

/-- The first and the last character of a stretch of source. -/
structure Span where
  startLine : Int
  startColumn : Int
  endLine : Int
  endColumn : Int
  deriving DecidableEq, Repr

/-- The offsets at which the lines of a text start, in order, and the length of the text. -/
structure LineTable where
  starts : List Nat
  size : Nat

/-- The offset after every line feed of a text that begins at offset `k`. -/
def lineStartsFrom (k : Nat) : List Char → List Nat
  | [] => []
  | c :: r => if c = '\n' then (k + 1) :: lineStartsFrom (k + 1) r else lineStartsFrom (k + 1) r

def LineTable.ofText (text : List Char) : LineTable :=
  { starts := 0 :: lineStartsFrom 0 text, size := text.length }

/-- The offset itself, or the end of the text that it lies beyond. -/
def LineTable.clamp (t : LineTable) (offset : Int) : Nat :=
  min offset.toNat t.size

/-- Line and column of an offset. An offset outside the text has the position of the nearest end. -/
def LineTable.position (t : LineTable) (offset : Int) : Position :=
  let o := t.clamp offset
  let before := t.starts.takeWhile (· ≤ o)
  { line := before.length, column := o - before.getLastD 0 + 1 }

/-- The offset at which a line starts: 0 below the first line, the length beyond the last. -/
def LineTable.lineStart (t : LineTable) (line : Int) : Nat :=
  if line < 1 then 0 else t.starts.getD (line.toNat - 1) t.size

/-- The span of the characters from `start` up to, and not including, `stop`; at least one. -/
def LineTable.span (t : LineTable) (start stop : Int) : Span :=
  let first := t.position start
  let last := t.position (max start (stop - 1))
  ⟨first.line, first.column, last.line, last.column⟩

theorem length_lineStartsFrom (k : Nat) (text : List Char) :
    (lineStartsFrom k text).length = text.count '\n' := by
  induction text generalizing k with
  | nil => rfl
  | cons c r ih =>
    by_cases h : c = '\n' <;> simp [lineStartsFrom, h, ih]

theorem lt_of_mem_lineStartsFrom {k s : Nat} {text : List Char}
    (h : s ∈ lineStartsFrom k text) : k < s ∧ s ≤ k + text.length := by
  induction text generalizing k with
  | nil => simp [lineStartsFrom] at h
  | cons c r ih =>
    simp only [lineStartsFrom] at h
    simp only [List.length_cons]
    split at h
    · rcases List.mem_cons.1 h with rfl | h
      · omega
      · have := ih h; omega
    · have := ih h; omega

end EndpointIndex.Source
