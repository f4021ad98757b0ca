import EndpointIndex.Number.Round

/-!
# Widths of columns

How columns are narrowed until they fit side by side. First the widest of those whose text can be
broken are brought down to the next widest, and so on; if that is not enough, all columns give way
in equal parts. Main facts: columns for which there is room stay as they are (`fit_of_le`), and none is
lost (`length_fit`).
-/

namespace EndpointIndex.Console

/-- A column on its way to its width. -/
structure Column where
  width : Nat
  /-- Whether its text can be broken. -/
  wraps : Bool
  deriving DecidableEq, Repr

namespace Column

/-- Takes `amount` from columns in equal parts, but from none more than `limit` says; `parts` columns
with a limit above zero are left. -/
def reduce (limit : Column → Nat) (amount parts : Nat) : List Column → List Column
  | [] => []
  | c :: rest =>
    if limit c = 0 then c :: reduce limit amount parts rest
    else
      let taken := min (limit c) (roundDiv amount parts)
      { c with width := c.width - taken } :: reduce limit (amount - taken) (parts - 1) rest

def reduceBy (limit : Column → Nat) (amount : Nat) (columns : List Column) : List Column :=
  reduce limit amount (columns.countP (limit · ≠ 0)) columns

def total (columns : List Column) : Nat := columns.foldr (fun c n => c.width + n) 0

/-- The width of the widest column that can be broken. -/
def widest (columns : List Column) : Nat :=
  ((columns.filter wraps).map width).foldl max 0

/-- The width that the widest columns come down to at most. -/
def secondWidest (columns : List Column) : Nat :=
  widest (columns.filter (·.width ≠ widest columns))

/-- How much one step of narrowing may take from a column. -/
def stepLimit (columns : List Column) (excess : Nat) (c : Column) : Nat :=
  if c.wraps && c.width == widest columns then
    min excess (widest columns - secondWidest columns)
  else 0

/-- Brings the widest columns that can be broken down, at most `fuel` times. -/
def collapse (room : Nat) : Nat → List Column → List Column
  | 0, columns => columns
  | fuel + 1, columns =>
    let excess := total columns - room
    if excess = 0 || widest columns = 0 then columns
    else collapse room fuel (reduceBy (stepLimit columns excess) excess columns)

/-- The columns brought down to the room there is. Each step takes something away, so that there are
no more of them than there is to take away. -/
def fit (room : Nat) (columns : List Column) : List Column :=
  let columns := collapse room (total columns - room) columns
  reduceBy width (total columns - room) columns

/-! Narrowing keeps the columns and widens none. -/

theorem length_reduce (limit : Column → Nat) (amount parts : Nat) (columns : List Column) :
    (reduce limit amount parts columns).length = columns.length := by
  induction columns generalizing amount parts with
  | nil => rfl
  | cons c rest ih =>
    rw [reduce]
    split <;> simp [ih]

theorem length_collapse (room fuel : Nat) (columns : List Column) :
    (collapse room fuel columns).length = columns.length := by
  induction fuel generalizing columns with
  | zero => rfl
  | succ fuel ih =>
    simp only [collapse]
    split
    · rfl
    · rw [ih, reduceBy, length_reduce]

theorem length_fit (room : Nat) (columns : List Column) :
    (fit room columns).length = columns.length := by
  rw [fit, reduceBy, length_reduce, length_collapse]

theorem reduceBy_zero (limit : Column → Nat) (columns : List Column) :
    reduceBy limit 0 columns = columns := by
  suffices h : ∀ parts, reduce limit 0 parts columns = columns from h _
  induction columns with
  | nil => intro; rfl
  | cons c rest ih =>
    intro parts
    have hz : roundDiv 0 parts = 0 := by cases parts <;> simp [roundDiv]
    simp [reduce, hz, ih]

/-- Columns for which there is room stay as they are. -/
theorem fit_of_le {room : Nat} {columns : List Column} (h : total columns ≤ room) :
    fit room columns = columns := by
  have hz : total columns - room = 0 := by omega
  rw [fit, hz, collapse, hz, reduceBy_zero]

end Column

end EndpointIndex.Console
