/-!
# Blank characters

The characters that separate words, and trimming a text of them. Main facts: a trimmed text does not
start with a blank (`isBlank_head_trimLeft`), trimming twice is trimming once (`trim_trim`), and nothing
is left of blanks alone (`trim_eq_nil_iff`).
-/

namespace EndpointIndex.Text

/-- Tab to carriage return, the four information separators, space, next line, and the space,
line and paragraph separators of Unicode. -/
def isBlank (c : Char) : Bool :=
  let n := c.toNat
  (9 ≤ n && n ≤ 13) || (28 ≤ n && n ≤ 32) || n == 0x85 || n == 0xA0 || n == 0x1680 ||
    (0x2000 ≤ n && n ≤ 0x200A) || n == 0x2028 || n == 0x2029 || n == 0x202F || n == 0x205F ||
    n == 0x3000

def trimLeft (s : List Char) : List Char := s.dropWhile isBlank

def trimRight (s : List Char) : List Char := (s.reverse.dropWhile isBlank).reverse

def trim (s : List Char) : List Char := trimRight (trimLeft s)

def strip (s : String) : String := String.ofList (trim s.toList)

/-- The words of a text; `word` holds the current one in reverse. -/
def wordsAfter (word : List Char) : List Char → List (List Char)
  | [] => if word.isEmpty then [] else [word.reverse]
  | c :: r =>
    if isBlank c then
      if word.isEmpty then wordsAfter [] r else word.reverse :: wordsAfter [] r
    else wordsAfter (c :: word) r

/-- The stretches between blanks. -/
def words (s : List Char) : List (List Char) := wordsAfter [] s

theorem isBlank_head_trimLeft {s r : List Char} {c : Char} (h : trimLeft s = c :: r) :
    isBlank c = false := by
  induction s with
  | nil => simp [trimLeft] at h
  | cons d t ih =>
    simp only [trimLeft, List.dropWhile_cons] at h
    split at h
    · exact ih h
    · simp_all

theorem trimLeft_eq_self {s : List Char} (h : ∀ c r, s = c :: r → isBlank c = false) :
    trimLeft s = s := by
  cases s with
  | nil => rfl
  | cons c r => simp [trimLeft, h c r rfl]

theorem trimLeft_trimLeft (s : List Char) : trimLeft (trimLeft s) = trimLeft s :=
  trimLeft_eq_self fun _ _ h => isBlank_head_trimLeft h

theorem trimRight_trimRight (s : List Char) : trimRight (trimRight s) = trimRight s := by
  simp only [trimRight, List.reverse_reverse]
  exact congrArg List.reverse (trimLeft_trimLeft s.reverse)

theorem trimRight_isPrefix (s : List Char) : trimRight s <+: s := by
  rw [← List.reverse_suffix]
  simpa [trimRight] using List.dropWhile_suffix (l := s.reverse) isBlank

theorem trim_trim (s : List Char) : trim (trim s) = trim s := by
  have hleft : trimLeft (trim s) = trim s := by
    refine trimLeft_eq_self fun c r h => ?_
    obtain ⟨t, ht⟩ := trimRight_isPrefix (trimLeft s)
    rw [show trimRight (trimLeft s) = c :: r from h] at ht
    exact isBlank_head_trimLeft ht.symm
  rw [trim, hleft, trim, trimRight_trimRight]

theorem trim_isInfix (s : List Char) : trim s <:+: s :=
  (trimRight_isPrefix (trimLeft s)).isInfix.trans (List.dropWhile_suffix isBlank).isInfix

theorem trimLeft_eq_nil_iff {s : List Char} : trimLeft s = [] ↔ ∀ c ∈ s, isBlank c = true := by
  induction s with
  | nil => simp [trimLeft]
  | cons c r ih =>
    rw [trimLeft, List.dropWhile_cons, List.forall_mem_cons]
    split
    · rename_i hc
      rw [← trimLeft, ih]
      simp [hc]
    · rename_i hc
      simp [hc]

theorem trimRight_eq_nil_iff {s : List Char} : trimRight s = [] ↔ ∀ c ∈ s, isBlank c = true := by
  rw [trimRight, ← trimLeft, List.reverse_eq_nil_iff, trimLeft_eq_nil_iff]
  simp only [List.mem_reverse]

theorem trimRight_eq_self_iff {s : List Char} :
    trimRight s = s ↔ ∀ c, s.getLast? = some c → isBlank c = false := by
  rw [trimRight, ← trimLeft, List.reverse_eq_iff, ← List.head?_reverse]
  constructor
  · intro h c hc
    obtain ⟨r, hr⟩ := List.head?_eq_some_iff.1 hc
    exact isBlank_head_trimLeft (h.trans hr)
  · exact fun h => trimLeft_eq_self fun c r hr => h c (by rw [hr]; rfl)

/-- Only of blanks is nothing left. -/
theorem trim_eq_nil_iff {s : List Char} : trim s = [] ↔ ∀ c ∈ s, isBlank c = true := by
  rw [trim, trimRight_eq_nil_iff]
  constructor
  · intro h
    cases hs : trimLeft s with
    | nil => exact trimLeft_eq_nil_iff.1 hs
    | cons c r =>
      rw [hs] at h
      have hblank := h c List.mem_cons_self
      rw [isBlank_head_trimLeft hs] at hblank
      cases hblank
  · exact fun h c hc => h c ((List.dropWhile_suffix isBlank).subset hc)

end EndpointIndex.Text
