import EndpointIndex.Text.Numeral

/-!
# Unicode escapes

Before a Java source is cut into tokens, every `\u` followed by four hexadecimal digits is replaced
by the unit of UTF-16 that they spell. A backslash takes the character after it along, so an escaped
backslash starts no escape. Main fact: a text without any `\u` is left as it is
(`expandUnits?_of_no_escape`).
-/

namespace EndpointIndex.Java

/-- A unit spelled by at most four characters. -/
def escapedUnit? (digits : List Char) : Option Nat :=
  match Text.readInt? 16 digits with
  | some (.ofNat n) => some n
  | _ => none

/-- The digits of an escape and what follows, after its first `u`; more of these may stand there. -/
def afterMarks (s : List Char) : List Char := s.dropWhile (· = 'u')

theorem length_afterMarks_le (s : List Char) : (afterMarks s).length ≤ s.length :=
  (List.dropWhile_suffix _).length_le

def codePoints (s : List Char) : List Nat := s.map Char.toNat

/-- Code points after the replacement of escapes, surrogates among them. `since` is the text since
the last escape, in reverse: an escape that the end of the text cuts off repeats it. -/
def expandUnits? (since : List Char) (s : List Char) : Option (List Nat) :=
  match s with
  | [] => some (codePoints since.reverse)
  | ['\\'] => some (codePoints ('\\' :: since).reverse)
  | '\\' :: 'u' :: r =>
    if (afterMarks r).isEmpty then
      some (codePoints (since.reverse ++ since.reverse ++ '\\' :: 'u' :: r))
    else
      match escapedUnit? ((afterMarks r).take 4) with
      | none => none
      | some n =>
        (expandUnits? [] ((afterMarks r).drop 4)).map fun rest =>
          codePoints since.reverse ++ n :: rest
  | '\\' :: d :: r => expandUnits? (d :: '\\' :: since) r
  | c :: r => expandUnits? (c :: since) r
termination_by s.length
decreasing_by
  · have := length_afterMarks_le r
    simp only [List.length_drop, List.length_cons]
    omega
  · simp only [List.length_cons]; omega
  · simp only [List.length_cons]; omega

def isHigh (n : Nat) : Bool := 0xD800 ≤ n && n < 0xDC00

def isLow (n : Nat) : Bool := 0xDC00 ≤ n && n < 0xE000

/-- Surrogate pairs become one character; half a pair becomes the replacement character. -/
def pairUnits : List Nat → List Char
  | [] => []
  | [n] => [if isHigh n || isLow n then '\uFFFD' else Char.ofNat n]
  | n :: m :: r =>
    if isHigh n && isLow m then
      Char.ofNat (0x10000 + (n - 0xD800) * 1024 + (m - 0xDC00)) :: pairUnits r
    else (if isHigh n || isLow n then '\uFFFD' else Char.ofNat n) :: pairUnits (m :: r)

/-- The text with its escapes replaced; none if an escape is malformed. -/
def expand? (text : List Char) : Option (List Char) := (expandUnits? [] text).map pairUnits

theorem expandUnits?_of_no_escape {s since : List Char} (h : ¬ ['\\', 'u'] <:+: s) :
    expandUnits? since s = some (codePoints (since.reverse ++ s)) := by
  fun_induction expandUnits? since s with
  | case1 => simp
  | case2 => simp
  | case3 since r => exact absurd (List.prefix_append ['\\', 'u'] r).isInfix h
  | case4 since r => exact absurd (List.prefix_append ['\\', 'u'] r).isInfix h
  | case5 since r => exact absurd (List.prefix_append ['\\', 'u'] r).isInfix h
  | case6 since d r _ ih =>
    have hr := (List.suffix_append ['\\', d] r).isInfix
    rw [ih fun hin => h (hin.trans hr)]
    simp
  | case7 since c r _ _ _ ih =>
    rw [ih fun hin => h (hin.trans (List.suffix_cons c r).isInfix)]
    simp

end EndpointIndex.Java
