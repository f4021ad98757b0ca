import EndpointIndex.Text.Blank
import EndpointIndex.Text.Category

/-!
# Blanks are no part of words

The tables of the character classes that names are made of keep clear of all blanks. Main facts: a
blank neither continues a name (`isNamePart_of_isBlank`) nor an identifier
(`isIdentifierPart_of_isBlank`).
-/

namespace EndpointIndex.Text

/-- The blanks beyond ASCII. -/
def blankRanges : List (Nat × Nat) :=
  [(0x85, 0x85), (0xA0, 0xA0), (0x1680, 0x1680), (0x2000, 0x200A), (0x2028, 0x2029), (0x202F, 0x202F),
   (0x205F, 0x205F), (0x3000, 0x3000)]

/-- The tables that say which characters belong to words. -/
def wordTables : List (Array (Nat × Nat)) :=
  [letterRanges, decimalRanges, letterNumberRanges, otherNumberRanges, connectorRanges, currencyRanges,
   markRanges]

theorem wordTables_clear_of_blanks :
    (wordTables.all fun table => table.toList.all fun r =>
      blankRanges.all fun b => decide (r.2 < b.1) || decide (b.2 < r.1)) = true := by
  decide +kernel

/-- A blank is one of ten ASCII characters or lies in the ranges beyond. -/
theorem isBlank_cases {c : Char} (h : isBlank c = true) :
    (c.toNat ∈ [9, 10, 11, 12, 13, 28, 29, 30, 31, 32]) ∨
      128 ≤ c.toNat ∧ ∃ b ∈ blankRanges, b.1 ≤ c.toNat ∧ c.toNat ≤ b.2 := by
  simp only [isBlank, Bool.or_eq_true, Bool.and_eq_true, decide_eq_true_eq, beq_iff_eq] at h
  by_cases hascii : c.toNat < 128
  · left
    simp only [List.mem_cons, List.not_mem_nil, or_false]
    omega
  · right
    refine ⟨Nat.le_of_not_lt hascii, ?_⟩
    simp only [blankRanges, List.mem_cons, List.not_mem_nil, or_false, exists_eq_or_imp, exists_eq_left]
    omega

theorem inRanges_of_isBlank {table : Array (Nat × Nat)} (htable : table ∈ wordTables) {c : Char}
    {b : Nat × Nat} (hb : b ∈ blankRanges) (hlow : b.1 ≤ c.toNat) (hhigh : c.toNat ≤ b.2) :
    inRanges table c.toNat = false := by
  have hclear := List.all_eq_true.1 wordTables_clear_of_blanks table htable
  rw [inRanges, ← Array.any_toList, List.any_eq_false]
  intro r hr hin
  have hapart := List.all_eq_true.1 (List.all_eq_true.1 hclear r hr) b hb
  simp only [Bool.or_eq_true, Bool.and_eq_true, decide_eq_true_eq] at hapart hin
  omega

/-- A class that is decided by arithmetic below 128 and by the tables above holds no blank. -/
theorem eq_false_of_isBlank {p : Char → Bool}
    (hascii : ([9, 10, 11, 12, 13, 28, 29, 30, 31, 32].all fun n => !p (Char.ofNat n)) = true)
    (hbeyond : ∀ c, 128 ≤ c.toNat → (∀ table ∈ wordTables, inRanges table c.toNat = false) → p c = false)
    {c : Char} (h : isBlank c = true) : p c = false := by
  rcases isBlank_cases h with hc | ⟨hbig, b, hb, hlow, hhigh⟩
  · have hp := List.all_eq_true.1 hascii _ hc
    rw [Char.ofNat_toNat] at hp
    simpa using hp
  · exact hbeyond c hbig fun table htable => inRanges_of_isBlank htable hb hlow hhigh

theorem isNamePart_of_isBlank {c : Char} (h : isBlank c = true) : isNamePart c = false := by
  apply eq_false_of_isBlank (by decide) _ h
  intro c hbig htables
  have hdollar : (c == '$') = false := by
    apply beq_eq_false_iff_ne.2
    rintro rfl
    exact absurd hbig (by decide)
  rw [isNamePart, isWord, if_neg (Nat.not_lt.2 hbig), hdollar, htables _ (by simp [wordTables]),
    htables _ (by simp [wordTables]), htables _ (by simp [wordTables]), htables _ (by simp [wordTables])]
  rfl

theorem isIdentifierPart_of_isBlank {c : Char} (h : isBlank c = true) : isIdentifierPart c = false := by
  apply eq_false_of_isBlank (by decide) _ h
  intro c hbig htables
  rw [isIdentifierPart, isIdentifierStart, isDecimal, if_neg (Nat.not_lt.2 hbig),
    if_neg (Nat.not_lt.2 hbig), htables _ (by simp [wordTables]), htables _ (by simp [wordTables]),
    htables _ (by simp [wordTables]), htables _ (by simp [wordTables]), htables _ (by simp [wordTables]),
    htables _ (by simp [wordTables])]
  simp

theorem isBlank_of_isNamePart {c : Char} (h : isNamePart c = true) : isBlank c = false := by
  cases hblank : isBlank c with
  | false => rfl
  | true =>
    rw [isNamePart_of_isBlank hblank] at h
    cases h

end EndpointIndex.Text
