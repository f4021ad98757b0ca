import EndpointIndex.Proofs.Source.Lexer

/-!
# The units of a text

Masking takes a text apart into units: comments, literals and single characters of code. The masked text
tells where strings are: if a value may start and a quote is the next character that is seen, it opens a
literal. Main fact: what stands between such a quote and the next one, on one line, is in no comment
(`Quoted.not_inComment`).
-/

namespace EndpointIndex.Source

/-- A text begins with a comment. -/
def StartsComment (s : List Char) : Prop := ['/', '/'] <+: s ∨ ['/', '*'] <+: s

/-- An offset of a text lies in one of its comments, delimiters included. -/
inductive InComment : List Char → Nat → Prop
  | here {s : List Char} {i : Nat} : StartsComment s → i < (maskUnit s).1.length → InComment s i
  | later {s : List Char} {i : Nat} :
    s ≠ [] → InComment (maskUnit s).2 i → InComment s ((maskUnit s).1.length + i)

/-- What is left of a text where one of its units starts. -/
inductive UnitStart : List Char → List Char → Prop
  | here (s : List Char) : UnitStart s s
  | later {s t : List Char} : s ≠ [] → UnitStart (maskUnit s).2 t → UnitStart s t

/-- Every string literal of a text is closed on the line on which it is opened. -/
def StringsClosed (text : List Char) : Prop :=
  ∀ r, UnitStart text ('"' :: r) → ¬ ['"', '"'] <+: r →
    (splitLiteral '"' r).2.head? = some '"' ∧ '\n' ∉ (splitLiteral '"' r).1

/-! ## From unit to unit -/

namespace UnitStart

variable {s t u : List Char}

theorem trans (hst : UnitStart s t) (htu : UnitStart t u) : UnitStart s u := by
  induction hst with
  | here => exact htu
  | later hne _ ih => exact .later hne (ih htu)

/-- A text is masked unit by unit. -/
theorem split (h : UnitStart s t) :
    ∃ masked : List Char, mask s = masked ++ mask t ∧ masked.length + t.length = s.length ∧
      ∀ i, InComment s (masked.length + i) ↔ InComment t i := by
  induction h with
  | here s => exact ⟨[], rfl, Nat.zero_add _, fun i => by rw [List.length_nil, Nat.zero_add]⟩
  | @later s t hne _ ih =>
    obtain ⟨masked, hmask, hlength, hcomment⟩ := ih
    refine ⟨(maskUnit s).1 ++ masked, ?_, ?_, fun i => ?_⟩
    · rw [mask_of_ne_nil hne, hmask, List.append_assoc]
    · have hunit := maskUnit_length s
      rw [List.length_append]
      omega
    · -- no comment reaches from the first unit into what follows it
      rw [List.length_append, Nat.add_assoc, ← hcomment]
      refine ⟨fun h => ?_, .later hne⟩
      generalize hj : (maskUnit s).1.length + (masked.length + i) = j at h
      cases h with
      | here _ hlt => omega
      | later _ h =>
        rw [Nat.add_left_cancel hj]
        exact h

end UnitStart

/-! ## Deciding -/

instance (s : List Char) : Decidable (StartsComment s) :=
  inferInstanceAs (Decidable (['/', '/'] <+: s ∨ ['/', '*'] <+: s))

theorem inComment_iff {s : List Char} {i : Nat} :
    InComment s i ↔ s ≠ [] ∧ if i < (maskUnit s).1.length then StartsComment s
      else InComment (maskUnit s).2 (i - (maskUnit s).1.length) := by
  constructor
  · intro h
    cases h with
    | here hopened hi =>
      rw [if_pos hi]
      refine ⟨?_, hopened⟩
      rintro rfl
      exact absurd hopened (by decide)
    | later hne h =>
      rw [if_neg (by omega), Nat.add_sub_cancel_left]
      exact ⟨hne, h⟩
  · rintro ⟨hne, h⟩
    split at h
    · exact .here h ‹_›
    · rename_i hi
      rw [← Nat.add_sub_of_le (Nat.le_of_not_lt hi)]
      exact .later hne h

/-- The string literal with which a text begins, if it begins with one, is closed on its line. -/
def HeadClosed (s : List Char) : Prop :=
  s.head? = some '"' → ¬ ['"', '"'] <+: s.tail →
    (splitLiteral '"' s.tail).2.head? = some '"' ∧ '\n' ∉ (splitLiteral '"' s.tail).1

instance (s : List Char) : Decidable (HeadClosed s) :=
  inferInstanceAs (Decidable (s.head? = some '"' → ¬ ['"', '"'] <+: s.tail → _ ∧ _))

theorem stringsClosed_iff {s : List Char} :
    StringsClosed s ↔ HeadClosed s ∧ (s ≠ [] → StringsClosed (maskUnit s).2) := by
  constructor
  · intro h
    refine ⟨fun hhead hsingle => ?_, fun hne r hr => h r (.later hne hr)⟩
    obtain ⟨r, rfl⟩ := List.head?_eq_some_iff.1 hhead
    exact h r (.here _) hsingle
  · rintro ⟨hhead, hrest⟩ r hr
    generalize hu : '"' :: r = u at hr
    cases hr with
    | here =>
      subst hu
      exact hhead rfl
    | later hne hr =>
      subst hu
      exact hrest hne r hr

/-- Whether an offset is in a comment, for texts of bounded length. -/
def inCommentWithin : Nat → List Char → Nat → Bool
  | 0, _, _ => false
  | n + 1, s, i =>
    !s.isEmpty && if i < (maskUnit s).1.length then decide (StartsComment s)
      else inCommentWithin n (maskUnit s).2 (i - (maskUnit s).1.length)

theorem inCommentWithin_iff {n : Nat} {s : List Char} {i : Nat} (h : s.length ≤ n) :
    inCommentWithin n s i = true ↔ InComment s i := by
  induction n generalizing s i with
  | zero =>
    obtain rfl := List.eq_nil_of_length_eq_zero (Nat.le_zero.1 h)
    rw [inComment_iff]
    simp [inCommentWithin]
  | succ n ih =>
    rw [inComment_iff, inCommentWithin, Bool.and_eq_true, Bool.not_eq_true', List.isEmpty_eq_false_iff]
    refine and_congr_right fun hne => ?_
    have hlt := maskUnit_rest_lt hne
    split
    · exact decide_eq_true_iff
    · exact ih (by omega)

instance (s : List Char) (i : Nat) : Decidable (InComment s i) :=
  decidable_of_iff _ (inCommentWithin_iff (Nat.le_refl s.length))

/-- Whether strings are closed on their lines, for texts of bounded length. -/
def stringsClosedWithin : Nat → List Char → Bool
  | 0, s => decide (HeadClosed s)
  | n + 1, s => decide (HeadClosed s) && (s.isEmpty || stringsClosedWithin n (maskUnit s).2)

theorem stringsClosedWithin_iff {n : Nat} {s : List Char} (h : s.length ≤ n) :
    stringsClosedWithin n s = true ↔ StringsClosed s := by
  induction n generalizing s with
  | zero =>
    obtain rfl := List.eq_nil_of_length_eq_zero (Nat.le_zero.1 h)
    rw [stringsClosed_iff, stringsClosedWithin]
    simp
  | succ n ih =>
    rw [stringsClosed_iff, stringsClosedWithin, Bool.and_eq_true, decide_eq_true_iff, Bool.or_eq_true,
      List.isEmpty_iff]
    refine and_congr_right fun _ => ?_
    by_cases hne : s = []
    · simp [hne]
    · have hlt := maskUnit_rest_lt hne
      simp only [hne, false_or, ne_eq, not_false_eq_true, true_imp_iff]
      exact ih (by omega)

instance (s : List Char) : Decidable (StringsClosed s) :=
  decidable_of_iff _ (stringsClosedWithin_iff (Nat.le_refl s.length))

/-! ## What is seen of a unit -/

theorem splitTextBlock_rest (s : List Char) : ∀ c ∈ (splitTextBlock s).2.take 3, c = '"' := by
  fun_induction splitTextBlock s with
  | case1 r => simp
  | case2 c r hend body rest hsplit ih =>
    rw [hsplit] at ih
    exact ih
  | case3 => simp

theorem maskLiteral_cases (quote : Char) (s : List Char) :
    ∃ w, (maskLiteral quote s).1 = quote :: w ∧ ∀ d ∈ w, Text.isBlank d = true ∨ d = quote := by
  have hblank : ∀ d ∈ (splitLiteral quote s).1.map blankOut, Text.isBlank d = true ∨ d = quote := by
    intro d hd
    obtain ⟨e, -, rfl⟩ := List.mem_map.1 hd
    exact .inl (isBlank_blankOut e)
  rw [maskLiteral]
  split
  · exact ⟨_, rfl, hblank⟩
  · split
    · refine ⟨_, rfl, fun d hd => ?_⟩
      rcases List.mem_append.1 hd with hd | hd
      · exact hblank d hd
      · exact .inr (List.mem_singleton.1 hd)
    · exact ⟨_, rfl, hblank⟩

/-- A unit is blank, or one character, or a quote with nothing after it but blanks and quotes. -/
theorem maskUnit_cases (s : List Char) :
    (∀ d ∈ (maskUnit s).1, Text.isBlank d = true) ∨ (∃ c, (maskUnit s).1 = [c]) ∨
      ∃ quote w, (maskUnit s).1 = quote :: w ∧ (quote = '"' ∨ quote = '\'') ∧
        ∀ d ∈ w, Text.isBlank d = true ∨ d = quote := by
  have hblank (r : List Char) : ∀ d ∈ r.map blankOut, Text.isBlank d = true := by
    intro d hd
    obtain ⟨e, -, rfl⟩ := List.mem_map.1 hd
    exact isBlank_blankOut e
  fun_cases maskUnit s with
  | case1 => exact .inl (by simp)
  | case2 r => exact .inl (hblank _)
  | case3 r body rest hs => exact .inl (hblank _)
  | case4 r body rest hs =>
    have hrest := splitTextBlock_rest r
    rw [hs] at hrest
    refine .inr (.inr ⟨'"', '"' :: '"' :: (body.map blankOut ++ rest.take 3), rfl, .inl rfl, fun d hd => ?_⟩)
    simp only [List.mem_cons, List.mem_append] at hd
    rcases hd with hd | hd | hd | hd
    · exact .inr hd
    · exact .inr hd
    · exact .inl (hblank body d hd)
    · exact .inr (hrest d hd)
  | case5 c r hline hblock htriple hquote =>
    obtain ⟨w, hw, hmem⟩ := maskLiteral_cases c r
    exact .inr (.inr ⟨c, w, hw, by simpa using hquote, hmem⟩)
  | case6 c r => exact .inr (.inl ⟨c, rfl⟩)

/-- A character that starts a value where it is seen in the masked text. -/
def startsValue (c : Char) : Bool := c = '(' || c = ',' || c = '=' || c = '{'

theorem ne_quote_of_startsValue {c : Char} (h : startsValue c = true) :
    Text.isBlank c = false ∧ c ≠ '"' ∧ c ≠ '\'' := by
  simp only [startsValue, Bool.or_eq_true, decide_eq_true_eq] at h
  rcases h with ((rfl | rfl) | rfl) | rfl <;> decide

section

variable {s w w' : List Char} {c : Char}

/-- Every character of a masked text is in a unit. -/
theorem exists_unit (h : mask s = w ++ c :: w') :
    ∃ t v v', UnitStart s t ∧ t ≠ [] ∧ (maskUnit t).1 = v ++ c :: v' ∧ v' ++ mask (maskUnit t).2 = w' ∧
      v <:+ w := by
  induction hn : s.length using Nat.strong_induction_on generalizing s w with
  | _ n ih =>
    subst hn
    by_cases hne : s = []
    · rw [hne, mask_nil] at h
      exact absurd h (by simp)
    · rw [mask_of_ne_nil hne] at h
      -- the character is behind the first unit or in it
      rcases List.append_eq_append_iff.1 h with ⟨v, rfl, hrest⟩ | ⟨v, hunit, hrest⟩
      · obtain ⟨t, u, u', ht, ht', hunit, hafter, hsuffix⟩ := ih _ (maskUnit_rest_lt hne) hrest rfl
        exact ⟨t, u, u', .later hne ht, ht', hunit, hafter, hsuffix.trans (List.suffix_append _ _)⟩
      · cases v with
        | nil =>
          obtain ⟨t, u, u', ht, ht', hunit, hafter, hsuffix⟩ :=
            ih _ (maskUnit_rest_lt hne) (w := []) hrest.symm rfl
          exact ⟨t, u, u', .later hne ht, ht', hunit, hafter, hsuffix.trans List.nil_suffix⟩
        | cons d v =>
          obtain ⟨rfl, hafter⟩ := List.cons.inj hrest
          exact ⟨s, w, v, .here s, hne, hunit, hafter.symm, List.suffix_rfl⟩

/-- A unit starts after every character that starts a value. -/
theorem unitStart_after (h : mask s = w ++ c :: w') (hc : startsValue c = true) :
    ∃ t, UnitStart s t ∧ mask t = w' := by
  obtain ⟨hvisible, hdouble, hsingle⟩ := ne_quote_of_startsValue hc
  obtain ⟨t, v, v', ht, hne, hunit, hafter, -⟩ := exists_unit h
  have hmem : c ∈ (maskUnit t).1 := by simp [hunit]
  -- it is seen and is no quote, so it is all of its unit
  rcases maskUnit_cases t with hblank | ⟨d, hd⟩ | ⟨quote, z, hz, hquote, hrest⟩
  · rw [hblank c hmem] at hvisible
    cases hvisible
  · rw [hd] at hunit
    have hlength := congrArg List.length hunit
    simp only [List.length_append, List.length_cons, List.length_nil] at hlength
    obtain rfl : v' = [] := List.eq_nil_of_length_eq_zero (by omega)
    exact ⟨(maskUnit t).2, ht.trans (.later hne (.here _)), hafter⟩
  · rw [hz, List.mem_cons] at hmem
    have hsame : c = quote := by
      rcases hmem with hmem | hmem
      · exact hmem
      · exact (hrest c hmem).resolve_left (by simp [hvisible])
    rw [hsame] at hdouble hsingle
    exact absurd hquote (not_or.2 ⟨hdouble, hsingle⟩)

/-- A unit starts at the first character that is seen. -/
theorem unitStart_visible (h : mask s = w ++ c :: w') (hw : ∀ d ∈ w, Text.isBlank d = true)
    (hc : Text.isBlank c = false) : ∃ t, UnitStart s t ∧ mask t = c :: w' := by
  obtain ⟨t, v, v', ht, hne, hunit, hafter, hsuffix⟩ := exists_unit h
  cases v with
  | nil =>
    refine ⟨t, ht, ?_⟩
    rw [mask_of_ne_nil hne, hunit, List.nil_append, List.cons_append, hafter]
  | cons b v =>
    -- a unit that begins with a blank has nothing that is seen
    have hb : Text.isBlank b = true := hw b (hsuffix.subset List.mem_cons_self)
    rcases maskUnit_cases t with hblank | ⟨d, hd⟩ | ⟨quote, z, hz, hquote, -⟩
    · rw [hblank c (by simp [hunit])] at hc
      cases hc
    · rw [hd] at hunit
      have hlength := congrArg List.length hunit
      simp only [List.length_append, List.length_cons, List.length_nil] at hlength
      omega
    · rw [hz] at hunit
      obtain ⟨rfl, -⟩ := List.cons.inj hunit
      rcases hquote with rfl | rfl <;> exact absurd hb (by decide)

end

/-! ## Strings -/

theorem eq_cons_of_mask {s w : List Char} {c : Char} (h : mask s = c :: w) (hc : Text.isBlank c = false) :
    ∃ r, s = c :: r := by
  cases s with
  | nil =>
    rw [mask_nil] at h
    cases h
  | cons d r =>
    have hhead : (mask (d :: r))[0]? = some c := by rw [h, List.getElem?_cons_zero]
    rcases (mask_eq_written (d :: r)).2.2.2 0 d rfl with hd | hd
    · rw [hhead, Option.some_inj] at hd
      exact ⟨r, by rw [hd]⟩
    · rw [hhead, Option.some_inj] at hd
      rw [hd] at hc
      cases hc

section

variable {r : List Char} (hsingle : ¬ ['"', '"'] <+: r)

include hsingle

theorem maskUnit_string : maskUnit ('"' :: r) = maskLiteral '"' r := by
  rw [maskUnit]
  · rw [if_pos (by decide)]
  · intro _ hc
    cases hc
  · intro _ hc
    cases hc
  · rintro t - rfl
    exact hsingle (List.prefix_append ['"', '"'] t)

/-- A string literal with the text after it, as they are masked. -/
theorem mask_string :
    ∃ rest, mask ('"' :: r) = '"' :: ((splitLiteral '"' r).1.map blankOut ++ rest) ∧
      rest.head? = (splitLiteral '"' r).2.head? := by
  have hopened : Lexer.start.step (r.take 2) '"' = (⟨.literal '"', []⟩, '"') := by
    rw [Lexer.step_start (fun _ hc => by cases hc) (fun _ hc => by cases hc)]
    · rfl
    · rintro t - rfl
      exact hsingle (List.prefix_append ['"', '"'] t)
  refine ⟨_, by rw [Lexer.mask_eq, Lexer.written_cons, hopened, Lexer.written_splitLiteral, List.append_assoc], ?_⟩
  cases (splitLiteral '"' r).2 <;> rfl

theorem length_splitLiteral_lt : (splitLiteral '"' r).1.length < (maskUnit ('"' :: r)).1.length := by
  rw [maskUnit_string hsingle, maskLiteral]
  split
  · simp
  · split
    · simp only [List.length_append, List.length_cons, List.length_map]
      omega
    · simp

end

/-- In a masked text, `inside` stands at offset `k` between two quotes that are seen, and the first of
them is the first character that is seen where a value starts. -/
structure Quoted (masked : List Char) (k : Nat) (inside : List Char) : Prop where
  place : ∃ before c gap after, masked = before ++ c :: (gap ++ '"' :: (inside ++ '"' :: after)) ∧
    startsValue c = true ∧ (∀ d ∈ gap, Text.isBlank d = true) ∧ k = before.length + gap.length + 2
  blank : ∀ d ∈ inside, Text.isBlank d = true

namespace Quoted

variable {text inside : List Char} {k : Nat}

/-- A literal starts at the first quote. -/
theorem exists_unitStart (h : Quoted (mask text) k inside) :
    ∃ r after, UnitStart text ('"' :: r) ∧ mask ('"' :: r) = '"' :: (inside ++ '"' :: after) ∧
      k + r.length = text.length := by
  obtain ⟨before, c, gap, after, hmask, hc, hgap, hk⟩ := h.place
  obtain ⟨t, ht, hvalue⟩ := unitStart_after hmask hc
  obtain ⟨u, hu, hquote⟩ := unitStart_visible hvalue hgap (by decide)
  obtain ⟨r, rfl⟩ := eq_cons_of_mask hquote (by decide)
  refine ⟨r, after, ht.trans hu, hquote, ?_⟩
  have htext := congrArg List.length hmask
  have hliteral := congrArg List.length hquote
  simp only [length_mask, List.length_append, List.length_cons] at htext hliteral
  omega

theorem quote_not_mem (h : Quoted (mask text) k inside) : '"' ∉ inside :=
  fun hmem => absurd (h.blank '"' hmem) (by decide)

/-- Only what begins a text block has a quote after its quote. -/
theorem single {r after : List Char} (h : Quoted (mask text) k inside) (hinside : inside ≠ [])
    (hmask : mask ('"' :: r) = '"' :: (inside ++ '"' :: after)) : ¬ ['"', '"'] <+: r := by
  rintro ⟨t, rfl⟩
  obtain ⟨d, inside, rfl⟩ := List.exists_cons_of_ne_nil hinside
  rw [mask_of_ne_nil (List.cons_ne_nil _ _)] at hmask
  obtain rfl : '"' = d := (List.cons.inj (List.cons.inj hmask).2).1
  exact h.quote_not_mem List.mem_cons_self

/-- Where strings are closed on their lines, nothing between two quotes ends a line. -/
theorem newline_not_mem (h : Quoted (mask text) k inside) (hclosed : StringsClosed text) :
    '\n' ∉ inside := by
  by_cases hnil : inside = []
  · rw [hnil]
    exact List.not_mem_nil
  · obtain ⟨r, after, hstart, hmask, -⟩ := h.exists_unitStart
    have hsingle := h.single hnil hmask
    obtain ⟨hend, hline⟩ := hclosed r hstart hsingle
    obtain ⟨rest, hrest, hhead⟩ := mask_string hsingle
    rw [hend, List.head?_eq_some_iff] at hhead
    obtain ⟨rest, rfl⟩ := hhead
    have hquote : '"' ∉ (splitLiteral '"' r).1.map blankOut := by
      intro hmem
      obtain ⟨d, -, hd⟩ := List.mem_map.1 hmem
      have hblank := isBlank_blankOut d
      rw [hd] at hblank
      cases hblank
    have hupto {l : List Char} (hl : '"' ∉ l) (t : List Char) :
        (l ++ '"' :: t).takeWhile (· ≠ '"') = l := by
      rw [List.takeWhile_append_of_pos fun d hd => by simpa using ne_of_mem_of_not_mem hd hl,
        List.takeWhile_cons_of_neg (by simp), List.append_nil]
    rw [hmask] at hrest
    -- both texts end at the first quote
    have hbody : inside = (splitLiteral '"' r).1.map blankOut := by
      rw [← hupto h.quote_not_mem after, (List.cons.inj hrest).2, hupto hquote]
    rw [hbody, List.mem_map]
    rintro ⟨d, hd, hnewline⟩
    rw [blankOut_eq_newline.1 hnewline] at hd
    exact hline hd

/-- The string that starts at the first quote does not end before the second. -/
theorem length_lt {r after : List Char} (h : Quoted (mask text) k inside) (hline : '\n' ∉ inside)
    (hmask : mask ('"' :: r) = '"' :: (inside ++ '"' :: after)) (hsingle : ¬ ['"', '"'] <+: r) :
    inside.length < (maskUnit ('"' :: r)).1.length := by
  have hbody := length_splitLiteral_lt hsingle
  obtain ⟨rest, hrest, hhead⟩ := mask_string hsingle
  rw [hmask] at hrest
  rcases List.append_eq_append_iff.1 (List.cons.inj hrest).2 with ⟨v, hv, -⟩ | ⟨v, hv, htail⟩
  · have hlength := congrArg List.length hv
    simp only [List.length_map, List.length_append] at hlength
    omega
  · cases v with
    | nil =>
      rw [hv, List.append_nil, List.length_map]
      exact hbody
    | cons d v =>
      -- the string ends at a character that is not between the quotes
      rw [htail, List.cons_append, List.head?_cons] at hhead
      have hmem : d ∈ inside := by simp [hv]
      rcases Lexer.splitLiteral_rest '"' r with hnil | ⟨e, t, hsplit, he⟩
      · rw [hnil] at hhead
        cases hhead
      · rw [hsplit, List.head?_cons, Option.some_inj] at hhead
        rw [hhead] at hmem
        rcases he with rfl | rfl
        · exact absurd hmem h.quote_not_mem
        · exact absurd hmem hline

/-- What is seen between two quotes on one line is in a string, so it is in no comment. -/
theorem not_inComment (h : Quoted (mask text) k inside) (hline : '\n' ∉ inside) {i : Nat}
    (hi : i < inside.length) : ¬ InComment text (k + i) := by
  have hinside : inside ≠ [] := by
    rintro rfl
    exact Nat.not_lt_zero i hi
  obtain ⟨r, after, hstart, hmask, hlength⟩ := h.exists_unitStart
  have hunit := h.length_lt hline hmask (h.single hinside hmask)
  obtain ⟨masked, -, hsplit, hcomment⟩ := hstart.split
  rw [List.length_cons] at hsplit
  rw [show k + i = masked.length + (i + 1) by omega, hcomment]
  generalize hj : i + 1 = j
  intro hin
  cases hin with
  | here hopened => rcases hopened with ⟨t, ht⟩ | ⟨t, ht⟩ <;> cases ht
  | later => omega

end Quoted

end EndpointIndex.Source
