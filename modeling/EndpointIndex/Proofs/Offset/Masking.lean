import EndpointIndex.Proofs.Offset.Access

/-!
# Masking by offset

The mask of a text, written into a copy of it: each step finds the unit that starts at an offset and
blanks a stretch of the copy. No step reads or writes beyond the text (`maskFrom_zero`), although a
backslash at its end, a comment or a literal may want to go on.
-/

namespace EndpointIndex.ByOffset

open Source

/-- Blanks the characters at the offsets from `start` up to, and not including, `stop`. -/
def blankRange (s : List Char) (start stop : Nat) : List Char :=
  s.take start ++ (slice s start stop).map blankOut ++ s.drop stop

/-- How far it is from offset `j` in a literal to its quote or the end of the line. A backslash takes the
next character with it, also beyond the text. -/
def literalLength (text : List Char) (quote : Char) (j : Nat) : Except BracketError Nat :=
  if j < text.length then do
    let c ← charAt text j
    if c = quote || c = '\n' then return 0
    else if c = '\\' then return (← literalLength text quote (j + 2)) + 2
    else return (← literalLength text quote (j + 1)) + 1
  else return 0
termination_by text.length - j

/-- The character at an offset, if the text is that long. -/
def peek (text : List Char) (i : Nat) : Except BracketError (Option Char) :=
  if i < text.length then some <$> charAt text i else return none

/-- One unit of a text: how many of its characters are kept before those that are blanked, how many are
blanked, and how many it has besides its first. -/
structure MaskStep where
  kept : Nat
  blanked : Nat
  more : Nat

/-- The comment, the literal or the character at an offset. -/
def maskStep (text : List Char) (i : Nat) : Except BracketError MaskStep := do
  let c ← charAt text i
  let next ← peek text (i + 1)
  if c = '/' && next = some '/' then
    let length := ((text.drop (i + 2)).takeWhile (· ≠ '\n')).length
    return ⟨0, length + 2, length + 1⟩
  else if c = '/' && next = some '*' then
    let length := (splitBlockComment (text.drop (i + 2))).1.length
    return ⟨0, length + 2, length + 1⟩
  else if slice text i (i + 3) = ['"', '"', '"'] then
    let (body, rest) := splitTextBlock (text.drop (i + 3))
    return ⟨3, body.length, if rest = [] then body.length + 2 else body.length + 5⟩
  else if c = '"' || c = '\'' then
    let length := min (← literalLength text c (i + 1)) (text.length - (i + 1))
    let last ← peek text (i + 1 + length)
    return ⟨1, length, if last = some c then length + 1 else length⟩
  else return ⟨0, 0, 0⟩

/-- Masks a text from offset `i` on; `out` is the text as masked so far. -/
def maskFrom (text out : List Char) (i : Nat) : Except BracketError (List Char) :=
  if i < text.length then do
    let u ← maskStep text i
    maskFrom text (blankRange out (i + u.kept) (i + u.kept + u.blanked)) (i + 1 + u.more)
  else return out
termination_by text.length - i

theorem peek_eq (text : List Char) (i : Nat) : peek text i = .ok text[i]? := by
  unfold peek charAt
  by_cases hi : i < text.length
  · rw [if_pos hi, List.getElem?_eq_getElem hi]
    rfl
  · rw [if_neg hi, List.getElem?_eq_none (by omega)]
    rfl

theorem literalLength_eq (text : List Char) (quote : Char) (j : Nat) :
    ∃ n, literalLength text quote j = .ok n ∧
      min n (text.length - j) = (splitLiteral quote (text.drop j)).1.length := by
  induction hn : text.length - j using Nat.strong_induction_on generalizing j with
  | _ n ih =>
    subst hn
    unfold literalLength
    by_cases hj : j < text.length
    · rw [if_pos hj, charAt_of_getElem? (List.getElem?_eq_getElem hj), ok_bind,
        List.drop_eq_getElem_cons hj, splitLiteral.eq_def]
      dsimp only
      generalize text[j] = c
      by_cases hend : (c = quote || c = '\n') = true
      · rw [if_pos hend, if_pos hend]
        exact ⟨0, rfl, Nat.zero_min _⟩
      · rw [if_neg hend, if_neg hend]
        by_cases hslash : c = '\\'
        · rw [if_pos hslash, if_pos hslash]
          obtain ⟨k, hk, hlength⟩ := ih _ (by omega) (j + 2) rfl
          refine ⟨k + 2, by rw [hk]; rfl, ?_⟩
          -- the character after the backslash may be missing
          cases hrest : text.drop (j + 1) with
          | nil =>
            have hle := List.drop_eq_nil_iff.1 hrest
            dsimp only [List.length_cons, List.length_nil]
            omega
          | cons d r =>
            have hr : text.drop (j + 2) = r := by rw [← List.drop_drop (i := 1), hrest]; rfl
            have hlt : j + 1 < text.length := by
              by_contra hge
              rw [List.drop_eq_nil_of_le (by omega)] at hrest
              cases hrest
            rw [hr] at hlength
            dsimp only [List.length_cons]
            omega
        · rw [if_neg hslash, if_neg hslash]
          obtain ⟨k, hk, hlength⟩ := ih _ (by omega) (j + 1) rfl
          refine ⟨k + 1, by rw [hk]; rfl, ?_⟩
          dsimp only [List.length_cons]
          omega
    · rw [if_neg hj, List.drop_eq_nil_of_le (by omega)]
      exact ⟨0, rfl, Nat.zero_min _⟩

theorem blankRange_append (pre y z : List Char) {start stop : Nat} (hstart : start = pre.length)
    (hstop : stop = pre.length + y.length) :
    blankRange (pre ++ (y ++ z)) start stop = pre ++ (y.map blankOut ++ z) := by
  subst hstart hstop
  rw [blankRange, slice, List.take_left, ← List.length_append, ← List.append_assoc, List.take_left,
    List.drop_left, List.drop_left, List.append_assoc]

theorem maskUnit_suffix (s : List Char) : (maskUnit s).2 <:+ s := by
  fun_cases maskUnit s with
  | case1 => exact List.suffix_rfl
  | case2 r => exact (List.dropWhile_suffix _).trans ((List.suffix_cons _ _).trans (List.suffix_cons _ _))
  | case3 r body rest hs =>
    have happend := splitBlockComment_append r
    rw [hs] at happend
    exact ⟨'/' :: '*' :: body, by rw [← happend]; rfl⟩
  | case4 r body rest hs =>
    have happend := splitTextBlock_append r
    rw [hs] at happend
    refine (List.drop_suffix 3 rest).trans ⟨'"' :: '"' :: '"' :: body, ?_⟩
    rw [← happend]
    rfl
  | case5 c r =>
    have happend := splitLiteral_append c r
    rw [maskLiteral]
    split
    · exact List.nil_suffix
    · rename_i d rest hrest
      rw [hrest] at happend
      have hsuffix : d :: rest <:+ c :: r := ⟨c :: (splitLiteral c r).1, congrArg (c :: ·) happend⟩
      split
      · exact (List.suffix_cons d rest).trans hsuffix
      · exact hsuffix
  | case6 c r => exact List.suffix_cons c r

theorem splitTextBlock_rest (s : List Char) :
    (splitTextBlock s).2 = [] ∨ ∃ r, (splitTextBlock s).2 = '"' :: '"' :: '"' :: r := by
  fun_induction splitTextBlock s with
  | case1 r => exact .inr ⟨r, rfl⟩
  | case2 c r _ body rest hsplit ih =>
    rw [hsplit] at ih
    exact ih
  | case3 => exact .inl rfl

/-- A character at which neither a comment nor a text block starts. -/
theorem not_unit_start {c : Char} {r : List Char} (hline : ∀ t, c = '/' → r = '/' :: t → False)
    (hblock : ∀ t, c = '/' → r = '*' :: t → False) (htriple : ∀ t, c = '"' → r = '"' :: '"' :: t → False) :
    ¬ (c = '/' && (c :: r)[1]? = some '/') = true ∧ ¬ (c = '/' && (c :: r)[1]? = some '*') = true ∧
      ¬ (c :: r).take 3 = ['"', '"', '"'] := by
  have hcons {d : Char} (h : (c :: r)[1]? = some d) : r = d :: r.drop 1 := by
    rw [List.getElem?_cons_succ, ← List.head?_eq_getElem?, List.head?_eq_some_iff] at h
    obtain ⟨t, rfl⟩ := h
    rfl
  refine ⟨?_, ?_, ?_⟩
  · intro h
    rw [Bool.and_eq_true, decide_eq_true_iff, decide_eq_true_iff] at h
    exact hline _ h.1 (hcons h.2)
  · intro h
    rw [Bool.and_eq_true, decide_eq_true_iff, decide_eq_true_iff] at h
    exact hblock _ h.1 (hcons h.2)
  · intro h
    rw [List.take_succ_cons, List.cons.injEq] at h
    refine htriple (r.drop 2) h.1 ?_
    rw [← List.take_append_drop 2 r, h.2]
    rfl

theorem maskLiteral_append (quote : Char) (s : List Char) :
    (maskLiteral quote s).1 ++ (maskLiteral quote s).2 =
      quote :: ((splitLiteral quote s).1.map blankOut ++ (splitLiteral quote s).2) := by
  unfold maskLiteral
  split
  · rename_i hrest
    rw [hrest, List.append_nil, List.append_nil]
  · rename_i d rest hrest
    rw [hrest]
    by_cases hd : d = quote
    · rw [if_pos hd, hd, List.append_assoc]
      rfl
    · rw [if_neg hd]
      rfl

/-- A literal is one longer if its quote closes it. -/
theorem length_maskLiteral_fst (quote : Char) (s : List Char) :
    (maskLiteral quote s).1.length =
      1 + if (splitLiteral quote s).2.head? = some quote then (splitLiteral quote s).1.length + 1
        else (splitLiteral quote s).1.length := by
  unfold maskLiteral
  split
  · rename_i hrest
    rw [hrest, if_neg (by simp), List.length_cons, List.length_map]
    omega
  · rename_i d rest hrest
    rw [hrest, List.head?_cons]
    by_cases hd : d = quote
    · rw [if_pos hd, if_pos (congrArg some hd), List.length_append, List.length_cons, List.length_map,
        List.length_singleton]
      omega
    · rw [if_neg hd, if_neg (by simpa using hd), List.length_cons, List.length_map]
      omega

/-- A step blanks the middle of a unit, and together with what is around it that is the masked unit. -/
theorem maskStep_eq {text s : List Char} {i : Nat} (hs : text.drop i = s) (hne : s ≠ []) :
    ∃ u x y z, maskStep text i = .ok u ∧ s = x ++ (y ++ z) ∧
      (maskUnit s).1 ++ (maskUnit s).2 = x ++ (y.map blankOut ++ z) ∧
      u.kept = x.length ∧ u.blanked = y.length ∧ 1 + u.more = (maskUnit s).1.length := by
  have hget (n : Nat) : text[i + n]? = s[n]? := by rw [← hs, List.getElem?_drop]
  have hdrop (n : Nat) : text.drop (i + n) = s.drop n := by rw [← hs, List.drop_drop]
  have hthree : slice text i (i + 3) = s.take 3 := by rw [slice, ← List.take_drop, hs]
  have hcode {c : Char} (hc : s.head? = some c) : charAt text i = .ok c := by
    apply charAt_of_getElem?
    rw [← List.head?_drop, hs, hc]
  rw [maskStep, peek_eq, hthree, hdrop, hdrop, hget]
  fun_cases maskUnit s with
  | case1 => exact absurd rfl hne
  | case2 r =>
    rw [hcode rfl, ok_bind, ok_bind, if_pos (by rfl)]
    refine ⟨_, [], '/' :: '/' :: r.takeWhile (· ≠ '\n'), r.dropWhile (· ≠ '\n'), rfl, ?_, rfl, rfl, rfl, ?_⟩
    · rw [List.nil_append, List.cons_append, List.cons_append, List.takeWhile_append_dropWhile]
    · simp
      omega
  | case3 r body rest hunit =>
    rw [hcode rfl, ok_bind, ok_bind, if_neg (by simp), if_pos (by rfl)]
    have happend := splitBlockComment_append r
    rw [hunit] at happend
    refine ⟨_, [], '/' :: '*' :: body, rest, rfl, ?_, rfl, rfl, ?_, ?_⟩
    · rw [← happend]
      rfl
    · simp [hunit]
    · simp [hunit]
      omega
  | case4 r body rest hunit =>
    rw [hcode rfl, ok_bind, ok_bind, if_neg (by simp), if_neg (by simp), if_pos (by rfl)]
    have happend := splitTextBlock_append r
    have hrest := splitTextBlock_rest r
    rw [hunit] at happend hrest
    have hbody : splitTextBlock (('"' :: '"' :: '"' :: r).drop 3) = (body, rest) := hunit
    rw [hbody]
    refine ⟨_, ['"', '"', '"'], body, rest, rfl, ?_, ?_, rfl, rfl, ?_⟩
    · rw [← happend]
      rfl
    · rw [List.append_assoc, List.append_assoc, List.take_append_drop]
    · rcases hrest with rfl | ⟨r', rfl⟩
      · simp
        omega
      · simp
        omega
  | case5 c r hline hblock htriple hquote =>
    obtain ⟨hno, hno', hno''⟩ := not_unit_start hline hblock htriple
    rw [hcode rfl, ok_bind, ok_bind, if_neg hno, if_neg hno', if_neg hno'', if_pos hquote]
    obtain ⟨n, hn, hlength⟩ := literalLength_eq text c (i + 1)
    have happend := splitLiteral_append c r
    have hr : text.drop (i + 1) = r := hdrop 1
    rw [hr] at hlength
    -- what stands behind the contents says whether the literal is closed
    have hlast : text[i + 1 + (splitLiteral c r).1.length]? = (splitLiteral c r).2.head? := by
      have hrest := congrArg (List.drop (splitLiteral c r).1.length) happend
      rw [List.drop_left] at hrest
      rw [← List.head?_drop, ← List.drop_drop, hr, hrest]
    rw [hn, ok_bind, hlength]
    dsimp only
    rw [peek_eq, ok_bind, hlast]
    refine ⟨_, [c], (splitLiteral c r).1, (splitLiteral c r).2, rfl, ?_, maskLiteral_append c r, rfl, rfl, ?_⟩
    · rw [happend]
      rfl
    · rw [length_maskLiteral_fst]
  | case6 c r hline hblock htriple hquote =>
    obtain ⟨hno, hno', hno''⟩ := not_unit_start hline hblock htriple
    rw [hcode rfl, ok_bind, ok_bind, if_neg hno, if_neg hno', if_neg hno'', if_neg hquote]
    exact ⟨_, [], [], c :: r, rfl, rfl, rfl, rfl, rfl, rfl⟩

theorem maskFrom_eq {text pre s : List Char} (hs : text.drop pre.length = s) (hle : pre.length ≤ text.length) :
    maskFrom text (pre ++ s) pre.length = .ok (pre ++ mask s) := by
  have hlength := congrArg List.length hs
  rw [List.length_drop] at hlength
  induction hn : s.length using Nat.strong_induction_on generalizing pre s with
  | _ n ih =>
    rw [maskFrom]
    by_cases hne : s = []
    · subst hne
      rw [if_neg (by simp at hlength; omega), mask_nil]
      rfl
    · have hpos := List.length_pos_iff.2 hne
      obtain ⟨u, x, y, z, hu, hsplit, hunit, hkept, hblanked, hmore⟩ := maskStep_eq hs hne
      have hwidth := maskUnit_length s
      -- what the step blanks turns the first unit into its mask
      have hblank : blankRange (pre ++ s) (pre.length + u.kept) (pre.length + u.kept + u.blanked) =
          (pre ++ (maskUnit s).1) ++ (maskUnit s).2 := by
        rw [hsplit, ← List.append_assoc, blankRange_append, List.append_assoc, ← hunit, List.append_assoc]
        · rw [← hsplit]
        · rw [List.length_append, hkept]
        · rw [List.length_append, hkept, hblanked]
      have hnext : pre.length + 1 + u.more = (pre ++ (maskUnit s).1).length := by
        rw [List.length_append]
        omega
      have hrest : text.drop (pre ++ (maskUnit s).1).length = (maskUnit s).2 := by
        rw [List.length_append, ← List.drop_drop, hs]
        have hdrop := List.suffix_iff_eq_drop.1 (maskUnit_suffix s)
        rw [show s.length - (maskUnit s).2.length = (maskUnit s).1.length by omega] at hdrop
        exact hdrop.symm
      rw [if_pos (by omega), hu, ok_bind, hblank, hnext, mask_of_ne_nil hne, ← List.append_assoc]
      have hdecrease := maskUnit_rest_lt hne
      refine ih _ (by omega) hrest ?_ ?_ rfl
      · rw [List.length_append]
        omega
      · rw [List.length_append]
        omega

theorem maskFrom_zero (text : List Char) : maskFrom text text 0 = .ok (mask text) :=
  @maskFrom_eq text [] text rfl (Nat.zero_le _)

end EndpointIndex.ByOffset
