import EndpointIndex.Source.Position
import Mathlib.Data.List.Induction
import Mathlib.Data.List.TakeWhile

/-!
# Offsets and positions

A line table holds where the lines of its text start, in order. The lines that start by an offset are those
of the text up to there (`takeWhile_starts`), so the line of an offset is one more than the line feeds before
it, and its column counts from behind the last of them (`position_eq`). From the two the offset comes back,
a later offset has a later position, and a span stands for its first and its last offset and for no others
(`position_invertible`). It makes no difference to search the table by halving (`halved?_eq`).
-/

namespace EndpointIndex.Source

/-! ## Line starts -/

theorem lineStartsFrom_append (k : Nat) (a b : List Char) :
    lineStartsFrom k (a ++ b) = lineStartsFrom k a ++ lineStartsFrom (k + a.length) b := by
  induction a generalizing k with
  | nil => rfl
  | cons c a ih =>
    have hlength : k + (c :: a).length = k + 1 + a.length := by
      rw [List.length_cons]
      omega
    rw [List.cons_append, lineStartsFrom, lineStartsFrom, ih, hlength]
    split <;> rfl

theorem pairwise_lineStartsFrom (k : Nat) (text : List Char) : (lineStartsFrom k text).Pairwise (· < ·) := by
  induction text generalizing k with
  | nil => exact List.Pairwise.nil
  | cons c text ih =>
    rw [lineStartsFrom]
    split
    · exact List.pairwise_cons.2 ⟨fun s hs => (lt_of_mem_lineStartsFrom hs).1, ih (k + 1)⟩
    · exact ih (k + 1)

namespace LineTable

section

variable {o : Nat} {text : List Char}

theorem pairwise_starts (text : List Char) : (ofText text).starts.Pairwise (· < ·) :=
  List.pairwise_cons.2
    ⟨fun _ hs => Nat.zero_lt_of_lt (lt_of_mem_lineStartsFrom hs).1, pairwise_lineStartsFrom 0 text⟩

theorem length_starts (text : List Char) : (ofText text).starts.length = text.count '\n' + 1 := by
  show (0 :: lineStartsFrom 0 text).length = _
  rw [List.length_cons, length_lineStartsFrom]

theorem le_of_mem_starts {s : Nat} (h : s ∈ (ofText text).starts) : s ≤ text.length := by
  rcases List.mem_cons.1 h with rfl | h
  · exact Nat.zero_le _
  · have hbound := lt_of_mem_lineStartsFrom h
    omega

theorem starts_append (a b : List Char) :
    (ofText (a ++ b)).starts = (ofText a).starts ++ lineStartsFrom a.length b := by
  show 0 :: lineStartsFrom 0 (a ++ b) = 0 :: lineStartsFrom 0 a ++ _
  rw [lineStartsFrom_append, Nat.zero_add, List.cons_append]

/-- The lines that start by an offset are those of the text up to there. -/
theorem takeWhile_starts (ho : o ≤ text.length) :
    (ofText text).starts.takeWhile (· ≤ o) = (ofText (text.take o)).starts := by
  have hlength : (text.take o).length = o := List.length_take_of_le ho
  have hbefore : ∀ s ∈ (ofText (text.take o)).starts, decide (s ≤ o) = true := fun s hs =>
    decide_eq_true (hlength ▸ le_of_mem_starts hs)
  have hafter : (lineStartsFrom o (text.drop o)).takeWhile (· ≤ o) = [] := by
    cases hrest : lineStartsFrom o (text.drop o) with
    | nil => rfl
    | cons s rest =>
      have hs : s ∈ lineStartsFrom o (text.drop o) := hrest ▸ List.mem_cons_self
      have hlt := (lt_of_mem_lineStartsFrom hs).1
      exact List.takeWhile_cons_of_neg (by simpa using hlt)
  -- what is behind the offset starts its lines behind it
  have hsplit := starts_append (text.take o) (text.drop o)
  rw [List.take_append_drop, hlength] at hsplit
  rw [hsplit, List.takeWhile_append_of_pos hbefore, hafter, List.append_nil]

/-- The lines that start at an offset or before are the first of those that start by a later one. -/
theorem takeWhile_le_prefix (starts : List Nat) {a b : Nat} (h : a ≤ b) :
    starts.takeWhile (· ≤ a) <+: starts.takeWhile (· ≤ b) := by
  induction starts with
  | nil => exact List.prefix_rfl
  | cons s starts ih =>
    by_cases hs : s ≤ a
    · have hs' : s ≤ b := by omega
      rw [List.takeWhile_cons_of_pos (by simpa using hs), List.takeWhile_cons_of_pos (by simpa using hs')]
      exact (List.prefix_cons_inj s).2 ih
    · rw [List.takeWhile_cons_of_neg (by simpa using hs)]
      exact List.nil_prefix

/-- By a later offset more lines start, or the same ones. -/
theorem takeWhile_le_cases (starts : List Nat) {a b : Nat} (h : a ≤ b) :
    (starts.takeWhile (· ≤ a)).length < (starts.takeWhile (· ≤ b)).length ∨
      starts.takeWhile (· ≤ a) = starts.takeWhile (· ≤ b) := by
  have hfirst := takeWhile_le_prefix starts h
  rcases Nat.lt_or_eq_of_le hfirst.length_le with hlt | hlength
  · exact .inl hlt
  · exact .inr (hfirst.eq_of_length hlength)

theorem getLastD_takeWhile_le (starts : List Nat) (o : Nat) :
    (starts.takeWhile (· ≤ o)).getLastD 0 ≤ o := by
  cases hlast : (starts.takeWhile (· ≤ o)).getLast? with
  | none =>
    rw [List.getLastD_eq_getLast?, hlast]
    exact Nat.zero_le o
  | some s =>
    have hs := List.mem_takeWhile_imp (List.mem_of_getLast? hlast)
    rw [List.getLastD_eq_getLast?, hlast]
    simpa using hs

end

/-! ## The last line -/

/-- The offset at which the last line of a text starts. -/
def lastStart (text : List Char) : Nat := (ofText text).starts.getLastD 0

section

variable {o i : Nat} {text : List Char}

theorem lastStart_concat (text : List Char) (c : Char) :
    lastStart (text ++ [c]) = if c = '\n' then text.length + 1 else lastStart text := by
  rw [lastStart, starts_append, lineStartsFrom, lineStartsFrom]
  split
  · exact List.getLastD_concat
  · rw [List.append_nil, lastStart]

theorem lastStart_le (text : List Char) : lastStart text ≤ text.length := by
  induction text using List.reverseRecOn with
  | nil => exact Nat.le_refl 0
  | append_singleton text c ih =>
    rw [lastStart_concat, List.length_append, List.length_singleton]
    split <;> omega

/-- The last line has no line feed: one would have started another line. -/
theorem getElem?_ne_of_lastStart_le (hi : lastStart text ≤ i) : text[i]? ≠ some '\n' := by
  -- from the end, since a character at the front is in the first line
  induction text using List.reverseRecOn with
  | nil => nofun
  | append_singleton text c ih =>
    rw [lastStart_concat] at hi
    split at hi
    · rw [List.getElem?_eq_none (by simpa using hi)]
      nofun
    · rename_i hc
      rcases Nat.lt_trichotomy i text.length with hlt | rfl | hgt
      · rw [List.getElem?_append_left hlt]
        exact ih hi
      · rw [List.getElem?_concat_length]
        exact fun h => hc (Option.some.inj h)
      · rw [List.getElem?_eq_none (by simpa [Nat.succ_le_iff] using hgt)]
        nofun

end

/-! ## Positions of offsets -/

theorem clamp_mono (t : LineTable) {a b : Int} (h : a ≤ b) : t.clamp a ≤ t.clamp b := by
  unfold clamp
  omega

theorem clamp_of_le {t : LineTable} {o : Nat} (ho : o ≤ t.size) : t.clamp o = o := by
  unfold clamp
  omega

theorem position_congr (t : LineTable) {a b : Int} (h : t.clamp a = t.clamp b) :
    t.position a = t.position b := by
  rw [position, position, h]

theorem one_le_line (text : List Char) (offset : Int) : 1 ≤ ((ofText text).position offset).line := by
  -- the first line starts at 0
  show 1 ≤ (List.takeWhile _ (0 :: lineStartsFrom 0 text)).length
  rw [List.takeWhile_cons_of_pos (by simp), List.length_cons]
  omega

theorem one_le_column (t : LineTable) (offset : Int) : 1 ≤ (t.position offset).column := by
  unfold position
  dsimp only
  omega

/-- On one line the columns grow with the offsets. -/
theorem position_mono (t : LineTable) {a b : Int} (h : a ≤ b) :
    (t.position a).line < (t.position b).line ∨
      (t.position a).line = (t.position b).line ∧ (t.position a).column ≤ (t.position b).column := by
  unfold position
  dsimp only
  have hclamp := t.clamp_mono h
  rcases takeWhile_le_cases t.starts hclamp with hline | hline
  · exact .inl hline
  · rw [hline]
    exact .inr ⟨rfl, by omega⟩

/-- Within a text, a later offset has a later position. -/
theorem position_strictMono (t : LineTable) {a b : Nat} (h : a < b) (hb : b ≤ t.size) :
    (t.position a).line < (t.position b).line ∨
      (t.position a).line = (t.position b).line ∧ (t.position a).column < (t.position b).column := by
  have ha : t.clamp a = a := clamp_of_le (Nat.le_of_lt (Nat.lt_of_lt_of_le h hb))
  have hb : t.clamp b = b := clamp_of_le hb
  unfold position
  dsimp only
  rw [ha, hb]
  rcases takeWhile_le_cases t.starts (Nat.le_of_lt h) with hline | hline
  · exact .inl hline
  · have hstart := getLastD_takeWhile_le t.starts a
    rw [← hline]
    exact .inr ⟨rfl, by omega⟩

/-- No two offsets of a text have the same position. -/
theorem eq_of_position (t : LineTable) {a b : Nat} (ha : a ≤ t.size) (hb : b ≤ t.size)
    (h : t.position a = t.position b) : a = b := by
  by_contra hne
  rcases Nat.lt_or_gt_of_ne hne with hlt | hlt
  · have hbefore := t.position_strictMono hlt hb
    rw [h] at hbefore
    omega
  · have hbefore := t.position_strictMono hlt ha
    rw [h] at hbefore
    omega

/-- The line of an offset is one of the lines of the text, also for an offset beyond it. -/
theorem getElem?_line (text : List Char) (offset : Int) :
    (ofText text).starts[((ofText text).position offset).line - 1]? =
      some (((ofText text).starts.takeWhile (· ≤ (ofText text).clamp offset)).getLastD 0) := by
  have hline : 1 ≤ ((ofText text).starts.takeWhile (· ≤ (ofText text).clamp offset)).length :=
    one_le_line text offset
  obtain ⟨after, hafter⟩ := List.takeWhile_prefix (l := (ofText text).starts)
    fun s => decide (s ≤ (ofText text).clamp offset)
  rw [position]
  dsimp only
  generalize (ofText text).starts.takeWhile (· ≤ (ofText text).clamp offset) = before at hline hafter ⊢
  have hne : before ≠ [] := List.length_pos_iff.1 hline
  rw [← hafter, List.getElem?_append_left (by omega), ← List.getLast?_eq_getElem?,
    List.getLastD_eq_getLast?, List.getLast?_eq_some_getLast hne]
  rfl

theorem exists_line_start (text : List Char) (offset : Int) :
    ∃ start, (ofText text).starts[((ofText text).position offset).line - 1]? = some start :=
  ⟨_, getElem?_line text offset⟩

section

variable {o i : Nat} {text : List Char}

/-- Lines count from the line feeds before an offset, and columns from the start of its line. -/
theorem position_eq (ho : o ≤ text.length) :
    (ofText text).position o = ⟨(text.take o).count '\n' + 1, o - lastStart (text.take o) + 1⟩ := by
  have hclamp : (ofText text).clamp o = o := clamp_of_le ho
  rw [position, hclamp, takeWhile_starts ho, length_starts]
  rfl

theorem lineStart_le (text : List Char) (line : Int) : (ofText text).lineStart line ≤ text.length := by
  unfold lineStart
  split
  · exact Nat.zero_le _
  · rw [List.getD_eq_getElem?_getD]
    cases hstart : (ofText text).starts[line.toNat - 1]? with
    | none => exact Nat.le_refl _
    | some s => exact le_of_mem_starts (List.mem_of_getElem? hstart)

/-- The line of an offset starts where the last line of the text up to the offset does. -/
theorem lineStart_position (ho : o ≤ text.length) :
    (ofText text).lineStart ((ofText text).position o).line = lastStart (text.take o) := by
  have hline := one_le_line text o
  have hclamp : (ofText text).clamp o = o := clamp_of_le ho
  rw [lineStart, if_neg (by omega), Int.toNat_natCast, List.getD_eq_getElem?_getD, getElem?_line, hclamp,
    takeWhile_starts ho, Option.getD_some, lastStart]

end

end LineTable

open LineTable (ofText)

/-! ## What a position says -/

/-- A position is that of an offset in a text: as many line feeds stand before the offset as lines before the
line, and the column counts from the start of the line, behind which no line feed stands before the offset. -/
structure Position.IsOf (text : List Char) (p : Position) (o : Nat) : Prop where
  le : o ≤ text.length
  one_le_line : 1 ≤ p.line
  line : p.line - 1 = (text.take o).count '\n'
  one_le_column : 1 ≤ p.column
  column : (ofText text).lineStart p.line + p.column - 1 = o
  sameLine : ∀ i, (ofText text).lineStart p.line ≤ i → i < o → text[i]? ≠ some '\n'

/-- On an earlier line, or on the same line further to the left. -/
def Position.Before (p q : Position) : Prop := p.line < q.line ∨ p.line = q.line ∧ p.column < q.column

/-- The span from one position through another. -/
def Span.between (p q : Position) : Span := ⟨p.line, p.column, q.line, q.column⟩

theorem Span.between_inj {p q p' q' : Position} : between p q = between p' q' ↔ p = p' ∧ q = q' := by
  cases p
  cases q
  cases p'
  cases q'
  simp only [between, Span.mk.injEq, Position.mk.injEq, Int.natCast_inj, and_assoc]

/-- A span stands for two offsets of a text: it runs from the position of the one through that of the other. -/
def Span.StandsFor (text : List Char) (s : Span) (first last : Nat) : Prop :=
  ∃ p q : Position, s = between p q ∧ p.IsOf text first ∧ q.IsOf text last

section

variable {text : List Char} {o : Nat} {p q : Position}

theorem LineTable.isOf_position (ho : o ≤ text.length) : ((ofText text).position o).IsOf text o := by
  have hlength : (text.take o).length = o := List.length_take_of_le ho
  have hstart := lineStart_position ho
  have hle := lastStart_le (text.take o)
  refine ⟨ho, one_le_line text o, ?_, one_le_column _ o, ?_, fun i hi hlt => ?_⟩
  · rw [position_eq ho, Nat.add_sub_cancel]
  · rw [hstart, position_eq ho]
    dsimp only
    omega
  · rw [hstart] at hi
    rw [← List.getElem?_take_of_lt hlt]
    exact getElem?_ne_of_lastStart_le hi

/-- An offset has one position. -/
theorem Position.IsOf.unique (hp : p.IsOf text o) (hq : q.IsOf text o) : p = q := by
  have hline : p.line = q.line := by
    have hlines : p.line - 1 = q.line - 1 := hp.line.trans hq.line.symm
    have hp := hp.one_le_line
    have hq := hq.one_le_line
    omega
  have hcolumn : p.column = q.column := by
    have hoffset : _ + p.column - 1 = _ + q.column - 1 := hp.column.trans hq.column.symm
    rw [hline] at hoffset
    have hp := hp.one_le_column
    have hq := hq.one_le_column
    omega
  cases p
  cases q
  cases hline
  cases hcolumn
  rfl

/-- A position stands for one offset. -/
theorem Position.IsOf.offset_unique {o' : Nat} (h : p.IsOf text o) (h' : p.IsOf text o') : o = o' :=
  h.column.symm.trans h'.column

theorem Span.standsFor_between {i j first last : Nat} (hp : p.IsOf text i) (hq : q.IsOf text j) :
    (between p q).StandsFor text first last ↔ first = i ∧ last = j := by
  constructor
  · rintro ⟨p', q', hbetween, hp', hq'⟩
    obtain ⟨rfl, rfl⟩ := between_inj.1 hbetween
    exact ⟨hp'.offset_unique hp, hq'.offset_unique hq⟩
  · rintro ⟨rfl, rfl⟩
    exact ⟨p, q, rfl, hp, hq⟩

theorem LineTable.span_eq_between {start stop : Nat} (h : start < stop) (t : LineTable) :
    t.span start stop = Span.between (t.position start) (t.position (stop - 1 : Nat)) := by
  have hlast : max (start : Int) (stop - 1) = (stop - 1 : Nat) := by omega
  rw [span, hlast]
  rfl

end

/-! ## Halving -/

/-- How many offsets of an ordered list are at most `o`, where it is known that no fewer than `lo` and no more
than `hi` are: found by halving the stretch between the two. -/
def halve? (starts : List Nat) (o lo hi : Nat) : Option Nat :=
  if lo < hi then
    match starts[(lo + hi) / 2]? with
    | none => none
    | some s => if o < s then halve? starts o lo ((lo + hi) / 2) else halve? starts o ((lo + hi) / 2 + 1) hi
  else some lo
termination_by hi - lo

/-- Line and column of an offset, with the table searched by halving. -/
def LineTable.halved? (t : LineTable) (offset : Int) : Option Position := do
  let o := t.clamp offset
  let line ← halve? t.starts o 0 t.starts.length
  let start ← t.starts[line - 1]?
  return ⟨line, o - start + 1⟩

section

variable {starts : List Nat} {o lo hi m s : Nat}

/-- An offset of an ordered list is beyond `o` when it stands behind those that are not. -/
theorem lt_iff_length_takeWhile_le (hsorted : starts.Pairwise (· < ·)) (hs : starts[m]? = some s) :
    o < s ↔ (starts.takeWhile (· ≤ o)).length ≤ m := by
  induction starts generalizing m with
  | nil => cases hs
  | cons a starts ih =>
    obtain ⟨hfirst, hsorted⟩ := List.pairwise_cons.1 hsorted
    -- the starts are in order: behind one beyond the offset, all are
    by_cases ha : a ≤ o
    · rw [List.takeWhile_cons_of_pos (by simpa using ha), List.length_cons]
      cases m with
      | zero =>
        cases hs
        omega
      | succ m =>
        rw [ih hsorted hs]
        omega
    · have hlt : a ≤ s := by
        rcases List.mem_cons.1 (List.mem_of_getElem? hs) with rfl | hmem
        · exact Nat.le_refl _
        · exact Nat.le_of_lt (hfirst s hmem)
      rw [List.takeWhile_cons_of_neg (by simpa using ha), List.length_nil]
      omega

/-- Halving keeps the number that is looked for between the two bounds. -/
theorem halve?_eq (hsorted : starts.Pairwise (· < ·)) (hlo : lo ≤ (starts.takeWhile (· ≤ o)).length)
    (hhi : (starts.takeWhile (· ≤ o)).length ≤ hi) (hlength : hi ≤ starts.length) :
    halve? starts o lo hi = some (starts.takeWhile (· ≤ o)).length := by
  fun_induction halve? starts o lo hi with
  | case1 lo hi hlt hnone =>
    have hlength' := List.getElem?_eq_none_iff.1 hnone
    omega
  | case2 lo hi hlt s hs hbeyond ih =>
    have hmid := (lt_iff_length_takeWhile_le hsorted hs).1 hbeyond
    exact ih hlo hmid (by omega)
  | case3 lo hi hlt s hs hbeyond ih =>
    have hmid := mt (lt_iff_length_takeWhile_le hsorted hs).2 hbeyond
    exact ih (by omega) hhi hlength
  | case4 lo hi hlt =>
    obtain rfl : lo = (starts.takeWhile (· ≤ o)).length := by omega
    rfl

theorem LineTable.halved?_eq (text : List Char) (offset : Int) :
    (ofText text).halved? offset = some ((ofText text).position offset) := by
  have hfirst := (List.takeWhile_prefix (l := (ofText text).starts)
    fun s => decide (s ≤ (ofText text).clamp offset)).length_le
  have hline : _ = some ((ofText text).position offset).line :=
    halve?_eq (pairwise_starts text) (Nat.zero_le _) hfirst (Nat.le_refl _)
  rw [halved?, hline, Option.bind_eq_bind, Option.bind_some, getElem?_line]
  rfl

end

/-! ## There and back -/

/-- Every offset of a text has one position, which says where it is, and a later offset has a later position.
An offset outside the text has the position of the nearest end. A span that is made from two offsets stands for
the first of them and the one before the second, and for no others. The position is also what halving the table
of line starts gives. -/
theorem LineTable.position_invertible (text : List Char) :
    (∀ o : Nat, o ≤ text.length → ((ofText text).position o).IsOf text o ∧
      ∀ p : Position, p.IsOf text o → p = (ofText text).position o) ∧
    (∀ o o' : Nat, o < o' → o' ≤ text.length →
      ((ofText text).position o).Before ((ofText text).position o')) ∧
    (∀ offset : Int, offset < 0 → (ofText text).position offset = (ofText text).position 0) ∧
    (∀ offset : Int, text.length < offset →
      (ofText text).position offset = (ofText text).position text.length) ∧
    (∀ start stop : Nat, start < stop → stop ≤ text.length → ∀ first last : Nat,
      ((ofText text).span start stop).StandsFor text first last ↔ first = start ∧ last = stop - 1) ∧
    ∀ offset : Int, (ofText text).halved? offset = some ((ofText text).position offset) := by
  refine ⟨fun o ho => ⟨isOf_position ho, fun p hp => hp.unique (isOf_position ho)⟩,
    fun o o' hlt hle => position_strictMono _ hlt hle, fun offset hneg => ?_, fun offset hbeyond => ?_,
    fun start stop hlt hle first last => ?_, halved?_eq text⟩
  · apply position_congr
    unfold clamp
    omega
  · apply position_congr
    show min offset.toNat text.length = min (text.length : Int).toNat text.length
    omega
  · rw [span_eq_between hlt]
    exact Span.standsFor_between (isOf_position (by omega)) (isOf_position (by omega))

/-- Two lines of text with an empty one between them, the last closed by a line feed. -/
def paragraphs : List Char := "ab\n\ncd\n".toList

theorem LineTable.position_invertible_paragraphs :
    (3 ≤ paragraphs.length ∧ (⟨2, 1⟩ : Position).IsOf paragraphs 3) ∧
      (7 ≤ paragraphs.length ∧ (⟨4, 1⟩ : Position).IsOf paragraphs 7 ∧
        ∀ p : Position, p.IsOf paragraphs 7 → p = ⟨4, 1⟩) ∧
      (2 < 3 ∧ (⟨1, 3⟩ : Position).Before ⟨2, 1⟩) ∧
      (ofText paragraphs).position (-1) = ⟨1, 1⟩ ∧
      (ofText paragraphs).position 9 = ⟨4, 1⟩ ∧
      (2 < 5 ∧ 5 ≤ paragraphs.length ∧ (⟨1, 3, 3, 1⟩ : Span).StandsFor paragraphs 2 4) ∧
      (ofText paragraphs).halved? 4 = some ⟨3, 1⟩ := by
  obtain ⟨hposition, horder, hbefore, hbeyond, hspan, hhalved⟩ := position_invertible paragraphs
  exact ⟨⟨by decide, (hposition 3 (by decide)).1⟩, ⟨by decide, hposition 7 (by decide)⟩,
    ⟨by decide, horder 2 3 (by decide) (by decide)⟩, hbefore (-1) (by decide), hbeyond 9 (by decide),
    ⟨by decide, by decide, (hspan 2 5 (by decide) (by decide) 2 4).2 ⟨rfl, rfl⟩⟩, hhalved 4⟩

end EndpointIndex.Source
