import EndpointIndex.Proofs.Outline.Headings

/-!
# Access by offset

A text that is read through offsets can be read beyond its end, and the partner of a bracket can be
asked for where nothing opens, or from the limit of the search on. In this namespace each of these is
an error, so a walk that returns has made no such step. Main facts: a bracket below its limit is closed
at or before the limit (`closeBelow_eq`), and blanks are skipped within it (`skipBlanksBelow_eq`).
-/

namespace EndpointIndex.ByOffset

open Source Pattern

@[simp] theorem ok_bind {ε α β : Type} (a : α) (f : α → Except ε β) : (Except.ok a >>= f) = f a := rfl

@[simp] theorem pure_eq_ok {ε α : Type} (a : α) : (pure a : Except ε α) = .ok a := rfl

/-! ## Slices -/

/-- What stands at the offsets from `start` up to, and not including, `stop`. -/
def slice {α : Type} (l : List α) (start stop : Nat) : List α := (l.take stop).drop start

section

variable {α : Type} {l : List α} {a b i j stop : Nat} {x : α}

theorem slice_eq_nil (h : stop ≤ i) : slice l i stop = [] := by
  apply List.drop_eq_nil_of_le
  rw [List.length_take]
  omega

theorem slice_cons (hx : l[i]? = some x) (h : i < stop) : slice l i stop = x :: slice l (i + 1) stop := by
  have hget : (l.take stop)[i]? = some x := by rw [List.getElem?_take_of_lt h, hx]
  obtain ⟨hi, rfl⟩ := List.getElem?_eq_some_iff.1 hget
  exact List.drop_eq_getElem_cons hi

theorem slice_self_length : slice l 0 l.length = l := by
  rw [slice, List.take_length, List.drop_zero]

theorem length_slice (h : stop ≤ l.length) : (slice l i stop).length = stop - i := by
  rw [slice, List.length_drop, List.length_take, Nat.min_eq_left h]

theorem drop_slice (n : Nat) : (slice l i stop).drop n = slice l (i + n) stop := by
  rw [slice, slice, List.drop_drop]

theorem take_slice {n : Nat} (h : i + n ≤ stop) : (slice l i stop).take n = slice l i (i + n) := by
  rw [slice, slice, List.take_drop, List.take_take, Nat.min_eq_left h]

theorem slice_append (hab : a ≤ b) (hb : b ≤ stop) : slice l a b ++ slice l b stop = slice l a stop := by
  have htake : (slice l a stop).take (b - a) = slice l a (a + (b - a)) := take_slice (by omega)
  have hdrop : (slice l a stop).drop (b - a) = slice l (a + (b - a)) stop := drop_slice (b - a)
  rw [Nat.add_sub_cancel' hab] at htake hdrop
  rw [← htake, ← hdrop, List.take_append_drop]

theorem getElem?_slice {n : Nat} (h : i + n < stop) : (slice l i stop)[n]? = l[i + n]? := by
  rw [slice, List.getElem?_drop, List.getElem?_take_of_lt h]

theorem getLast?_slice (hi : i < stop) (h : stop ≤ l.length) : (slice l i stop).getLast? = l[stop - 1]? := by
  have hlast : i + (stop - i - 1) = stop - 1 := by omega
  rw [List.getLast?_eq_getElem?, length_slice h, getElem?_slice (by omega), hlast]

theorem slice_succ (hx : l[i]? = some x) (h : a ≤ i) : slice l a (i + 1) = slice l a i ++ [x] := by
  rw [← slice_append h (Nat.le_succ i), slice_cons hx (Nat.lt_succ_self i), slice_eq_nil (Nat.le_refl _)]

theorem dropLast_slice (h : stop ≤ l.length) : (slice l i stop).dropLast = slice l i (stop - 1) := by
  rw [List.dropLast_eq_take, length_slice h]
  by_cases hi : i < stop
  · have hstop : i + (stop - i - 1) = stop - 1 := by omega
    rw [take_slice (by omega), hstop]
  · rw [slice_eq_nil (by omega), slice_eq_nil (by omega), List.take_nil]

theorem getElem?_of_mem_slice (hx : x ∈ slice l a b) : ∃ i, a ≤ i ∧ i < b ∧ l[i]? = some x := by
  obtain ⟨n, hn⟩ := List.mem_iff_getElem?.1 hx
  rw [slice, List.getElem?_drop] at hn
  have hlt := (List.getElem?_eq_some_iff.1 hn).1
  rw [List.length_take] at hlt
  rw [List.getElem?_take_of_lt (by omega)] at hn
  exact ⟨a + n, by omega, by omega, hn⟩

/-- What is left of a slice is a slice with the same end. -/
theorem eq_slice_of_suffix {r : List α} (h : r <:+ slice l a b) (hab : a ≤ b) (hb : b ≤ l.length) :
    r = slice l (b - r.length) b ∧ a ≤ b - r.length ∧ b - r.length ≤ b := by
  have hle := h.length_le
  have hdrop := List.suffix_iff_eq_drop.1 h
  rw [length_slice hb] at hle hdrop
  rw [drop_slice] at hdrop
  have hstart : a + (b - a - r.length) = b - r.length := by omega
  rw [hstart] at hdrop
  exact ⟨hdrop, by omega, by omega⟩

end

@[simp] theorem length_codes (src : List Glyph) : (codes src).length = src.length := List.length_map ..

theorem getElem?_codes {src : List Glyph} {i : Nat} {g : Glyph} (h : src[i]? = some g) :
    (codes src)[i]? = some g.code := by
  rw [codes, List.getElem?_map, h]
  rfl

theorem codes_slice (src : List Glyph) (a b : Nat) : codes (slice src a b) = slice (codes src) a b := by
  rw [codes, codes, slice, slice, List.map_drop, List.map_take]

/-- Every glyph stands at its offset. -/
def Indexed (src : List Glyph) : Prop := ∀ (i : Nat) (g : Glyph), src[i]? = some g → g.offset = i

theorem getElem?_glyphsFrom {k i : Nat} {text masked : List Char} {g : Glyph}
    (h : (glyphsFrom k text masked)[i]? = some g) : g.offset = k + i := by
  induction text generalizing k i masked with
  | nil => cases h
  | cons r text ih =>
    cases masked with
    | nil => cases h
    | cons c masked =>
      rw [glyphsFrom] at h
      cases i with
      | zero =>
        cases h
        rfl
      | succ i =>
        have := ih h
        omega

theorem indexed_glyphs (text : List Char) : Indexed (glyphs text) := by
  intro i g hg
  rw [getElem?_glyphsFrom hg, Nat.zero_add]

theorem Indexed.getElem? {src : List Glyph} (h : Indexed src) {a b : Nat} {g : Glyph}
    (hg : g ∈ slice src a b) : a ≤ g.offset ∧ g.offset < b ∧ src[g.offset]? = some g := by
  obtain ⟨i, hai, hib, hi⟩ := getElem?_of_mem_slice hg
  have hoffset := h i g hi
  rw [hoffset]
  exact ⟨hai, hib, hi⟩

/-- The glyphs from an offset on, found by their offsets. -/
theorem Indexed.dropWhile_slice {src : List Glyph} (h : Indexed src) {i k stop : Nat} (hik : i ≤ k)
    (hk : k ≤ stop) (hstop : stop ≤ src.length) :
    (slice src i stop).dropWhile (fun g => g.offset < k) = slice src k stop := by
  have hbefore : ∀ g ∈ slice src i k, decide (g.offset < k) = true := by
    intro g hg
    simpa using (h.getElem? hg).2.1
  rw [← slice_append hik hk, List.dropWhile_append_of_pos hbefore]
  by_cases hlt : k < stop
  · have hget := List.getElem?_eq_getElem (l := src) (i := k) (by omega)
    have hoffset := h _ _ hget
    rw [slice_cons hget hlt, List.dropWhile_cons_of_neg (by simp [hoffset])]
  · rw [slice_eq_nil (by omega)]
    rfl

/-- The glyphs before an offset, found by their offsets. -/
theorem Indexed.takeWhile_slice {src : List Glyph} (h : Indexed src) {i k stop : Nat} (hik : i ≤ k)
    (hk : k ≤ stop) (hstop : stop ≤ src.length) :
    (slice src i stop).takeWhile (fun g => g.offset < k) = slice src i k := by
  have happend := List.takeWhile_append_dropWhile (p := fun g : Glyph => decide (g.offset < k))
    (l := slice src i stop)
  rw [h.dropWhile_slice hik hk hstop, ← slice_append hik hk] at happend
  have hcancel := List.append_cancel_right happend
  rw [slice_append hik hk] at hcancel
  exact hcancel

theorem length_glyphs (text : List Char) : (glyphs text).length = text.length := by
  rw [← length_codes, codes_glyphs, length_mask]

/-! ## Characters -/

/-- The character at an offset. -/
def charAt (s : List Char) (i : Nat) : Except BracketError Char :=
  match s[i]? with
  | some c => .ok c
  | none => .error .outOfText

theorem charAt_of_getElem? {s : List Char} {i : Nat} {c : Char} (h : s[i]? = some c) :
    charAt s i = .ok c := by
  rw [charAt, h]

theorem charAt_codes {src : List Glyph} {i : Nat} {g : Glyph} (h : src[i]? = some g) :
    charAt (codes src) i = .ok g.code :=
  charAt_of_getElem? (getElem?_codes h)

/-! ## Brackets -/

section

variable {s : List Char} {i stop : Nat}

theorem bounds_of_closing (hi : i < stop) {k : Int} (h : closing s i (some stop) = .ok k) :
    i ≤ k.toNat ∧ k.toNat ≤ stop := by
  unfold closing at h
  split at h
  · cases h
  · split at h
    · cases h
    · dsimp only [Option.getD_some] at h
      rw [stretch_natCast] at h
      split at h
      · rename_i n hn
        have hlt := closeOffset_lt hn
        rw [List.length_drop, List.length_take] at hlt
        cases h
        omega
      · split at h
        · cases h
          omega
        · cases h

/-- The offset of the bracket that closes the one at `i`, or the limit when it stays open. The bracket
has to stand below the limit. -/
def closeBelow (s : List Char) (i stop : Nat) :
    Except BracketError { k : Nat // i ≤ k ∧ k ≤ stop } :=
  if hi : i < stop then
    match h : closing s i (some stop) with
    | .ok k => .ok ⟨k.toNat, bounds_of_closing hi h⟩
    | .error e => .error e
  else .error .outOfText

theorem closing_eq {o c : Char} (ho : s[i]? = some o) (hc : closer? o = some c) (hstop : stop ≤ s.length) :
    closing s i (some stop) =
      .ok ((closeOffset o c 0 (slice s i stop)).elim (stop : Int) fun n => (i + n : Nat)) := by
  rw [closing, charAt?_natCast, ho]
  dsimp only
  rw [hc]
  dsimp only [Option.getD_some]
  rw [stretch_natCast]
  have hstop' : (stop : Int) ≤ s.length := by omega
  unfold slice
  cases closeOffset o c 0 ((s.take stop).drop i) with
  | none => exact if_pos hstop'
  | some n => rfl

/-- A bracket does not close itself. -/
theorem closeOffset_cons_pos {o c : Char} {s : List Char} {n : Nat}
    (h : closeOffset o c 0 (o :: s) = some n) : 0 < n := by
  rw [closeOffset, if_pos rfl] at h
  obtain ⟨m, -, rfl⟩ := Option.map_eq_some_iff.1 h
  exact Nat.succ_pos m

/-- At a bracket that opens below its limit nothing goes wrong. -/
theorem closeBelow_ok {o c : Char} (ho : s[i]? = some o) (hc : closer? o = some c) (hi : i < stop)
    (hstop : stop ≤ s.length) :
    ∃ k, ∃ hk : i ≤ k ∧ k ≤ stop, closeBelow s i stop = .ok ⟨k, hk⟩ ∧ i < k ∧
      k = (closeOffset o c 0 (slice s i stop)).elim stop fun n => i + n := by
  have hclosing := closing_eq ho hc hstop
  unfold closeBelow
  rw [dif_pos hi]
  split
  · rename_i k hok
    have hk := hok
    rw [hclosing, Except.ok.injEq] at hk
    refine ⟨k.toNat, bounds_of_closing hi hok, rfl, ?_⟩
    rw [← hk]
    cases hclose : closeOffset o c 0 (slice s i stop) with
    | none => exact ⟨hi, rfl⟩
    | some n =>
      rw [slice_cons ho hi] at hclose
      have hpos := closeOffset_cons_pos hclose
      exact ⟨show i < i + n by omega, rfl⟩
  · rename_i e he
    rw [hclosing] at he
    cases he

-- neither a character that opens nothing nor a limit is searched from
example : closeBelow ['x'] 0 1 = .error .notOpening := rfl

example : closeBelow ['(', ')'] 0 0 = .error .outOfText := rfl

end

section

variable {src : List Glyph} {i stop : Nat} {g : Glyph} {c : Char} (hg : src[i]? = some g)
  (hc : closer? g.code = some c) (hi : i < stop) (hstop : stop ≤ src.length)

include hg hc hi hstop

theorem closeBelow_codes :
    ∃ k, ∃ hk : i ≤ k ∧ k ≤ stop, closeBelow (codes src) i stop = .ok ⟨k, hk⟩ ∧ i < k ∧
      k = (closeOffset g.code c 0 (codes (slice src i stop))).elim stop fun n => i + n := by
  rw [codes_slice]
  exact closeBelow_ok (getElem?_codes hg) hc hi (by rwa [length_codes])

/-- A bracket is closed within its slice, and the slice is split there. -/
theorem closeBelow_eq :
    ∃ k, ∃ hk : i ≤ k ∧ k ≤ stop, closeBelow (codes src) i stop = .ok ⟨k, hk⟩ ∧ i < k ∧
      (enclose g.code c (slice src i stop)).inside = slice src (i + 1) k ∧
      (enclose g.code c (slice src i stop)).after = slice src (k + 1) stop := by
  obtain ⟨k, hbounds, hk, hpos, hvalue⟩ := closeBelow_codes hg hc hi hstop
  refine ⟨k, hbounds, hk, hpos, ?_⟩
  unfold enclose
  cases hclose : closeOffset g.code c 0 (codes (slice src i stop)) with
  | none =>
    rw [hclose, Option.elim_none] at hvalue
    rw [hvalue]
    exact ⟨drop_slice 1, (slice_eq_nil (Nat.le_succ stop)).symm⟩
  | some n =>
    rw [hclose, Option.elim_some] at hvalue
    have hlt := closeOffset_lt hclose
    rw [length_codes, length_slice hstop] at hlt
    dsimp only
    rw [hvalue]
    refine ⟨?_, ?_⟩
    · rw [take_slice (by omega), drop_slice]
    · rw [drop_slice, Nat.add_assoc]

end

/-! ## Blanks -/

theorem le_of_skipBlanks {s : List Char} {i stop : Nat} {j : Int}
    (h : skipBlanks s i (some stop) = .ok j) : i ≤ j.toNat := by
  unfold skipBlanks at h
  dsimp only at h
  split at h
  · cases h
  · cases h
    omega

/-- The first offset from `i` on, before the limit, that holds no blank. -/
def skipBlanksBelow (s : List Char) (i stop : Nat) : Except BracketError { j : Nat // i ≤ j } :=
  match h : skipBlanks s i (some stop) with
  | .ok j => .ok ⟨j.toNat, le_of_skipBlanks h⟩
  | .error e => .error e

theorem skipBlanks_eq {s : List Char} {i stop : Nat} (hstop : stop ≤ s.length) :
    skipBlanks s i (some stop) = .ok (i + ((slice s i stop).takeWhile Text.isBlank).length : Nat) := by
  have hsuffix := (List.takeWhile_prefix (l := slice s i stop) Text.isBlank).length_le
  rw [length_slice hstop] at hsuffix
  unfold skipBlanks
  dsimp only [Option.getD_some]
  rw [stretch_natCast]
  unfold slice at hsuffix ⊢
  rw [if_neg]
  · rfl
  · rw [Bool.and_eq_true, decide_eq_true_iff, ← Int.natCast_add, charAt?_natCast, Option.isNone_iff_eq_none,
      List.getElem?_eq_none_iff]
    omega

theorem skipBlankGlyphs_eq_drop (gs : List Glyph) :
    skipBlankGlyphs gs = gs.drop ((codes gs).takeWhile Text.isBlank).length := by
  induction gs with
  | nil => rfl
  | cons g gs ih =>
    rw [skipBlankGlyphs] at ih ⊢
    rw [codes_cons, List.dropWhile_cons, List.takeWhile_cons]
    cases Text.isBlank g.code with
    | true => exact ih
    | false => rfl

theorem skipBlanksBelow_eq {src : List Glyph} {i stop : Nat} (hi : i ≤ stop) (hstop : stop ≤ src.length) :
    ∃ j, ∃ hj : i ≤ j, skipBlanksBelow (codes src) i stop = .ok ⟨j, hj⟩ ∧ j ≤ stop ∧
      skipBlankGlyphs (slice src i stop) = slice src j stop := by
  have hlength : stop ≤ (codes src).length := by rwa [length_codes]
  have hskip := skipBlanks_eq (s := codes src) (i := i) hlength
  have hblanks := (List.takeWhile_prefix (l := slice (codes src) i stop) Text.isBlank).length_le
  rw [length_slice hlength] at hblanks
  unfold skipBlanksBelow
  split
  · rename_i j hok
    have hj := hok
    rw [hskip, Except.ok.injEq] at hj
    refine ⟨j.toNat, le_of_skipBlanks hok, rfl, ?_⟩
    rw [← hj, Int.toNat_natCast, skipBlankGlyphs_eq_drop, drop_slice, codes_slice]
    exact ⟨by omega, rfl⟩
  · rename_i e he
    rw [hskip] at he
    cases he

end EndpointIndex.ByOffset
