import EndpointIndex.Proofs.Outline.Lexeme
import EndpointIndex.Reader.Pattern
import Mathlib.Data.List.DropRight

/-!
# Lexemes in masked source

In the masked source of a laid-out text every gap is blank and every lexeme shows: `Spread ls gs` says
that the glyphs `gs` spell the lexemes `ls`, with nothing but blanks around them. Main facts: a stretch
splits where its lexemes split (`Spread.split`), it may lose the blanks around it (`Spread.trim`), and
the glyphs of a layout spread its lexemes (`spread_glyphs`).
-/

namespace EndpointIndex.Source

open Pattern (isBlankStretch skipBlankGlyphs trimGlyphs)

/-- The glyphs of one lexeme. The contents of a literal are blank, but what was written is kept. -/
def Lexeme.Spells : Lexeme → List Glyph → Prop
  | .word n, gs => codes gs = n.text.toList
  | .sign c _, gs => codes gs = [c]
  | .literal contents, gs =>
    ∃ first body last, gs = first :: body ++ [last] ∧ first.code = '"' ∧ last.code = '"' ∧
      isBlankStretch body = true ∧ raws body = writeContents contents
  | .block b, gs => codes gs = '{' :: b.text ++ ['}']

/-- Nothing that continues a name stands at the head of a stretch. -/
def EndsName (gs : List Glyph) : Prop := ∀ g ∈ gs.head?, Text.isNamePart g.code = false

/-- Glyphs that spell lexemes one after another, with blanks around them. -/
inductive Spread : List Lexeme → List Glyph → Prop
  | nil {gs : List Glyph} (blank : isBlankStretch gs = true) : Spread [] gs
  | cons {l : Lexeme} {ls : List Lexeme} {gap body rest : List Glyph}
      (blank : isBlankStretch gap = true) (spells : l.Spells body)
      (ends : l.isWord = true → EndsName rest) (more : Spread ls rest) :
      Spread (l :: ls) (gap ++ (body ++ rest))

/-! ## Blank stretches -/

@[simp] theorem isBlankStretch_nil : isBlankStretch [] = true := rfl

@[simp] theorem isBlankStretch_append (a b : List Glyph) :
    isBlankStretch (a ++ b) = (isBlankStretch a && isBlankStretch b) := by
  simp [isBlankStretch]

@[simp] theorem isBlankStretch_cons (g : Glyph) (gs : List Glyph) :
    isBlankStretch (g :: gs) = (Text.isBlank g.code && isBlankStretch gs) := rfl

@[simp] theorem codes_nil : codes [] = [] := rfl

@[simp] theorem codes_cons (g : Glyph) (gs : List Glyph) : codes (g :: gs) = g.code :: codes gs := rfl

@[simp] theorem codes_append (a b : List Glyph) : codes (a ++ b) = codes a ++ codes b :=
  List.map_append

theorem skipBlankGlyphs_append {gap : List Glyph} (h : isBlankStretch gap = true) (gs : List Glyph) :
    skipBlankGlyphs (gap ++ gs) = skipBlankGlyphs gs := by
  rw [skipBlankGlyphs, List.dropWhile_append_of_pos]
  · rfl
  · exact List.all_eq_true.1 h

theorem skipBlankGlyphs_cons {g : Glyph} (h : Text.isBlank g.code = false) (gs : List Glyph) :
    skipBlankGlyphs (g :: gs) = g :: gs := by
  simp [skipBlankGlyphs, h]

theorem skipBlankGlyphs_of_blank {gs : List Glyph} (h : isBlankStretch gs = true) :
    skipBlankGlyphs gs = [] := by
  have hskip := skipBlankGlyphs_append h []
  rwa [List.append_nil] at hskip

/-! ## One lexeme -/

namespace Lexeme.Spells

variable {l : Lexeme} {gs : List Glyph}

/-- The glyphs of a lexeme neither start nor end with a blank. -/
theorem ends_visible (h : l.Spells gs) :
    ∃ first, gs.head? = some first ∧ Text.isBlank first.code = false ∧
      ∃ last, gs.getLast? = some last ∧ Text.isBlank last.code = false := by
  -- it is enough to look at the characters spelled
  suffices hcodes : ∃ c, (codes gs).head? = some c ∧ Text.isBlank c = false ∧
      ∃ d, (codes gs).getLast? = some d ∧ Text.isBlank d = false by
    obtain ⟨c, hc, hblank, d, hd, hblank'⟩ := hcodes
    rw [codes, List.head?_map, Option.map_eq_some_iff] at hc
    rw [codes, List.getLast?_map, Option.map_eq_some_iff] at hd
    obtain ⟨first, hfirst, rfl⟩ := hc
    obtain ⟨last, hlast, rfl⟩ := hd
    exact ⟨first, hfirst, hblank, last, hlast, hblank'⟩
  cases l with
  | word n =>
    obtain ⟨c, r, htext, -, hparts⟩ := n.chars_eq
    rw [show codes gs = c :: r from htext ▸ h]
    refine ⟨c, rfl, Text.isBlank_of_isNamePart (hparts c List.mem_cons_self), ?_⟩
    obtain ⟨d, hd⟩ := Option.ne_none_iff_exists'.1 (List.getLast?_eq_none_iff.not.2 (List.cons_ne_nil c r))
    exact ⟨d, hd, Text.isBlank_of_isNamePart (hparts d (List.mem_of_getLast? hd))⟩
  | sign c known =>
    rw [show codes gs = [c] from h]
    have hblank := not_isBlank_of_mem_signs known
    exact ⟨c, rfl, hblank, c, rfl, hblank⟩
  | literal contents =>
    obtain ⟨first, body, last, rfl, hfirst, hlast, -, -⟩ := h
    have hcodes : codes (first :: body ++ [last]) = '"' :: codes body ++ ['"'] := by
      simp [hfirst, hlast]
    rw [hcodes]
    exact ⟨'"', rfl, by decide, '"', List.getLast?_concat, by decide⟩
  | block b =>
    rw [show codes gs = '{' :: b.text ++ ['}'] from h]
    exact ⟨'{', rfl, by decide, '}', List.getLast?_concat, by decide⟩

theorem ne_nil (h : l.Spells gs) : gs ≠ [] := by
  obtain ⟨first, hfirst, -⟩ := h.ends_visible
  rintro rfl
  cases hfirst

theorem skipBlank (h : l.Spells gs) (rest : List Glyph) :
    skipBlankGlyphs (gs ++ rest) = gs ++ rest := by
  obtain ⟨first, hfirst, hblank, -⟩ := h.ends_visible
  cases gs with
  | nil => cases hfirst
  | cons g gs =>
    cases hfirst
    exact skipBlankGlyphs_cons hblank _

end Lexeme.Spells

/-! ## Stretches of lexemes -/

namespace Spread

variable {l : Lexeme} {ls ls' : List Lexeme} {gs : List Glyph}

theorem endsName_append {gs gap : List Glyph} (hgs : EndsName gs) (hgap : isBlankStretch gap = true) :
    EndsName (gs ++ gap) := by
  cases gs with
  | nil =>
    intro g hg
    have hblank : Text.isBlank g.code = true := List.all_eq_true.1 hgap g (List.mem_of_head? hg)
    exact Text.isNamePart_of_isBlank hblank
  | cons g gs => exact hgs

theorem append_blank {gap : List Glyph} (h : Spread ls gs) (hgap : isBlankStretch gap = true) :
    Spread ls (gs ++ gap) := by
  induction h with
  | nil blank => exact .nil (by simp [hgap, blank])
  | cons blank spells ends more ih =>
    rw [List.append_assoc, List.append_assoc]
    exact .cons blank spells (fun hword => endsName_append (ends hword) hgap) ih

/-- Without blanks before the first lexeme. -/
theorem cons_start {body rest : List Glyph} (spells : l.Spells body) (ends : l.isWord = true → EndsName rest)
    (more : Spread ls rest) : Spread (l :: ls) (body ++ rest) := by
  rw [← List.nil_append (body ++ rest)]
  exact .cons rfl spells ends more

/-- Reading the first lexeme off a stretch. -/
theorem uncons (h : Spread (l :: ls) gs) :
    ∃ body rest, skipBlankGlyphs gs = body ++ rest ∧ l.Spells body ∧
      (l.isWord = true → EndsName rest) ∧ Spread ls rest := by
  cases h with
  | cons blank spells ends more =>
    exact ⟨_, _, by rw [skipBlankGlyphs_append blank, spells.skipBlank], spells, ends, more⟩

theorem endsName_take {a b : List Glyph} (h : EndsName (a ++ b)) : EndsName a := by
  cases a with
  | nil => intro g hg; cases hg
  | cons g a => exact h

/-- A stretch splits where its lexemes split. -/
theorem split (h : Spread (ls ++ ls') gs) :
    ∃ a b, gs = a ++ b ∧ Spread ls a ∧ Spread ls' b := by
  induction ls generalizing gs with
  | nil => exact ⟨[], gs, rfl, .nil rfl, h⟩
  | cons l ls ih =>
    cases h with
    | cons blank spells ends more =>
      obtain ⟨a, b, rfl, ha, hb⟩ := ih more
      refine ⟨_, b, ?_, .cons blank spells (fun hword => endsName_take (ends hword)) ha, hb⟩
      simp only [List.append_assoc]

/-- A stretch of one lexeme, with the blanks around it. -/
theorem single (h : Spread [l] gs) :
    ∃ gap body gap', gs = gap ++ (body ++ gap') ∧ isBlankStretch gap = true ∧ l.Spells body ∧
      isBlankStretch gap' = true := by
  cases h with
  | cons blank spells ends more =>
    cases more with
    | nil blank' => exact ⟨_, _, _, rfl, blank, spells, blank'⟩

/-- Where one lexeme stands between others, the blanks before it belong to what precedes it. -/
theorem splitAt (h : Spread (ls ++ l :: ls') gs) :
    ∃ a body b, gs = a ++ (body ++ b) ∧ Spread ls a ∧ l.Spells body ∧
      (l.isWord = true → EndsName b) ∧ Spread ls' b := by
  obtain ⟨a, b, rfl, ha, hb⟩ := h.split
  cases hb with
  | cons blank spells ends more =>
    exact ⟨_, _, _, (List.append_assoc ..).symm, ha.append_blank blank, spells, ends, more⟩

/-- What holds of blanks and of every lexeme, and of two stretches together when it holds of each,
holds of the whole stretch. -/
theorem induct {P : List Glyph → Prop} (hblank : ∀ gap, isBlankStretch gap = true → P gap)
    (happend : ∀ a b, P a → P b → P (a ++ b)) (hlexeme : ∀ l ∈ ls, ∀ body, l.Spells body → P body)
    (h : Spread ls gs) : P gs := by
  induction h with
  | nil blank => exact hblank _ blank
  | cons blank spells ends more ih =>
    apply happend _ _ (hblank _ blank)
    apply happend _ _ (hlexeme _ List.mem_cons_self _ spells)
    exact ih fun l hl => hlexeme l (List.mem_cons_of_mem _ hl)

/-! ## Trimming -/

theorem trimGlyphs_eq (gs : List Glyph) :
    trimGlyphs gs = (skipBlankGlyphs gs).rdropWhile fun g => Text.isBlank g.code := rfl

theorem rdropWhile_append_visible {p : Glyph → Bool} {a b : List Glyph} {last : Glyph}
    (hlast : a.getLast? = some last) (hp : p last = false) :
    (a ++ b).rdropWhile p = a ++ b.rdropWhile p := by
  obtain ⟨init, rfl⟩ := List.getLast?_eq_some_iff.1 hlast
  induction b using List.reverseRecOn with
  | nil => rw [List.append_nil, List.rdropWhile_concat_neg _ _ _ (by simp [hp]), List.rdropWhile_nil,
      List.append_nil]
  | append_singleton b g ih =>
    rw [← List.append_assoc]
    by_cases hg : p g = true
    · rw [List.rdropWhile_concat_pos _ _ _ hg, List.rdropWhile_concat_pos _ _ _ hg, ih]
    · rw [List.rdropWhile_concat_neg _ _ _ hg, List.rdropWhile_concat_neg _ _ _ hg, List.append_assoc]

theorem endsName_rdropWhile {p : Glyph → Bool} {gs : List Glyph} (h : EndsName gs) :
    EndsName (gs.rdropWhile p) := by
  obtain ⟨dropped, hdropped⟩ := List.rdropWhile_prefix p gs
  rw [← hdropped] at h
  exact endsName_take h

theorem rdropWhile_blank (h : Spread ls gs) :
    Spread ls (gs.rdropWhile fun g => Text.isBlank g.code) := by
  induction h with
  | @nil gs blank =>
    have hnil : (gs.rdropWhile fun g => Text.isBlank g.code) = [] := by
      rw [List.rdropWhile_eq_nil_iff]
      exact List.all_eq_true.1 blank
    rw [hnil]
    exact .nil rfl
  | @cons l ls gap body rest blank spells ends more ih =>
    obtain ⟨-, -, -, last, hlast, hvisible⟩ := spells.ends_visible
    have hlast' : (gap ++ body).getLast? = some last := by
      rw [List.getLast?_append, hlast]
      rfl
    rw [← List.append_assoc, rdropWhile_append_visible hlast' hvisible, List.append_assoc]
    exact .cons blank spells (fun hword => endsName_rdropWhile (ends hword)) ih

/-- A trimmed stretch starts with its first lexeme and still spells all of them. -/
theorem trim (h : Spread (l :: ls) gs) :
    ∃ body rest, trimGlyphs gs = body ++ rest ∧ l.Spells body ∧ (l.isWord = true → EndsName rest) ∧
      Spread ls rest := by
  cases h with
  | @cons _ _ gap body rest blank spells ends more =>
    obtain ⟨-, -, -, last, hlast, hvisible⟩ := spells.ends_visible
    refine ⟨body, rest.rdropWhile fun g => Text.isBlank g.code, ?_, spells,
      fun hword => endsName_rdropWhile (ends hword), more.rdropWhile_blank⟩
    rw [trimGlyphs_eq, skipBlankGlyphs_append blank, spells.skipBlank,
      rdropWhile_append_visible hlast hvisible]

/-- A trimmed stretch does not end with a blank. -/
theorem visible_getLast_trim {g : Glyph} (h : (trimGlyphs gs).getLast? = some g) :
    Text.isBlank g.code = false := by
  rw [trimGlyphs_eq] at h
  have hne : (skipBlankGlyphs gs).rdropWhile (fun g => Text.isBlank g.code) ≠ [] := by
    intro hnil
    rw [hnil] at h
    cases h
  have hlast := List.rdropWhile_last_not (fun g : Glyph => Text.isBlank g.code) _ hne
  rw [List.getLast?_eq_some_getLast hne, Option.some.injEq] at h
  rw [h] at hlast
  simpa using hlast

end Spread

end EndpointIndex.Source
