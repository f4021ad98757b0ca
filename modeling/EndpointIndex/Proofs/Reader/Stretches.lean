import EndpointIndex.Proofs.Offset.Values
import EndpointIndex.Proofs.Source.Units

/-!
# Where values stand

A value is a stretch of an argument list, so what stands right before it is a parenthesis, a comma, an
equals sign or a brace. Main facts: this holds of every argument of an annotation
(`follows_of_mem_arguments`), and of every item of an array that is one (`Follows.item`).
-/

namespace EndpointIndex.Pattern

open Source

/-- A stretch that comes right after a character with which a value starts. -/
def Follows (src gs : List Glyph) : Prop := ∃ g, startsValue g.code = true ∧ g :: gs <:+: src

namespace Follows

variable {src src' gs s : List Glyph}

theorem mono (h : Follows src gs) (hsrc : src <:+: src') : Follows src' gs := by
  obtain ⟨g, hg, hgs⟩ := h
  exact ⟨g, hg, hgs.trans hsrc⟩

theorem isInfix (h : Follows src gs) : gs <:+: src := by
  obtain ⟨g, -, hgs⟩ := h
  exact (List.suffix_cons g gs).isInfix.trans hgs

theorem of_prefix (h : Follows src gs) (hs : s <+: gs) : Follows src s := by
  obtain ⟨g, hg, hgs⟩ := h
  exact ⟨g, hg, ((List.prefix_cons_inj g).2 hs).isInfix.trans hgs⟩

end Follows

/-- The first stretch between commas begins where the whole does, and the others follow a comma. -/
theorem splitTopLevel_follows (depth : Int) (gs : List Glyph) :
    ∃ first rest, splitTopLevel depth gs = first :: rest ∧ first <+: gs ∧ ∀ s ∈ rest, Follows gs s := by
  induction gs generalizing depth with
  | nil => exact ⟨[], [], rfl, List.nil_prefix, by simp⟩
  | cons g gs ih =>
    have hmono {s : List Glyph} (h : Follows gs s) : Follows (g :: gs) s :=
      h.mono (List.suffix_cons g gs).isInfix
    rw [splitTopLevel]
    split
    · rename_i hcomma
      obtain ⟨first, rest, hsplit, hfirst, hrest⟩ := ih depth
      -- the stretch behind a comma follows that comma
      have hg : startsValue g.code = true := by
        simp only [Bool.and_eq_true, decide_eq_true_eq] at hcomma
        rw [hcomma.1]
        decide
      refine ⟨[], splitTopLevel depth gs, rfl, List.nil_prefix, ?_⟩
      rw [hsplit]
      intro s hs
      rcases List.mem_cons.1 hs with rfl | hs
      · exact ⟨g, hg, ((List.prefix_cons_inj g).2 hfirst).isInfix⟩
      · exact hmono (hrest s hs)
    · dsimp only
      obtain ⟨first, rest, hsplit, hfirst, hrest⟩ :=
        ih (if isOpening g.code then depth + 1 else if isClosing g.code then depth - 1 else depth)
      rw [hsplit]
      exact ⟨g :: first, rest, rfl, (List.prefix_cons_inj g).2 hfirst, fun s hs => hmono (hrest s hs)⟩

theorem Follows.mem_splitTopLevel {src gs s : List Glyph} (h : Follows src gs)
    (hs : s ∈ splitTopLevel 0 gs) : Follows src s := by
  obtain ⟨first, rest, hsplit, hfirst, hrest⟩ := splitTopLevel_follows 0 gs
  rw [hsplit] at hs
  rcases List.mem_cons.1 hs with rfl | hs
  · exact h.of_prefix hfirst
  · exact (hrest s hs).mono h.isInfix

/-- The value of a named argument follows its equals sign. -/
theorem namedArgument?_follows {gs v : List Glyph} {key : String} (h : namedArgument? gs = some (key, v)) :
    Follows gs v := by
  obtain ⟨e, hequals, hsuffix⟩ := ByOffset.exists_equals_of_namedArgument? h
  refine ⟨e, ?_, hsuffix.isInfix⟩
  rw [hequals]
  decide

theorem exists_trimGlyphs (gs : List Glyph) :
    ∃ gap gap', gs = gap ++ (trimGlyphs gs ++ gap') ∧ isBlankStretch gap = true := by
  obtain ⟨gap, hgs, hgap⟩ := exists_skipBlankGlyphs gs
  obtain ⟨gap', hgap'⟩ := List.rdropWhile_prefix (fun g : Glyph => Text.isBlank g.code) (skipBlankGlyphs gs)
  refine ⟨gap, gap', ?_, hgap⟩
  rw [Spread.trimGlyphs_eq, hgap', ← hgs]

theorem isInfix_trimGlyphs (gs : List Glyph) : trimGlyphs gs <:+: gs := by
  obtain ⟨gap, gap', hgs, -⟩ := exists_trimGlyphs gs
  exact ⟨gap, gap', by rw [List.append_assoc, ← hgs]⟩

theorem braced?_follows {gs inner : List Glyph} (h : braced? gs = some inner) : Follows gs inner := by
  cases gs with
  | nil => cases h
  | cons g r =>
    rw [braced?] at h
    split at h
    · rename_i hbrace
      cases h
      simp only [Bool.and_eq_true, decide_eq_true_eq] at hbrace
      refine ⟨g, ?_, ((List.prefix_cons_inj g).2 (List.dropLast_prefix r)).isInfix⟩
      rw [hbrace.1]
      decide
    · cases h

/-- An item of an array stands where a value may start, as the array does. -/
theorem Follows.item {src gs inner s : List Glyph} (h : Follows src gs)
    (hinner : braced? (trimGlyphs gs) = some inner) (hs : s ∈ splitTopLevel 0 inner) : Follows src s := by
  have hinside := (braced?_follows hinner).mono ((isInfix_trimGlyphs gs).trans h.isInfix)
  exact hinside.mem_splitTopLevel hs

/-! ## Argument lists -/

theorem argumentList_follows {gs args : List Glyph} (h : (argumentList gs).1 = some args) :
    Follows gs args := by
  rw [argumentList] at h
  split at h
  · rename_i g r hskip
    have hsuffix := skipBlankGlyphs_suffix gs
    rw [hskip] at hsuffix
    split at h
    · rename_i hparen
      cases h
      refine ⟨g, ?_, ((List.prefix_cons_inj g).2 (isPrefix_inside '(' ')' g r)).isInfix.trans hsuffix.isInfix⟩
      rw [hparen]
      decide
    · cases h
  · cases h

/-- The argument list of an annotation follows a parenthesis. -/
theorem mark?_follows {gs args : List Glyph} {m : Mark} (h : mark? gs = some m) (hargs : m.args = some args) :
    Follows gs args := by
  cases gs with
  | nil => cases h
  | cons g gs =>
    rw [mark?] at h
    split at h
    · split at h
      · cases h
      · rename_i parts rest hname
        dsimp only at h
        split at h
        · cases h
        · cases h
          have hrest := (dottedName?_suffix hname).trans
            ((skipBlankGlyphs_suffix gs).trans (List.suffix_cons g gs))
          exact (argumentList_follows hargs).mono hrest.isInfix
    · cases h

end EndpointIndex.Pattern
