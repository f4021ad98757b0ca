import EndpointIndex.Proofs.Outline.Masking
import EndpointIndex.Proofs.Outline.Values

/-!
# Reading headers

What the pattern reader makes of the header of a declaration. Main facts: the annotations of a header
are found and blanked out (`annotations_notes`), and a header is read as the type or the method that it
announces (`heading_type`, `heading_method`). Annotations of parameters are found too, but they stand
after the name of the method.
-/

namespace EndpointIndex.Source

open Pattern

/-! ## What is left of a stretch -/

theorem skipBlankGlyphs_suffix (gs : List Glyph) : skipBlankGlyphs gs <:+ gs := List.dropWhile_suffix _

theorem exists_skipBlankGlyphs (gs : List Glyph) :
    ∃ gap, gs = gap ++ skipBlankGlyphs gs ∧ isBlankStretch gap = true :=
  ⟨gs.takeWhile fun g => Text.isBlank g.code, List.takeWhile_append_dropWhile.symm, List.all_takeWhile⟩

theorem name?_suffix {gs n r : List Glyph} (h : name? gs = some (n, r)) : r <:+ gs := by
  cases gs with
  | nil => cases h
  | cons g gs =>
    rw [name?] at h
    split at h
    · cases h
      exact (List.dropWhile_suffix _).trans (List.suffix_cons g gs)
    · cases h

theorem dotName?_suffix {gs n r : List Glyph} (h : dotName? gs = some (n, r)) : r <:+ gs := by
  rw [dotName?] at h
  split at h
  · rename_i g t hskip
    split at h
    · have hsuffix := skipBlankGlyphs_suffix gs
      rw [hskip] at hsuffix
      exact (name?_suffix h).trans ((skipBlankGlyphs_suffix t).trans
        ((List.suffix_cons g t).trans hsuffix))
    · cases h
  · cases h

theorem moreNames_suffix (gs : List Glyph) : (moreNames gs).2 <:+ gs := by
  fun_induction moreNames gs with
  | case1 => exact List.suffix_rfl
  | case2 gs n r h hlt ns rest hm ih =>
    rw [hm] at ih
    exact ih.trans (dotName?_suffix h)

theorem dottedName?_suffix {gs rest : List Glyph} {parts : List (List Glyph)}
    (h : dottedName? gs = some (parts, rest)) : rest <:+ gs := by
  rw [dottedName?] at h
  split at h
  · cases h
  · rename_i n r hname
    cases h
    exact (moreNames_suffix r).trans (name?_suffix hname)

theorem enclose_after_suffix (o c : Char) (gs : List Glyph) : (enclose o c gs).after <:+ gs := by
  rw [enclose]
  split
  · exact List.drop_suffix _ _
  · exact List.nil_suffix

/-- What is taken with a parenthesis stands before what follows it. -/
theorem take_enclose (o c : Char) (gs : List Glyph) :
    gs.take (gs.length - (enclose o c gs).after.length) ++ (enclose o c gs).after = gs := by
  obtain ⟨before, hbefore⟩ := enclose_after_suffix o c gs
  generalize (enclose o c gs).after = after at hbefore ⊢
  subst hbefore
  rw [List.length_append, Nat.add_sub_cancel, List.take_left]

theorem isPrefix_inside (o c : Char) (g : Glyph) (gs : List Glyph) :
    (enclose o c (g :: gs)).inside <+: gs := by
  rw [enclose]
  split
  · rename_i k _
    cases k with
    | zero => exact List.nil_prefix
    | succ k => exact List.take_prefix k gs
  · exact List.prefix_rfl

theorem argumentList_suffix (gs : List Glyph) : (argumentList gs).2 <:+ gs := by
  rw [argumentList]
  split
  · rename_i g r hskip
    split
    · have hafter := enclose_after_suffix '(' ')' (g :: r)
      rw [← hskip] at hafter
      exact hskip ▸ hafter.trans (skipBlankGlyphs_suffix gs)
    · exact List.suffix_rfl
  · exact List.suffix_rfl

/-- An annotation starts with `@`, and its name and arguments stand after that. -/
theorem mark?_suffix {g : Glyph} {gs : List Glyph} {m : Mark} (h : mark? (g :: gs) = some m) :
    g.code = '@' ∧ m.after <:+ gs := by
  rw [mark?] at h
  split at h
  · rename_i hcode
    split at h
    · cases h
    · rename_i parts rest hname
      dsimp only at h
      split at h
      · cases h
      · cases h
        exact ⟨hcode, (argumentList_suffix rest).trans
          ((dottedName?_suffix hname).trans (skipBlankGlyphs_suffix gs))⟩
  · cases h

/-! ## Annotations -/

theorem argumentList_none {ls : List Lexeme} {gs : List Glyph} (h : Spread ls gs)
    (hls : startsWith '(' ls = false) : argumentList gs = (none, gs) := by
  have hhead := h.head_ne (by decide) (by decide) (by decide) hls
  rw [argumentList]
  cases hskip : skipBlankGlyphs gs with
  | nil => rfl
  | cons g r =>
    rw [hskip] at hhead
    exact if_neg (hhead g rfl)

theorem argumentList_some (a : ArgumentList) {ls : List Lexeme} {gs : List Glyph}
    (h : Spread (.sign '(' :: a.lexemes ++ .sign ')' :: ls) gs) :
    ∃ inside after, argumentList gs = (some inside, after) ∧ Spread a.lexemes inside ∧
      Spread ls after := by
  have hk : IsBracket '(' ')' := .inl ⟨rfl, rfl⟩
  obtain ⟨gap, first, inside, last, after, rfl, hgap, hfirst, -, henclose, hinside, hafter⟩ :=
    Spread.enclose hk (fun x hx => (scan_balanced hk).arguments a hx) h
  refine ⟨inside, after, ?_, hinside, hafter⟩
  have hskip : skipBlankGlyphs (gap ++ (first :: inside ++ last :: after)) =
      first :: (inside ++ last :: after) := by
    rw [skipBlankGlyphs_append hgap, List.cons_append, skipBlankGlyphs_cons (by rw [hfirst]; decide)]
  rw [argumentList, hskip]
  dsimp only
  rw [if_pos hfirst, ← List.cons_append, henclose]

theorem startsWith_arguments {c : Char} (hc : c ≠ '(') (arguments : Option ArgumentList)
    {ls : List Lexeme} (hls : startsWith c ls = false) :
    startsWith c ((match arguments with
      | none => []
      | some a => .sign '(' :: a.lexemes ++ [.sign ')']) ++ ls) = false := by
  cases arguments with
  | none => exact hls
  | some a => simp [startsWith, Lexeme.isSign, Ne.symm hc]

/-- An annotation is read to its end and no further. -/
theorem mark?_note (n : Note) {ls : List Lexeme} {gs : List Glyph} (h : Spread (n.lexemes ++ ls) gs)
    (hdot : startsWith '.' ls = false) (hparen : startsWith '(' ls = false) :
    ∃ gap g r m, gs = gap ++ (g :: r) ∧ isBlankStretch gap = true ∧ g.code = '@' ∧
      mark? (g :: r) = some m ∧ Spread ls m.after ∧
      ∀ lines covered, (annotationOf lines g covered m).bare = n.annotation := by
  obtain ⟨name, nameable, arguments⟩ := n
  rw [Note.lexemes, List.append_assoc, List.cons_append] at h
  cases h with
  | @cons _ _ gap body rest blank spells ends more =>
    obtain ⟨g, rfl, hg⟩ := spells_sign spells
    obtain ⟨parts, rest', used, hname, -, htexts, hrest'⟩ :=
      dottedName?_spread name more (startsWith_arguments (by decide) arguments hdot)
    have htext : dottedText parts = name.text := by
      rw [dottedText, htexts]
      rfl
    have hmark : mark? (g :: rest) =
        some ⟨name.text, (argumentList rest').1, (argumentList rest').2⟩ := by
      rw [mark?, if_pos hg, hname]
      dsimp only
      rw [htext, if_neg nameable]
    refine ⟨gap, g, rest, _, rfl, blank, hg, hmark, ?_⟩
    cases arguments with
    | none =>
      rw [List.nil_append] at hrest'
      rw [argumentList_none hrest' hparen]
      exact ⟨hrest', fun lines covered => rfl⟩
    | some a =>
      obtain ⟨inside, after, hlist, hinside, hafter⟩ :=
        argumentList_some a (show Spread (.sign '(' :: a.lexemes ++ .sign ')' :: ls) _ by simpa using hrest')
      rw [hlist]
      refine ⟨hafter, fun lines covered => ?_⟩
      rw [annotationOf]
      dsimp only
      rw [arguments_spread a hinside]
      rfl

section

variable (lines : LineTable)

theorem annotations_cons_other {g : Glyph} (hg : g.code ≠ '@') (gs : List Glyph) :
    annotations lines (g :: gs) = ((annotations lines gs).1, g :: (annotations lines gs).2) := by
  have hmark : mark? (g :: gs) = none := by
    rw [mark?, if_neg hg]
  rw [annotations]
  split
  · rfl
  · rename_i m hm
    rw [hmark] at hm
    cases hm

theorem annotations_append {x : List Glyph} (hx : ∀ g ∈ x, g.code ≠ '@') (y : List Glyph) :
    annotations lines (x ++ y) = ((annotations lines y).1, x ++ (annotations lines y).2) := by
  induction x with
  | nil => rfl
  | cons g x ih =>
    rw [List.cons_append, annotations_cons_other lines (hx g List.mem_cons_self),
      ih fun g' hg' => hx g' (List.mem_cons_of_mem g hg')]
    rfl

/-- The glyphs of an annotation, blanked out. -/
def blanked (gs : List Glyph) : List Glyph := gs.map fun g => { g with code := blankOut g.code }

theorem isBlankStretch_blanked (gs : List Glyph) : isBlankStretch (blanked gs) = true := by
  simp [isBlankStretch, blanked, isBlank_blankOut]

theorem annotations_of_mark {g : Glyph} {gs used : List Glyph} {m : Mark} (h : mark? (g :: gs) = some m)
    (hused : g :: gs = used ++ m.after) :
    annotations lines (g :: gs) =
      ((g.offset, annotationOf lines g used m) :: (annotations lines m.after).1,
        blanked used ++ (annotations lines m.after).2) := by
  have htake : (g :: gs).take ((g :: gs).length - m.after.length) = used := by
    rw [hused, List.length_append, Nat.add_sub_cancel, List.take_left]
  rw [annotations]
  split
  · rename_i hnone
    rw [h] at hnone
    cases hnone
  · rename_i m' hm'
    rw [h, Option.some.injEq] at hm'
    subst hm'
    rw [htake]
    rfl

/-- Annotations are found where there are glyphs. -/
theorem offset_of_mem_annotations (gs : List Glyph) :
    ∀ p ∈ (annotations lines gs).1, ∃ g ∈ gs, g.offset = p.1 := by
  fun_induction annotations lines gs with
  | case1 => simp
  | case2 g gs hmark found stripped hrest ih =>
    intro p hp
    rw [hrest] at ih
    obtain ⟨g', hg', hoffset⟩ := ih p hp
    exact ⟨g', List.mem_cons_of_mem g hg', hoffset⟩
  | case3 g gs m hmark covered found stripped hrest ih =>
    intro p hp
    rw [hrest] at ih
    rcases List.mem_cons.1 hp with rfl | hp
    · exact ⟨g, List.mem_cons_self, rfl⟩
    · obtain ⟨g', hg', hoffset⟩ := ih p hp
      exact ⟨g', List.mem_cons_of_mem g ((mark?_suffix hmark).2.mem hg'), hoffset⟩

theorem startsWith_notes {c : Char} (hc : c ≠ '@') (notes : List Note) {ls : List Lexeme}
    (hls : startsWith c ls = false) : startsWith c (notes.flatMap Note.lexemes ++ ls) = false := by
  cases notes with
  | nil => exact hls
  | cons n notes => simp [startsWith, Note.lexemes, Lexeme.isSign, Ne.symm hc]

/-- The annotations that a stretch starts with are found, in order, and blanked out. -/
theorem annotations_notes (notes : List Note) {ls : List Lexeme} {gs : List Glyph}
    (h : Spread (notes.flatMap Note.lexemes ++ ls) gs) (hdot : startsWith '.' ls = false)
    (hparen : startsWith '(' ls = false) :
    ∃ found used hidden rest, gs = used ++ rest ∧ Spread ls rest ∧ isBlankStretch hidden = true ∧
      (∀ p ∈ found, ∃ g ∈ used, g.offset = p.1) ∧
      found.map (fun p => p.2.bare) = notes.map Note.annotation ∧
      annotations lines gs = (found ++ (annotations lines rest).1,
        hidden ++ (annotations lines rest).2) := by
  induction notes generalizing gs with
  | nil => exact ⟨[], [], [], gs, rfl, h, rfl, by simp, rfl, rfl⟩
  | cons n notes ih =>
    rw [List.flatMap_cons, List.append_assoc] at h
    obtain ⟨gap, g, r, m, rfl, hgap, hg, hmark, hafter, hbare⟩ := mark?_note n h
      (startsWith_notes (by decide) notes hdot) (startsWith_notes (by decide) notes hparen)
    obtain ⟨found, used, hidden, rest, hrest, hspread, hhidden, hoffsets, hfound, hannotations⟩ :=
      ih hafter
    obtain ⟨covered, hcovered⟩ := (mark?_suffix hmark).2
    have hgr : g :: r = (g :: covered) ++ m.after := by
      rw [← hcovered, List.cons_append]
    have hvisible : ∀ g' ∈ gap, g'.code ≠ '@' := by
      intro g' hg' hcode
      have hblank := List.all_eq_true.1 hgap g' hg'
      rw [hcode] at hblank
      cases hblank
    refine ⟨(g.offset, annotationOf lines g (g :: covered) m) :: found,
      gap ++ ((g :: covered) ++ used), gap ++ (blanked (g :: covered) ++ hidden), rest,
      ?_, hspread, ?_, ?_, ?_, ?_⟩
    · rw [hgr, hrest]
      simp only [List.append_assoc]
    · simp only [isBlankStretch_append, hgap, isBlankStretch_blanked, hhidden, Bool.and_self]
    · intro p hp
      rcases List.mem_cons.1 hp with rfl | hp
      · exact ⟨g, by simp, rfl⟩
      · obtain ⟨g', hg', hoffset⟩ := hoffsets p hp
        exact ⟨g', by simp [hg'], hoffset⟩
    · rw [List.map_cons, hbare, hfound, List.map_cons]
    · rw [annotations_append lines hvisible, annotations_of_mark lines hmark hgr, hannotations]
      simp only [List.cons_append, List.append_assoc]

end

/-! ## Words of a header -/

/-- Among words and blanks there is no sign. -/
theorem code_ne_of_words {c : Char} (hpart : Text.isNamePart c = false) (hblank : Text.isBlank c = false)
    {ws : List Name} {gs : List Glyph} (h : Spread (ws.map .word) gs) : ∀ g ∈ gs, g.code ≠ c := by
  refine h.induct (P := fun gs => ∀ g ∈ gs, g.code ≠ c) ?_ ?_ ?_
  · rintro gap hgap g hg rfl
    rw [List.all_eq_true.1 hgap g hg] at hblank
    cases hblank
  · intro a b ha hb g hg
    rcases List.mem_append.1 hg with hg | hg
    · exact ha g hg
    · exact hb g hg
  · intro l hl body hbody g hg hcode
    obtain ⟨w, -, rfl⟩ := List.mem_map.1 hl
    obtain ⟨first, r, rfl, -, hparts⟩ := spells_word hbody
    have hname := hparts g hg
    rw [hcode, hpart] at hname
    cases hname

/-- Whether a keyword may start after the given character. -/
def isFree (before : Option Char) : Bool :=
  !(before.any fun c => Text.isNamePart c || c = '.' || c = '@')

theorem isFree_of_isBlank {c : Char} (h : Text.isBlank c = true) : isFree (some c) = true := by
  have hdot : c ≠ '.' := by
    rintro rfl
    cases h
  have hat : c ≠ '@' := by
    rintro rfl
    cases h
  simp [isFree, Text.isNamePart_of_isBlank h, hdot, hat]

theorem isFree_of_isNamePart {c : Char} (h : Text.isNamePart c = true) : isFree (some c) = false := by
  simp [isFree, h]

theorem findType?_cons_none {before : Option Char} {g : Glyph} {gs : List Glyph}
    (h : isFree before = true → typeHead? (g :: gs) = none) :
    Pattern.findType? before (g :: gs) = Pattern.findType? (some g.code) gs := by
  have hnone : (if isFree before = true then typeHead? (g :: gs) else none) = none := by
    by_cases hfree : isFree before = true
    · rw [if_pos hfree, h hfree]
    · rw [if_neg hfree]
  rw [Pattern.findType?, ← isFree, hnone]

theorem findType?_cons_some {before : Option Char} {g : Glyph} {gs n : List Glyph} {keyword : String}
    (hfree : isFree before = true) (h : typeHead? (g :: gs) = some (keyword, n)) :
    Pattern.findType? before (g :: gs) = some (g, keyword, n) := by
  rw [Pattern.findType?, ← isFree, if_pos hfree, h]

/-- A type keyword at the head of a stretch that blanks and a name follow. -/
def keywordHead? (gs : List Glyph) (keyword : String) : Option (String × List Glyph) :=
  if codes (gs.take keyword.length) = keyword.toList then
    match gs.drop keyword.length with
    | b :: r =>
      if Text.isBlank b.code then
        (name? (skipBlankGlyphs (b :: r))).map fun (n, _) => (keyword, n)
      else none
    | [] => none
  else none

theorem typeHead?_eq (gs : List Glyph) : typeHead? gs = typeKeywords.findSome? (keywordHead? gs) := by
  rw [typeHead?]
  congr 1
  funext keyword
  rw [keywordHead?]
  cases gs.drop keyword.length <;> rfl

theorem keyword_parts : ∀ k ∈ typeKeywords, k.toList ≠ [] ∧ k.toList.all Text.isNamePart = true := by
  decide

/-- No keyword starts with a blank. -/
theorem typeHead?_blank {g : Glyph} (hg : Text.isBlank g.code = true) (gs : List Glyph) :
    typeHead? (g :: gs) = none := by
  rw [typeHead?_eq, List.findSome?_eq_none_iff]
  intro k hk
  apply if_neg
  intro hcodes
  obtain ⟨hne, hparts⟩ := keyword_parts k hk
  cases hlist : k.toList with
  | nil => exact hne hlist
  | cons c r =>
    have hlength : k.length = r.length + 1 := by
      rw [← String.length_toList, hlist, List.length_cons]
    rw [hlength, List.take_succ_cons, codes_cons, hlist, List.cons.injEq] at hcodes
    rw [hlist, List.all_cons, Bool.and_eq_true, ← hcodes.1, Text.isNamePart_of_isBlank hg] at hparts
    cases hparts.1

/-- A keyword at the head of a stretch is at the head of the word that stands there. -/
theorem keyword_start {body rest : List Glyph} {k : String} (hk : k ∈ typeKeywords) (hends : EndsName rest)
    (h : codes ((body ++ rest).take k.length) = k.toList) :
    ∃ b more, body = b ++ more ∧ codes b = k.toList ∧ b.length = k.length := by
  -- the keyword might reach beyond the word
  rw [List.take_append, codes_append] at h
  by_cases hle : k.length ≤ body.length
  · rw [Nat.sub_eq_zero_of_le hle, List.take_zero, codes_nil, List.append_nil] at h
    exact ⟨body.take k.length, body.drop k.length, (List.take_append_drop _ _).symm, h,
      List.length_take_of_le hle⟩
  · -- a keyword has no character that ends a name
    obtain ⟨m, hm⟩ : ∃ m, k.length - body.length = m + 1 := ⟨k.length - body.length - 1, by omega⟩
    rw [hm] at h
    cases rest with
    | nil =>
      have hlength := congrArg List.length h
      rw [List.take_nil, codes_nil, List.append_nil, codes, List.length_map, List.length_take,
        String.length_toList] at hlength
      omega
    | cons g rest =>
      have hmem : g.code ∈ k.toList := by
        rw [← h]
        simp
      have hpart := List.all_eq_true.1 (keyword_parts k hk).2 g.code hmem
      rw [hends g rfl] at hpart
      cases hpart

/-- A word announces a type only if it is a keyword that another word follows. -/
theorem typeHead?_word {w : Name} {body rest : List Glyph} (h : (Lexeme.word w).Spells body)
    (hends : EndsName rest) (hw : w.text ∈ typeKeywords → isBlankStretch rest = true) :
    typeHead? (body ++ rest) = none := by
  rw [typeHead?_eq, List.findSome?_eq_none_iff]
  intro k hk
  rw [keywordHead?]
  by_cases hcodes : codes ((body ++ rest).take k.length) = k.toList
  · rw [if_pos hcodes]
    obtain ⟨b, more, rfl, hb, hlength⟩ := keyword_start hk hends hcodes
    rw [List.append_assoc, ← hlength, List.drop_left]
    -- the word is the keyword itself, or goes on after it
    cases more with
    | nil =>
      have hkw : w.text = k := by
        rw [← String.toList_inj, ← hb, ← show codes (b ++ []) = w.text.toList from h, List.append_nil]
      have hblank := hw (hkw ▸ hk)
      cases rest with
      | nil => rfl
      | cons g rest =>
        rw [List.nil_append]
        dsimp only
        rw [skipBlankGlyphs_of_blank hblank]
        simp [name?]
    | cons g more =>
      obtain ⟨first, r, hbody, -, hparts⟩ := spells_word h
      have hpart := hparts g (by rw [← hbody]; simp)
      exact if_neg (by simp [Text.isBlank_of_isNamePart hpart])
  · exact if_neg hcodes

theorem findType?_inside {c : Char} (hc : Text.isNamePart c = true) {body : List Glyph}
    (hbody : ∀ g ∈ body, Text.isNamePart g.code = true) (rest : List Glyph) :
    ∃ d, Pattern.findType? (some c) (body ++ rest) = Pattern.findType? (some d) rest := by
  induction body generalizing c with
  | nil => exact ⟨c, rfl⟩
  | cons g body ih =>
    obtain ⟨d, hd⟩ := ih (hbody g List.mem_cons_self) fun g' hg' => hbody g' (List.mem_cons_of_mem g hg')
    refine ⟨d, ?_⟩
    rw [List.cons_append, findType?_cons_none, hd]
    intro hfree
    rw [isFree_of_isNamePart hc] at hfree
    cases hfree

/-- The search passes over a word that announces no type. -/
theorem findType?_word {w : Name} (before : Option Char) {body rest : List Glyph}
    (h : (Lexeme.word w).Spells body) (hends : EndsName rest)
    (hw : w.text ∈ typeKeywords → isBlankStretch rest = true) :
    ∃ d, Pattern.findType? before (body ++ rest) = Pattern.findType? (some d) rest := by
  have hhead := typeHead?_word h hends hw
  obtain ⟨g, r, rfl, -, hparts⟩ := spells_word h
  rw [List.cons_append] at hhead
  obtain ⟨d, hd⟩ := findType?_inside (hparts g List.mem_cons_self)
    (fun g' hg' => hparts g' (List.mem_cons_of_mem g hg')) rest
  exact ⟨d, by rw [List.cons_append, findType?_cons_none fun _ => hhead, hd]⟩

/-- After blanks, a keyword may start. -/
theorem findType?_blank (before : Option Char) {gap : List Glyph} (hgap : isBlankStretch gap = true)
    (hfree : isFree before = true ∨ gap ≠ []) (rest : List Glyph) :
    ∃ before', isFree before' = true ∧ Pattern.findType? before (gap ++ rest) = Pattern.findType? before' rest := by
  induction gap generalizing before with
  | nil => exact ⟨before, hfree.resolve_right (by simp), rfl⟩
  | cons g gap ih =>
    rw [isBlankStretch_cons, Bool.and_eq_true] at hgap
    obtain ⟨before', hfree', hrest⟩ := ih _ hgap.2 (.inl (isFree_of_isBlank hgap.1))
    exact ⟨before', hfree', by
      rw [List.cons_append, findType?_cons_none fun _ => typeHead?_blank hgap.1 _, hrest]⟩

/-- Where a search goes on: nothing before the stretch continues into it. -/
def Opens (before : Option Char) (gs : List Glyph) : Prop := isFree before = true ∨ EndsName gs

/-- Going on to the next word of a stretch. -/
theorem findType?_next {w : Name} {ls : List Lexeme} {before : Option Char} {gs : List Glyph}
    (h : Spread (.word w :: ls) gs) (hopens : Opens before gs) :
    ∃ before' gap body rest, gs = gap ++ (body ++ rest) ∧ isFree before' = true ∧
      Pattern.findType? before gs = Pattern.findType? before' (body ++ rest) ∧ (Lexeme.word w).Spells body ∧
      EndsName rest ∧ Spread ls rest := by
  cases h with
  | @cons _ _ gap body rest blank spells ends more =>
    have hfree : isFree before = true ∨ gap ≠ [] := by
      rcases hopens with hfree | hends
      · exact .inl hfree
      · right
        rintro rfl
        obtain ⟨g, r, rfl, -, hparts⟩ := spells_word spells
        have hpart := hends g rfl
        rw [hparts g List.mem_cons_self] at hpart
        cases hpart
    obtain ⟨before', hfree', hfind⟩ := findType?_blank before blank hfree (body ++ rest)
    exact ⟨before', gap, body, rest, rfl, hfree', hfind, spells, ends rfl, more⟩

/-- The search passes over words that are no keywords of types. -/
theorem findType?_words {ws : List Name} (hws : ∀ w ∈ ws, w.text ∉ typeKeywords) {ls : List Lexeme}
    {before : Option Char} {gs : List Glyph} (h : Spread (ws.map .word ++ ls) gs)
    (hopens : Opens before gs) :
    ∃ before' used rest, gs = used ++ rest ∧ Pattern.findType? before gs = Pattern.findType? before' rest ∧
      Opens before' rest ∧ Spread ls rest := by
  induction ws generalizing before gs with
  | nil => exact ⟨before, [], gs, rfl, rfl, hopens, h⟩
  | cons w ws ih =>
    obtain ⟨before', gap, body, rest, rfl, hfree, hfind, hbody, hends, hrest⟩ := findType?_next h hopens
    obtain ⟨d, hword⟩ := findType?_word before' hbody hends
      fun hkw => absurd hkw (hws w List.mem_cons_self)
    obtain ⟨before'', used, rest', rfl, hfind', hopens', hrest'⟩ :=
      ih (fun w' hw' => hws w' (List.mem_cons_of_mem w hw')) hrest (.inr hends)
    exact ⟨before'', gap ++ (body ++ used), rest', by simp, by rw [hfind, hword, hfind'], hopens', hrest'⟩

theorem findType?_blank_none {before : Option Char} {gs : List Glyph} (h : isBlankStretch gs = true) :
    Pattern.findType? before gs = none := by
  induction gs generalizing before with
  | nil => rfl
  | cons g gs ih =>
    rw [isBlankStretch_cons, Bool.and_eq_true] at h
    rw [findType?_cons_none fun _ => typeHead?_blank h.1 _, ih h.2]

theorem modifier_notMem_typeKeywords (m : Modifier) : m.word.text ∉ typeKeywords := by
  have hall : ∀ v ∈ Java.modifiers, v ∉ typeKeywords := by decide
  exact hall m.text m.known

theorem typeHead?_kind {kind : TypeKind} {name : Name} {body rest : List Glyph}
    (h : (Lexeme.word kind.word).Spells body) (hends : EndsName rest) (hrest : Spread [.word name] rest) :
    ∃ n, typeHead? (body ++ rest) = some (kind.keyword, n) ∧ textOf n = name.text := by
  obtain ⟨gap, n, gap', rfl, hgap, hn, hgap'⟩ := hrest.single
  refine ⟨n, ?_, textOf_spells hn⟩
  have hcodes : codes body = kind.keyword.toList := h
  have hlength : kind.keyword.length = body.length := by
    rw [← String.length_toList, ← hcodes, codes, List.length_map]
  have hname : name? (skipBlankGlyphs (gap ++ (n ++ gap'))) = some (n, gap') := by
    rw [skipBlankGlyphs_append hgap, hn.skipBlank, name?_word hn]
    intro g hg
    exact Text.isNamePart_of_isBlank (List.all_eq_true.1 hgap' g (List.mem_of_head? hg))
  have hhead : keywordHead? (body ++ (gap ++ (n ++ gap'))) kind.keyword = some (kind.keyword, n) := by
    rw [keywordHead?, hlength, List.take_left, List.drop_left, if_pos hcodes]
    cases gap with
    | nil =>
      -- two words do not touch
      obtain ⟨g, r, rfl, -, hparts⟩ := spells_word hn
      have hpart := hends g rfl
      rw [hparts g List.mem_cons_self] at hpart
      cases hpart
    | cons g gap =>
      rw [isBlankStretch_cons, Bool.and_eq_true] at hgap
      rw [List.cons_append] at hname ⊢
      dsimp only
      rw [if_pos hgap.1, hname]
      rfl
  rw [typeHead?_eq]
  cases kind with
  | classType =>
    rw [typeKeywords, List.findSome?_cons, show "class" = TypeKind.classType.keyword from rfl, hhead]
  | interfaceType =>
    have hclass : keywordHead? (body ++ (gap ++ (n ++ gap'))) "class" = none := by
      apply if_neg
      rw [codes, List.map_take, ← codes, codes_append, hcodes, show "class".length = 5 from rfl]
      simp [TypeKind.keyword]
    rw [typeKeywords, List.findSome?_cons, hclass]
    dsimp only
    rw [List.findSome?_cons, show "interface" = TypeKind.interfaceType.keyword from rfl, hhead]

/-- The search stops at the keyword of a type. -/
theorem findType?_type {ws : List Name} (hws : ∀ w ∈ ws, w.text ∉ typeKeywords) {kind : TypeKind}
    {name : Name} {before : Option Char} {gs : List Glyph}
    (h : Spread ((ws ++ [kind.word, name]).map .word) gs) (hfree : isFree before = true) :
    ∃ first n, Pattern.findType? before gs = some (first, kind.keyword, n) ∧ first ∈ gs ∧
      textOf n = name.text := by
  rw [List.map_append] at h
  obtain ⟨before', used, rest, rfl, hfind, hopens, hrest⟩ := findType?_words hws h (.inl hfree)
  obtain ⟨before'', gap, body, rest', rfl, hfree', hfind', hbody, hends, hrest'⟩ :=
    findType?_next hrest hopens
  obtain ⟨n, hhead, hn⟩ := typeHead?_kind hbody hends hrest'
  obtain ⟨first, r, rfl, -, -⟩ := spells_word hbody
  rw [List.cons_append] at hhead
  refine ⟨first, n, ?_, by simp, hn⟩
  rw [hfind, hfind', List.cons_append, findType?_cons_some hfree' hhead]

/-- In the words before the parameters of a method no type is found. -/
theorem findType?_method (ws : List Name) (hws : ∀ w ∈ ws, w.text ∉ typeKeywords) {name : Name}
    {before : Option Char} {gs : List Glyph} (h : Spread ((ws ++ [name]).map .word) gs)
    (hfree : isFree before = true) : Pattern.findType? before gs = none := by
  rw [List.map_append] at h
  obtain ⟨before', used, rest, rfl, hfind, hopens, hrest⟩ := findType?_words hws h (.inl hfree)
  obtain ⟨before'', gap, body, rest', rfl, hfree', hfind', hbody, hends, hrest'⟩ :=
    findType?_next hrest hopens
  cases hrest' with
  | nil blank =>
    obtain ⟨d, hword⟩ := findType?_word before'' hbody hends fun _ => blank
    rw [hfind, hfind', hword, findType?_blank_none blank]

/-! ## Names of methods -/

/-- The last of several words, which a gap precedes. -/
theorem spread_last_word {ws : List Name} {v name : Name} {gs : List Glyph}
    (h : Spread ((ws ++ [v, name]).map .word) gs) :
    ∃ x g body gap, gs = (x ++ [g]) ++ (body ++ gap) ∧ Text.isBlank g.code = true ∧
      (Lexeme.word name).Spells body ∧ isBlankStretch gap = true := by
  rw [List.map_append] at h
  obtain ⟨a, b, rfl, ha, hb⟩ := h.split
  cases hb with
  | @cons _ _ gap body rest blank spells ends more =>
    obtain ⟨gap', body', gap'', rfl, hgap', hbody', hgap''⟩ := Spread.single more
    rcases List.eq_nil_or_concat gap' with rfl | ⟨init, g, rfl⟩
    · obtain ⟨g, r, rfl, -, hparts⟩ := spells_word hbody'
      have hpart := ends rfl g rfl
      rw [hparts g List.mem_cons_self] at hpart
      cases hpart
    · refine ⟨a ++ (gap ++ (body ++ init)), g, body', gap'', by simp, ?_, hbody', hgap''⟩
      simpa using List.all_eq_true.1 hgap' g (by simp)

theorem trailingName?_word {x body gap : List Glyph} {g : Glyph} {name : Name}
    (hg : Text.isBlank g.code = true) (hbody : (Lexeme.word name).Spells body)
    (hgap : isBlankStretch gap = true) :
    trailingName? ((x ++ [g]) ++ (body ++ gap)) = some body := by
  obtain ⟨first, r, hfirst, hstart, hparts⟩ := spells_word hbody
  have hparts' : ∀ g' ∈ body.reverse, Text.isNamePart g'.code = true := by
    intro g' hg'
    exact hparts g' (hfirst ▸ List.mem_reverse.1 hg')
  have hdrop : (((x ++ [g]) ++ (body ++ gap)).reverse.dropWhile fun g => Text.isBlank g.code) =
      body.reverse ++ (g :: x.reverse) := by
    rw [List.reverse_append, List.reverse_append, List.append_assoc, List.dropWhile_append_of_pos]
    · rw [List.reverse_append, List.reverse_singleton, List.singleton_append]
      cases hrev : body.reverse with
      | nil =>
        rw [List.reverse_eq_nil_iff] at hrev
        exact absurd hrev hbody.ne_nil
      | cons last t =>
        have hvisible := Text.isBlank_of_isNamePart (hparts' last (by rw [hrev]; exact List.mem_cons_self))
        rw [List.cons_append, List.dropWhile_cons_of_neg (by simp [hvisible])]
    · intro g' hg'
      exact List.all_eq_true.1 hgap g' (List.mem_reverse.1 hg')
  have htake : ((body.reverse ++ (g :: x.reverse)).takeWhile fun g => Text.isNamePart g.code) =
      body.reverse := by
    rw [List.takeWhile_append_of_pos hparts', List.takeWhile_cons_of_neg (by
      simp [Text.isNamePart_of_isBlank hg]), List.append_nil]
  rw [trailingName?, hdrop, htake, List.reverse_reverse, hfirst,
    List.dropWhile_cons_of_neg (by simp [hstart])]

/-! ## Headers -/

/-- The offsets of a stretch of source grow. -/
def Ordered (gs : List Glyph) : Prop := gs.Pairwise fun g h => g.offset < h.offset

/-- Annotations that all stand before a place, and others that do not. -/
theorem annotationsBefore_append {found more : List (Nat × Annotation)} {offset : Nat}
    (hfound : ∀ p ∈ found, p.1 < offset) (hmore : ∀ p ∈ more, offset ≤ p.1) :
    annotationsBefore (found ++ more) offset = found.map Prod.snd := by
  have hkeep : found.filter (fun p => p.1 < offset) = found :=
    List.filter_eq_self.2 fun p hp => by simpa using hfound p hp
  have hdrop : more.filter (fun p => p.1 < offset) = [] :=
    List.filter_eq_nil_iff.2 fun p hp => by simpa using hmore p hp
  rw [annotationsBefore, List.filter_append, hkeep, hdrop, List.append_nil]

theorem offset_lt {a b : List Glyph} (h : Ordered (a ++ b)) {first : Glyph} {offset : Nat}
    (hoffset : ∃ g ∈ a, g.offset = offset) (hfirst : first ∈ b) : offset < first.offset := by
  obtain ⟨g, hg, rfl⟩ := hoffset
  exact (List.pairwise_append.1 h).2.2 g hg first hfirst

theorem startsWith_words {c : Char} {ws : List Name} (hws : ws ≠ []) (ls : List Lexeme) :
    startsWith c (ws.map .word ++ ls) = false := by
  cases ws with
  | nil => exact absurd rfl hws
  | cons w ws => rfl

theorem notMem_typeKeywords_of_mem_modifiers {modifiers : List Modifier} :
    ∀ w ∈ modifiers.map Modifier.word, w.text ∉ typeKeywords := by
  intro w hw
  obtain ⟨m, -, rfl⟩ := List.mem_map.1 hw
  exact modifier_notMem_typeKeywords m

theorem takeWhile_ne_of_forall {gs : List Glyph} {c : Char} (h : ∀ g ∈ gs, g.code ≠ c) (rest : List Glyph) :
    (gs ++ rest).takeWhile (fun g => g.code ≠ c) = gs ++ rest.takeWhile fun g => g.code ≠ c :=
  List.takeWhile_append_of_pos fun g hg => by simpa using h g hg

theorem code_ne_of_blank {c : Char} (hc : Text.isBlank c = false) {gs : List Glyph}
    (h : isBlankStretch gs = true) : ∀ g ∈ gs, g.code ≠ c := by
  rintro g hg rfl
  rw [List.all_eq_true.1 h g hg] at hc
  cases hc

section

variable (lines : LineTable)

/-- The header of a type announces it with its annotations. -/
theorem heading_type (notes : List Note) (modifiers : List Modifier) (kind : TypeKind) (name : Name)
    {gs : List Glyph} (h : Spread (Outline.opening notes modifiers kind.word name) gs)
    (hordered : Ordered gs) :
    ∃ annotations span, heading lines gs = .type kind name.text annotations span ∧
      annotations.map Annotation.bare = notes.map Note.annotation := by
  rw [Outline.opening_eq, ← List.append_nil (List.map _ _)] at h
  obtain ⟨found, used, hidden, rest, rfl, hrest, hhidden, hoffsets, hfound, hannotations⟩ :=
    annotations_notes lines notes h (startsWith_words (by simp) []) (startsWith_words (by simp) [])
  rw [List.append_nil] at hrest
  have hnone : annotations lines rest = ([], rest) := by
    have happend := annotations_append lines (code_ne_of_words (c := '@') (by decide) (by decide) hrest) []
    rw [List.append_nil] at happend
    rw [happend, annotations]
    simp
  rw [hnone, List.append_nil] at hannotations
  have hparen : (hidden ++ rest).takeWhile (fun g => g.code ≠ '(') = hidden ++ rest := by
    rw [takeWhile_ne_of_forall (code_ne_of_blank (by decide) hhidden), ← List.append_nil rest,
      takeWhile_ne_of_forall (code_ne_of_words (by decide) (by decide) hrest), List.takeWhile_nil]
  obtain ⟨before, hfree, hhead⟩ := findType?_blank none hhidden (.inl rfl) rest
  obtain ⟨first, n, hfind, hfirst, hn⟩ :=
    findType?_type notMem_typeKeywords_of_mem_modifiers hrest hfree
  -- all annotations stand before the keyword
  have hbefore : annotationsBefore found first.offset = found.map Prod.snd := by
    have happend : annotationsBefore (found ++ []) first.offset = found.map Prod.snd :=
      annotationsBefore_append (fun p hp => offset_lt hordered (hoffsets p hp) hfirst) (by simp)
    rwa [List.append_nil] at happend
  refine ⟨found.map Prod.snd, spanOf lines first n, ?_, by rw [List.map_map]; exact hfound⟩
  rw [heading, hannotations]
  dsimp only
  rw [hparen, hhead, hfind]
  dsimp only
  rw [hbefore, hn]
  cases kind <;> rfl

/-- A header announces a method if no type is named before its first parenthesis, nothing is assigned
there, and a name that is not reserved stands last. -/
theorem heading_eq_method {gs before rest n : List Glyph} {located : List (Nat × Annotation)}
    {paren first : Glyph} (hannotations : annotations lines gs = (located, before ++ paren :: rest))
    (hcodes : ∀ c, Text.isNamePart c = false → Text.isBlank c = false → ∀ g ∈ before, g.code ≠ c)
    (hparen : paren.code = '(') (hfind : Pattern.findType? none before = none)
    (hname : trailingName? before = some (first :: n)) (hfree : textOf (first :: n) ∉ reservedNames) :
    heading lines gs = .method (textOf (first :: n)) (annotationsBefore located first.offset)
      (methodSpan lines gs first paren) := by
  have hopen := hcodes '(' (by decide) (by decide)
  have htake : (before ++ paren :: rest).takeWhile (fun g => g.code ≠ '(') = before := by
    rw [takeWhile_ne_of_forall hopen, List.takeWhile_cons_of_neg (by simp [hparen]), List.append_nil]
  have hdrop : (before ++ paren :: rest).dropWhile (fun g => g.code ≠ '(') = paren :: rest := by
    rw [List.dropWhile_append_of_pos (fun g hg => by simpa using hopen g hg),
      List.dropWhile_cons_of_neg (by simp [hparen])]
  have hequals : (before.any fun g => g.code = '=') = false := by
    rw [List.any_eq_false]
    intro g hg
    simpa using hcodes '=' (by decide) (by decide) g hg
  rw [heading, hannotations]
  dsimp only
  rw [htake, hfind, hdrop]
  dsimp only
  rw [hequals, hname]
  dsimp only
  rw [if_neg hfree]
  rfl

/-- The header of a method announces it with its own annotations, not those of its parameters. -/
theorem heading_method (notes : List Note) (modifiers : List Modifier) (name : MethodName)
    (parameters : List Parameter) {gs : List Glyph}
    (h : Spread (Outline.opening notes modifiers voidWord name.name ++
      Outline.parameterLexemes parameters) gs) (hordered : Ordered gs) :
    ∃ annotations span, heading lines gs = .method name.name.text annotations span ∧
      annotations.map Annotation.bare = notes.map Note.annotation := by
  rw [Outline.opening_eq, List.append_assoc] at h
  obtain ⟨found, used, hidden, rest, rfl, hrest, hhidden, hoffsets, hfound, hannotations⟩ :=
    annotations_notes lines notes h (startsWith_words (by simp) _) (startsWith_words (by simp) _)
  obtain ⟨a, body, b, rfl, ha, hbody, -, hb⟩ := Spread.splitAt hrest
  obtain ⟨paren, rfl, hparen⟩ := spells_sign hbody
  -- the parameters may hold annotations of their own
  have hrest' : annotations lines (a ++ ([paren] ++ b)) =
      ((annotations lines b).1, a ++ (paren :: (annotations lines b).2)) := by
    rw [annotations_append lines (code_ne_of_words (by decide) (by decide) ha), List.singleton_append,
      annotations_cons_other lines (by rw [hparen]; decide)]
  rw [hrest'] at hannotations
  rw [← List.append_assoc hidden] at hannotations
  have hwords : ∀ c, Text.isNamePart c = false → Text.isBlank c = false →
      ∀ g ∈ hidden ++ a, g.code ≠ c := by
    intro c hpart hblank g hg
    rcases List.mem_append.1 hg with hg | hg
    · exact code_ne_of_blank hblank hhidden g hg
    · exact code_ne_of_words hpart hblank ha g hg
  obtain ⟨before, hfree, hhead⟩ := findType?_blank none hhidden (.inl rfl) a
  have hfind : Pattern.findType? none (hidden ++ a) = none := by
    rw [hhead]
    apply findType?_method (modifiers.map Modifier.word ++ [voidWord]) _ (by simpa using ha) hfree
    intro w hw
    rcases List.mem_append.1 hw with hw | hw
    · exact notMem_typeKeywords_of_mem_modifiers w hw
    · rw [List.mem_singleton.1 hw]
      decide
  obtain ⟨x, g, word, gap, hlast, hg, hword, hgap⟩ := spread_last_word ha
  have htrailing : trailingName? (hidden ++ a) = some word := by
    have happend := trailingName?_word (x := hidden ++ x) hg hword hgap
    rwa [List.append_assoc hidden, List.append_assoc hidden, ← hlast] at happend
  obtain ⟨first, r, rfl, -, -⟩ := spells_word hword
  have hfirst : first ∈ a := by
    rw [hlast]
    simp
  have hbefore : annotationsBefore (found ++ (annotations lines b).1) first.offset =
      found.map Prod.snd := by
    apply annotationsBefore_append
    · exact fun p hp => offset_lt hordered (hoffsets p hp) (List.mem_append_left _ hfirst)
    · intro p hp
      obtain ⟨g', hg', hoffset⟩ := offset_of_mem_annotations lines b p hp
      have hafter : Ordered (a ++ ([paren] ++ b)) := (List.pairwise_append.1 hordered).2.1
      rw [← hoffset]
      exact Nat.le_of_lt (offset_lt hafter ⟨first, hfirst, rfl⟩ (List.mem_append_right _ hg'))
  refine ⟨found.map Prod.snd, methodSpan lines (used ++ (a ++ ([paren] ++ b))) first paren, ?_,
    by rw [List.map_map]; exact hfound⟩
  have hname := textOf_spells hword
  rw [heading_eq_method lines hannotations hwords hparen hfind htrailing (hname ▸ name.free), hname,
    hbefore]

end

end EndpointIndex.Source
