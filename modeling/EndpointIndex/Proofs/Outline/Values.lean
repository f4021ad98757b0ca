import EndpointIndex.Proofs.Outline.Brackets

/-!
# Reading names and values

What the pattern reader makes of a stretch that spells a dotted name, a term or an argument list. Main
facts: a dotted name is read to its end and no further (`dottedName?_spread`), a term has its value
(`value_spread`), and an argument list gives the unnamed value and the named ones (`arguments_spread`).
-/

namespace EndpointIndex.Source

open Pattern

/-! ## Names -/

theorem textOf_spells {n : Name} {body : List Glyph} (h : (Lexeme.word n).Spells body) :
    textOf body = n.text := by
  rw [textOf, show codes body = n.text.toList from h, String.ofList_toList]

/-- The glyphs of a word: the first starts a name, and the others continue it. -/
theorem spells_word {n : Name} {body : List Glyph} (h : (Lexeme.word n).Spells body) :
    ∃ g gs, body = g :: gs ∧ Text.isNameStart g.code = true ∧
      ∀ g' ∈ g :: gs, Text.isNamePart g'.code = true := by
  obtain ⟨c, r, htext, hstart, hparts⟩ := n.chars_eq
  have hcodes : codes body = c :: r := by
    rw [← htext]
    exact h
  cases body with
  | nil => cases hcodes
  | cons g gs =>
    rw [codes_cons, List.cons.injEq] at hcodes
    refine ⟨g, gs, rfl, hcodes.1 ▸ hstart, fun g' hg' => hparts _ ?_⟩
    rw [← hcodes.1, ← hcodes.2, ← codes_cons]
    exact List.mem_map_of_mem hg'

theorem takeWhile_of_endsName {rest : List Glyph} (h : EndsName rest) :
    rest.takeWhile (fun g => Text.isNamePart g.code) = [] ∧
      rest.dropWhile (fun g => Text.isNamePart g.code) = rest := by
  cases rest with
  | nil => exact ⟨rfl, rfl⟩
  | cons g rest =>
    have hg : Text.isNamePart g.code = false := h g rfl
    exact ⟨by simp [hg], by simp [hg]⟩

theorem name?_word {n : Name} {body rest : List Glyph} (h : (Lexeme.word n).Spells body)
    (hends : EndsName rest) : name? (body ++ rest) = some (body, rest) := by
  obtain ⟨g, gs, rfl, hstart, hparts⟩ := spells_word h
  have hgs : ∀ g' ∈ gs, Text.isNamePart g'.code = true :=
    fun g' hg' => hparts g' (List.mem_cons_of_mem g hg')
  obtain ⟨htake, hdrop⟩ := takeWhile_of_endsName hends
  rw [List.cons_append, name?, if_pos hstart, List.takeWhile_append_of_pos hgs,
    List.dropWhile_append_of_pos hgs, htake, hdrop, List.append_nil]

/-- Whether a lexeme is the given sign. -/
def Lexeme.isSign (c : Char) : Lexeme → Bool
  | .sign d _ => d == c
  | _ => false

/-- Whether lexemes start with the given sign. -/
def startsWith (c : Char) (ls : List Lexeme) : Bool := ls.head?.any (Lexeme.isSign c)

/-- A sign that neither words nor literals nor blocks start with is seen only where it stands. -/
theorem Spread.head_ne {c : Char} (hpart : Text.isNamePart c = false) (hquote : c ≠ '"') (hbrace : c ≠ '{')
    {ls : List Lexeme} {gs : List Glyph} (h : Spread ls gs) (hls : startsWith c ls = false) :
    ∀ g ∈ (skipBlankGlyphs gs).head?, g.code ≠ c := by
  cases h with
  | nil blank =>
    rw [skipBlankGlyphs_of_blank blank]
    simp
  | @cons l ls gap body rest blank spells ends more =>
    rw [skipBlankGlyphs_append blank, spells.skipBlank]
    -- the first visible character is that of the first lexeme
    suffices hhead : ∀ d ∈ (codes body).head?, d ≠ c by
      intro g hg
      cases body with
      | nil => exact absurd rfl spells.ne_nil
      | cons b body =>
        cases hg
        exact hhead _ rfl
    cases l with
    | word n =>
      obtain ⟨g, gs, rfl, -, hparts⟩ := spells_word spells
      rintro _ ⟨⟩ rfl
      rw [hparts g List.mem_cons_self] at hpart
      cases hpart
    | sign d known =>
      rw [show codes body = [d] from spells]
      rintro _ ⟨⟩
      simpa [startsWith, Lexeme.isSign] using hls
    | literal contents =>
      obtain ⟨first, inner, last, rfl, hfirst, -⟩ := spells
      rintro _ ⟨⟩
      rw [hfirst]
      exact Ne.symm hquote
    | block b =>
      rw [show codes body = '{' :: b.text ++ ['}'] from spells]
      rintro _ ⟨⟩
      exact Ne.symm hbrace

theorem dotName?_none {ls : List Lexeme} {gs : List Glyph} (h : Spread ls gs)
    (hls : startsWith '.' ls = false) : dotName? gs = none := by
  have hhead := h.head_ne (by decide) (by decide) (by decide) hls
  rw [dotName?]
  cases hskip : skipBlankGlyphs gs with
  | nil => rfl
  | cons g r =>
    rw [hskip] at hhead
    exact if_neg (hhead g rfl)

theorem dotName?_spread {n : Name} {ls : List Lexeme} {gs : List Glyph}
    (h : Spread (.sign '.' :: .word n :: ls) gs) :
    ∃ body rest used, dotName? gs = some (body, rest) ∧ gs = used ++ rest ∧
      (Lexeme.word n).Spells body ∧ Spread ls rest := by
  cases h with
  | @cons _ _ gap dot rest blank spells ends more =>
    obtain ⟨g, rfl, hg⟩ := spells_sign spells
    cases more with
    | @cons _ _ gap' body rest blank' spells' ends' more' =>
      refine ⟨body, rest, gap ++ [g] ++ gap' ++ body, ?_, by simp, spells', more'⟩
      have hskip : skipBlankGlyphs (gap ++ ([g] ++ (gap' ++ (body ++ rest)))) =
          g :: (gap' ++ (body ++ rest)) := by
        rw [skipBlankGlyphs_append blank, spells.skipBlank]
        rfl
      rw [dotName?, hskip]
      dsimp only
      rw [if_pos hg, skipBlankGlyphs_append blank', spells'.skipBlank, name?_word spells' (ends' rfl)]

theorem moreNames_of_none {gs : List Glyph} (h : dotName? gs = none) : moreNames gs = ([], gs) := by
  rw [moreNames]
  split
  · rfl
  · rename_i hname
    rw [h] at hname
    cases hname

theorem moreNames_none {ls : List Lexeme} {gs : List Glyph} (h : Spread ls gs)
    (hls : startsWith '.' ls = false) : moreNames gs = ([], gs) :=
  moreNames_of_none (dotName?_none h hls)

theorem moreNames_some {gs body rest : List Glyph} (h : dotName? gs = some (body, rest)) :
    moreNames gs = (body :: (moreNames rest).1, (moreNames rest).2) := by
  rw [moreNames]
  split
  · rename_i hname
    rw [h] at hname
    cases hname
  · rename_i n r hname
    rw [h, Option.some.injEq, Prod.mk.injEq] at hname
    obtain ⟨rfl, rfl⟩ := hname
    rfl

theorem DottedName.lexemes_cons (q : Name) (qs : List Name) (simple : Name) :
    DottedName.lexemes ⟨q :: qs, simple⟩ = .word q :: .sign '.' :: DottedName.lexemes ⟨qs, simple⟩ := by
  simp [DottedName.lexemes]

/-- The names after a dot are read up to a lexeme that is no dot. -/
theorem moreNames_spread (qs : List Name) (simple : Name) {ls : List Lexeme} {gs : List Glyph}
    (h : Spread (.sign '.' :: (DottedName.lexemes ⟨qs, simple⟩ ++ ls)) gs)
    (hls : startsWith '.' ls = false) :
    ∃ parts rest used, moreNames gs = (parts, rest) ∧ gs = used ++ rest ∧
      parts.map textOf = (qs ++ [simple]).map Name.text ∧ Spread ls rest := by
  induction qs generalizing gs with
  | nil =>
    obtain ⟨body, rest, used, hname, hused, hbody, hrest⟩ := dotName?_spread h
    refine ⟨[body], rest, used, ?_, hused, by simp [textOf_spells hbody], hrest⟩
    rw [moreNames_some hname, moreNames_none hrest hls]
  | cons q qs ih =>
    rw [DottedName.lexemes_cons] at h
    obtain ⟨body, rest, used, hname, hused, hbody, hrest⟩ := dotName?_spread h
    obtain ⟨parts, rest', used', hparts, hused', htexts, hrest'⟩ := ih hrest
    refine ⟨body :: parts, rest', used ++ used', ?_, ?_, ?_, hrest'⟩
    · rw [moreNames_some hname, hparts]
    · rw [hused, hused', List.append_assoc]
    · rw [List.map_cons, htexts, textOf_spells hbody]
      rfl

/-- A dotted name is read up to a lexeme that is no dot. -/
theorem dottedName?_spread (n : DottedName) {ls : List Lexeme} {gs : List Glyph}
    (h : Spread (n.lexemes ++ ls) gs) (hls : startsWith '.' ls = false) :
    ∃ parts rest used, dottedName? (skipBlankGlyphs gs) = some (parts, rest) ∧
      skipBlankGlyphs gs = used ++ rest ∧
      parts.map textOf = (n.qualifiers ++ [n.simple]).map Name.text ∧ Spread ls rest := by
  obtain ⟨qs, simple⟩ := n
  cases qs with
  | nil =>
    obtain ⟨body, rest, hskip, hbody, hends, hrest⟩ := Spread.uncons (l := .word simple) h
    refine ⟨[body], rest, body, ?_, hskip, by simp [textOf_spells hbody], hrest⟩
    rw [dottedName?, hskip, name?_word hbody (hends rfl)]
    dsimp only
    rw [moreNames_none hrest hls]
  | cons q qs =>
    rw [DottedName.lexemes_cons] at h
    obtain ⟨body, rest, hskip, hbody, hends, hrest⟩ := Spread.uncons (l := .word q) h
    obtain ⟨parts, rest', used', hparts, hused', htexts, hrest'⟩ := moreNames_spread qs simple hrest hls
    refine ⟨body :: parts, rest', body ++ used', ?_, ?_, ?_, hrest'⟩
    · rw [dottedName?, hskip, name?_word hbody (hends rfl)]
      dsimp only
      rw [hparts]
    · rw [hskip, hused', List.append_assoc]
    · rw [List.map_cons, htexts, textOf_spells hbody]
      rfl

/-! ## Values -/

theorem value_of_braced {gs inner : List Glyph} (h : braced? (trimGlyphs gs) = some inner) :
    Pattern.value gs =
      .array (((splitTopLevel 0 inner).filter fun s => !isBlankStretch s).map Pattern.value) := by
  have hne : (trimGlyphs gs).isEmpty = false := by
    cases htrim : trimGlyphs gs with
    | nil => rw [htrim] at h; cases h
    | cons g r => rfl
  rw [Pattern.value]
  simp only [hne, Bool.false_eq_true, if_false]
  split
  · rename_i inner' hinner
    rw [h, Option.some.injEq] at hinner
    subst hinner
    simp
  · rename_i hnone
    rw [h] at hnone
    cases hnone

theorem value_of_not_braced {gs : List Glyph} (hne : trimGlyphs gs ≠ [])
    (h : braced? (trimGlyphs gs) = none) :
    Pattern.value gs =
      match quoted? (trimGlyphs gs) with
      | some body => .literal (String.ofList (unescape body))
      | none =>
        match wholeName? (trimGlyphs gs) with
        | some parts => referenceOf parts
        | none => .unresolved (String.ofList (raws (trimGlyphs gs))) := by
  have hempty : (trimGlyphs gs).isEmpty = false := by simpa using hne
  rw [Pattern.value]
  simp only [hempty, Bool.false_eq_true, if_false]
  split
  · rename_i inner hinner
    rw [h] at hinner
    cases hinner
  · rfl

theorem trimGlyphs_of_visible {gap core gap' : List Glyph} {first last : Glyph}
    (hgap : isBlankStretch gap = true) (hgap' : isBlankStretch gap' = true)
    (hfirst : core.head? = some first) (hvisible : Text.isBlank first.code = false)
    (hlast : core.getLast? = some last) (hvisible' : Text.isBlank last.code = false) :
    trimGlyphs (gap ++ (core ++ gap')) = core := by
  have hskip : skipBlankGlyphs (core ++ gap') = core ++ gap' := by
    cases core with
    | nil => cases hfirst
    | cons g core =>
      cases hfirst
      exact skipBlankGlyphs_cons hvisible _
  have hdrop : (gap'.rdropWhile fun g => Text.isBlank g.code) = [] := by
    rw [List.rdropWhile_eq_nil_iff]
    exact List.all_eq_true.1 hgap'
  rw [Spread.trimGlyphs_eq, skipBlankGlyphs_append hgap, hskip,
    Spread.rdropWhile_append_visible hlast hvisible', hdrop, List.append_nil]

/-- What is written for the contents of a literal stands for them. -/
theorem unescape_writeContents (contents : String) :
    String.ofList (unescape (writeContents contents)) = contents := by
  suffices h : ∀ s : List Char, unescape (s.flatMap writeLiteralChar) = s by
    rw [writeContents, h, String.ofList_toList]
  intro s
  induction s with
  | nil => rfl
  | cons c s ih =>
    rw [List.flatMap_cons]
    -- three characters are written with a backslash
    by_cases hbackslash : c = '\\'
    · subst hbackslash
      change unescape ('\\' :: '\\' :: s.flatMap writeLiteralChar) = _
      rw [unescape, ih]
      rfl
    · by_cases hquote : c = '"'
      · subst hquote
        change unescape ('\\' :: '"' :: s.flatMap writeLiteralChar) = _
        rw [unescape, ih]
        rfl
      · by_cases hnewline : c = '\n'
        · subst hnewline
          change unescape ('\\' :: 'n' :: s.flatMap writeLiteralChar) = _
          rw [unescape, ih]
          rfl
        · rw [writeLiteralChar, if_neg hbackslash, if_neg hquote, if_neg hnewline, List.singleton_append,
            unescape, ih]
          intro d r hc
          exact absurd hc hbackslash

theorem value_literal {contents : String} {gs : List Glyph} (h : Spread [.literal contents] gs) :
    Pattern.value gs = .literal contents := by
  obtain ⟨gap, body, gap', rfl, hgap, hbody, hgap'⟩ := h.single
  obtain ⟨first, hfirst, hvisible, last, hlast, hvisible'⟩ := hbody.ends_visible
  have htrim := trimGlyphs_of_visible hgap hgap' hfirst hvisible hlast hvisible'
  obtain ⟨open', inner, close, rfl, hopen, hclose, hblank, hraws⟩ := hbody
  have hbraced : braced? (open' :: inner ++ [close]) = none := by
    rw [List.cons_append, braced?]
    exact if_neg (by simp [hopen])
  have hquoted : quoted? (open' :: inner ++ [close]) = some (writeContents contents) := by
    rw [List.cons_append, quoted?]
    simp [hopen, hclose, hblank, hraws]
  rw [value_of_not_braced (by rw [htrim]; simp) (by rw [htrim]; exact hbraced), htrim, hquoted]
  dsimp only
  rw [unescape_writeContents]

/-- A stretch that is a dotted name is read as one to its end. -/
theorem wholeName?_trim (n : DottedName) {gs : List Glyph} (h : Spread n.lexemes gs) :
    (∃ g r, trimGlyphs gs = g :: r ∧ Text.isNamePart g.code = true) ∧
      wholeName? (trimGlyphs gs) = some ((n.qualifiers ++ [n.simple]).map Name.text) := by
  obtain ⟨first, ls, hlexemes⟩ : ∃ first ls, n.lexemes = .word first :: ls := by
    obtain ⟨qs, simple⟩ := n
    cases qs with
    | nil => exact ⟨simple, [], rfl⟩
    | cons q qs => exact ⟨q, _, DottedName.lexemes_cons q qs simple⟩
  rw [hlexemes] at h
  obtain ⟨body, rest, htrim, hbody, hends, hrest⟩ := h.trim
  have hspread : Spread (n.lexemes ++ []) (trimGlyphs gs) := by
    rw [List.append_nil, hlexemes, htrim]
    exact Spread.cons_start hbody hends hrest
  obtain ⟨parts, rest', used, hname, hused, htexts, hrest'⟩ := dottedName?_spread n hspread rfl
  have hskip : skipBlankGlyphs (trimGlyphs gs) = trimGlyphs gs := by
    rw [htrim, hbody.skipBlank]
  rw [hskip] at hname hused
  -- blanks after the name would be blanks at the end of a trimmed stretch
  have hnil : rest' = [] := by
    cases hrest' with
    | nil blank =>
      by_contra hne
      have hlast := List.getLast?_eq_some_getLast hne
      have hvisible := Spread.visible_getLast_trim
        (show (trimGlyphs gs).getLast? = some (rest'.getLast hne) by
          rw [hused, List.getLast?_append, hlast]
          rfl)
      have hblank := List.all_eq_true.1 blank _ (List.getLast_mem hne)
      rw [hvisible] at hblank
      cases hblank
  constructor
  · obtain ⟨g, b, rfl, -, hparts⟩ := spells_word hbody
    exact ⟨g, b ++ rest, htrim, hparts g List.mem_cons_self⟩
  · rw [wholeName?, hname, hnil]
    dsimp only
    rw [htexts]

/-- A qualifier has a character, if there is one. -/
theorem DottedName.isEmpty_qualifierText (n : DottedName) :
    n.qualifierText.isEmpty = true ↔ n.qualifiers = [] := by
  rw [DottedName.qualifierText]
  constructor
  · intro hnone
    cases hq : n.qualifiers with
    | nil => rfl
    | cons q qs =>
      obtain ⟨c, r, htext, -⟩ := q.chars_eq
      rw [String.isEmpty_iff, ← String.toList_inj, hq, String.toList_intercalate] at hnone
      cases qs <;> simp [List.intercalate, htext] at hnone
  · intro hnone
    rw [hnone]
    rfl

theorem referenceOf_names (n : DottedName) :
    referenceOf ((n.qualifiers ++ [n.simple]).map Name.text) = (Term.reference n).value := by
  have hdrop : ((n.qualifiers ++ [n.simple]).map Name.text).dropLast = n.qualifiers.map Name.text := by
    simp
  have hlast : ((n.qualifiers ++ [n.simple]).map Name.text).getLastD "" = n.simple.text := by
    simp [List.getLastD_eq_getLast?]
  have hempty := DottedName.isEmpty_qualifierText n
  rw [DottedName.qualifierText] at hempty
  rw [referenceOf, hdrop, hlast, Term.value, DottedName.qualifierText]
  by_cases hq : n.qualifiers = []
  · rw [if_pos (hempty.2 hq), if_pos hq]
  · rw [if_neg (fun h => hq (hempty.1 h)), if_neg hq]

theorem value_reference (n : DottedName) {gs : List Glyph} (h : Spread n.lexemes gs) :
    Pattern.value gs = (Term.reference n).value := by
  obtain ⟨⟨g, r, htrim, hpart⟩, hname⟩ := wholeName?_trim n h
  have hcode : ∀ c, Text.isNamePart c = false → g.code ≠ c := by
    rintro c hc rfl
    rw [hc] at hpart
    cases hpart
  have hbraced : braced? (trimGlyphs gs) = none := by
    rw [htrim, braced?]
    exact if_neg (by simp [hcode '{' (by decide)])
  have hquoted : quoted? (trimGlyphs gs) = none := by
    rw [htrim, quoted?]
    exact if_neg (by simp [hcode '"' (by decide)])
  rw [value_of_not_braced (by rw [htrim]; simp) hbraced, hquoted, hname]
  exact referenceOf_names n

/-- Braces around a stretch, and what they enclose. -/
theorem value_braces {ls : List Lexeme} (hls : ∀ a, Spread ls a → Balanced '{' '}' (codes a))
    {gs : List Glyph} (h : Spread (.sign '{' :: ls ++ [.sign '}']) gs) :
    ∃ inside, Spread ls inside ∧ Pattern.value gs =
      .array (((splitTopLevel 0 inside).filter fun s => !isBlankStretch s).map Pattern.value) := by
  obtain ⟨gap, first, inside, last, after, rfl, hgap, hfirst, hlast, -, hinside, hafter⟩ :=
    Spread.enclose (o := '{') (c := '}') (.inr ⟨rfl, rfl⟩) hls h
  refine ⟨inside, hinside, ?_⟩
  cases hafter with
  | nil blank =>
    have hcore : gap ++ (first :: inside ++ last :: after) = gap ++ ((first :: inside ++ [last]) ++ after) := by
      simp
    have htrim : trimGlyphs (gap ++ ((first :: inside ++ [last]) ++ after)) = first :: inside ++ [last] :=
      trimGlyphs_of_visible hgap blank rfl (by rw [hfirst]; decide) List.getLast?_concat
        (by rw [hlast]; decide)
    -- what the braces enclose is balanced, so the last one closes the first
    have hclose : closeOffset '{' '}' 0 (codes (first :: (inside ++ [last]))) =
        some (inside ++ [last]).length := by
      rw [codes_cons, codes_append, codes_cons, codes_nil, hfirst, hlast, closeOffset, if_pos rfl,
        hls inside hinside 1 Nat.one_pos, closeOffset, if_neg (by decide), if_pos rfl, if_pos (Nat.le_refl 1)]
      simp [codes]
    rw [hcore]
    apply value_of_braced
    rw [htrim, List.cons_append, braced?, hclose, if_pos (by simp [hfirst])]
    simp

theorem isBlankStretch_spread {l : Lexeme} {ls : List Lexeme} {gs : List Glyph} (h : Spread (l :: ls) gs) :
    isBlankStretch gs = false := by
  cases h with
  | @cons _ _ gap body rest blank spells ends more =>
    obtain ⟨first, hfirst, hvisible, -⟩ := spells.ends_visible
    cases body with
    | nil => cases hfirst
    | cons g body =>
      cases hfirst
      simp [hvisible]

theorem lexemes_ne_nil_of_term (t : Term) : ∃ l ls, t.lexemes = l :: ls := by
  cases t with
  | literal contents => exact ⟨_, _, rfl⟩
  | reference n =>
    obtain ⟨qs, simple⟩ := n
    cases qs with
    | nil => exact ⟨_, _, rfl⟩
    | cons q qs => exact ⟨_, _, DottedName.lexemes_cons q qs simple⟩
  | array items => exact ⟨_, _, rfl⟩

/-- A blank stretch is not split. -/
theorem splitTopLevel_blank {gs : List Glyph} (h : isBlankStretch gs = true) :
    splitTopLevel 0 gs = [gs] := by
  have hwhole := scan_whole.plain gs (plain_of_isBlankStretch h) 0 (Int.le_refl 0) []
  rw [List.append_nil] at hwhole
  rw [hwhole]
  simp [splitTopLevel, prepend]

mutual

/-- A stretch that spells a term has the term's value. -/
theorem value_spread (t : Term) {gs : List Glyph} (h : Spread t.lexemes gs) :
    Pattern.value gs = t.value := by
  cases t with
  | literal contents => exact value_literal h
  | reference n => exact value_reference n h
  | array items =>
    obtain ⟨inside, hinside, hvalue⟩ := value_braces
      (fun a ha => (scan_balanced (.inr ⟨rfl, rfl⟩)).list (fun ls hls b hb =>
        (scan_balanced (.inr ⟨rfl, rfl⟩)).terms items hls hb) ha) h
    rw [hvalue, Term.value]
    congr 1
    cases items with
    | nil =>
      cases hinside with
      | nil blank =>
        rw [splitTopLevel_blank blank]
        simp [blank, Term.valuesOfAll]
    | cons t ts =>
      obtain ⟨pieces, hpieces, hspread⟩ := Spread.splitTopLevel
        (fun x hx a ha => scan_whole.terms (t :: ts) hx ha) hinside
      rw [hpieces]
      exact values_spread (t :: ts) hspread

theorem values_spread (ts : List Term) {pieces : List (List Glyph)}
    (h : List.Forall₂ Spread (Term.lexemesOfAll ts) pieces) :
    (pieces.filter fun s => !isBlankStretch s).map Pattern.value = Term.valuesOfAll ts := by
  cases ts with
  | nil =>
    cases h
    rfl
  | cons t ts =>
    cases h with
    | cons ht hts =>
      obtain ⟨l, ls, hlexemes⟩ := lexemes_ne_nil_of_term t
      have hblank := isBlankStretch_spread (hlexemes ▸ ht)
      rw [List.filter_cons_of_pos (by simp [hblank]), List.map_cons, value_spread t ht,
        values_spread ts hts, Term.valuesOfAll]

end

/-! ## Arguments -/

theorem startsWith_equals_term (t : Term) : startsWith '=' t.lexemes = false := by
  cases t with
  | literal contents => rfl
  | reference n =>
    obtain ⟨qs, simple⟩ := n
    cases qs <;> rfl
  | array items => rfl

theorem namedArgument?_named (a : NamedTerm) {gs : List Glyph} (h : Spread a.lexemes gs) :
    ∃ v, namedArgument? gs = some (a.key.text, v) ∧ Spread a.term.lexemes v := by
  obtain ⟨key, rest, hskip, hkey, hends, hrest⟩ := Spread.uncons (l := .word a.key) h
  obtain ⟨eq, v, hskip', heq, -, hv⟩ := hrest.uncons
  obtain ⟨e, rfl, he⟩ := spells_sign heq
  refine ⟨v, ?_, hv⟩
  -- a value does not start with another equals sign
  have hnext : (v.head?.any fun g => g.code = '=') = false := by
    rw [Option.any_eq_false]
    intro g hg
    cases v with
    | nil => cases hg
    | cons g' v =>
      cases hg
      cases hblank : Text.isBlank g.code with
      | true =>
        rw [decide_eq_false_iff_not]
        intro hcode
        rw [hcode] at hblank
        cases hblank
      | false =>
        have hhead := hv.head_ne (c := '=') (by decide) (by decide) (by decide)
          (startsWith_equals_term a.term)
        rw [skipBlankGlyphs_cons hblank] at hhead
        simpa using hhead g rfl
  rw [namedArgument?, hskip, name?_word hkey (hends rfl)]
  dsimp only
  rw [hskip', List.singleton_append]
  dsimp only
  rw [if_pos (by simp [he, hnext]), textOf_spells hkey]

theorem namedArgument?_unnamed (t : Term) {gs : List Glyph} (h : Spread t.lexemes gs) :
    namedArgument? gs = none := by
  have hnone : ∀ {c : Char} {r : List Glyph} {g : Glyph}, Text.isNameStart c = false → g.code = c →
      name? (g :: r) = none := by
    rintro c r g hc rfl
    rw [name?, hc]
    rfl
  cases t with
  | literal contents =>
    obtain ⟨body, rest, hskip, hbody, -, -⟩ := h.uncons
    obtain ⟨first, inner, last, rfl, hfirst, -⟩ := hbody
    rw [namedArgument?, hskip, List.cons_append, List.cons_append, hnone (c := '"') (by decide) hfirst]
  | reference n =>
    obtain ⟨qs, simple⟩ := n
    -- a name would be a key if an equals sign followed
    obtain ⟨first, ls, hlexemes, hls⟩ : ∃ first ls, DottedName.lexemes ⟨qs, simple⟩ = .word first :: ls ∧
        startsWith '=' ls = false := by
      cases qs with
      | nil => exact ⟨simple, [], rfl, rfl⟩
      | cons q qs => exact ⟨q, _, DottedName.lexemes_cons q qs simple, rfl⟩
    rw [Term.lexemes, hlexemes] at h
    obtain ⟨body, rest, hskip, hbody, hends, hrest⟩ := h.uncons
    have hhead := hrest.head_ne (c := '=') (by decide) (by decide) (by decide) hls
    rw [namedArgument?, hskip, name?_word hbody (hends rfl)]
    dsimp only
    cases hrest' : skipBlankGlyphs rest with
    | nil => rfl
    | cons e r =>
      rw [hrest'] at hhead
      dsimp only
      rw [if_neg (by simp [hhead e rfl])]
  | array items =>
    obtain ⟨body, rest, hskip, hbody, -, -⟩ := Spread.uncons (l := .sign '{') h
    obtain ⟨g, rfl, hg⟩ := spells_sign hbody
    rw [namedArgument?, hskip, List.singleton_append, hnone (c := '{') (by decide) hg]

/-- Adds what one stretch of an argument list says. -/
def noteArgument (found : Option Value × List (String × Value)) (s : List Glyph) :
    Option Value × List (String × Value) :=
  if isBlankStretch s then found
  else
    match namedArgument? s with
    | some (key, v) => (found.1, found.2 ++ [(key, Pattern.value v)])
    | none => (found.1.or (some (Pattern.value s)), found.2)

theorem arguments_eq_foldl (gs : List Glyph) :
    arguments gs = (splitTopLevel 0 gs).foldl noteArgument (none, []) := rfl

theorem noteArgument_named (a : NamedTerm) {s : List Glyph} (h : Spread a.lexemes s)
    (found : Option Value × List (String × Value)) :
    noteArgument found s = (found.1, found.2 ++ [a.value]) := by
  obtain ⟨v, hargument, hv⟩ := namedArgument?_named a h
  rw [noteArgument, isBlankStretch_spread h, hargument]
  simp [value_spread a.term hv, NamedTerm.value]

theorem noteArgument_unnamed (t : Term) {s : List Glyph} (h : Spread t.lexemes s)
    (named : List (String × Value)) : noteArgument (none, named) s = (some t.value, named) := by
  obtain ⟨l, ls, hlexemes⟩ := lexemes_ne_nil_of_term t
  rw [noteArgument, isBlankStretch_spread (hlexemes ▸ h), namedArgument?_unnamed t h]
  simp [value_spread t h]

theorem foldl_noteArgument (as : List NamedTerm) {pieces : List (List Glyph)}
    (h : List.Forall₂ Spread (as.map NamedTerm.lexemes) pieces)
    (found : Option Value × List (String × Value)) :
    pieces.foldl noteArgument found = (found.1, found.2 ++ as.map NamedTerm.value) := by
  induction as generalizing pieces found with
  | nil =>
    cases h
    simp
  | cons a as ih =>
    cases h with
    | cons ha has => rw [List.foldl_cons, noteArgument_named a ha, ih has]; simp

theorem forall₂_split {α β : Type} {R : α → β → Prop} {a b : List α} {c : List β}
    (h : List.Forall₂ R (a ++ b) c) :
    ∃ x y, c = x ++ y ∧ List.Forall₂ R a x ∧ List.Forall₂ R b y := by
  induction a generalizing c with
  | nil => exact ⟨[], c, rfl, .nil, h⟩
  | cons e a ih =>
    cases h with
    | cons he hrest =>
      obtain ⟨x, y, rfl, hx, hy⟩ := ih hrest
      exact ⟨_ :: x, y, rfl, .cons he hx, hy⟩

theorem arguments_spread (a : ArgumentList) {gs : List Glyph} (h : Spread a.lexemes gs) :
    arguments gs = (a.unnamed.map Term.value, a.named.map NamedTerm.value) := by
  obtain ⟨before, unnamed, after⟩ := a
  rw [arguments_eq_foldl]
  cases hall : before.map NamedTerm.lexemes ++ unnamed.toList.map Term.lexemes ++
      after.map NamedTerm.lexemes with
  | nil =>
    rw [List.append_eq_nil_iff, List.append_eq_nil_iff, List.map_eq_nil_iff, List.map_eq_nil_iff,
      List.map_eq_nil_iff] at hall
    obtain ⟨⟨rfl, hunnamed⟩, rfl⟩ := hall
    cases unnamed with
    | some t => cases hunnamed
    | none =>
      cases h with
      | nil blank =>
        rw [splitTopLevel_blank blank]
        simp [noteArgument, blank, ArgumentList.named]
  | cons ls lss =>
    have hwhole : ∀ x ∈ ls :: lss, ∀ b, Spread x b → Whole 0 b := by
      intro x hx b hb
      rw [← hall] at hx
      exact scan_whole.argument ⟨before, unnamed, after⟩ hx hb
    have hlisted : Spread (listed (ls :: lss)) gs := by
      rw [← hall]
      exact h
    obtain ⟨pieces, hpieces, hspread⟩ := Spread.splitTopLevel hwhole hlisted
    rw [← hall] at hspread
    -- the pieces are those of the three parts of the list, one part after the other
    obtain ⟨x, z, rfl, hx, hz⟩ := forall₂_split hspread
    obtain ⟨x, y, rfl, hx, hy⟩ := forall₂_split hx
    rw [hpieces, List.foldl_append, List.foldl_append, foldl_noteArgument before hx]
    cases unnamed with
    | none =>
      cases hy
      rw [List.foldl_nil, foldl_noteArgument after hz]
      simp [ArgumentList.named]
    | some t =>
      cases hy with
      | cons ht hnil =>
        cases hnil
        rw [List.foldl_cons, List.foldl_nil, noteArgument_unnamed t ht, foldl_noteArgument after hz]
        simp [ArgumentList.named]

end EndpointIndex.Source
