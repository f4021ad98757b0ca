import EndpointIndex.Proofs.Outline.Adjacency
import EndpointIndex.Proofs.Outline.Headings

/-!
# Reading outlines

The pattern reader walks over a stretch of source and closes a declaration at every brace and semicolon.
Main facts: from a stretch that spells declarations, the walk brings back these declarations
(`members_outlines`), and so the types of a laid-out source are read as they were meant
(`readTypes_layout`).
-/

namespace EndpointIndex.Source

open Pattern

section

variable {lines : LineTable}

/-! ## Passing over headers -/

/-- The walk over a stretch only adds it to the current header. -/
def Passes (lines : LineTable) (gs : List Glyph) : Prop :=
  ∀ header rest, members lines header (gs ++ rest) = members lines (gs.reverse ++ header) rest

/-- Where the walk does more than to add to the header. -/
def stops : List Char := ['(', '{', ';', '}']

theorem Passes.append {a b : List Glyph} (ha : Passes lines a) (hb : Passes lines b) :
    Passes lines (a ++ b) := by
  intro header rest
  rw [List.append_assoc, ha, hb, List.reverse_append, List.append_assoc]

theorem passes_of_plain {gs : List Glyph} (h : ∀ g ∈ gs, g.code ∉ stops) : Passes lines gs := by
  induction gs with
  | nil => exact fun header rest => rfl
  | cons g gs ih =>
    intro header rest
    have hg := h g List.mem_cons_self
    simp only [stops, List.mem_cons, List.not_mem_nil, or_false, not_or] at hg
    have hgs := ih fun g' hg' => h g' (List.mem_cons_of_mem g hg')
    rw [List.cons_append, members, if_neg hg.1, if_neg hg.2.1, if_neg hg.2.2.1, if_neg hg.2.2.2, hgs,
      List.reverse_cons, List.append_assoc]
    rfl

theorem passes_blank {gs : List Glyph} (h : isBlankStretch gs = true) : Passes lines gs := by
  apply passes_of_plain
  intro g hg hmem
  have hall : ∀ c ∈ stops, Text.isBlank c = false := List.forall_iff_forall_mem.1 (by decide)
  have hblank := List.all_eq_true.1 h g hg
  rw [hall _ hmem] at hblank
  cases hblank

theorem passes_word {w : Name} {body : List Glyph} (h : (Lexeme.word w).Spells body) :
    Passes lines body := by
  apply passes_of_plain
  intro g hg hmem
  obtain ⟨first, r, rfl, -, hparts⟩ := spells_word h
  have hall : ∀ c ∈ stops, Text.isNamePart c = false := List.forall_iff_forall_mem.1 (by decide)
  have hpart := hparts g hg
  rw [hall _ hmem] at hpart
  cases hpart

theorem passes_sign {c : Char} {known : c ∈ signs} (hc : c ∉ stops) {body : List Glyph}
    (h : (Lexeme.sign c known).Spells body) : Passes lines body := by
  apply passes_of_plain
  intro g hg
  obtain ⟨g', rfl, hcode⟩ := spells_sign h
  rw [List.mem_singleton.1 hg, hcode]
  exact hc

/-- Words and signs at which the walk does not stop. -/
theorem passes_flat {ls : List Lexeme} {gs : List Glyph} (h : Spread ls gs)
    (hls : ∀ l ∈ ls, ∀ body, l.Spells body → Passes lines body) : Passes lines gs :=
  h.induct (fun _ hgap => passes_blank hgap) (fun _ _ ha hb => ha.append hb) hls

theorem passes_words {ws : List Name} {gs : List Glyph} (h : Spread (ws.map .word) gs) :
    Passes lines gs := by
  refine passes_flat h ?_
  intro l hl body hbody
  obtain ⟨w, -, rfl⟩ := List.mem_map.1 hl
  exact passes_word hbody

/-- What stands in parentheses is added to the header as a whole. -/
theorem passes_group {first last : Glyph} {inside : List Glyph} (hfirst : first.code = '(')
    (hlast : last.code = ')') (hinside : Balanced '(' ')' (codes inside)) :
    Passes lines (first :: inside ++ [last]) := by
  intro header rest
  have henclose := enclose_eq (by decide) hfirst hlast hinside rest
  have hshape : first :: inside ++ [last] ++ rest = first :: (inside ++ last :: rest) := by
    simp
  have htaken : (first :: (inside ++ last :: rest)).take
      ((first :: (inside ++ last :: rest)).length - rest.length) = first :: inside ++ [last] := by
    rw [← hshape, List.length_append, Nat.add_sub_cancel, List.take_left]
  rw [List.cons_append] at henclose
  rw [hshape, members, if_pos hfirst, henclose]
  dsimp only
  rw [htaken]

theorem passes_parens {ls : List Lexeme} (hls : ∀ a, Spread ls a → Balanced '(' ')' (codes a))
    {gs : List Glyph} (h : Spread (.sign '(' :: ls ++ [.sign ')']) gs) : Passes lines gs := by
  obtain ⟨gap, first, inside, last, after, rfl, hgap, hfirst, hlast, -, hinside, hafter⟩ :=
    Spread.enclose (o := '(') (c := ')') (.inl ⟨rfl, rfl⟩) hls h
  have hgroup : Passes lines (first :: inside ++ [last]) := passes_group hfirst hlast (hls inside hinside)
  cases hafter with
  | nil blank =>
    have hall : Passes lines _ := (passes_blank hgap).append (hgroup.append (passes_blank blank))
    rwa [List.append_assoc (first :: inside), List.singleton_append] at hall

theorem passes_dottedName (n : DottedName) : ∀ l ∈ n.lexemes, ∀ body, l.Spells body → Passes lines body := by
  intro l hl body hbody
  rw [DottedName.lexemes, List.mem_append, List.mem_flatMap] at hl
  rcases hl with ⟨q, -, hl⟩ | hl
  · rcases List.mem_cons.1 hl with rfl | hl
    · exact passes_word hbody
    · rw [List.mem_singleton.1 hl] at hbody
      exact passes_sign (by decide) hbody
  · rw [List.mem_singleton.1 hl] at hbody
    exact passes_word hbody

theorem passes_note (n : Note) {gs : List Glyph} (h : Spread n.lexemes gs) : Passes lines gs := by
  obtain ⟨a, b, rfl, ha, hb⟩ := Spread.split (show Spread ((.sign '@' :: n.name.lexemes) ++ _) gs from h)
  have hname : Passes lines a := by
    refine passes_flat ha ?_
    intro l hl body hbody
    rcases List.mem_cons.1 hl with rfl | hl
    · exact passes_sign (by decide) hbody
    · exact passes_dottedName n.name l hl body hbody
  apply hname.append
  cases harguments : n.arguments with
  | none =>
    rw [harguments] at hb
    exact passes_flat hb (by simp)
  | some args =>
    rw [harguments] at hb
    exact passes_parens (fun x hx => (scan_balanced (.inl ⟨rfl, rfl⟩)).arguments args hx) hb

theorem passes_notes (notes : List Note) {gs : List Glyph} (h : Spread (notes.flatMap Note.lexemes) gs) :
    Passes lines gs := by
  induction notes generalizing gs with
  | nil => exact passes_flat h (by simp)
  | cons n notes ih =>
    obtain ⟨a, b, rfl, ha, hb⟩ := Spread.split h
    exact (passes_note n ha).append (ih hb)

theorem passes_opening {notes : List Note} {modifiers : List Modifier} {keyword name : Name}
    {gs : List Glyph} (h : Spread (Outline.opening notes modifiers keyword name) gs) :
    Passes lines gs := by
  rw [Outline.opening_eq] at h
  obtain ⟨a, b, rfl, ha, hb⟩ := Spread.split h
  exact (passes_notes notes ha).append (passes_words hb)

/-! ## Closing declarations -/

section

variable {header h : List Glyph} (hheader : skipBlankGlyphs header.reverse = h) (hne : h ≠ [])
include hheader hne

/-- A brace after the header of a type opens its members. -/
theorem members_of_type {kind : TypeKind} {name : String} {annotations : List Annotation} {span : Span}
    (hheading : heading lines h = .type kind name annotations span) {first last : Glyph}
    {inside : List Glyph} (hfirst : first.code = '{') (hlast : last.code = '}')
    (hinside : Balanced '{' '}' (codes inside)) (after : List Glyph) :
    members lines header (first :: inside ++ last :: after) =
      .type kind name annotations (members lines [] inside) (some span) :: members lines [] after := by
  have henclose := enclose_eq (by decide) hfirst hlast hinside after
  rw [List.cons_append] at henclose ⊢
  rw [members, if_neg (by rw [hfirst]; decide), if_pos hfirst, henclose, hheader]
  cases h with
  | nil => exact absurd rfl hne
  | cons g h => simp [hheading]

/-- A brace after the header of a method opens its body, which is not looked into. -/
theorem members_of_method {name : String} {annotations : List Annotation} {span : Span}
    (hheading : heading lines h = .method name annotations span) {first last : Glyph}
    {inside : List Glyph} (hfirst : first.code = '{') (hlast : last.code = '}')
    (hinside : Balanced '{' '}' (codes inside)) (after : List Glyph) :
    members lines header (first :: inside ++ last :: after) =
      .method name annotations (some span) :: members lines [] after := by
  have henclose := enclose_eq (by decide) hfirst hlast hinside after
  rw [List.cons_append] at henclose ⊢
  rw [members, if_neg (by rw [hfirst]; decide), if_pos hfirst, henclose, hheader]
  cases h with
  | nil => exact absurd rfl hne
  | cons g h => simp [hheading]

theorem members_of_method_end {name : String} {annotations : List Annotation} {span : Span}
    (hheading : heading lines h = .method name annotations span) {semicolon : Glyph}
    (hsemicolon : semicolon.code = ';') (after : List Glyph) :
    members lines header (semicolon :: after) =
      .method name annotations (some span) :: members lines [] after := by
  rw [members, if_neg (by rw [hsemicolon]; decide), if_neg (by rw [hsemicolon]; decide),
    if_pos hsemicolon, hheader]
  cases h with
  | nil => exact absurd rfl hne
  | cons g h => simp [hheading]

end

/-! ## Declarations -/

/-- A header without the blanks before it. -/
theorem spread_header {l : Lexeme} {ls : List Lexeme} {header gs : List Glyph}
    (hheader : isBlankStretch header = true) (h : Spread (l :: ls) gs) (hordered : Ordered gs) :
    ∃ h, skipBlankGlyphs (gs.reverse ++ header).reverse = h ∧ h ≠ [] ∧ Spread (l :: ls) h ∧
      Ordered h := by
  have hblank : isBlankStretch header.reverse = true := by
    simpa [isBlankStretch] using hheader
  have hskip : skipBlankGlyphs (gs.reverse ++ header).reverse = skipBlankGlyphs gs := by
    rw [List.reverse_append, List.reverse_reverse, skipBlankGlyphs_append hblank]
  obtain ⟨body, rest, hbody, hspells, hends, hrest⟩ := h.uncons
  refine ⟨_, hskip, ?_, ?_, hordered.sublist (skipBlankGlyphs_suffix gs).sublist⟩
  · rw [hbody]
    simp [hspells.ne_nil]
  · rw [hbody]
    exact Spread.cons_start hspells hends hrest

theorem opening_ne_nil (notes : List Note) (modifiers : List Modifier) (keyword name : Name)
    (ls : List Lexeme) : ∃ l ls', Outline.opening notes modifiers keyword name ++ ls = l :: ls' := by
  apply List.exists_cons_of_ne_nil
  simp [Outline.opening]

/-- The glyphs of a body: braces, and between them what they enclose. -/
theorem spells_block {b : Block} {body : List Glyph} (h : (Lexeme.block b).Spells body) :
    ∃ first inside last, body = first :: inside ++ [last] ∧ first.code = '{' ∧ last.code = '}' ∧
      Balanced '{' '}' (codes inside) := by
  have hcodes : codes body = '{' :: (b.text ++ ['}']) := h
  obtain ⟨first, r, rfl, hfirst, hr⟩ := List.map_eq_cons_iff.1 hcodes
  obtain ⟨inside, r', rfl, hinside, hr'⟩ := List.map_eq_append_iff.1 hr
  obtain ⟨last, rfl, hlast⟩ := List.map_eq_singleton_iff.1 hr'
  refine ⟨first, inside, last, rfl, hfirst, hlast, ?_⟩
  rw [codes, hinside]
  intro depth hdepth rest
  exact closeOffset_of_bracesClose 0 b.closed hdepth rest

/-- A method is found at the end of its header. -/
theorem members_method (lines : LineTable) {notes : List Note} {modifiers : List Modifier} {name : MethodName}
    {parameters : List Parameter} {body : Option Block} {header gs : List Glyph}
    (h : Spread (Outline.method notes modifiers name parameters body).lexemes gs)
    (hordered : Ordered gs) (hheader : isBlankStretch header = true) :
    ∃ annotations span header', annotations.map Annotation.bare = notes.map Note.annotation ∧
      isBlankStretch header' = true ∧ ∀ rest, members lines header (gs ++ rest) =
        .method name.name.text annotations (some span) :: members lines header' rest := by
  rw [Outline.lexemes] at h
  obtain ⟨a, close, after, rfl, ha, hclose, -, hafter⟩ := Spread.splitAt h
  have hpass : Passes lines a := by
    obtain ⟨x, y, rfl, hx, hy⟩ := Spread.split ha
    exact (passes_opening hx).append
      (passes_parens (fun z hz => balanced_parameterList (.inl ⟨rfl, rfl⟩) parameters hz) hy)
  obtain ⟨l, ls, hcons⟩ := opening_ne_nil notes modifiers voidWord name.name
    (Outline.parameterLexemes parameters)
  have hordered' : Ordered a := (List.pairwise_append.1 hordered).1
  obtain ⟨h', hskip, hne, hspread, hh'⟩ := spread_header hheader (hcons ▸ ha) hordered'
  obtain ⟨annotations, span, hheading, hannotations⟩ :=
    heading_method lines notes modifiers name parameters (hcons ▸ hspread) hh'
  -- behind the declaration there are only blanks, and they begin the next header
  cases hafter with
  | nil blank =>
    refine ⟨annotations, span, after.reverse, hannotations, by simpa [isBlankStretch] using blank, ?_⟩
    intro rest
    have hrest : members lines [] (after ++ rest) = members lines after.reverse rest := by
      rw [passes_blank blank, List.append_nil]
    rw [List.append_assoc, hpass, ← hrest, List.append_assoc]
    cases body with
    | none =>
      obtain ⟨semicolon, rfl, hcode⟩ := spells_sign hclose
      exact members_of_method_end hskip hne hheading hcode (after ++ rest)
    | some b =>
      obtain ⟨first, inside, last, rfl, hfirst, hlast, hinside⟩ := spells_block hclose
      have hmembers := members_of_method hskip hne hheading hfirst hlast hinside (after ++ rest)
      rwa [List.append_assoc (first :: inside), List.singleton_append]

mutual

/-- The walk over a stretch that spells a declaration brings it back. -/
theorem members_outline (out : Outline) {header gs : List Glyph} (h : Spread out.lexemes gs)
    (hordered : Ordered gs) (hheader : isBlankStretch header = true) :
    ∃ d header', d.bare = out.declared ∧ isBlankStretch header' = true ∧
      ∀ rest, members lines header (gs ++ rest) = d :: members lines header' rest := by
  cases out with
  | method notes modifiers name parameters body =>
    obtain ⟨annotations, span, header', hannotations, hheader', hmembers⟩ :=
      members_method lines h hordered hheader
    refine ⟨_, header', ?_, hheader', hmembers⟩
    rw [Declaration.bare, hannotations, Outline.declared]
  | type notes modifiers kind name inner =>
    rw [Outline.lexemes, List.append_assoc] at h
    obtain ⟨a, b, rfl, ha, hb⟩ := Spread.split h
    obtain ⟨gap, first, inside, last, after, rfl, hgap, hfirst, hlast, -, hinside, hafter⟩ :=
      Spread.enclose (o := '{') (c := '}') (.inr ⟨rfl, rfl⟩) (fun x hx => balanced_outlines inner hx) hb
    have hopening := ha.append_blank hgap
    have hparts := List.pairwise_append.1 (show Ordered ((a ++ gap) ++ (first :: inside ++ last :: after)) by
      rwa [List.append_assoc])
    have hinner : Ordered inside := hparts.2.1.sublist (by simp)
    obtain ⟨l, ls, hcons⟩ := opening_ne_nil notes modifiers kind.word name []
    rw [List.append_nil] at hcons
    obtain ⟨h', hskip, hne, hspread, hh'⟩ := spread_header hheader (hcons ▸ hopening) hparts.1
    obtain ⟨annotations, span, hheading, hannotations⟩ :=
      heading_type lines notes modifiers kind name (hcons ▸ hspread) hh'
    have hbalanced := balanced_outlines inner hinside
    cases hafter with
    | nil blank =>
      refine ⟨.type kind name.text annotations (members lines [] inside) (some span), after.reverse, ?_,
        by simpa [isBlankStretch] using blank, ?_⟩
      · rw [Declaration.bare, hannotations, Declaration.bareAll_eq_map,
          members_outlines inner hinside hinner rfl, Outline.declared]
      · intro rest
        -- the blanks behind the body begin the next header
        have hrest : members lines [] (after ++ rest) = members lines after.reverse rest := by
          rw [passes_blank blank, List.append_nil]
        have hmembers := members_of_type hskip hne hheading hfirst hlast hbalanced (after ++ rest)
        rw [← hrest, ← hmembers, ← passes_opening hopening]
        simp only [List.append_assoc, List.cons_append]

/-- The walk over a stretch that spells declarations brings them back in order. -/
theorem members_outlines (outs : List Outline) {header gs : List Glyph}
    (h : Spread (Outline.lexemesOfAll outs) gs) (hordered : Ordered gs)
    (hheader : isBlankStretch header = true) :
    (members lines header gs).map Declaration.bare = Outline.declaredAll outs := by
  cases outs with
  | nil =>
    cases h with
    | nil blank =>
      have hpass : members lines header (gs ++ []) = _ := passes_blank blank header []
      rw [List.append_nil] at hpass
      rw [hpass, members]
      rfl
  | cons out outs =>
    obtain ⟨a, b, rfl, ha, hb⟩ := Spread.split h
    obtain ⟨hordered', hordered'', -⟩ := List.pairwise_append.1 hordered
    obtain ⟨d, header', hd, hheader', hmembers⟩ := members_outline out ha hordered' hheader
    rw [hmembers, List.map_cons, hd, members_outlines outs hb hordered'' hheader', Outline.declaredAll]

end

end

/-! ## Whole sources -/

theorem ordered_glyphsFrom (k : Nat) (text masked : List Char) :
    Ordered (glyphsFrom k text masked) ∧ ∀ g ∈ glyphsFrom k text masked, k ≤ g.offset := by
  induction text generalizing k masked with
  | nil => simp [glyphsFrom, Ordered]
  | cons c text ih =>
    cases masked with
    | nil => simp [glyphsFrom, Ordered]
    | cons m masked =>
      obtain ⟨hordered, hoffsets⟩ := ih (k + 1) masked
      rw [glyphsFrom]
      refine ⟨List.pairwise_cons.2 ⟨fun g hg => hoffsets g hg, hordered⟩, ?_⟩
      intro g hg
      rcases List.mem_cons.1 hg with rfl | hg
      · exact Nat.le_refl _
      · exact Nat.le_of_succ_le (hoffsets g hg)

theorem ordered_glyphs (text : List Char) : Ordered (glyphs text) :=
  (ordered_glyphsFrom 0 text (mask text)).1

/-- All declarations of a laid-out source are read, also methods outside of types. -/
theorem members_layout (unit : List Outline) (layout : Layout (Outline.lexemesOfAll unit)) :
    (members (.ofText layout.text) [] (glyphs layout.text)).map Declaration.bare =
      unit.map Outline.declared := by
  rw [members_outlines unit (spread_glyphs layout (isChain_notBothLiteral unit)) (ordered_glyphs _) rfl,
    Outline.declaredAll_eq_map]

theorem isType_bare (d : Declaration) : d.bare.isType = d.isType := by
  cases d <;> rw [Declaration.bare] <;> rfl

theorem isType_declared (out : Outline) : out.declared.isType = out.isType := by
  cases out <;> rw [Outline.declared] <;> rfl

/-- The types that are read are those among all declarations, with or without their places. -/
theorem bare_readTypes (text : List Char) :
    (Pattern.readTypes text).map Declaration.bare =
      ((members (.ofText text) [] (glyphs text)).map Declaration.bare).filter Declaration.isType := by
  have hbare : Declaration.isType ∘ Declaration.bare = Declaration.isType := funext isType_bare
  rw [List.filter_map, hbare, Pattern.readTypes]

/-- However a unit is laid out, with blanks and comments wherever they may stand, the types that are
read from the text are those of the unit, with their members, annotations and values. -/
theorem readTypes_layout (unit : List Outline) (layout : Layout (Outline.lexemesOfAll unit)) :
    (Pattern.readTypes layout.text).map Declaration.bare =
      (unit.filter Outline.isType).map Outline.declared := by
  have hdeclared : Declaration.isType ∘ Outline.declared = Outline.isType := funext isType_declared
  rw [bare_readTypes, members_layout, List.filter_map, hdeclared]

end EndpointIndex.Source
