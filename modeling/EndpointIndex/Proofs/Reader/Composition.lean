import EndpointIndex.Proofs.Endpoint.Unplaced
import EndpointIndex.Proofs.Reader.Texts
import EndpointIndex.Proofs.Source.Lexer
import EndpointIndex.Proofs.Source.Nesting

/-!
# Texts in a row

A source text is complete when its brackets nest, a brace or a semicolon ends it, and no comment or
literal is open after it. What follows a complete text has no influence on what is read from it, nor the
other way round: both the types and the endpoints of the whole are those of the two parts, up to places
(`readTypes_append`).
-/

namespace EndpointIndex.Pattern

open Source

/-! ## Without places -/

/-- Sees everything but places. -/
def placeless : View := ⟨id, fun _ => defaultSpan⟩

theorem bare_placeless_annotation (a : Annotation) : (placeless.annotation a).bare = a.bare := by
  obtain ⟨name, positional, named, span⟩ := a
  simp [View.annotation, View.arguments, Annotation.bare, placeless]

theorem map_bare_placeless (annotations : List Annotation) :
    (annotations.map placeless.annotation).map Annotation.bare = annotations.map Annotation.bare := by
  rw [List.map_map]
  exact List.map_congr_left fun a _ => bare_placeless_annotation a

mutual

theorem bare_placeless (d : Declaration) : (placeless.declaration d).bare = d.bare := by
  cases d with
  | method name annotations span =>
    rw [View.declaration, Declaration.bare, Declaration.bare, map_bare_placeless]
  | type kind name annotations members span =>
    rw [View.declaration, Declaration.bare, Declaration.bare, map_bare_placeless, bareAll_placeless members]

theorem bareAll_placeless (ds : List Declaration) :
    Declaration.bareAll (placeless.declarations ds) = Declaration.bareAll ds := by
  cases ds with
  | nil => rfl
  | cons d ds =>
    rw [View.declarations, Declaration.bareAll, Declaration.bareAll, bare_placeless d, bareAll_placeless ds]

end

section

variable (k : Nat)

theorem raws_shift (gs : List Glyph) : raws (gs.map (Redrawing.shift k).glyph) = raws gs := by
  rw [raws, List.map_map]
  rfl

theorem keepsTexts_shift : (Redrawing.shift k).KeepsTexts id id fun _ => True where
  item _ _ _ := trivial
  literal _ h := by rw [raws_shift, quoted?_eq h]
  other _ := by rw [raws_shift]

theorem value_shift (gs : List Glyph) : value (gs.map (Redrawing.shift k).glyph) = value gs := by
  have hvalue : (value (gs.map (Redrawing.shift k).glyph)).mapTexts id id = (value gs).mapTexts id id :=
    mapTexts_value (keepsTexts_shift k) trivial
  rwa [Value.mapTexts_id, Value.mapTexts_id] at hvalue

theorem placeless_misses (lines lines' : LineTable) :
    placeless.Misses (Redrawing.shift k) lines lines' where
  value_eq gs := value_shift k gs
  span_eq _ _ := rfl

/-- Where a stretch stands and how lines are counted does not matter. -/
theorem members_shift (lines lines' : LineTable) (gs : List Glyph) :
    (members lines' [] (gs.map (Redrawing.shift k).glyph)).map Declaration.bare =
      (members lines [] gs).map Declaration.bare := by
  have hsame := members_redrawn (placeless_misses k lines lines') [] gs
  rw [← Declaration.bareAll_eq_map, ← Declaration.bareAll_eq_map, ← bareAll_placeless,
    ← bareAll_placeless (members lines [] gs)]
  exact congrArg Declaration.bareAll hsame

end

/-! ## Complete texts -/

/-- The last character that is not blank. -/
def lastVisible (s : List Char) : Option Char := s.reverse.find? fun c => !Text.isBlank c

theorem lastVisible_append (a b : List Char) : lastVisible (a ++ b) = (lastVisible b).or (lastVisible a) := by
  rw [lastVisible, List.reverse_append, List.find?_append]
  rfl

theorem lastVisible_singleton {c : Char} (h : Text.isBlank c = false) : lastVisible [c] = some c := by
  simp [lastVisible, h]

theorem isBlank_closer {o c : Char} (h : closer? o = some c) : Text.isBlank c = false := by
  rcases closer?_cases h with ⟨-, rfl⟩ | ⟨-, rfl⟩ | ⟨-, rfl⟩ <;> decide

theorem lastVisible_singleton_ne {c d : Char} (h : c ≠ d) : lastVisible [c] ≠ some d := by
  intro hlast
  exact h (List.mem_singleton.1 (List.mem_of_find?_eq_some hlast)).symm

/-- A source text that no later text can continue. -/
structure Complete (text : List Char) : Prop where
  nested : Nested ['(', '{'] (mask text)
  ended : lastVisible (mask text) = some '}' ∨ lastVisible (mask text) = some ';'
  closed : Lexer.start.after text = Lexer.start

/-! ## The walk over a complete text -/

section

variable (lines : LineTable)

/-- Blanks before a header do not matter. -/
theorem members_append_blank {gap : List Glyph} (hgap : isBlankStretch gap = true) (header gs : List Glyph) :
    members lines (header ++ gap) gs = members lines header gs := by
  have hreverse : isBlankStretch gap.reverse = true := by
    simpa [isBlankStretch] using hgap
  induction hn : gs.length using Nat.strong_induction_on generalizing header gs with
  | _ n ih =>
    subst hn
    cases gs with
    | nil => rw [members, members]
    | cons g t =>
      -- blanks before a header do not show in what it declares
      have hdeclared : ByOffset.declaredBy lines (header ++ gap).reverse =
          ByOffset.declaredBy lines header.reverse := by
        rw [ByOffset.declaredBy, ByOffset.declaredBy, List.reverse_append, skipBlankGlyphs_append hreverse]
      by_cases hparen : g.code = '('
      · rw [ByOffset.members_paren hparen, ByOffset.members_paren hparen, ← List.append_assoc]
        exact ih _ (enclose_after_lt '(' ')' g t) _ _ rfl
      · by_cases hbrace : g.code = '{'
        · rw [ByOffset.members_brace hbrace, ByOffset.members_brace hbrace, hdeclared]
        · by_cases hsemicolon : g.code = ';'
          · rw [ByOffset.members_semicolon hsemicolon, ByOffset.members_semicolon hsemicolon, hdeclared]
          · rw [members, members, if_neg hparen, if_neg hparen, if_neg hbrace, if_neg hbrace,
              if_neg hsemicolon, if_neg hsemicolon]
            split
            · rfl
            · exact ih _ (Nat.lt_succ_self _) (g :: header) t rfl

/-- The walk over a stretch finds the same whatever follows, and goes on with header `header'`. -/
def Crosses (header gs : List Glyph) (found : List Declaration) (header' : List Glyph) : Prop :=
  ∀ rest, members lines header (gs ++ rest) = found ++ members lines header' rest

section

variable {lines} {header gs t header' : List Glyph} {found : List Declaration} {g first last : Glyph}

theorem Crosses.plain (hparen : g.code ≠ '(') (hbrace : g.code ≠ '{') (hsemicolon : g.code ≠ ';')
    (hcloser : g.code ≠ '}') (h : Crosses lines (g :: header) gs found header') :
    Crosses lines header (g :: gs) found header' := by
  intro rest
  rw [List.cons_append, members, if_neg hparen, if_neg hbrace, if_neg hsemicolon, if_neg hcloser, h]

theorem Crosses.semicolon (hg : g.code = ';') (h : Crosses lines [] gs found header') :
    Crosses lines header (g :: gs)
      (ByOffset.endedBy (ByOffset.declaredBy lines header.reverse) ++ found) header' := by
  intro rest
  rw [List.cons_append, ByOffset.members_semicolon hg, h, List.append_assoc]

theorem Crosses.parens (hfirst : first.code = '(') (hlast : last.code = ')')
    (hbalanced : Balanced '(' ')' (codes t))
    (h : Crosses lines ((first :: t ++ [last]).reverse ++ header) gs found header') :
    Crosses lines header (first :: t ++ [last] ++ gs) found header' := by
  intro rest
  rw [List.append_assoc, passes_group hfirst hlast hbalanced, h]

theorem Crosses.braces (hfirst : first.code = '{') (hlast : last.code = '}')
    (hbalanced : Balanced '{' '}' (codes t)) (h : Crosses lines [] gs found header') :
    Crosses lines header (first :: t ++ [last] ++ gs)
      (ByOffset.openedBy (members lines [] t) (ByOffset.declaredBy lines header.reverse) ++ found) header' := by
  intro rest
  have henclose := enclose_eq (by decide) hfirst hlast hbalanced (gs ++ rest)
  rw [List.cons_append] at henclose
  rw [List.append_assoc, List.append_assoc, List.cons_append, List.singleton_append,
    ByOffset.members_brace hfirst, henclose, h, List.append_assoc]

end

/-- The header that is left after a stretch that ends as `gs` does. -/
structure Leaves (header gs header' : List Glyph) : Prop where
  of_blank : lastVisible (codes gs) = none → header' = gs.reverse ++ header
  of_ended : lastVisible (codes gs) = some '}' ∨ lastVisible (codes gs) = some ';' →
    isBlankStretch header' = true

theorem isBlankStretch_of_lastVisible {gs : List Glyph} (h : lastVisible (codes gs) = none) :
    isBlankStretch gs = true := by
  rw [lastVisible, List.find?_eq_none] at h
  rw [isBlankStretch, List.all_eq_true]
  intro g hg
  have hblank := h g.code (List.mem_reverse.2 (List.mem_map_of_mem hg))
  simpa using hblank

/-- Nothing but what ends a declaration leaves no header. -/
theorem Leaves.after_end {a gs header header' : List Glyph} (h : Leaves [] gs header')
    (ha : (lastVisible (codes a)).isSome = true) : Leaves header (a ++ gs) header' := by
  constructor
  · intro hnone
    rw [codes_append, lastVisible_append, Option.or_eq_none_iff] at hnone
    rw [hnone.2] at ha
    cases ha
  · intro hended
    cases hlast : lastVisible (codes gs) with
    | none =>
      rw [h.of_blank hlast, List.append_nil]
      simpa [isBlankStretch] using isBlankStretch_of_lastVisible hlast
    | some c =>
      rw [codes_append, lastVisible_append, hlast] at hended
      exact h.of_ended (hlast ▸ hended)

/-- What belongs to a header is added to it. -/
theorem Leaves.after_header {a gs header header' : List Glyph} (h : Leaves (a.reverse ++ header) gs header')
    (ha : lastVisible (codes a) ≠ some '}' ∧ lastVisible (codes a) ≠ some ';') :
    Leaves header (a ++ gs) header' := by
  constructor
  · intro hnone
    rw [codes_append, lastVisible_append, Option.or_eq_none_iff] at hnone
    rw [h.of_blank hnone.1, List.reverse_append, List.append_assoc]
  · intro hended
    rw [codes_append, lastVisible_append] at hended
    cases hlast : lastVisible (codes gs) with
    | none =>
      rw [hlast, Option.none_or] at hended
      exact absurd hended (not_or.2 ha)
    | some c =>
      rw [hlast, Option.some_or] at hended
      exact h.of_ended (hlast ▸ hended)

/-- The walk over brackets that nest. -/
theorem crosses_nested {s : List Char} (h : Nested ['(', '{'] s) {gs : List Glyph} (hgs : codes gs = s)
    (header : List Glyph) : ∃ found header', Crosses lines header gs found header' ∧ Leaves header gs header' := by
  induction h generalizing gs header with
  | nil =>
    obtain rfl := List.map_eq_nil_iff.1 hgs
    exact ⟨[], header, fun _ => rfl, fun _ => rfl, by simp [lastVisible]⟩
  | @plain c s hc _ ih =>
    obtain ⟨g, t, rfl, rfl, ht⟩ := List.map_eq_cons_iff.1 hgs
    have hparen : g.code ≠ '(' := fun h => hc.1 (by simp [h])
    have hbrace : g.code ≠ '{' := fun h => hc.1 (by simp [h])
    have hcloser : g.code ≠ '}' := fun h => hc.2 '{' (by simp) (by rw [h]; rfl)
    by_cases hsemicolon : g.code = ';'
    · obtain ⟨found, header', hcrosses, hleaves⟩ := ih ht []
      refine ⟨_, header', hcrosses.semicolon hsemicolon, hleaves.after_end (a := [g]) ?_⟩
      rw [codes_cons, hsemicolon]
      decide
    · obtain ⟨found, header', hcrosses, hleaves⟩ := ih ht (g :: header)
      exact ⟨found, header', hcrosses.plain hparen hbrace hsemicolon hcloser,
        Leaves.after_header (a := [g]) hleaves
          ⟨lastVisible_singleton_ne hcloser, lastVisible_singleton_ne hsemicolon⟩⟩
  | @group o c inside after ho hc hinside hafter _ ih =>
    obtain ⟨a, b, rfl, ha, hb⟩ := List.map_eq_append_iff.1 hgs
    obtain ⟨first, t, rfl, hfirst, ht⟩ := List.map_eq_cons_iff.1 ha
    obtain ⟨last, rest, rfl, hlast, hrest⟩ := List.map_eq_cons_iff.1 hb
    have hsplit : first :: t ++ last :: rest = (first :: t ++ [last]) ++ rest := by simp
    have hbalanced : Balanced o c (codes t) := by
      rw [codes, ht]
      exact hinside.balanced ho hc
    -- the last thing to be seen of a group is its closing bracket
    have hvisible : lastVisible (codes (first :: t ++ [last])) = some c := by
      have hlast' : lastVisible [c] = some c := lastVisible_singleton (isBlank_closer hc)
      rw [codes_append, lastVisible_append, codes_cons, hlast, codes_nil, hlast', Option.some_or]
    rw [hsplit]
    rcases closer?_cases hc with ⟨rfl, rfl⟩ | ⟨rfl, rfl⟩ | ⟨rfl, rfl⟩
    · -- a parenthesis belongs to a header
      obtain ⟨found, header', hcrosses, hleaves⟩ := ih hrest ((first :: t ++ [last]).reverse ++ header)
      exact ⟨found, header', hcrosses.parens hfirst hlast hbalanced,
        hleaves.after_header (by rw [hvisible]; decide)⟩
    · -- a brace ends one
      obtain ⟨found, header', hcrosses, hleaves⟩ := ih hrest []
      exact ⟨_, header', hcrosses.braces hfirst hlast hbalanced, hleaves.after_end (by rw [hvisible]; decide)⟩
    · simp at ho

end

/-! ## Two texts -/

theorem lastVisible_of_getLast? {s : List Char} {c : Char} (h : s.getLast? = some c)
    (hc : Text.isBlank c = false) : lastVisible s = some c := by
  obtain ⟨t, rfl⟩ := List.getLast?_eq_some_iff.1 h
  rw [lastVisible_append, lastVisible_singleton hc, Option.some_or]

namespace Complete

variable {a : List Char} (h : Complete a) (b : List Char)

include h

/-- A delimiter does not end a complete text. -/
theorem getLast?_ne {c : Char} (hc : Text.isBlank c = false) (hbrace : c ≠ '}') (hsemicolon : c ≠ ';') :
    (mask a).getLast? ≠ some c := by
  intro hlast
  have hended := h.ended
  rw [lastVisible_of_getLast? hlast hc, Option.some_inj, Option.some_inj] at hended
  exact hended.elim hbrace hsemicolon

theorem mask_append : mask (a ++ b) = mask a ++ mask b := by
  have hapart : Lexer.Apart (Lexer.start.written a) b := by
    rw [← Lexer.mask_eq]
    exact ⟨fun _ => h.getLast?_ne (by decide) (by decide) (by decide),
      fun _ => h.getLast?_ne (by decide) (by decide) (by decide)⟩
  rw [Lexer.mask_eq, (Lexer.written_append h.closed hapart).1, Lexer.mask_eq, Lexer.mask_eq]

end Complete

theorem glyphsFrom_shift (k n : Nat) (text masked : List Char) :
    glyphsFrom (k + n) text masked = (glyphsFrom n text masked).map (Redrawing.shift k).glyph := by
  induction text generalizing n masked with
  | nil => rfl
  | cons c text ih =>
    cases masked with
    | nil => rfl
    | cons m masked =>
      rw [glyphsFrom, glyphsFrom, List.map_cons, Nat.add_assoc, ih]
      rfl

theorem Complete.glyphs_append {a : List Char} (h : Complete a) (b : List Char) :
    glyphs (a ++ b) = glyphs a ++ (glyphs b).map (Redrawing.shift a.length).glyph := by
  rw [glyphs, h.mask_append, glyphsFrom_append (length_mask a), Nat.zero_add]
  exact congrArg (glyphs a ++ ·) (glyphsFrom_shift a.length 0 b (mask b))

theorem Complete.members_append {a : List Char} (h : Complete a) (lines : LineTable) (gs : List Glyph) :
    members lines [] (glyphs a ++ gs) = members lines [] (glyphs a) ++ members lines [] gs := by
  have hcodes := codes_glyphs a
  obtain ⟨found, header, hcrosses, hleaves⟩ := crosses_nested lines h.nested hcodes []
  have hblank : isBlankStretch header = true := hleaves.of_ended (hcodes ▸ h.ended)
  have hfresh (rest : List Glyph) : members lines header rest = members lines [] rest :=
    members_append_blank lines hblank [] rest
  have halone := hcrosses []
  rw [List.append_nil, hfresh, members, List.append_nil] at halone
  rw [hcrosses, hfresh, halone]

/-- Without places, the declarations of a complete text and of any text after it are those of the two
texts. -/
theorem Complete.bare_members_append {a : List Char} (h : Complete a) (b : List Char) :
    (members (.ofText (a ++ b)) [] (glyphs (a ++ b))).map Declaration.bare =
      (members (.ofText a) [] (glyphs a)).map Declaration.bare ++
        (members (.ofText b) [] (glyphs b)).map Declaration.bare := by
  have hstay : (glyphs a).map (Redrawing.shift 0).glyph = glyphs a := by
    rw [glyphs, ← glyphsFrom_shift]
  have hfirst := members_shift 0 (.ofText a) (.ofText (a ++ b)) (glyphs a)
  have hsecond := members_shift a.length (.ofText b) (.ofText (a ++ b)) (glyphs b)
  rw [hstay] at hfirst
  rw [h.glyphs_append, h.members_append, List.map_append, hfirst, hsecond]

/-- What is read from a complete text and any text after it is what is read from the two, one after the
other, but for the places: the types and the endpoints. -/
theorem readTypes_append {a : List Char} (h : Complete a) (b : List Char) (file : String) :
    (readTypes (a ++ b)).map Declaration.bare =
        (readTypes a).map Declaration.bare ++ (readTypes b).map Declaration.bare ∧
      (extractEndpoints file (readTypes (a ++ b))).map Endpoint.unplaced =
        (extractEndpoints file (readTypes a)).map Endpoint.unplaced ++
          (extractEndpoints file (readTypes b)).map Endpoint.unplaced := by
  have htypes : (readTypes (a ++ b)).map Declaration.bare =
      (readTypes a).map Declaration.bare ++ (readTypes b).map Declaration.bare := by
    rw [bare_readTypes, h.bare_members_append, List.filter_append, ← bare_readTypes, ← bare_readTypes]
  refine ⟨htypes, ?_⟩
  simp only [extractEndpoints]
  rw [← memberEndpoints_bare, htypes, memberEndpoints_append, List.map_append, memberEndpoints_bare,
    memberEndpoints_bare]

/-- A controller. -/
def sampleComplete : List Char :=
  "@RestController class A \x7b @GetMapping(\"/a\") void m(); \x7d\n".toList

/-- A text in which nothing is closed that is open, and something that is not. Its controller is found. -/
def sampleBroken : List Char :=
  "\x7d @RestController class B \x7b @PutMapping(\"/b\") void n() \x7b \"".toList

theorem readTypes_append_broken :
    Complete sampleComplete ∧
      (readTypes (sampleComplete ++ sampleBroken)).map Declaration.bare =
          (readTypes sampleComplete).map Declaration.bare ++ (readTypes sampleBroken).map Declaration.bare ∧
        (extractEndpoints "A.java" (readTypes (sampleComplete ++ sampleBroken))).map Endpoint.unplaced =
          (extractEndpoints "A.java" (readTypes sampleComplete)).map Endpoint.unplaced ++
            (extractEndpoints "A.java" (readTypes sampleBroken)).map Endpoint.unplaced ∧
        (extractEndpoints "A.java" (readTypes (sampleComplete ++ sampleBroken))).map Endpoint.unplaced =
          [⟨"/a", "/a", "", "/a", .get, "A", "m", "A.java", 1, 1, 1, 1⟩,
            ⟨"/b", "/b", "", "/b", .put, "B", "n", "A.java", 1, 1, 1, 1⟩] := by
  have hcomplete : Complete sampleComplete := by
    refine ⟨?_, ?_, by decide⟩
    · rw [Lexer.mask_eq]
      decide
    · rw [Lexer.mask_eq]
      decide
  obtain ⟨htypes, hendpoints⟩ := readTypes_append hcomplete sampleBroken "A.java"
  refine ⟨hcomplete, htypes, hendpoints, ?_⟩
  rw [hendpoints]
  decide +kernel

end EndpointIndex.Pattern
