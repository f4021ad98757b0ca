import EndpointIndex.Proofs.Endpoint.Seen

/-!
# Texts with one masked form

Two texts that are masked to the same differ in comments and in the contents of literals only. They
declare the same at the same places, but for the texts of values, and where they differ in nothing but
comments, they have the same endpoints (`readTypes_of_mask_eq`).
-/

namespace EndpointIndex.Pattern

open Source

/-- Glyphs stay where they are, and are written as a text has it there. -/
def rewriting (text : List Char) : Redrawing := ⟨id, fun i c => text[i]?.getD c, Iff.rfl⟩

theorem glyphsFrom_rewriting {k : Nat} {a b text masked : List Char} (hlength : a.length = b.length)
    (htext : ∀ i : Nat, i < b.length → text[k + i]? = b[i]?) :
    (glyphsFrom k a masked).map (rewriting text).glyph = glyphsFrom k b masked := by
  induction a generalizing k b masked with
  | nil =>
    obtain rfl := List.eq_nil_of_length_eq_zero hlength.symm
    rfl
  | cons c a ih =>
    obtain ⟨d, b, rfl⟩ := List.exists_cons_of_length_eq_add_one hlength.symm
    cases masked with
    | nil => rfl
    | cons m masked =>
      have hhead : text[k]? = some d := htext 0 (Nat.succ_pos _)
      rw [glyphsFrom, glyphsFrom, List.map_cons, ih (Nat.succ.inj hlength)]
      · simp [Redrawing.glyph, rewriting, hhead]
      · intro i hi
        have hnext := htext (i + 1) (Nat.succ_lt_succ hi)
        rwa [List.getElem?_cons_succ, Nat.add_comm i, ← Nat.add_assoc] at hnext

theorem lineStartsFrom_congr {k : Nat} {a b : List Char} (hlength : a.length = b.length)
    (h : ∀ i : Nat, a[i]? = some '\n' ↔ b[i]? = some '\n') : lineStartsFrom k a = lineStartsFrom k b := by
  induction a generalizing k b with
  | nil =>
    obtain rfl := List.eq_nil_of_length_eq_zero hlength.symm
    rfl
  | cons c a ih =>
    obtain ⟨d, b, rfl⟩ := List.exists_cons_of_length_eq_add_one hlength.symm
    have hhead := h 0
    rw [List.getElem?_cons_zero, List.getElem?_cons_zero, Option.some_inj, Option.some_inj] at hhead
    rw [lineStartsFrom, lineStartsFrom, ih (Nat.succ.inj hlength) fun i => h (i + 1)]
    simp only [hhead]

section

variable {a b : List Char} (h : mask a = mask b)

include h

theorem length_eq_of_mask_eq : a.length = b.length := by
  rw [← length_mask a, h, length_mask]

theorem glyphs_rewriting : (glyphs a).map (rewriting b).glyph = glyphs b := by
  rw [glyphs, glyphs, h]
  exact glyphsFrom_rewriting (length_eq_of_mask_eq h) fun i _ => by rw [Nat.zero_add]

theorem ofText_of_mask_eq : LineTable.ofText a = LineTable.ofText b := by
  have hlines (i : Nat) : a[i]? = some '\n' ↔ b[i]? = some '\n' := by
    rw [← (mask_eq_written a).2.2.1, h, (mask_eq_written b).2.2.1]
  rw [LineTable.ofText, LineTable.ofText, lineStartsFrom_congr (length_eq_of_mask_eq h) hlines,
    length_eq_of_mask_eq h]

/-- Two texts declare the same, as far as one knows of texts of values what is the same in both. -/
theorem declarations_readTypes {onLiteral onOther : String → String}
    (hkeeps : (rewriting b).KeepsTexts onLiteral onOther (Follows (glyphs a))) :
    (View.texts onLiteral onOther).declarations (readTypes a) =
      (View.texts onLiteral onOther).declarations (readTypes b) := by
  have hspan (lines : LineTable) (first : Glyph) (covered : List Glyph) :
      spanOf lines ((rewriting b).glyph first) (covered.map (rewriting b).glyph) =
        spanOf lines first covered := by
    rw [spanOf, spanOf, List.getLast?_map]
    cases covered.getLast? <;> rfl
  have hmisses : (View.texts onLiteral onOther).MissesWithin (rewriting b) (.ofText a) (.ofText b) (glyphs a) :=
    ⟨fun gs hgs => mapTexts_value hkeeps hgs, fun first covered => by
      rw [ofText_of_mask_eq h, hspan]⟩
  have hwhole : ([] : List Glyph).reverse ++ glyphs a <:+: glyphs a := List.infix_rfl
  have hmembers := members_redrawn_within hmisses hwhole
  rw [List.map_nil, glyphs_rewriting h] at hmembers
  rw [readTypes, readTypes, View.filter_isType, View.filter_isType, hmembers]

end

/-! ## Strings -/

theorem getElem?_glyphs {text : List Char} {i : Nat} {g : Glyph} (h : (glyphs text)[i]? = some g) :
    g.offset = i ∧ text[i]? = some g.raw := by
  have hraws : raws (glyphs text) = text := raws_glyphsFrom (length_mask text)
  refine ⟨ByOffset.indexed_glyphs text i g h, ?_⟩
  rw [← hraws, raws, List.getElem?_map, h, Option.map_some]

/-- A value that is a string stands between two quotes of the masked text. -/
theorem Follows.quoted {text body : List Char} {gs : List Glyph} (h : Follows (glyphs text) gs)
    (hbody : quoted? (trimGlyphs gs) = some body) :
    ∃ k, Quoted (mask text) k (codes (trimGlyphs gs).tail.dropLast) ∧
      ∀ (i : Nat) (g : Glyph), (trimGlyphs gs).tail.dropLast[i]? = some g →
        g.offset = k + i ∧ text[k + i]? = some g.raw := by
  obtain ⟨c, hc, before, after, htext⟩ := h
  obtain ⟨gap, gap', hgs, hgap⟩ := exists_trimGlyphs gs
  rw [hgs] at htext
  generalize trimGlyphs gs = core at hbody htext ⊢
  cases core with
  | nil => cases hbody
  | cons first r =>
    rw [quoted?] at hbody
    split at hbody
    · rename_i hcond
      simp only [Bool.and_eq_true, decide_eq_true_eq, Option.any_eq_true] at hcond
      obtain ⟨⟨hfirst, last, hlast, hquote⟩, hinside⟩ := hcond
      obtain ⟨inside, rfl⟩ := List.getLast?_eq_some_iff.1 hlast
      rw [List.dropLast_concat] at hinside
      rw [List.tail_cons, List.dropLast_concat]
      -- the text up to the first quote, what is quoted, and the text from the second quote on
      have hsplit : glyphs text = (before ++ c :: gap ++ [first]) ++ (inside ++ last :: (gap' ++ after)) := by
        rw [← htext]
        simp
      refine ⟨(before ++ c :: gap ++ [first]).length, ⟨⟨codes before, c.code, codes gap, codes (gap' ++ after),
        ?_, hc, ?_, ?_⟩, ?_⟩, fun i g hg => getElem?_glyphs ?_⟩
      · rw [← codes_glyphs, hsplit]
        simp [codes, hfirst, hquote]
      · exact fun d hd => by
          obtain ⟨g, hg, rfl⟩ := List.mem_map.1 hd
          exact List.all_eq_true.1 hgap g hg
      · simp [codes]
        omega
      · exact fun d hd => by
          obtain ⟨g, hg, rfl⟩ := List.mem_map.1 hd
          exact List.all_eq_true.1 hinside g hg
      · rw [hsplit, List.getElem?_append_right (Nat.le_add_right _ _), Nat.add_sub_cancel_left,
          List.getElem?_append_left (List.getElem?_eq_some_iff.1 hg).1, hg]
    · cases hbody

theorem rewriting_glyph {text : List Char} {g : Glyph} (h : text[g.offset]? = some g.raw) :
    (rewriting text).glyph g = g := by
  simp [Redrawing.glyph, rewriting, h]

/-- Texts that differ in comments only have the same strings, where strings are closed on their lines. -/
theorem keepsTexts_literals {a b : List Char} (h : mask a = mask b) (hclosed : StringsClosed a)
    (hsame : ∀ i : Nat, a[i]? = b[i]? ∨ InComment a i ∨ InComment b i) :
    (rewriting b).KeepsTexts id (fun _ => "") (Follows (glyphs a)) where
  item hgs hinner hs := hgs.item hinner hs
  literal {gs body} hgs hbody := by
    obtain ⟨k, hquoted, hplace⟩ := hgs.quoted hbody
    have hline := hquoted.newline_not_mem hclosed
    have hquoted' := h ▸ hquoted
    rw [quoted?_eq hbody]
    -- in a string is no comment, so the string is written in both texts the same way
    suffices hraws : (trimGlyphs gs).tail.dropLast.map (rewriting b).glyph = (trimGlyphs gs).tail.dropLast by
      rw [hraws]
    generalize (trimGlyphs gs).tail.dropLast = inside at hquoted hquoted' hplace hline ⊢
    apply List.ext_getElem?
    intro i
    rw [List.getElem?_map]
    cases hg : inside[i]? with
    | none => rfl
    | some g =>
      have hi : i < (codes inside).length := by
        rw [codes, List.length_map]
        exact (List.getElem?_eq_some_iff.1 hg).1
      obtain ⟨hoffset, hraw⟩ := hplace i g hg
      have hb : b[k + i]? = some g.raw :=
        ((hsame (k + i)).resolve_right
          (not_or.2 ⟨hquoted.not_inComment hline hi, hquoted'.not_inComment hline hi⟩)).symm.trans hraw
      rw [Option.map_some, rewriting_glyph (hoffset ▸ hb)]
  other _ := rfl

/-! ## Two texts -/

/-- What comments hold and what literals hold has no part in which declarations are read from a text and
where they stand, nor in which endpoints there are and where. If all strings are closed on their lines,
comments have no part in the endpoints at all. -/
theorem readTypes_of_mask_eq {a b : List Char} (h : mask a = mask b) (file : String) :
    View.shape.declarations (readTypes a) = View.shape.declarations (readTypes b) ∧
      (extractEndpoints file (readTypes a)).map Endpoint.locus =
        (extractEndpoints file (readTypes b)).map Endpoint.locus ∧
      (StringsClosed a → (∀ i : Nat, a[i]? = b[i]? ∨ InComment a i ∨ InComment b i) →
        extractEndpoints file (readTypes a) = extractEndpoints file (readTypes b)) := by
  have hshape : View.shape.declarations (readTypes a) = View.shape.declarations (readTypes b) :=
    declarations_readTypes h
      { item := fun hgs hinner hs => hgs.item hinner hs
        literal := fun _ _ => rfl
        other := fun _ => rfl }
  refine ⟨hshape, ?_, fun hclosed hsame => ?_⟩
  · -- the places of endpoints are told from the shape
    have hspan (span : Source.Span) : View.shape.span span = span := rfl
    rw [← View.locus_extractEndpoints hspan, hshape, View.locus_extractEndpoints hspan]
  · -- and the endpoints from the shape with the texts of literals
    have hreadable := declarations_readTypes h (keepsTexts_literals h hclosed hsame)
    have hfaithful := View.faithful_texts fun _ => ""
    rw [← View.extractEndpoints_declarations (fun _ => rfl) hfaithful, hreadable,
      View.extractEndpoints_declarations (fun _ => rfl) hfaithful]

/-- A controller whose mapping has a comment before its path. -/
def sampleCommented : List Char :=
  "@RestController class A\x7b@GetMapping(/* old*/\"/a\")void m();\x7d".toList

/-- The same code with another comment. -/
def sampleRecommented : List Char :=
  "@RestController class A\x7b@GetMapping(/*\"bb\"*/\"/a\")void m();\x7d".toList

theorem readTypes_of_mask_eq_sample :
    mask sampleCommented = mask sampleRecommented ∧ sampleCommented ≠ sampleRecommented ∧
      extractEndpoints "A.java" (readTypes sampleCommented) =
        extractEndpoints "A.java" (readTypes sampleRecommented) := by
  have hmask : mask sampleCommented = mask sampleRecommented := by
    rw [Lexer.mask_eq, Lexer.mask_eq]
    decide +kernel
  have hdiffer : sampleCommented ≠ sampleRecommented ∧ StringsClosed sampleCommented ∧
      ∀ i < sampleCommented.length, sampleCommented[i]? = sampleRecommented[i]? ∨
        InComment sampleCommented i := by decide +kernel
  obtain ⟨hne, hclosed, hsame⟩ := hdiffer
  refine ⟨hmask, hne, (readTypes_of_mask_eq hmask "A.java").2.2 hclosed fun i => ?_⟩
  by_cases hi : i < sampleCommented.length
  · exact (hsame i hi).imp_right .inl
  · have hlength := length_eq_of_mask_eq hmask
    rw [List.getElem?_eq_none (by omega), List.getElem?_eq_none (by omega)]
    exact .inl rfl

end EndpointIndex.Pattern
