import EndpointIndex.Proofs.Endpoint.Place
import EndpointIndex.Proofs.Reader.Marks
import Mathlib.Data.List.Forall2

/-!
# Endpoints at their annotations

An endpoint that the pattern reader finds stands where its mapping is written: from the `@` of the
annotation to the parenthesis that closes its argument list, or to the end of its name. The walk over the
source takes headers in order and each for one method at most, so endpoints come in the order of their
annotations, and no two stand at one place (`extractEndpoints_located`).
-/

namespace EndpointIndex

open Source

/-- An annotation of this kind maps requests to a method. -/
def MappingKind.mapsRequests : MappingKind → Bool
  | .requestMapping => true
  | .verbMapping _ => true
  | _ => false

theorem Annotation.isMapping_eq (a : Annotation) : a.isMapping = a.kind.mapsRequests := by
  unfold Annotation.isMapping
  cases a.kind <;> rfl

/-- An annotation is written in a text from offset `s` to offset `t`, and its span says so. -/
structure Annotation.StandsAt (text : List Char) (a : Annotation) (s t : Nat) : Prop where
  spelled : ∃ simple, Pattern.AnnotationAt (mask text) simple s t ∧ a.simpleName = String.ofList simple
  span_eq : a.span = some ((LineTable.ofText text).span s (t + 1))
  le : s ≤ t
  lt : t < text.length

/-- A mapping is written in a text from offset `s` to offset `t`, and the endpoint stands there. -/
structure Endpoint.StandsAt (text : List Char) (e : Endpoint) (s t : Nat) : Prop where
  spelled : ∃ simple, Pattern.AnnotationAt (mask text) simple s t ∧
    (MappingKind.ofLowerName (Text.lower (String.ofList simple))).mapsRequests = true
  startLine : e.startLine = ((LineTable.ofText text).position s).line
  startColumn : e.startColumn = ((LineTable.ofText text).position s).column
  endLine : e.endLine = ((LineTable.ofText text).position t).line
  endColumn : e.endColumn = ((LineTable.ofText text).position t).column
  le : s ≤ t
  lt : t < text.length

namespace Pattern

/-! ## Annotations of a header -/

/-- Every annotation that is found in a header is a stretch of it, and nothing of it is seen in what is
left of the header. -/
theorem split_of_mem_annotations (lines : LineTable) (header : List Glyph) :
    ∀ p ∈ (annotations lines header).1, ∃ before g used m, header = before ++ (g :: used ++ m.after) ∧
      mark? (g :: used ++ m.after) = some m ∧ p = (g.offset, annotationOf lines g (g :: used) m) ∧
        ∀ (n : Nat) (c : Glyph), before.length ≤ n → n ≤ before.length + used.length →
          (annotations lines header).2[n]? = some c → Text.isBlank c.code = true := by
  fun_induction annotations lines header with
  | case1 => simp
  | case2 h gs hmark found stripped hrest ih =>
    -- no annotation starts here
    intro p hp
    rw [hrest] at ih
    obtain ⟨before, g, used, m, hgs, hm, hpair, hblank⟩ := ih p hp
    refine ⟨h :: before, g, used, m, by rw [hgs]; rfl, hm, hpair, fun n c hn hle hc => ?_⟩
    cases n with
    | zero => cases hn
    | succ n =>
      rw [List.length_cons] at hn hle
      exact hblank n c (by omega) (by omega) hc
  | case3 h gs m hmark covered found stripped hrest ih =>
    intro p hp
    rw [hrest] at ih
    obtain ⟨used, hused⟩ := (mark?_suffix hmark).2
    have hcovered : covered = h :: used := by
      have hlength := congrArg List.length hused
      rw [List.length_append] at hlength
      have htake : (h :: gs).length - m.after.length = (h :: used).length := by
        simp only [List.length_cons]
        omega
      rw [show covered = (h :: gs).take ((h :: gs).length - m.after.length) from rfl, htake, ← hused,
        ← List.cons_append, List.take_left]
    -- the annotation that starts here is blanked as a whole, and the others come after it
    rcases List.mem_cons.1 hp with rfl | hp
    · refine ⟨[], h, used, m, by rw [← hused]; rfl, by rw [List.cons_append, hused]; exact hmark,
        by rw [hcovered], fun n c _ hle hc => ?_⟩
      dsimp only at hc
      rw [List.length_nil, Nat.zero_add] at hle
      rw [hcovered, List.getElem?_append_left (by simp; omega), List.getElem?_map] at hc
      obtain ⟨d, -, rfl⟩ := Option.map_eq_some_iff.1 hc
      exact isBlank_blankOut d.code
    · obtain ⟨before, g, used', m', hgs, hm, hpair, hblank⟩ := ih p hp
      refine ⟨covered ++ before, g, used', m', ?_, hm, hpair, fun n c hn hle hc => ?_⟩
      · rw [List.append_assoc, ← hgs, hcovered, List.cons_append, hused]
      · dsimp only at hc
        rw [List.length_append] at hn hle
        rw [List.getElem?_append_right (by rw [List.length_map]; omega), List.length_map] at hc
        exact hblank (n - covered.length) c (by omega) (by omega) hc

theorem trailingName?_head {gs n : List Glyph} {first : Glyph} (h : trailingName? gs = some (first :: n)) :
    first ∈ gs ∧ Text.isNameStart first.code = true := by
  have hhead := List.head?_dropWhile_not (fun g : Glyph => !Text.isNameStart g.code)
    ((gs.reverse.dropWhile fun g => Text.isBlank g.code).takeWhile fun g => Text.isNamePart g.code).reverse
  have hsub : ∀ g ∈ ((gs.reverse.dropWhile fun g => Text.isBlank g.code).takeWhile
      fun g => Text.isNamePart g.code).reverse, g ∈ gs := by
    intro g hg
    have hg := (List.takeWhile_sublist _).subset (List.mem_reverse.1 hg)
    exact List.mem_reverse.1 ((List.dropWhile_sublist _).subset hg)
  rw [trailingName?] at h
  split at h
  · cases h
  · rename_i hrun
    rw [Option.some_inj] at h
    rw [h] at hhead
    have hmem := (List.dropWhile_sublist (l := ((gs.reverse.dropWhile fun g => Text.isBlank g.code).takeWhile
      fun g => Text.isNamePart g.code).reverse) fun g : Glyph => !Text.isNameStart g.code).subset
      (h ▸ List.mem_cons_self : first ∈ _)
    exact ⟨hsub first hmem, by simpa using hhead⟩

/-- The annotations of a method stand before a character that is seen in what is left of its header. -/
theorem exists_of_heading_method {lines : LineTable} {header : List Glyph} {name : String}
    {found : List Annotation} {span : Span} (h : heading lines header = .method name found span) :
    ∃ (n : Nat) (first : Glyph), (annotations lines header).2[n]? = some first ∧
      Text.isBlank first.code = false ∧ found = annotationsBefore (annotations lines header).1 first.offset := by
  rw [heading] at h
  dsimp only at h
  split at h
  · split at h <;> cases h
  · split at h
    · cases h
    · split at h
      · cases h
      · split at h
        · rename_i first n hname
          split at h
          · cases h
          · cases h
            -- only this branch announces a method, and there the name ends what is left of the header
            obtain ⟨hmem, hstart⟩ := trailingName?_head hname
            obtain ⟨k, hk⟩ := List.mem_iff_getElem?.1 ((List.takeWhile_sublist _).subset hmem)
            exact ⟨k, first, hk, Text.isBlank_of_isNamePart (Text.isNamePart_of_isNameStart hstart), rfl⟩
        · cases h

/-- The end of a text, by its offset. -/
theorem exists_offset {text : List Char} {gs : List Glyph} (h : gs <:+ glyphs text) :
    ∃ k, k + gs.length = text.length ∧ ∀ i : Nat, (∀ g, gs[i]? = some g → g.offset = k + i) ∧
      (mask text).drop (k + i) = codes (gs.drop i) := by
  obtain ⟨before, hsplit⟩ := h
  refine ⟨before.length, ?_, fun i => ⟨fun g hg => ?_, ?_⟩⟩
  · rw [← List.length_append, hsplit, ByOffset.length_glyphs]
  · apply ByOffset.indexed_glyphs text
    rw [← hsplit, List.getElem?_append_right (Nat.le_add_right _ _), Nat.add_sub_cancel_left, hg]
  · rw [← codes_glyphs, ← hsplit, codes, ← List.map_drop, List.drop_append]
    simp [codes]

section

variable {header before used after : List Glyph} {g : Glyph} {k : Nat}
  (hoffset : ∀ (i : Nat) (c : Glyph), header[i]? = some c → c.offset = k + i)
  (hheader : header = before ++ (g :: used ++ after))

include hoffset hheader

/-- A stretch of a header covers the offsets from its first character to its last. -/
theorem spanOf_stretch (lines : LineTable) :
    spanOf lines g (g :: used) = lines.span g.offset ((g.offset + used.length : Nat) + 1) := by
  have hfirst : g.offset = k + before.length := hoffset _ g (by rw [hheader]; simp)
  have hlast : (g :: used).getLast?.getD g = (g :: used)[used.length] := by
    rw [List.getLast?_eq_getElem?]
    simp
  have hlastOffset : ((g :: used)[used.length]).offset = k + (before.length + used.length) := by
    apply hoffset
    rw [hheader, List.getElem?_append_right (Nat.le_add_right _ _), Nat.add_sub_cancel_left,
      List.getElem?_append_left (by simp), List.getElem?_eq_getElem]
  rw [spanOf, hlast, hlastOffset, hfirst]
  simp [Nat.add_assoc]

/-- An annotation does not reach to the end of its header if something is seen after it. -/
theorem after_ne_nil {lines : LineTable} {first : Glyph} {n : Nat}
    (hblank : ∀ (n : Nat) (c : Glyph), before.length ≤ n → n ≤ before.length + used.length →
      (annotations lines header).2[n]? = some c → Text.isBlank c.code = true)
    (hfirst : (annotations lines header).2[n]? = some first) (hvisible : Text.isBlank first.code = false)
    (hbefore : g.offset < first.offset) : after ≠ [] := by
  rintro rfl
  have hg : g.offset = k + before.length := hoffset _ g (by rw [hheader]; simp)
  have hgot : header[n]? = some first := ByOffset.getElem?_annotations _ header n first hfirst hvisible
  have hn := hoffset n first hgot
  have hlt := (List.getElem?_eq_some_iff.1 hgot).1
  rw [hheader] at hlt
  simp only [List.append_nil, List.length_append, List.length_cons] at hlt
  rw [hblank n first (by omega) (by omega) hfirst] at hvisible
  cases hvisible

end

/-- The annotations of a method stand where they are written, in its header. -/
theorem standsAt_of_heading {text : List Char} {header tail : List Glyph} {stop : Glyph}
    (h : header ++ stop :: tail <:+ glyphs text) (hstop : isEnd stop) {name : String}
    {found : List Annotation} {span : Span} (hmethod : heading (.ofText text) header = .method name found span) :
    ∀ a ∈ found, ∃ g ∈ header, ∃ t, a.StandsAt text g.offset t := by
  obtain ⟨n, first, hfirst, hvisible, rfl⟩ := exists_of_heading_method hmethod
  obtain ⟨k, hlength, hoffset⟩ := exists_offset h
  have hheader (i : Nat) (g : Glyph) (hg : header[i]? = some g) : g.offset = k + i := by
    apply (hoffset i).1
    rw [List.getElem?_append_left (List.getElem?_eq_some_iff.1 hg).1, hg]
  intro a ha
  obtain ⟨p, hp, rfl⟩ := List.mem_map.1 ha
  obtain ⟨hp, hbefore⟩ := List.mem_filter.1 hp
  obtain ⟨before, g, used, m, hsplit, hmark, rfl, hblank⟩ := split_of_mem_annotations _ header p hp
  have hg : g.offset = k + before.length := hheader _ g (by rw [hsplit]; simp)
  -- the name of the method is seen after the annotation, so the annotation has an end
  have hne : m.after ≠ [] := after_ne_nil hheader hsplit hblank hfirst hvisible (by simpa using hbefore)
  have hmasked : (mask text).drop g.offset = codes (g :: (used ++ m.after) ++ stop :: tail) := by
    rw [hg, (hoffset before.length).2, hsplit]
    simp
  obtain ⟨used', simple, hused, hspelled, hsimple⟩ := mark?_spells hstop tail hmark hne hmasked
  obtain rfl : used = used' := List.append_cancel_right hused
  refine ⟨g, by rw [hsplit]; simp, g.offset + used.length, ⟨simple, hspelled, hsimple _ rfl⟩, ?_,
    Nat.le_add_right _ _, ?_⟩
  · exact congrArg some (spanOf_stretch hheader hsplit (.ofText text))
  · rw [hsplit] at hlength
    simp only [List.length_append, List.length_cons] at hlength
    omega

end Pattern

/-! ## Endpoints of a stretch -/

/-- Endpoints stand at glyphs of a stretch, one after the other. -/
def StandIn (text : List Char) (gs : List Glyph) (es : List Endpoint) : Prop :=
  ∃ marks, marks.Sublist gs ∧ List.Forall₂ (fun g e => ∃ t, Endpoint.StandsAt text e g.offset t) marks es

namespace StandIn

variable {text : List Char} {gs gs' : List Glyph} {es es' : List Endpoint}

theorem nil (text : List Char) (gs : List Glyph) : StandIn text gs [] := ⟨[], List.nil_sublist gs, .nil⟩

theorem mono (h : StandIn text gs es) (hgs : gs.Sublist gs') : StandIn text gs' es := by
  obtain ⟨marks, hmarks, hstand⟩ := h
  exact ⟨marks, hmarks.trans hgs, hstand⟩

theorem append (h : StandIn text gs es) (h' : StandIn text gs' es') :
    StandIn text (gs ++ gs') (es ++ es') := by
  obtain ⟨marks, hmarks, hstand⟩ := h
  obtain ⟨marks', hmarks', hstand'⟩ := h'
  exact ⟨marks ++ marks', hmarks.append hmarks', List.rel_append hstand hstand'⟩

end StandIn

/-- The endpoint of a method stands at an annotation of its own. -/
theorem standIn_methodEndpoints {text : List Char} {gs : List Glyph} {found : List Annotation}
    (h : ∀ a ∈ found, ∃ g ∈ gs, ∃ t, a.StandsAt text g.offset t) (file : String) (scope : Scope)
    (name : String) (span : Option Span) :
    StandIn text gs (methodEndpoints file scope name found span) := by
  rw [methodEndpoints]
  split
  · cases hlast : lastMapping? found with
    | none => exact .nil text gs
    | some mapping =>
      -- the mapping that decides is one of the annotations found
      obtain ⟨g, hg, t, ⟨simple, hspelled, hsimple⟩, hspan, hle, hlt⟩ :=
        h mapping (List.mem_reverse.1 (List.mem_of_find?_eq_some hlast))
      have hmaps : mapping.kind.mapsRequests = true := by
        rw [← Annotation.isMapping_eq]
        exact List.find?_some hlast
      unfold Annotation.kind at hmaps
      rw [hsimple] at hmaps
      have hplace : (mapping.span.or span).getD defaultSpan = (LineTable.ofText text).span g.offset (t + 1) := by
        rw [hspan]
        rfl
      -- a span ends with the character before the offset it is given
      have hend : max (g.offset : Int) ((t : Int) + 1 - 1) = t := by omega
      dsimp only
      rw [hplace, Scope.paths, List.map_singleton]
      refine ⟨[g], List.singleton_sublist.2 hg, .cons ⟨t, ⟨simple, hspelled, hmaps⟩, ?_, ?_, ?_, ?_, hle, hlt⟩ .nil⟩
      all_goals simp only [makeEndpoint, LineTable.span, hend]
  · exact .nil text gs

section

variable {text : List Char} (file : String) (scope : Scope) {header tail : List Glyph} {stop : Glyph}
  (h : header ++ stop :: tail <:+ glyphs text) (hstop : isEnd stop)

include h hstop

theorem standIn_of_declaredBy {name : String} {found : List Annotation} {span : Span}
    (hdeclared : ByOffset.declaredBy (.ofText text) header = .method name found span) :
    StandIn text header (methodEndpoints file scope name found (some span)) := by
  have hskip := skipBlankGlyphs_suffix header
  rw [ByOffset.declaredBy] at hdeclared
  split at hdeclared
  · cases hdeclared
  · apply standIn_methodEndpoints
    intro a ha
    obtain ⟨g, hg, hstand⟩ := Pattern.standsAt_of_heading ((isSuffix_append hskip _).trans h) hstop hdeclared a ha
    exact ⟨g, hskip.subset hg, hstand⟩

/-- What a header declares that a semicolon ends. -/
theorem standIn_endedBy :
    StandIn text header
      (memberEndpoints file scope (ByOffset.endedBy (ByOffset.declaredBy (.ofText text) header))) := by
  cases hdeclared : ByOffset.declaredBy (.ofText text) header with
  | method name found span =>
    rw [ByOffset.endedBy, memberEndpoints, memberEndpoints, List.append_nil, Declaration.endpointsIn]
    exact standIn_of_declaredBy file scope h hstop hdeclared
  | _ => exact .nil text _

/-- What a header declares, with what its braces enclose. -/
theorem standIn_openedBy {inside : List Glyph} {ds : List Declaration}
    (hinside : ∀ scope, StandIn text inside (memberEndpoints file scope ds)) :
    StandIn text (header ++ inside)
      (memberEndpoints file scope (ByOffset.openedBy ds (ByOffset.declaredBy (.ofText text) header))) := by
  cases hdeclared : ByOffset.declaredBy (.ofText text) header with
  | other => exact .nil text _
  | type kind name found span =>
    rw [ByOffset.openedBy, memberEndpoints, memberEndpoints, List.append_nil, Declaration.endpointsIn]
    exact (hinside _).mono (List.sublist_append_right header inside)
  | method name found span =>
    rw [ByOffset.openedBy, memberEndpoints, memberEndpoints, List.append_nil, Declaration.endpointsIn]
    exact (standIn_of_declaredBy file scope h hstop hdeclared).mono (List.sublist_append_left header inside)

end

theorem enclose_sublist (o c : Char) (gs : List Glyph) :
    ((enclose o c gs).inside ++ (enclose o c gs).after).Sublist gs := by
  rw [enclose]
  split
  · rename_i k _
    have hsublist := (List.drop_sublist 1 (gs.take k)).append (List.drop_sublist 1 (gs.drop k))
    rwa [List.drop_drop, List.take_append_drop] at hsublist
  · rw [List.append_nil]
    exact List.drop_sublist 1 gs

/-- The walk over a stretch of the text takes up one header after the other. -/
theorem standIn_members {text : List Char} (file : String) (scope : Scope) (header gs tail : List Glyph)
    (h : header.reverse ++ (gs ++ tail) <:+ glyphs text) :
    StandIn text (header.reverse ++ gs) (memberEndpoints file scope (Pattern.members (.ofText text) header gs)) := by
  induction hn : gs.length using Nat.strong_induction_on generalizing scope header gs tail with
  | _ n ih =>
    subst hn
    cases gs with
    | nil =>
      rw [Pattern.members]
      exact .nil text _
    | cons g r =>
      have hgs : g :: r ++ tail <:+ glyphs text := (List.suffix_append _ _).trans h
      have hnext := ih _ (Nat.lt_succ_self _) scope [] r tail ((List.suffix_cons g (r ++ tail)).trans hgs) rfl
      by_cases hparen : g.code = '('
      · -- a parenthesis belongs to the header
        have htake : header.reverse ++ (g :: r) = ((((g :: r).take ((g :: r).length -
            (enclose '(' ')' (g :: r)).after.length)).reverse ++ header).reverse ++
              (enclose '(' ')' (g :: r)).after) := by
          rw [List.reverse_append, List.reverse_reverse, List.append_assoc, take_enclose]
        rw [ByOffset.members_paren hparen, htake]
        refine ih _ (enclose_after_lt '(' ')' g r) scope _ _ tail ?_ rfl
        rwa [← List.append_assoc, ← htake, List.append_assoc]
      · by_cases hbrace : g.code = '{'
        · -- braces end the header, and what they enclose is walked on its own
          obtain ⟨rest, hrest⟩ := enclose_inside '{' '}' (g :: r)
          have hinside (scope : Scope) := ih _ (enclose_inside_lt '{' '}' g r) scope [] _ (rest ++ tail) (by
              rw [List.reverse_nil, List.nil_append, ← List.append_assoc]
              exact (isSuffix_append hrest tail).trans hgs) rfl
          have hafter := ih _ (enclose_after_lt '{' '}' g r) scope [] _ tail
            ((isSuffix_append (enclose_after_suffix '{' '}' (g :: r)) tail).trans hgs) rfl
          rw [ByOffset.members_brace hbrace, memberEndpoints_append]
          refine ((standIn_openedBy file scope h (.inl hbrace) hinside).append hafter).mono ?_
          rw [List.reverse_nil, List.nil_append, List.nil_append, List.append_assoc]
          exact (List.Sublist.refl _).append (enclose_sublist '{' '}' (g :: r))
        · by_cases hsemicolon : g.code = ';'
          · -- a semicolon ends the header
            rw [ByOffset.members_semicolon hsemicolon, memberEndpoints_append]
            refine ((standIn_endedBy file scope h (.inr hsemicolon)).append hnext).mono ?_
            exact (List.Sublist.refl _).append (List.sublist_cons_self g r)
          · rw [Pattern.members, if_neg hparen, if_neg hbrace, if_neg hsemicolon]
            split
            · -- a closing brace drops the header
              exact hnext.mono ((List.sublist_cons_self g r).trans (List.sublist_append_right _ _))
            · have hheader := ih _ (Nat.lt_succ_self _) scope (g :: header) r tail
                (by rwa [List.reverse_cons, List.append_assoc]) rfl
              rwa [List.reverse_cons, List.append_assoc] at hheader

/-- The endpoint starts on an earlier line, or earlier on the same line. -/
def Endpoint.StartsBefore (e e' : Endpoint) : Prop :=
  e.startLine < e'.startLine ∨ e.startLine = e'.startLine ∧ e.startColumn < e'.startColumn

theorem Endpoint.StandsAt.startsBefore {text : List Char} {e e' : Endpoint} {s s' t t' : Nat}
    (h : e.StandsAt text s t) (h' : e'.StandsAt text s' t') (hlt : s < s') : e.StartsBefore e' := by
  have hposition := (LineTable.ofText text).position_strictMono hlt (Nat.le_of_lt (Nat.lt_of_le_of_lt h'.le h'.lt))
  rw [StartsBefore, h.startLine, h.startColumn, h'.startLine, h'.startColumn]
  omega

theorem exists_of_mem_forall₂ {α β : Type} {R : α → β → Prop} {as : List α} {bs : List β}
    (h : List.Forall₂ R as bs) {b : β} (hb : b ∈ bs) : ∃ a ∈ as, R a b := by
  induction h with
  | nil => cases hb
  | @cons a b' as bs hab _ ih =>
    rcases List.mem_cons.1 hb with rfl | hb
    · exact ⟨a, List.mem_cons_self, hab⟩
    · obtain ⟨a', ha', hab'⟩ := ih hb
      exact ⟨a', List.mem_cons_of_mem a ha', hab'⟩

theorem pairwise_of_forall₂ {text : List Char} {marks : List Glyph} {es : List Endpoint}
    (h : List.Forall₂ (fun g e => ∃ t, Endpoint.StandsAt text e g.offset t) marks es)
    (hordered : Ordered marks) : es.Pairwise Endpoint.StartsBefore := by
  induction h with
  | nil => exact .nil
  | cons hstand hrest ih =>
    obtain ⟨hfirst, hordered⟩ := List.pairwise_cons.1 hordered
    refine List.pairwise_cons.2 ⟨fun e' he' => ?_, ih hordered⟩
    obtain ⟨t, hstand⟩ := hstand
    obtain ⟨g', hg', t', hstand'⟩ := exists_of_mem_forall₂ hrest he'
    exact hstand.startsBefore hstand' (hfirst g' hg')

/-- Every endpoint that is read from a text stands at an annotation of the text that maps requests, and
each starts before the next, so that no two of them stand at one place. -/
theorem extractEndpoints_located (file : String) (text : List Char) :
    (∀ e ∈ extractEndpoints file (Pattern.readTypes text), ∃ s t, e.StandsAt text s t) ∧
      (extractEndpoints file (Pattern.readTypes text)).Pairwise Endpoint.StartsBefore := by
  have hwhole : ([] : List Glyph).reverse ++ (glyphs text ++ []) <:+ glyphs text := by
    rw [List.append_nil]
    exact List.suffix_rfl
  have hstand := standIn_members file topLevel [] (glyphs text) [] hwhole
  rw [← memberEndpoints_filter_isType file rfl] at hstand
  obtain ⟨marks, hmarks, hforall⟩ := hstand
  refine ⟨fun e he => ?_, pairwise_of_forall₂ hforall ((ordered_glyphs text).sublist hmarks)⟩
  obtain ⟨g, -, t, hstand⟩ := exists_of_mem_forall₂ hforall he
  exact ⟨g.offset, t, hstand⟩

/-- A controller with its mapping on a line of its own. -/
def linedText : List Char :=
  "@RestController class A \x7b\n  @GetMapping(\"/a\")\n  void f() \x7b\x7d\n\x7d".toList

theorem position_eq_of_line {p : Position} {line column : Nat} (hline : (p.line : Int) = line)
    (hcolumn : (p.column : Int) = column) : p = ⟨line, column⟩ := by
  obtain ⟨l, k⟩ := p
  obtain rfl : l = line := Int.ofNat.inj hline
  obtain rfl : k = column := Int.ofNat.inj hcolumn
  rfl

/-- The mapping stands from the `@` to the parenthesis on the second line. -/
theorem extractEndpoints_located_lined :
    extractEndpoints "A.java" (Pattern.readTypes linedText) =
        [⟨"/a", "/a", "", "/a", .get, "A", "f", "A.java", 2, 3, 2, 19⟩] ∧
      Endpoint.StandsAt linedText ⟨"/a", "/a", "", "/a", .get, "A", "f", "A.java", 2, 3, 2, 19⟩ 28 44 := by
  have hfound : extractEndpoints "A.java" (Pattern.readTypes linedText) =
      [⟨"/a", "/a", "", "/a", .get, "A", "f", "A.java", 2, 3, 2, 19⟩] := by decide +kernel
  have hsize : (LineTable.ofText linedText).size = linedText.length := rfl
  have hstart : (LineTable.ofText linedText).position (28 : Nat) = ⟨2, 3⟩ := by decide +kernel
  have hend : (LineTable.ofText linedText).position (44 : Nat) = ⟨2, 19⟩ := by decide +kernel
  have hlong : 44 < linedText.length := by decide
  obtain ⟨hstands, -⟩ := extractEndpoints_located "A.java" linedText
  obtain ⟨s, t, h⟩ := hstands _ (by rw [hfound]; exact List.mem_singleton.2 rfl)
  have hle := h.le
  have hlt := h.lt
  -- either end has a position that no other offset has
  obtain rfl : s = 28 := by
    refine LineTable.eq_of_position (LineTable.ofText linedText) (by omega) (by omega) ?_
    rw [hstart]
    exact position_eq_of_line h.startLine.symm h.startColumn.symm
  obtain rfl : t = 44 := by
    refine LineTable.eq_of_position (LineTable.ofText linedText) (by omega) (by omega) ?_
    rw [hend]
    exact position_eq_of_line h.endLine.symm h.endColumn.symm
  exact ⟨hfound, h⟩

end EndpointIndex
