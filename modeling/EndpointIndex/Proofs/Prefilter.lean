import EndpointIndex.Proofs.Endpoint.Unplaced
import EndpointIndex.Proofs.Java.Marks
import EndpointIndex.Proofs.Outline.Agreement
import EndpointIndex.Reader.Basic
import Mathlib.Data.List.Infix

/-!
# What the prefilter passes over

A text without any mapping keyword is passed over before it is read. Every annotation that the pattern
reader finds starts with an `@` of the text (`origin_of_mem_members`), and so does every one that the
grammar finds, if no escape stands for an `@` (`Java.nameAt_of_parse?`). A file whose mapping annotations
are written without a qualifier and without a gap after the `@` has a keyword for either reader
(`endpoints_prefilter_eq`). Names with a qualifier are read, but their files are passed over
(`endpoints_prefilter_ne`).
-/

namespace EndpointIndex.Source

open Pattern

/-! ## What masking leaves to be seen -/

/-- A masked character is the one that was written, or a blank. -/
def Shows (raw code : Char) : Prop := code = raw ∨ Text.isBlank code = true

theorem shows_self (s : List Char) : List.Forall₂ Shows s s :=
  List.forall₂_same.2 fun _ _ => .inl rfl

theorem shows_blankOut (s : List Char) : List.Forall₂ Shows s (s.map blankOut) := by
  rw [List.forall₂_map_right_iff]
  exact List.forall₂_same.2 fun c _ => .inr (isBlank_blankOut c)

theorem maskLiteral_shows (quote : Char) (s : List Char) :
    ∃ used, quote :: s = used ++ (maskLiteral quote s).2 ∧
      List.Forall₂ Shows used (maskLiteral quote s).1 := by
  have hsplit := splitLiteral_append quote s
  have hopened : List.Forall₂ Shows (quote :: (splitLiteral quote s).1)
      (quote :: (splitLiteral quote s).1.map blankOut) := .cons (.inl rfl) (shows_blankOut _)
  unfold maskLiteral
  cases hrest : (splitLiteral quote s).2 with
  | nil =>
    rw [hrest, List.append_nil] at hsplit
    exact ⟨quote :: (splitLiteral quote s).1, by rw [List.append_nil, hsplit], hopened⟩
  | cons d rest =>
    rw [hrest] at hsplit
    dsimp only
    by_cases hd : d = quote
    · subst hd
      rw [if_pos rfl]
      refine ⟨d :: (splitLiteral d s).1 ++ [d], ?_, List.rel_append hopened (shows_self [d])⟩
      simp [hsplit]
    · rw [if_neg hd]
      refine ⟨quote :: (splitLiteral quote s).1, ?_, hopened⟩
      simp [hsplit]

theorem maskUnit_shows (s : List Char) :
    ∃ used, s = used ++ (maskUnit s).2 ∧ List.Forall₂ Shows used (maskUnit s).1 := by
  fun_cases maskUnit s with
  | case1 => exact ⟨[], rfl, .nil⟩
  | case2 r =>
    refine ⟨('/' :: '/' :: r).takeWhile (· ≠ '\n'), ?_, shows_blankOut _⟩
    have hline := List.takeWhile_append_dropWhile (p := (· ≠ '\n')) (l := '/' :: '/' :: r)
    rw [show ('/' :: '/' :: r).dropWhile (· ≠ '\n') = r.dropWhile (· ≠ '\n') by simp] at hline
    exact hline.symm
  | case3 r body rest hcomment =>
    have hsplit := splitBlockComment_append r
    rw [hcomment] at hsplit
    exact ⟨'/' :: '*' :: body, by rw [← hsplit]; simp, shows_blankOut _⟩
  | case4 r body rest hblock =>
    have hsplit := splitTextBlock_append r
    rw [hblock] at hsplit
    refine ⟨['"', '"', '"'] ++ body ++ rest.take 3, ?_, ?_⟩
    · rw [← hsplit]
      simp
    · exact List.rel_append (List.rel_append (shows_self _) (shows_blankOut body)) (shows_self _)
  | case5 c r => exact maskLiteral_shows c r
  | case6 c r => exact ⟨[c], rfl, shows_self [c]⟩

theorem mask_shows (s : List Char) : List.Forall₂ Shows s (mask s) := by
  fun_induction mask s with
  | case1 => exact .nil
  | case2 s h ih =>
    obtain ⟨used, hused, hshows⟩ := maskUnit_shows s
    nth_rewrite 1 [hused]
    exact List.rel_append hshows ih

theorem shows_of_mem_glyphsFrom {k : Nat} {text masked : List Char} (h : List.Forall₂ Shows text masked) :
    ∀ g ∈ glyphsFrom k text masked, Shows g.raw g.code := by
  induction h generalizing k with
  | nil => simp [glyphsFrom]
  | cons hhead htail ih =>
    intro g hg
    rcases List.mem_cons.1 hg with rfl | hg
    · exact hhead
    · exact ih g hg

/-- What is seen in the masked source is in the text. -/
theorem isInfix_of_codes {text w : List Char} {gs : List Glyph} (hgs : gs <:+ glyphs text)
    (hw : w <+: codes gs) (hvisible : ∀ c ∈ w, Text.isBlank c = false) : w <:+: text := by
  obtain ⟨before, hbefore⟩ := hgs
  obtain ⟨rest, hrest⟩ := hw
  obtain ⟨a, b, rfl, ha, -⟩ := List.map_eq_append_iff.1 hrest.symm
  have hraws : raws a = w := by
    rw [← ha]
    apply List.map_congr_left
    intro g hg
    have hmem : g ∈ glyphs text := by
      rw [← hbefore]
      simp [hg]
    rcases shows_of_mem_glyphsFrom (mask_shows text) g hmem with hcode | hblank
    · exact hcode.symm
    · rw [hvisible g.code (ha ▸ List.mem_map_of_mem hg)] at hblank
      cases hblank
  have htext : raws (glyphs text) = text := raws_glyphsFrom (length_mask text)
  refine ⟨raws before, raws b, ?_⟩
  rw [← htext, ← hbefore, ← hraws]
  simp [raws]

/-! ## Headers in the text -/

/-- Where a header ends. -/
def isEnd (g : Glyph) : Prop := g.code = '{' ∨ g.code = ';'

theorem isEnd.code {g : Glyph} (h : isEnd g) :
    Text.isBlank g.code = false ∧ Text.isNamePart g.code = false ∧ Text.isNameStart g.code = false ∧
      g.code ≠ '.' := by
  rcases h with h | h <;> rw [h] <;> decide

theorem dropWhile_append_stop {p : Glyph → Bool} {stop : Glyph} (hp : p stop = false)
    (tail x : List Glyph) :
    (x ++ stop :: tail).dropWhile p = x.dropWhile p ++ stop :: tail ∧
      (x ++ stop :: tail).takeWhile p = x.takeWhile p := by
  induction x with
  | nil => simp [hp]
  | cons g x ih =>
    by_cases hg : p g = true
    · simp [hg, ih]
    · simp [hg]

section

variable {stop : Glyph} (hstop : isEnd stop) (tail : List Glyph)
include hstop

theorem skipBlankGlyphs_append_stop (x : List Glyph) :
    skipBlankGlyphs (x ++ stop :: tail) = skipBlankGlyphs x ++ stop :: tail :=
  (dropWhile_append_stop hstop.code.1 tail x).1

theorem name?_append_stop (x : List Glyph) :
    name? (x ++ stop :: tail) = (name? x).map fun p => (p.1, p.2 ++ stop :: tail) := by
  cases x with
  | nil => simp [name?, hstop.code.2.2.1]
  | cons g x =>
    obtain ⟨hdrop, htake⟩ := dropWhile_append_stop
      (p := fun g => Text.isNamePart g.code) hstop.code.2.1 tail x
    rw [List.cons_append, name?, name?]
    by_cases hg : Text.isNameStart g.code = true
    · rw [if_pos hg, if_pos hg, hdrop, htake]
      rfl
    · rw [if_neg hg, if_neg hg]
      rfl

theorem dotName?_append_stop (x : List Glyph) :
    dotName? (x ++ stop :: tail) = (dotName? x).map fun p => (p.1, p.2 ++ stop :: tail) := by
  rw [dotName?, dotName?, skipBlankGlyphs_append_stop hstop]
  cases hskip : skipBlankGlyphs x with
  | nil => exact if_neg hstop.code.2.2.2
  | cons g r =>
    rw [List.cons_append]
    dsimp only
    by_cases hg : g.code = '.'
    · rw [if_pos hg, if_pos hg, skipBlankGlyphs_append_stop hstop, name?_append_stop hstop]
    · rw [if_neg hg, if_neg hg]
      rfl

theorem moreNames_append_stop (x : List Glyph) :
    moreNames (x ++ stop :: tail) = ((moreNames x).1, (moreNames x).2 ++ stop :: tail) := by
  fun_induction moreNames x with
  | case1 x hnone =>
    have hdot := dotName?_append_stop hstop tail x
    rw [hnone] at hdot
    rw [moreNames]
    split
    · rfl
    · rename_i hsome
      rw [hdot] at hsome
      cases hsome
  | case2 x n r hsome hlt ns rest hmore ih =>
    have hdot := dotName?_append_stop hstop tail x
    rw [hsome] at hdot
    rw [moreNames_some hdot, ih, hmore]

theorem dottedName?_append_stop (x : List Glyph) :
    dottedName? (x ++ stop :: tail) = (dottedName? x).map fun p => (p.1, p.2 ++ stop :: tail) := by
  rw [dottedName?, dottedName?, name?_append_stop hstop]
  cases name? x with
  | none => rfl
  | some p =>
    dsimp only [Option.map_some]
    rw [moreNames_append_stop hstop]

/-- The end of a header cuts no annotation off: the same name is read in the text. -/
theorem mark?_append_stop {x : List Glyph} {m : Mark} (h : mark? x = some m) :
    ∃ m', mark? (x ++ stop :: tail) = some m' ∧ m'.name = m.name := by
  cases x with
  | nil => cases h
  | cons g x =>
    rw [mark?] at h
    split at h
    · rename_i hg
      split at h
      · cases h
      · rename_i parts rest hname
        dsimp only at h
        split at h
        · cases h
        · rename_i hinterface
          cases h
          -- the name ends before the glyph that stops it
          have hmark : mark? (g :: x ++ stop :: tail) =
              some ⟨dottedText parts, (argumentList (rest ++ stop :: tail)).1,
                (argumentList (rest ++ stop :: tail)).2⟩ := by
            rw [List.cons_append, mark?, if_pos hg, skipBlankGlyphs_append_stop hstop,
              dottedName?_append_stop hstop, hname]
            dsimp only [Option.map_some]
            rw [if_neg hinterface]
          exact ⟨_, hmark, rfl⟩
    · cases h

end

/-! ## Where annotations come from -/

/-- An annotation whose name is read after some `@` of the text. -/
def Origin (text : List Char) (a : Annotation) : Prop :=
  ∃ gs m, gs <:+ glyphs text ∧ mark? gs = some m ∧ m.name = a.name

theorem mark_of_mem_annotations (lines : LineTable) (header : List Glyph) :
    ∀ p ∈ (annotations lines header).1, ∃ gs m, gs <:+ header ∧ mark? gs = some m ∧ m.name = p.2.name := by
  fun_induction annotations lines header with
  | case1 => simp
  | case2 g gs hmark found stripped hrest ih =>
    intro p hp
    rw [hrest] at ih
    obtain ⟨gs', m, hgs', hm, hname⟩ := ih p hp
    exact ⟨gs', m, hgs'.trans (List.suffix_cons g gs), hm, hname⟩
  | case3 g gs m hmark covered found stripped hrest ih =>
    intro p hp
    rw [hrest] at ih
    rcases List.mem_cons.1 hp with rfl | hp
    · exact ⟨g :: gs, m, List.suffix_rfl, hmark, rfl⟩
    · obtain ⟨gs', m', hgs', hm', hname⟩ := ih p hp
      exact ⟨gs', m', hgs'.trans ((mark?_suffix hmark).2.trans (List.suffix_cons g gs)), hm', hname⟩

theorem mem_of_mem_annotationsBefore {located : List (Nat × Annotation)} {offset : Nat} {a : Annotation}
    (h : a ∈ annotationsBefore located offset) : ∃ p ∈ located, p.2 = a := by
  obtain ⟨p, hp, rfl⟩ := List.mem_map.1 h
  exact ⟨p, (List.mem_filter.1 hp).1, rfl⟩

/-- The annotations of what a header announces. -/
def headingAnnotations : Heading → List Annotation
  | .type _ _ annotations _ => annotations
  | .method _ annotations _ => annotations
  | .other => []

theorem mem_located_of_heading (lines : LineTable) (header : List Glyph) {a : Annotation}
    (h : a ∈ headingAnnotations (heading lines header)) :
    ∃ p ∈ (annotations lines header).1, p.2 = a := by
  rw [heading] at h
  dsimp only at h
  split at h
  · split at h
    · exact mem_of_mem_annotationsBefore h
    · cases h
  · split at h
    · cases h
    · split at h
      · cases h
      · split at h
        · split at h
          · cases h
          · exact mem_of_mem_annotationsBefore h
        · cases h

theorem isSuffix_append {x y : List Glyph} (h : x <:+ y) (tail : List Glyph) : x ++ tail <:+ y ++ tail := by
  obtain ⟨before, rfl⟩ := h
  exact ⟨before, (List.append_assoc ..).symm⟩

/-- A header that ends in the text. -/
theorem origin_of_heading {text : List Char} (lines : LineTable) {header tail : List Glyph} {stop : Glyph}
    (h : header ++ stop :: tail <:+ glyphs text) (hstop : isEnd stop) :
    ∀ a ∈ headingAnnotations (heading lines (skipBlankGlyphs header)), Origin text a := by
  intro a ha
  obtain ⟨p, hp, rfl⟩ := mem_located_of_heading lines _ ha
  obtain ⟨gs, m, hgs, hmark, hname⟩ := mark_of_mem_annotations lines _ p hp
  obtain ⟨m', hmark', hname'⟩ := mark?_append_stop hstop tail hmark
  have hsuffix := isSuffix_append (hgs.trans (skipBlankGlyphs_suffix header)) (stop :: tail)
  exact ⟨gs ++ stop :: tail, m', hsuffix.trans h, hmark', hname'.trans hname⟩

theorem enclose_inside (o c : Char) (gs : List Glyph) :
    ∃ rest, (enclose o c gs).inside ++ rest <:+ gs := by
  cases gs with
  | nil => exact ⟨[], List.suffix_rfl⟩
  | cons g r =>
    obtain ⟨rest, hrest⟩ := isPrefix_inside o c g r
    refine ⟨rest, ?_⟩
    rw [hrest]
    exact List.suffix_cons g r

end EndpointIndex.Source

namespace EndpointIndex.Declaration

mutual

/-- The annotations of a declaration and of all its members. -/
def allAnnotations : Declaration → List Annotation
  | method _ annotations _ => annotations
  | type _ _ annotations members _ => annotations ++ annotationsOfAll members

def annotationsOfAll : List Declaration → List Annotation
  | [] => []
  | d :: ds => d.allAnnotations ++ annotationsOfAll ds

end

theorem annotationsOfAll_append (a b : List Declaration) :
    annotationsOfAll (a ++ b) = annotationsOfAll a ++ annotationsOfAll b := by
  induction a with
  | nil => rfl
  | cons d a ih => rw [List.cons_append, annotationsOfAll, ih, annotationsOfAll, List.append_assoc]

mutual

theorem allAnnotations_bare (d : Declaration) :
    d.bare.allAnnotations = d.allAnnotations.map Annotation.bare := by
  cases d with
  | method name annotations span => rw [bare, allAnnotations, allAnnotations]
  | type kind name annotations members span =>
    rw [bare, allAnnotations, allAnnotations, List.map_append, annotationsOfAll_bare members]

theorem annotationsOfAll_bare (ds : List Declaration) :
    annotationsOfAll (bareAll ds) = (annotationsOfAll ds).map Annotation.bare := by
  cases ds with
  | nil => rfl
  | cons d ds =>
    rw [bareAll, annotationsOfAll, annotationsOfAll, List.map_append, allAnnotations_bare d,
      annotationsOfAll_bare ds]

end

end EndpointIndex.Declaration

namespace EndpointIndex.Structural

open Declaration

mutual

theorem names_declared (n : Java.Node) :
    n.declared.allAnnotations.map Annotation.name = n.allMarks.map Java.Mark.name := by
  cases n with
  | method name line marks =>
    rw [Java.Node.declared, allAnnotations, Java.Node.allMarks, List.map_map]
    rfl
  | type kind name line marks members =>
    rw [Java.Node.declared, allAnnotations, Java.Node.allMarks, List.map_append, List.map_append,
      names_declaredAll members, List.map_map]
    rfl

theorem names_declaredAll (ns : List Java.Node) :
    (annotationsOfAll (Java.Node.declaredAll ns)).map Annotation.name =
      (Java.Node.marksOfAll ns).map Java.Mark.name := by
  cases ns with
  | nil => rfl
  | cons n ns =>
    rw [Java.Node.declaredAll, annotationsOfAll, Java.Node.marksOfAll, List.map_append, List.map_append,
      names_declared n, names_declaredAll ns]

end

/-- The annotations of what is declared have the names that the grammar has read. -/
theorem names_declareAll (lines : Source.LineTable) (c : Source.Cursor) (ns : List Java.Node) :
    (annotationsOfAll (declareAll lines c ns).1).map Annotation.name =
      (Java.Node.marksOfAll ns).map Java.Mark.name := by
  rw [← names_declaredAll, ← declareAll_bare lines c, annotationsOfAll_bare, List.map_map]
  rfl

end EndpointIndex.Structural

namespace EndpointIndex.Source

open Pattern

/-- All annotations that the walk over a stretch of the text finds are read in the text. What is left to
walk, with the header before it and what follows the stretch behind it, is the end of the text. -/
theorem origin_of_mem_members {text : List Char} (lines : LineTable) (header gs tail : List Glyph)
    (h : header.reverse ++ (gs ++ tail) <:+ glyphs text) :
    ∀ a ∈ Declaration.annotationsOfAll (members lines header gs), Origin text a := by
  fun_induction members lines header gs generalizing tail with
  | case1 => simp [Declaration.annotationsOfAll]
  | case2 header g r hopen e taken ih =>
    -- a parenthesis belongs to the header
    apply ih tail
    rw [List.reverse_append, List.reverse_reverse, List.append_assoc, ← List.append_assoc taken,
      take_enclose]
    exact h
  | case3 header g r _ hopen e ih_inside ih_after =>
    have hgs : g :: r ++ tail <:+ glyphs text := (List.suffix_append _ _).trans h
    have hheading := origin_of_heading lines h (.inl hopen)
    have hinside : ∀ a ∈ Declaration.annotationsOfAll (members lines [] e.inside), Origin text a := by
      -- what the braces enclose is a stretch of the text too
      obtain ⟨rest, hrest⟩ := enclose_inside '{' '}' (g :: r)
      have hstretch := (isSuffix_append hrest tail).trans hgs
      rw [List.append_assoc] at hstretch
      exact ih_inside _ hstretch
    rw [Declaration.annotationsOfAll_append]
    intro a ha
    rcases List.mem_append.1 ha with ha | ha
    · split at ha
      · cases ha
      · split at ha
        · rename_i hhead
          rw [hhead] at hheading
          simp only [Declaration.annotationsOfAll, Declaration.allAnnotations, List.append_nil] at ha
          rcases List.mem_append.1 ha with ha | ha
          · exact hheading a ha
          · exact hinside a ha
        · rename_i hhead
          rw [hhead] at hheading
          simp only [Declaration.annotationsOfAll, Declaration.allAnnotations, List.append_nil] at ha
          exact hheading a ha
        · cases ha
    · exact ih_after tail ((isSuffix_append (enclose_after_suffix '{' '}' (g :: r)) tail).trans hgs) a ha
  | case4 header g r _ _ hend ih =>
    have hheading := origin_of_heading lines h (.inr hend)
    rw [Declaration.annotationsOfAll_append]
    intro a ha
    rcases List.mem_append.1 ha with ha | ha
    · split at ha
      · cases ha
      · split at ha
        · rename_i hhead
          rw [hhead] at hheading
          simp only [Declaration.annotationsOfAll, Declaration.allAnnotations, List.append_nil] at ha
          exact hheading a ha
        · cases ha
    · exact ih tail ((List.suffix_cons g (r ++ tail)).trans ((List.suffix_append _ _).trans h)) a ha
  | case5 header g r _ _ _ hclose ih =>
    exact ih tail ((List.suffix_cons g (r ++ tail)).trans ((List.suffix_append _ _).trans h))
  | case6 header g r _ _ _ _ ih =>
    apply ih tail
    rw [List.reverse_cons, List.append_assoc]
    exact h

end EndpointIndex.Source

namespace EndpointIndex

open Source Pattern

/-! ## Endpoints and their annotations -/

theorem mapping_of_methodEndpoints {file : String} {scope : Scope} {name : String}
    {annotations : List Annotation} {span : Option Span}
    (h : methodEndpoints file scope name annotations span ≠ []) : ∃ a ∈ annotations, a.isMapping = true := by
  rw [methodEndpoints] at h
  split at h
  · split at h
    · exact absurd rfl h
    · rename_i mapping hlast
      exact ⟨mapping, List.mem_reverse.1 (List.mem_of_find?_eq_some hlast), List.find?_some hlast⟩
  · exact absurd rfl h

mutual

/-- There are no endpoints without mapping annotations. -/
theorem mapping_of_endpointsIn {file : String} {scope : Scope} (d : Declaration)
    (h : d.endpointsIn file scope ≠ []) : ∃ a ∈ d.allAnnotations, a.isMapping = true := by
  cases d with
  | method name annotations span => exact mapping_of_methodEndpoints h
  | type kind name annotations members span =>
    obtain ⟨a, ha, hmapping⟩ := mapping_of_memberEndpoints members h
    exact ⟨a, List.mem_append_right _ ha, hmapping⟩

theorem mapping_of_memberEndpoints {file : String} {scope : Scope} (ds : List Declaration)
    (h : memberEndpoints file scope ds ≠ []) :
    ∃ a ∈ Declaration.annotationsOfAll ds, a.isMapping = true := by
  cases ds with
  | nil => exact absurd rfl h
  | cons d ds =>
    rw [memberEndpoints] at h
    by_cases hd : d.endpointsIn file scope = []
    · rw [hd, List.nil_append] at h
      obtain ⟨a, ha, hmapping⟩ := mapping_of_memberEndpoints ds h
      exact ⟨a, List.mem_append_right _ ha, hmapping⟩
    · obtain ⟨a, ha, hmapping⟩ := mapping_of_endpointsIn d hd
      exact ⟨a, List.mem_append_left _ ha, hmapping⟩

end

theorem annotationsOfAll_filter {p : Declaration → Bool} {ds : List Declaration} {a : Annotation}
    (h : a ∈ Declaration.annotationsOfAll (ds.filter p)) : a ∈ Declaration.annotationsOfAll ds := by
  induction ds with
  | nil => exact h
  | cons d ds ih =>
    rw [Declaration.annotationsOfAll, List.mem_append]
    by_cases hd : p d = true
    · rw [List.filter_cons_of_pos hd, Declaration.annotationsOfAll, List.mem_append] at h
      exact h.imp_right ih
    · rw [List.filter_cons_of_neg hd] at h
      exact .inr (ih h)

/-! ## Keywords -/

/-- The names of the annotations that matter, as they are usually written. -/
def mappingNames : List String :=
  ["Controller", "RestController", "RequestMapping", "GetMapping", "PostMapping", "PutMapping",
   "DeleteMapping", "PatchMapping", "FeignClient"]

theorem mappingKeywords_eq : mappingKeywords = mappingNames.map ("@" ++ ·) := by decide

/-- Whether an annotation of the given name matters for the index. -/
def isRecognized (name : String) : Bool := Annotation.kind ⟨name, none, [], none⟩ ≠ .other

/-- Whether the name of every annotation that matters follows its `@` at once, in the usual case, as the
pattern reader sees the text. -/
def writtenPlainly (text : List Char) : Bool :=
  (glyphs text).tails.all fun gs =>
    match mark? gs with
    | none => true
    | some m => !isRecognized m.name || mappingNames.any fun n => ('@' :: n.toList).isPrefixOf (codes gs)

/-- Where the grammar reads the name of an annotation that matters behind an `@`, that name follows at once,
in the usual case. -/
def SpelledPlainly (text : List Char) : Prop :=
  ∀ s name, '@' :: s <:+ text → Java.NameAt s name → isRecognized name = true →
    ∃ n ∈ mappingNames, n.toList <+: s

theorem isRecognized_of_isMapping {a : Annotation} (h : a.isMapping = true) : isRecognized a.name = true := by
  have hkind : a.kind ≠ .other := by
    intro hother
    unfold Annotation.isMapping at h
    rw [hother] at h
    cases h
  exact decide_eq_true hkind

namespace ReadingPlan

/-- A usual name right after an `@` is a keyword. -/
theorem isCandidate_of_mappingName {text : List Char} {name : String} (hname : name ∈ mappingNames)
    (hoccurs : '@' :: name.toList <:+: text) : (standard true).isCandidate text = true := by
  have hkeyword : "@" ++ name ∈ mappingKeywords := by
    rw [mappingKeywords_eq]
    exact List.mem_map_of_mem hname
  have hchars : ("@" ++ name).toList = '@' :: name.toList := by
    rw [String.toList_append]
    rfl
  change (!true || mappingKeywords.any fun k => Text.occursIn k.toList text) = true
  rw [Bool.not_true, Bool.false_or, List.any_eq_true]
  exact ⟨"@" ++ name, hkeyword, (Text.occursIn_iff _ _).2 (hchars ▸ hoccurs)⟩

/-- A text in which the pattern reader finds endpoints has a keyword, if it is written plainly. -/
theorem isCandidate_of_writtenPlainly {file : String} {text : List Char} (hplain : writtenPlainly text = true)
    (hfound : extractEndpoints file (Pattern.readTypes text) ≠ []) :
    (standard true).isCandidate text = true := by
  obtain ⟨a, ha, hmapping⟩ := mapping_of_memberEndpoints _ hfound
  obtain ⟨gs, m, hgs, hmark, hname⟩ := origin_of_mem_members (.ofText text) [] (glyphs text) []
    (by rw [List.append_nil]; exact List.suffix_rfl) a (annotationsOfAll_filter ha)
  have hwritten := List.all_eq_true.1 hplain gs ((List.mem_tails gs _).2 hgs)
  rw [hmark] at hwritten
  dsimp only at hwritten
  rw [hname, isRecognized_of_isMapping hmapping, Bool.not_true, Bool.false_or, List.any_eq_true] at hwritten
  obtain ⟨name, hmem, hstart⟩ := hwritten
  have hvisible : ∀ n ∈ mappingNames, ('@' :: n.toList).Forall (Text.isBlank · = false) := by decide
  -- no blank is among these characters, so they show what the text itself has there
  exact isCandidate_of_mappingName hmem
    (isInfix_of_codes hgs (List.isPrefixOf_iff_prefix.1 hstart)
      (List.forall_iff_forall_mem.1 (hvisible name hmem)))

/-- Without the prefilter, what the first reader finds is the answer. -/
theorem endpoints_of_primaryEndpoints {file : String} {text : List Char}
    (h : (standard false).primaryEndpoints file text ≠ []) :
    (standard false).endpoints file text = .ok ((standard false).primaryEndpoints file text) := by
  rw [endpoints, if_pos (show (standard false).isCandidate text = true from rfl)]
  split
  · rename_i hnone
    exact absurd hnone h
  · rfl

theorem endpoints_of_no_primaryEndpoints {file : String} {text : List Char}
    (h : (standard false).primaryEndpoints file text = []) :
    (standard false).endpoints file text = (standard false).fallbackEndpoints file text := by
  rw [endpoints, if_pos (show (standard false).isCandidate text = true from rfl), h]

theorem fallbackEndpoints_of_nothing {file : String} {text : List Char}
    (h : ∀ types, Structural.readTypes? text = some types → extractEndpoints file types = []) :
    (standard false).fallbackEndpoints file text = .ok [] := by
  simp only [fallbackEndpoints, standard, Reader.structural]
  cases htypes : Structural.readTypes? text with
  | none => rfl
  | some types => exact congrArg Except.ok (h types htypes)

/-- A text in which the grammar finds endpoints has a keyword, if it is spelled plainly. -/
theorem isCandidate_of_spelledPlainly {file : String} {text : List Char}
    (hescape : ¬ ['\\', 'u'] <:+: text) (hspelled : SpelledPlainly text) {types : List Declaration}
    (htypes : Structural.readTypes? text = some types) (hfound : extractEndpoints file types ≠ []) :
    (standard true).isCandidate text = true := by
  obtain ⟨nodes, hnodes, rfl⟩ := Option.map_eq_some_iff.1 htypes
  obtain ⟨a, ha, hmapping⟩ := mapping_of_memberEndpoints _ hfound
  -- the grammar has read the name of the annotation
  have hmem := List.mem_map_of_mem (f := Annotation.name) ha
  rw [Structural.names_declareAll] at hmem
  obtain ⟨m, hm, hname⟩ := List.mem_map.1 hmem
  obtain ⟨s, hs, hat⟩ := Java.nameAt_of_parse? (Java.expand?_of_no_escape hescape) hnodes m hm
  obtain ⟨name, hknown, hstart⟩ := hspelled s m.name hs hat (hname ▸ isRecognized_of_isMapping hmapping)
  exact isCandidate_of_mappingName hknown
    ((List.cons_prefix_cons.2 ⟨rfl, hstart⟩).isInfix.trans hs.isInfix)

/-- The prefilter loses nothing of a text without escapes whose annotations are written plainly, as either
reader sees them. -/
theorem endpoints_prefilter_eq (file : String) {text : List Char} (hplain : writtenPlainly text = true)
    (hescape : ¬ ['\\', 'u'] <:+: text) (hspelled : SpelledPlainly text) :
    (standard true).endpoints file text = (standard false).endpoints file text := by
  cases hcandidate : (standard true).isCandidate text with
  | true =>
    have hunfiltered : (standard false).isCandidate text = true := rfl
    rw [endpoints, endpoints, if_pos hcandidate, if_pos hunfiltered]
    rfl
  | false =>
    have hnone : (standard false).primaryEndpoints file text = [] := by
      by_contra hfound
      rw [isCandidate_of_writtenPlainly hplain hfound] at hcandidate
      cases hcandidate
    rw [endpoints_of_not_candidate hcandidate, endpoints_of_no_primaryEndpoints hnone]
    refine (fallbackEndpoints_of_nothing fun types htypes => ?_).symm
    by_contra hfound
    rw [isCandidate_of_spelledPlainly hescape hspelled htypes hfound] at hcandidate
    cases hcandidate

/-- The reader that runs first finds what the unit of a source exposes. -/
theorem primaryEndpoints_layout_ne_nil (prefilter : Bool) {file : String} {unit : List Outline}
    (layout : Layout (Outline.lexemesOfAll unit))
    (h : extractEndpoints file (unit.map Outline.declared) ≠ []) :
    (standard prefilter).primaryEndpoints file layout.text ≠ [] := by
  intro hnone
  have hfound := extractEndpoints_layout file unit layout
  change extractEndpoints file (Pattern.readTypes layout.text) = [] at hnone
  rw [hnone, List.map_nil] at hfound
  exact h (List.map_eq_nil_iff.1 hfound.symm)

/-- A controller of one method, its annotations given. -/
def sampleUnit (ofType ofMethod : Note) : List Outline :=
  [.type [ofType] [] .classType ⟨"A", by decide⟩
    [.method [ofMethod] [] ⟨⟨"a", by decide⟩, by decide⟩ []
      (some .empty)]]

/-- The argument list `("/a")`. -/
def samplePath : ArgumentList := ⟨[], some (.literal "/a"), []⟩

theorem plain_restController : isPlainName "RestController".toList = true := by decide

theorem plain_getMapping : isPlainName "GetMapping".toList = true := by decide

theorem nameable_restController :
    DottedName.text ⟨[], ⟨"RestController", plain_restController⟩⟩ ≠ "interface" := by decide

theorem nameable_getMapping :
    DottedName.text ⟨[], ⟨"GetMapping", plain_getMapping⟩⟩ ≠ "interface" := by decide

/-- `@RestController class A{@GetMapping("/a")void a(){}}` -/
def plainSample : List Outline :=
  sampleUnit ⟨⟨[], ⟨"RestController", plain_restController⟩⟩, nameable_restController, none⟩
    ⟨⟨[], ⟨"GetMapping", plain_getMapping⟩⟩, nameable_getMapping, some samplePath⟩

def tightText (unit : List Outline) : List Char := (Layout.tight (Outline.lexemesOfAll unit)).text

theorem endpoints_prefilter_eq_sample :
    writtenPlainly (tightText plainSample) = true ∧ ¬ ['\\', 'u'] <:+: tightText plainSample ∧
      SpelledPlainly (tightText plainSample) ∧
      (standard false).primaryEndpoints "A.java" (tightText plainSample) ≠ [] ∧
      (standard true).endpoints "A.java" (tightText plainSample) =
        (standard false).endpoints "A.java" (tightText plainSample) := by
  have hplain : writtenPlainly (tightText plainSample) = true := by decide +kernel
  have hescape : ¬ ['\\', 'u'] <:+: tightText plainSample := by decide +kernel
  have hspelled : SpelledPlainly (tightText plainSample) := by
    -- the names behind the two `@`
    have hnames : ∀ s ∈ (tightText plainSample).tails, s.head? = some '@' →
        ∃ n ∈ mappingNames, n.toList <+: s.tail := by decide +kernel
    intro s name hs _ _
    exact hnames _ ((List.mem_tails _ _).2 hs) rfl
  have hdeclared : extractEndpoints "A.java" (plainSample.map Outline.declared) ≠ [] := by
    rw [← List.isEmpty_eq_false_iff]
    decide +kernel
  have hfound : (standard false).primaryEndpoints "A.java" (tightText plainSample) ≠ [] :=
    primaryEndpoints_layout_ne_nil false (.tight (Outline.lexemesOfAll plainSample)) hdeclared
  exact ⟨hplain, hescape, hspelled, hfound, endpoints_prefilter_eq "A.java" hplain hescape hspelled⟩

/-- The qualifier `org.x`. -/
def sampleQualifiers : List Name := [⟨"org", by decide⟩, ⟨"x", by decide⟩]

/-- `@org.x.RestController class A{@org.x.GetMapping("/a")void a(){}}` -/
def qualifiedSample : List Outline :=
  sampleUnit ⟨⟨sampleQualifiers, ⟨"RestController", plain_restController⟩⟩, by decide, none⟩
    ⟨⟨sampleQualifiers, ⟨"GetMapping", plain_getMapping⟩⟩, by decide, some samplePath⟩

/-- A file is lost whose annotations have the usual names behind a qualifier. -/
theorem endpoints_prefilter_ne :
    (Declaration.annotationsOfAll (Pattern.readTypes (tightText qualifiedSample))).map
        Annotation.simpleName = ["RestController", "GetMapping"] ∧
      (standard true).endpoints "A.java" (tightText qualifiedSample) = .ok [] ∧
      (standard false).endpoints "A.java" (tightText qualifiedSample) ≠ .ok [] := by
  have hcandidate : (standard true).isCandidate (tightText qualifiedSample) = false := by cbv
  refine ⟨?_, endpoints_of_not_candidate hcandidate, ?_⟩
  · have hsame : Annotation.simpleName = Annotation.simpleName ∘ Annotation.bare := by
      funext a
      rw [Function.comp_apply, Annotation.simpleName, Annotation.simpleName, Annotation.bare]
    rw [hsame, ← List.map_map, ← Declaration.annotationsOfAll_bare, Declaration.bareAll_eq_map,
      bare_readTypes, tightText, members_layout]
    cbv
  · have hdeclared : extractEndpoints "A.java" (qualifiedSample.map Outline.declared) ≠ [] := by
      rw [← List.isEmpty_eq_false_iff]
      decide +kernel
    have hfound : (standard false).primaryEndpoints "A.java" (tightText qualifiedSample) ≠ [] :=
      primaryEndpoints_layout_ne_nil false (.tight (Outline.lexemesOfAll qualifiedSample)) hdeclared
    rw [endpoints_of_primaryEndpoints hfound]
    intro hnone
    exact hfound (Except.ok.inj hnone)

end ReadingPlan

end EndpointIndex
