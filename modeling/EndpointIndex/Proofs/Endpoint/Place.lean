import EndpointIndex.Proofs.Source.Position
import EndpointIndex.Reader.Basic

/-!
# Where endpoints stand

Lines and columns count from one, and a later offset never has an earlier position, so every span that
a line table gives is in order (`LineTable.inOrder_span`). Both readers take all their spans from the
line table of the text (`gives_readTypes`, `gives_readTypes?`), and what they do not locate stands at
the default. So the endpoints of a text are well formed, whatever the text (`wellFormed_endpoints`).
-/

namespace EndpointIndex

/-! ## Spans in order -/

namespace Source

/-- Positions that count from one, and an end that is not before the start. -/
structure Span.InOrder (s : Span) : Prop where
  startLine : 1 ≤ s.startLine
  startColumn : 1 ≤ s.startColumn
  endLine : 1 ≤ s.endLine
  endColumn : 1 ≤ s.endColumn
  ordered : s.startLine < s.endLine ∨ s.startLine = s.endLine ∧ s.startColumn ≤ s.endColumn

namespace LineTable

theorem inOrder_span (text : List Char) (start stop : Int) :
    ((ofText text).span start stop).InOrder := by
  have hstart := one_le_line text start
  have hstop := one_le_line text (max start (stop - 1))
  have hcolumn := (ofText text).one_le_column start
  have hcolumn' := (ofText text).one_le_column (max start (stop - 1))
  have hmono := (ofText text).position_mono (Int.le_max_left start (stop - 1))
  unfold span
  refine ⟨?_, ?_, ?_, ?_, ?_⟩
  all_goals dsimp only
  all_goals omega

end LineTable

end Source

open Source

/-! ## Spans of declarations -/

/-- The spans of annotations that were located. -/
def annotationSpans (annotations : List Annotation) : List Span := annotations.filterMap Annotation.span

mutual

/-- Every span in a declaration: those of its annotations, its own, and those of its members. -/
def Declaration.spans : Declaration → List Span
  | .method _ annotations span => annotationSpans annotations ++ span.toList
  | .type _ _ annotations members span =>
    annotationSpans annotations ++ span.toList ++ spansOfAll members

def spansOfAll : List Declaration → List Span
  | [] => []
  | d :: ds => d.spans ++ spansOfAll ds

end

theorem mem_spansOfAll {span : Span} {ds : List Declaration} :
    span ∈ spansOfAll ds ↔ ∃ d ∈ ds, span ∈ d.spans := by
  induction ds with
  | nil => simp [spansOfAll]
  | cons d ds ih => simp [spansOfAll, ih]

theorem mem_spans_method {span : Span} {name : String} {annotations : List Annotation}
    {own : Option Span} :
    span ∈ (Declaration.method name annotations own).spans ↔
      span ∈ annotationSpans annotations ∨ own = some span := by
  rw [Declaration.spans, List.mem_append, Option.mem_toList]

theorem mem_spans_type {span : Span} {kind : TypeKind} {name : String} {annotations : List Annotation}
    {members : List Declaration} {own : Option Span} :
    span ∈ (Declaration.type kind name annotations members own).spans ↔
      span ∈ annotationSpans annotations ∨ own = some span ∨ span ∈ spansOfAll members := by
  rw [Declaration.spans, List.mem_append, List.mem_append, Option.mem_toList, or_assoc]

/-- The span comes from a line table. -/
def Source.LineTable.Gives (lines : LineTable) (span : Span) : Prop :=
  ∃ start stop, span = lines.span start stop

/-! ## The pattern reader -/

namespace Pattern

variable {lines : LineTable}

theorem gives_annotations (header : List Glyph) :
    ∀ p ∈ (annotations lines header).1, ∀ span, p.2.span = some span → lines.Gives span := by
  fun_induction annotations lines header with
  | case1 => simp
  | case2 g gs hmark found stripped hrest ih =>
    rw [hrest] at ih
    exact ih
  | case3 g gs m hmark covered found stripped hrest ih =>
    rw [hrest] at ih
    intro p hp
    rcases List.mem_cons.1 hp with rfl | hp
    · rintro span ⟨⟩
      exact ⟨_, _, rfl⟩
    · exact ih p hp

theorem gives_annotationsBefore {header : List Glyph} {offset : Nat} {span : Span}
    (h : span ∈ annotationSpans (annotationsBefore (annotations lines header).1 offset)) :
    lines.Gives span := by
  obtain ⟨a, ha, hspan⟩ := List.mem_filterMap.1 h
  obtain ⟨p, hp, rfl⟩ := List.mem_map.1 ha
  exact gives_annotations header p (List.mem_filter.1 hp).1 span hspan

/-- What a header says about places. -/
def Heading.Gives (lines : LineTable) : Heading → Prop
  | .type _ _ annotations span => (∀ s ∈ annotationSpans annotations, lines.Gives s) ∧ lines.Gives span
  | .method _ annotations span => (∀ s ∈ annotationSpans annotations, lines.Gives s) ∧ lines.Gives span
  | .other => True

theorem gives_heading (lines : LineTable) (header : List Glyph) : (heading lines header).Gives lines := by
  unfold heading
  dsimp only
  split
  · split
    · exact ⟨fun s hs => gives_annotationsBefore hs, _, _, rfl⟩
    · trivial
  · split
    · trivial
    · split
      · trivial
      · split
        · split
          · trivial
          · exact ⟨fun s hs => gives_annotationsBefore hs, _, _, rfl⟩
        · trivial

theorem Heading.Gives.method {name : String} {annotations : List Annotation} {own : Span}
    (h : (Heading.method name annotations own).Gives lines) :
    ∀ span ∈ (Declaration.method name annotations (some own)).spans, lines.Gives span := by
  intro span hspan
  rcases mem_spans_method.1 hspan with hspan | hspan
  · exact h.1 span hspan
  · cases hspan
    exact h.2

theorem Heading.Gives.type {kind : TypeKind} {name : String} {annotations : List Annotation} {own : Span}
    (h : (Heading.type kind name annotations own).Gives lines) {inside : List Declaration}
    (hinside : ∀ span ∈ spansOfAll inside, lines.Gives span) :
    ∀ span ∈ (Declaration.type kind name annotations inside (some own)).spans, lines.Gives span := by
  intro span hspan
  rcases mem_spans_type.1 hspan with hspan | hspan | hspan
  · exact h.1 span hspan
  · cases hspan
    exact h.2
  · exact hinside span hspan

theorem gives_members (header gs : List Glyph) :
    ∀ span ∈ spansOfAll (members lines header gs), lines.Gives span := by
  fun_induction members lines header gs with
  | case1 => simp [spansOfAll]
  | case2 header g gs hg e taken ih => exact ih
  | case3 header g gs _ hg e ih_inside ih_after =>
    intro span hspan
    obtain ⟨d, hd, hspan⟩ := mem_spansOfAll.1 hspan
    rcases List.mem_append.1 hd with hd | hd
    · have hgives := gives_heading lines (skipBlankGlyphs header.reverse)
      split at hd
      · cases hd
      · -- only the members of a class or an interface are kept
        split at hd
        · rename_i hheading
          rw [hheading] at hgives
          rw [List.mem_singleton.1 hd] at hspan
          exact hgives.type ih_inside span hspan
        · rename_i hheading
          rw [hheading] at hgives
          rw [List.mem_singleton.1 hd] at hspan
          exact hgives.method span hspan
        · cases hd
    · exact ih_after span (mem_spansOfAll.2 ⟨d, hd, hspan⟩)
  | case4 header g gs _ _ hg ih =>
    intro span hspan
    obtain ⟨d, hd, hspan⟩ := mem_spansOfAll.1 hspan
    rcases List.mem_append.1 hd with hd | hd
    · have hgives := gives_heading lines (skipBlankGlyphs header.reverse)
      split at hd
      · cases hd
      · split at hd
        · rename_i hheading
          rw [hheading] at hgives
          rw [List.mem_singleton.1 hd] at hspan
          exact hgives.method span hspan
        · cases hd
    · exact ih span (mem_spansOfAll.2 ⟨d, hd, hspan⟩)
  | case5 header g gs _ _ _ hg ih => exact ih
  | case6 header g gs _ _ _ _ ih => exact ih

theorem gives_readTypes (text : List Char) :
    ∀ span ∈ spansOfAll (readTypes text), (LineTable.ofText text).Gives span := by
  intro span hspan
  obtain ⟨d, hd, hspan⟩ := mem_spansOfAll.1 hspan
  exact gives_members [] (glyphs text) span (mem_spansOfAll.2 ⟨d, (List.mem_filter.1 hd).1, hspan⟩)

end Pattern

/-! ## The structural reader -/

namespace Source

theorem Cursor.exists_of_find? {α : Type} {matchAt : Cursor → Option α} {c : Cursor} {a : α}
    (h : c.find? matchAt = some a) : ∃ p, matchAt p = some a := by
  unfold Cursor.find? at h
  generalize c.before = before at h
  generalize c.rest = rest at h
  induction rest generalizing before with
  | nil => exact ⟨_, h⟩
  | cons g rest ih =>
    unfold Cursor.find?.go at h
    split at h
    · rename_i hmatch
      cases h
      exact ⟨_, hmatch⟩
    · exact ih _ h

/-- Whatever was found, its span comes from the line table. -/
def Found.Given (lines : LineTable) (found : Option Found) : Prop :=
  ∀ f, found = some f → lines.Gives f.span

theorem given_findType? (lines : LineTable) (keyword name : String) (c : Cursor) :
    Found.Given lines (findType? lines keyword name c) := by
  intro f hf
  obtain ⟨p, hp⟩ := Cursor.exists_of_find? hf
  obtain ⟨stop, -, rfl⟩ := Option.map_eq_some_iff.1 hp
  exact ⟨_, _, rfl⟩

theorem given_findMethod? (lines : LineTable) (name : String) (c : Cursor) :
    Found.Given lines (findMethod? lines name c) := by
  intro f hf
  obtain ⟨p, hp⟩ := Cursor.exists_of_find? hf
  obtain ⟨stop, -, rfl⟩ := Option.map_eq_some_iff.1 hp
  exact ⟨_, _, rfl⟩

theorem given_findAnnotation? (lines : LineTable) (simple : String) (c : Cursor) (limit : Option Nat) :
    Found.Given lines (findAnnotation? lines simple c limit) := by
  intro f hf
  obtain ⟨p, hp⟩ := Cursor.exists_of_find? hf
  obtain ⟨stop, -, rfl⟩ := Option.map_eq_some_iff.1 hp
  exact ⟨_, _, rfl⟩

end Source

namespace Structural

variable {lines : LineTable}

theorem gives_locateMarks (limit : Option Nat) (c : Cursor) (marks : List Java.Mark) :
    ∀ span ∈ annotationSpans (locateMarks lines limit c marks), lines.Gives span := by
  induction marks generalizing c with
  | nil => simp [locateMarks, annotationSpans]
  | cons m marks ih =>
    unfold locateMarks
    dsimp only
    split
    · rename_i found hfound
      intro span hspan
      rcases List.mem_cons.1 hspan with rfl | hspan
      · exact given_findAnnotation? _ _ _ _ found hfound
      · exact ih _ span hspan
    · exact ih c

theorem gives_locate {found : Option Found} (h : Found.Given lines found) (marks : List Java.Mark)
    (c : Cursor) :
    (∀ span ∈ annotationSpans (locate lines marks found c).1, lines.Gives span) ∧
      ∀ span, (locate lines marks found c).2.1 = some span → lines.Gives span := by
  cases found with
  | none =>
    refine ⟨gives_locateMarks none c marks, ?_⟩
    rintro span ⟨⟩
  | some f =>
    refine ⟨gives_locateMarks (some f.start) c marks, ?_⟩
    rintro span ⟨⟩
    exact h f rfl

mutual

theorem gives_declare (c : Cursor) (n : Java.Node) : ∀ span ∈ (declare lines c n).1.spans, lines.Gives span := by
  intro span hspan
  cases n with
  | method name line marks =>
    obtain ⟨hannotations, hown⟩ :=
      gives_locate (given_findMethod? lines name (c.moveTo (lines.lineStart line))) marks c
    unfold declare at hspan
    rcases mem_spans_method.1 hspan with hspan | hspan
    · exact hannotations span hspan
    · exact hown span hspan
  | type kind name line marks members =>
    obtain ⟨hannotations, hown⟩ :=
      gives_locate (given_findType? lines kind.keyword name (c.moveTo (lines.lineStart line)))
        marks c
    unfold declare at hspan
    rcases mem_spans_type.1 hspan with hspan | hspan | hspan
    · exact hannotations span hspan
    · exact hown span hspan
    · exact gives_declareAll _ members span hspan

theorem gives_declareAll (c : Cursor) (ns : List Java.Node) :
    ∀ span ∈ spansOfAll (declareAll lines c ns).1, lines.Gives span := by
  intro span hspan
  cases ns with
  | nil => cases hspan
  | cons n ns =>
    unfold declareAll at hspan
    rcases List.mem_append.1 hspan with hspan | hspan
    · exact gives_declare c n span hspan
    · exact gives_declareAll _ ns span hspan

end

theorem gives_readTypes? {text : List Char} {types : List Declaration} (h : readTypes? text = some types) :
    ∀ span ∈ spansOfAll types, (LineTable.ofText text).Gives span := by
  obtain ⟨nodes, -, rfl⟩ := Option.map_eq_some_iff.1 h
  exact gives_declareAll _ nodes

end Structural

/-! ## Endpoints -/

namespace Endpoint

def place (e : Endpoint) : Span := ⟨e.startLine, e.startColumn, e.endLine, e.endColumn⟩

/-- An endpoint as the index shows it under a file: its routes are put together from the two paths it
keeps, its verb has one of the nine names, and it stands somewhere. -/
structure WellFormed (file : String) (e : Endpoint) : Prop where
  file_eq : e.file = file
  fullPath : e.fullPath = Route.join [some e.typePath, some e.methodPath]
  rawPath : e.rawPath = Route.raw e.typePath e.methodPath
  verb : e.verb.name ∈ ["GET", "POST", "PUT", "PATCH", "DELETE", "OPTIONS", "HEAD", "TRACE", "ANY"]
  place : e.place.InOrder

end Endpoint

theorem Verb.name_mem (v : Verb) :
    v.name ∈ ["GET", "POST", "PUT", "PATCH", "DELETE", "OPTIONS", "HEAD", "TRACE", "ANY"] := by
  cases v <;> decide

theorem inOrder_defaultSpan : defaultSpan.InOrder := by
  refine ⟨?_, ?_, ?_, ?_, ?_⟩ <;> decide

/-- A method stands where its mapping does, or where it does itself, or at the default. -/
theorem wellFormed_methodEndpoints (file : String) (scope : Scope) {name : String}
    {annotations : List Annotation} {own : Option Span}
    (h : ∀ span ∈ (Declaration.method name annotations own).spans, span.InOrder) :
    ∀ e ∈ methodEndpoints file scope name annotations own, e.WellFormed file := by
  intro e he
  unfold methodEndpoints at he
  split at he
  · split at he
    · cases he
    · rename_i mapping hmapping
      obtain ⟨path, -, rfl⟩ := List.mem_map.1 he
      refine ⟨rfl, rfl, rfl, Verb.name_mem _, ?_⟩
      show ((mapping.span.or own).getD defaultSpan).InOrder
      -- the place is that of the mapping, else that of the method, else the default one
      cases hplace : mapping.span.or own with
      | none => exact inOrder_defaultSpan
      | some span =>
        apply h span
        rcases Option.or_eq_some_iff.1 hplace with hspan | ⟨-, hspan⟩
        · have hmem := List.mem_reverse.1 (List.mem_of_find?_eq_some hmapping)
          exact mem_spans_method.2 (.inl (List.mem_filterMap.2 ⟨mapping, hmem, hspan⟩))
        · exact mem_spans_method.2 (.inr hspan)
  · cases he

mutual

theorem wellFormed_endpointsIn (file : String) (scope : Scope) (d : Declaration)
    (h : ∀ span ∈ d.spans, span.InOrder) : ∀ e ∈ d.endpointsIn file scope, e.WellFormed file := by
  cases d with
  | method name annotations own =>
    unfold Declaration.endpointsIn
    exact wellFormed_methodEndpoints file scope h
  | type kind name annotations members own =>
    unfold Declaration.endpointsIn
    exact wellFormed_memberEndpoints file _ members fun span hspan =>
      h span (mem_spans_type.2 (.inr (.inr hspan)))

theorem wellFormed_memberEndpoints (file : String) (scope : Scope) (ds : List Declaration)
    (h : ∀ span ∈ spansOfAll ds, span.InOrder) : ∀ e ∈ memberEndpoints file scope ds, e.WellFormed file := by
  intro e he
  cases ds with
  | nil => cases he
  | cons d ds =>
    unfold memberEndpoints at he
    unfold spansOfAll at h
    rcases List.mem_append.1 he with he | he
    · exact wellFormed_endpointsIn file scope d (fun span hspan => h span (List.mem_append_left _ hspan)) e he
    · exact wellFormed_memberEndpoints file scope ds
        (fun span hspan => h span (List.mem_append_right _ hspan)) e he

end

theorem wellFormed_extractEndpoints (file : String) {text : List Char} {types : List Declaration}
    (h : ∀ span ∈ spansOfAll types, (LineTable.ofText text).Gives span) :
    ∀ e ∈ extractEndpoints file types, e.WellFormed file := by
  apply wellFormed_memberEndpoints
  intro span hspan
  obtain ⟨start, stop, rfl⟩ := h span hspan
  exact LineTable.inOrder_span text start stop

/-- Whatever the text, and whichever reader has found them. -/
theorem ReadingPlan.wellFormed_endpoints {prefilter : Bool} {file : String} {text : List Char}
    {found : List Endpoint} (h : (standard prefilter).endpoints file text = .ok found) :
    ∀ e ∈ found, e.WellFormed file := by
  unfold endpoints at h
  split at h
  · split at h
    · -- the second reader is asked
      unfold fallbackEndpoints at h
      simp only [standard, Reader.structural] at h
      cases htypes : Structural.readTypes? text with
      | none =>
        rw [htypes] at h
        cases h
        simp
      | some types =>
        rw [htypes] at h
        cases h
        exact wellFormed_extractEndpoints file (Structural.gives_readTypes? htypes)
    · cases h
      exact wellFormed_extractEndpoints file (Pattern.gives_readTypes text)
  · cases h
    simp

end EndpointIndex
