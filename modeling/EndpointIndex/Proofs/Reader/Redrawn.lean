import EndpointIndex.Proofs.Offset.Members
import EndpointIndex.Proofs.Reader.Stretches

/-!
# The same code elsewhere

Structure is read from the masked characters, and from offsets only by their order. So a stretch whose
glyphs stand at other places, in the same order, and were written with other characters, declares the
same, as far as one looks neither at what depends on the places nor at what depends on those characters
(`members_redrawn`). Of values, one need only overlook those that stand where a value may start
(`members_redrawn_within`).
-/

namespace EndpointIndex

open Source

/-- A move of glyphs to other places, in the same order, where they are written with other characters. -/
structure Redrawing where
  place : Nat → Nat
  raw : Nat → Char → Char
  place_lt : ∀ {i j : Nat}, place i < place j ↔ i < j

namespace Redrawing

def glyph (r : Redrawing) (g : Glyph) : Glyph := ⟨r.place g.offset, r.raw g.offset g.raw, g.code⟩

@[simp] theorem code_glyph (r : Redrawing) (g : Glyph) : (r.glyph g).code = g.code := rfl

/-- A move by `k` places. -/
def shift (k : Nat) : Redrawing := ⟨(k + ·), fun _ c => c, Nat.add_lt_add_iff_left⟩

end Redrawing

/-! ## What one sees -/

/-- What one sees of values and of spans. -/
structure View where
  value : Value → Value
  span : Span → Span

namespace View

variable (view : View)

def arguments (found : Option Value × List (String × Value)) : Option Value × List (String × Value) :=
  (found.1.map view.value, found.2.map fun p => (p.1, view.value p.2))

def annotation (a : Annotation) : Annotation :=
  let (positional, named) := view.arguments (a.positional, a.named)
  ⟨a.name, positional, named, a.span.map view.span⟩

mutual

def declaration : Declaration → Declaration
  | .method name annotations span => .method name (annotations.map view.annotation) (span.map view.span)
  | .type kind name annotations members span =>
    .type kind name (annotations.map view.annotation) (declarations members) (span.map view.span)

def declarations : List Declaration → List Declaration
  | [] => []
  | d :: ds => declaration d :: declarations ds

end

theorem declarations_eq_map (ds : List Declaration) : view.declarations ds = ds.map view.declaration := by
  induction ds with
  | nil => rfl
  | cons d ds ih => rw [declarations, ih, List.map_cons]

theorem declarations_append (ds es : List Declaration) :
    view.declarations (ds ++ es) = view.declarations ds ++ view.declarations es := by
  rw [declarations_eq_map, declarations_eq_map, declarations_eq_map, List.map_append]

def heading : Pattern.Heading → Pattern.Heading
  | .type kind name annotations span => .type kind name (annotations.map view.annotation) (view.span span)
  | .method name annotations span => .method name (annotations.map view.annotation) (view.span span)
  | .other => .other

/-- One sees the same before and after a move, where lines may be counted otherwise. -/
structure Misses (r : Redrawing) (lines lines' : LineTable) : Prop where
  value_eq : ∀ gs, view.value (Pattern.value (gs.map r.glyph)) = view.value (Pattern.value gs)
  span_eq : ∀ first covered, view.span (Pattern.spanOf lines' (r.glyph first) (covered.map r.glyph)) =
    view.span (Pattern.spanOf lines first covered)

/-- One sees the same before and after a move of a source, where values may start in it. -/
structure MissesWithin (r : Redrawing) (lines lines' : LineTable) (src : List Glyph) : Prop where
  value_eq : ∀ gs, Pattern.Follows src gs →
    view.value (Pattern.value (gs.map r.glyph)) = view.value (Pattern.value gs)
  span_eq : ∀ first covered, view.span (Pattern.spanOf lines' (r.glyph first) (covered.map r.glyph)) =
    view.span (Pattern.spanOf lines first covered)

theorem Misses.within {view : View} {r : Redrawing} {lines lines' : LineTable} (h : view.Misses r lines lines')
    (src : List Glyph) : view.MissesWithin r lines lines' src :=
  ⟨fun gs _ => h.value_eq gs, h.span_eq⟩

end View

namespace Pattern

open Redrawing (code_glyph)

variable (r : Redrawing)

/-! ## Names -/

theorem codes_map (gs : List Glyph) : codes (gs.map r.glyph) = codes gs := by
  rw [codes, List.map_map]
  rfl

theorem dropWhile_map (p : Char → Bool) (gs : List Glyph) :
    (gs.map r.glyph).dropWhile (fun g => p g.code) = (gs.dropWhile fun g => p g.code).map r.glyph := by
  rw [List.dropWhile_map]
  rfl

theorem takeWhile_map (p : Char → Bool) (gs : List Glyph) :
    (gs.map r.glyph).takeWhile (fun g => p g.code) = (gs.takeWhile fun g => p g.code).map r.glyph := by
  rw [List.takeWhile_map]
  rfl

theorem skipBlankGlyphs_map (gs : List Glyph) :
    skipBlankGlyphs (gs.map r.glyph) = (skipBlankGlyphs gs).map r.glyph :=
  dropWhile_map r Text.isBlank gs

theorem textOf_map (gs : List Glyph) : textOf (gs.map r.glyph) = textOf gs := by
  rw [textOf, textOf, codes_map]

theorem name?_map (gs : List Glyph) :
    name? (gs.map r.glyph) = (name? gs).map fun p => (p.1.map r.glyph, p.2.map r.glyph) := by
  cases gs with
  | nil => rfl
  | cons g gs =>
    rw [List.map_cons, name?, name?, code_glyph, takeWhile_map, dropWhile_map]
    split <;> rfl

theorem dotName?_map (gs : List Glyph) :
    dotName? (gs.map r.glyph) = (dotName? gs).map fun p => (p.1.map r.glyph, p.2.map r.glyph) := by
  rw [dotName?, dotName?, skipBlankGlyphs_map]
  cases skipBlankGlyphs gs with
  | nil => rfl
  | cons g t =>
    rw [List.map_cons]
    dsimp only
    rw [code_glyph, skipBlankGlyphs_map, name?_map]
    split <;> rfl

theorem moreNames_map (gs : List Glyph) :
    moreNames (gs.map r.glyph) =
      ((moreNames gs).1.map (List.map r.glyph), (moreNames gs).2.map r.glyph) := by
  induction hn : gs.length using Nat.strong_induction_on generalizing gs with
  | _ n ih =>
    have hmap := dotName?_map r gs
    cases h : dotName? gs with
    | none =>
      rw [h] at hmap
      rw [moreNames_of_none h, moreNames_of_none hmap]
      rfl
    | some p =>
      rw [h] at hmap
      rw [moreNames_some h, moreNames_some hmap, ih _ (hn ▸ dotName?_rest_lt h) p.2 rfl]
      rfl

theorem dottedName?_map (gs : List Glyph) :
    dottedName? (gs.map r.glyph) =
      (dottedName? gs).map fun p => (p.1.map (List.map r.glyph), p.2.map r.glyph) := by
  rw [dottedName?, dottedName?, name?_map]
  cases name? gs with
  | none => rfl
  | some p =>
    dsimp only [Option.map_some]
    rw [moreNames_map]
    rfl

theorem map_textOf_map (parts : List (List Glyph)) :
    (parts.map (List.map r.glyph)).map textOf = parts.map textOf := by
  rw [List.map_map]
  apply List.map_congr_left
  intro part _
  exact textOf_map r part

theorem dottedText_map (parts : List (List Glyph)) :
    dottedText (parts.map (List.map r.glyph)) = dottedText parts := by
  rw [dottedText, dottedText, map_textOf_map]

/-! ## Values -/

theorem isBlankStretch_map (gs : List Glyph) : isBlankStretch (gs.map r.glyph) = isBlankStretch gs := by
  rw [isBlankStretch, List.all_map]
  rfl

theorem splitTopLevel_map (depth : Int) (gs : List Glyph) :
    splitTopLevel depth (gs.map r.glyph) = (splitTopLevel depth gs).map (List.map r.glyph) := by
  induction gs generalizing depth with
  | nil => rfl
  | cons g gs ih =>
    rw [List.map_cons, splitTopLevel, splitTopLevel, code_glyph]
    split
    · rw [ih]
      rfl
    · dsimp only
      rw [ih]
      cases splitTopLevel _ gs <;> rfl

theorem trimGlyphs_map (gs : List Glyph) : trimGlyphs (gs.map r.glyph) = (trimGlyphs gs).map r.glyph := by
  rw [trimGlyphs, trimGlyphs, skipBlankGlyphs_map, ← List.map_reverse, dropWhile_map, List.map_reverse]

theorem braced?_map (gs : List Glyph) : braced? (gs.map r.glyph) = (braced? gs).map (List.map r.glyph) := by
  cases gs with
  | nil => rfl
  | cons g t =>
    have hcodes := codes_map r (g :: t)
    rw [List.map_cons] at hcodes ⊢
    rw [braced?, braced?, hcodes, code_glyph, List.length_map, ← List.map_dropLast]
    split <;> rfl

theorem wholeName?_map (gs : List Glyph) : wholeName? (gs.map r.glyph) = wholeName? gs := by
  rw [wholeName?, wholeName?, dottedName?_map]
  cases dottedName? gs with
  | none => rfl
  | some p =>
    obtain ⟨parts, rest⟩ := p
    cases rest with
    | nil => exact congrArg some (map_textOf_map r parts)
    | cons g rest => rfl

theorem enclose_map (o c : Char) (gs : List Glyph) :
    enclose o c (gs.map r.glyph) =
      ⟨(enclose o c gs).inside.map r.glyph, (enclose o c gs).close.map r.glyph,
        (enclose o c gs).after.map r.glyph⟩ := by
  rw [enclose, enclose, codes_map]
  cases closeOffset o c 0 (codes gs) with
  | none => simp
  | some k => simp

theorem namedArgument?_map (gs : List Glyph) :
    namedArgument? (gs.map r.glyph) = (namedArgument? gs).map fun p => (p.1, p.2.map r.glyph) := by
  rw [namedArgument?, namedArgument?, skipBlankGlyphs_map, name?_map]
  cases name? (skipBlankGlyphs gs) with
  | none => rfl
  | some p =>
    dsimp only [Option.map_some]
    rw [skipBlankGlyphs_map]
    cases skipBlankGlyphs p.2 with
    | nil => rfl
    | cons e t =>
      have hhead : (t.map r.glyph).head?.any (fun g => g.code = '=') = t.head?.any fun g => g.code = '=' := by
        cases t <;> rfl
      rw [List.map_cons]
      dsimp only
      rw [code_glyph, hhead, textOf_map]
      split <;> rfl

/-! ## Annotations -/

theorem argumentList_map (gs : List Glyph) :
    argumentList (gs.map r.glyph) =
      ((argumentList gs).1.map (List.map r.glyph), (argumentList gs).2.map r.glyph) := by
  rw [argumentList, argumentList, skipBlankGlyphs_map]
  cases skipBlankGlyphs gs with
  | nil => rfl
  | cons g t =>
    have henclose := enclose_map r '(' ')' (g :: t)
    rw [List.map_cons] at henclose ⊢
    dsimp only
    rw [code_glyph, henclose]
    split <;> rfl

theorem mark?_map (gs : List Glyph) :
    mark? (gs.map r.glyph) =
      (mark? gs).map fun m => ⟨m.name, m.args.map (List.map r.glyph), m.after.map r.glyph⟩ := by
  cases gs with
  | nil => rfl
  | cons g gs =>
    rw [List.map_cons, mark?, mark?, code_glyph, skipBlankGlyphs_map, dottedName?_map]
    split
    · cases dottedName? (skipBlankGlyphs gs) with
      | none => rfl
      | some p =>
        dsimp only [Option.map_some]
        rw [dottedText_map, argumentList_map]
        split <;> rfl
    · rfl

theorem blanked_map (gs : List Glyph) : blanked (gs.map r.glyph) = (blanked gs).map r.glyph := by
  rw [blanked, blanked, List.map_map, List.map_map]
  rfl

section

variable {r} {view : View} {lines lines' : LineTable} {src : List Glyph}

theorem arguments_redrawn (h : view.MissesWithin r lines lines' src) {gs : List Glyph} (hgs : Follows src gs) :
    view.arguments (arguments (gs.map r.glyph)) = view.arguments (arguments gs) := by
  rw [arguments, arguments, splitTopLevel_map, List.foldl_map]
  refine List.foldl_rel (r := fun x y => view.arguments x = view.arguments y) rfl ?_
  rintro s hs ⟨positional', named'⟩ ⟨positional, named⟩ hxy
  have hs := hgs.mem_splitTopLevel hs
  obtain ⟨hpositional, hnamed⟩ := Prod.mk.inj hxy
  dsimp only at hpositional hnamed ⊢
  rw [isBlankStretch_map, namedArgument?_map]
  by_cases hblank : isBlankStretch s = true
  · rw [if_pos hblank, if_pos hblank]
    exact hxy
  · rw [if_neg hblank, if_neg hblank]
    cases hnamedArg : namedArgument? s with
    | none =>
      dsimp only [View.arguments, Option.map_none]
      rw [Option.map_or, Option.map_or, hpositional, hnamed, Option.map_some, Option.map_some, h.value_eq s hs]
    | some p =>
      have hvalue := h.value_eq p.2 ((namedArgument?_follows hnamedArg).mono hs.isInfix)
      dsimp only [View.arguments, Option.map_some]
      rw [List.map_append, List.map_append, hpositional, hnamed, List.map_singleton, List.map_singleton, hvalue]

theorem annotationOf_redrawn (h : view.MissesWithin r lines lines' src) (first : Glyph) (covered : List Glyph)
    {m : Mark} (hm : ∀ args, m.args = some args → Follows src args) :
    view.annotation (annotationOf lines' (r.glyph first) (covered.map r.glyph)
        ⟨m.name, m.args.map (List.map r.glyph), m.after.map r.glyph⟩) =
      view.annotation (annotationOf lines first covered m) := by
  obtain ⟨name, args, after⟩ := m
  have hspan := congrArg some (h.span_eq first covered)
  cases args with
  | none => simp only [annotationOf, View.annotation, Option.map_none, Option.map_some, hspan]
  | some args =>
    have hargs := arguments_redrawn h (hm args rfl)
    simp only [annotationOf, View.annotation, Option.map_some, hspan, hargs]

theorem annotations_redrawn (h : view.MissesWithin r lines lines' src) {gs : List Glyph} (hgs : gs <:+: src) :
    (annotations lines' (gs.map r.glyph)).1.map (fun p => (p.1, view.annotation p.2)) =
        (annotations lines gs).1.map (fun p => (r.place p.1, view.annotation p.2)) ∧
      (annotations lines' (gs.map r.glyph)).2 = (annotations lines gs).2.map r.glyph := by
  induction hn : gs.length using Nat.strong_induction_on generalizing gs with
  | _ n ih =>
    cases gs with
    | nil =>
      rw [List.map_nil, annotations, annotations]
      exact ⟨rfl, rfl⟩
    | cons g gs =>
      have hmap := mark?_map r (g :: gs)
      cases hmark : mark? (g :: gs) with
      | none =>
        rw [hmark] at hmap
        obtain ⟨hfound, hstripped⟩ :=
          ih _ (hn ▸ Nat.lt_succ_self _) ((List.suffix_cons g gs).isInfix.trans hgs) rfl
        rw [List.map_cons] at hmap ⊢
        rw [ByOffset.annotations_of_no_mark hmark, ByOffset.annotations_of_no_mark hmap]
        exact ⟨hfound, congrArg _ hstripped⟩
      | some m =>
        rw [hmark] at hmap
        obtain ⟨t, ht⟩ := (mark?_suffix hmark).2
        obtain ⟨hfound, hstripped⟩ := ih _ (hn ▸ mark?_after_lt hmark)
          (((mark?_suffix hmark).2.trans (List.suffix_cons g gs)).isInfix.trans hgs) rfl
        have hused : g :: gs = (g :: t) ++ m.after := congrArg (g :: ·) ht.symm
        have hused' : r.glyph g :: gs.map r.glyph = (g :: t).map r.glyph ++ m.after.map r.glyph := by
          rw [← List.map_append, ← hused, List.map_cons]
        rw [List.map_cons] at hmap ⊢
        rw [annotations_of_mark lines hmark hused, annotations_of_mark lines' hmap hused']
        have hcovered := annotationOf_redrawn h g (g :: t) fun args hargs => (mark?_follows hmark hargs).mono hgs
        dsimp only [Option.map_some] at hcovered ⊢
        constructor
        · rw [List.map_cons, List.map_cons, hfound]
          exact congrArg (fun a => (r.place g.offset, a) :: _) hcovered
        · rw [hstripped, blanked_map, List.map_append]

/-! ## Headers -/

variable (r) in
theorem keywordHead?_map (gs : List Glyph) (keyword : String) :
    keywordHead? (gs.map r.glyph) keyword =
      (keywordHead? gs keyword).map fun p => (p.1, p.2.map r.glyph) := by
  rw [keywordHead?, keywordHead?, ← List.map_take, codes_map, ← List.map_drop]
  split
  · cases gs.drop keyword.length with
    | nil => rfl
    | cons b t =>
      have hskip := skipBlankGlyphs_map r (b :: t)
      rw [List.map_cons] at hskip ⊢
      dsimp only
      rw [code_glyph, hskip, name?_map]
      split
      · cases name? (skipBlankGlyphs (b :: t)) <;> rfl
      · rfl
  · rfl

variable (r) in
theorem findType?_map (before : Option Char) (gs : List Glyph) :
    findType? before (gs.map r.glyph) =
      (findType? before gs).map fun p => (r.glyph p.1, p.2.1, p.2.2.map r.glyph) := by
  have hhead (gs : List Glyph) : typeHead? (gs.map r.glyph) =
      (typeHead? gs).map fun p => (p.1, p.2.map r.glyph) := by
    rw [typeHead?_eq, typeHead?_eq, List.map_findSome?]
    congr 1
    funext keyword
    exact keywordHead?_map r gs keyword
  induction gs generalizing before with
  | nil => rfl
  | cons g gs ih =>
    have hhead := hhead (g :: gs)
    rw [List.map_cons] at hhead ⊢
    rw [findType?, findType?, hhead, code_glyph, ih]
    split
    · rename_i hfound
      split at hfound
      · obtain ⟨p, hp, hpair⟩ := Option.map_eq_some_iff.1 hfound
        cases hpair
        rw [if_pos ‹_›, hp]
        rfl
      · cases hfound
    · rename_i hfound
      split at hfound
      · rw [if_pos ‹_›, Option.map_eq_none_iff.1 hfound]
      · rw [if_neg ‹_›]

variable (r) in
theorem trailingName?_map (gs : List Glyph) :
    trailingName? (gs.map r.glyph) = (trailingName? gs).map (List.map r.glyph) := by
  have hstart (gs : List Glyph) : (gs.map r.glyph).dropWhile (fun g => !Text.isNameStart g.code) =
      (gs.dropWhile fun g => !Text.isNameStart g.code).map r.glyph :=
    dropWhile_map r (fun c => !Text.isNameStart c) gs
  rw [trailingName?, trailingName?, ← List.map_reverse, dropWhile_map, takeWhile_map, ← List.map_reverse, hstart]
  cases List.dropWhile (fun g : Glyph => !Text.isNameStart g.code) _ <;> rfl

theorem annotationsBefore_redrawn (h : view.MissesWithin r lines lines' src) {gs : List Glyph} (hgs : gs <:+: src)
    (offset : Nat) :
    (annotationsBefore (annotations lines' (gs.map r.glyph)).1 (r.place offset)).map view.annotation =
      (annotationsBefore (annotations lines gs).1 offset).map view.annotation := by
  have hfound := congrArg (fun l => (l.filter fun p => p.1 < r.place offset).map Prod.snd)
    (annotations_redrawn h hgs).1
  simpa [annotationsBefore, List.filter_map, List.map_map, Function.comp_def, r.place_lt] using hfound

theorem methodSpan_redrawn (h : view.MissesWithin r lines lines' src) (header : List Glyph) (first paren : Glyph) :
    view.span (methodSpan lines' (header.map r.glyph) (r.glyph first) (r.glyph paren)) =
      view.span (methodSpan lines header first paren) := by
  have hfrom : (header.map r.glyph).dropWhile (fun g => g.offset < (r.glyph paren).offset) =
      (header.dropWhile fun g => g.offset < paren.offset).map r.glyph := by
    rw [List.dropWhile_map]
    simp only [Function.comp_def, Redrawing.glyph, r.place_lt]
  have hlast (last : Option Glyph) : (last.map r.glyph).toList = last.toList.map r.glyph := by
    cases last <;> rfl
  rw [methodSpan, methodSpan, hfrom, codes_map]
  cases closeOffset '(' ')' 0 (codes (header.dropWhile fun g => g.offset < paren.offset)) with
  | none =>
    dsimp only
    rw [List.getLast?_map, hlast, h.span_eq]
  | some k =>
    dsimp only
    rw [List.getElem?_map, hlast, h.span_eq]

theorem heading_redrawn (h : view.MissesWithin r lines lines' src) {gs : List Glyph} (hgs : gs <:+: src) :
    view.heading (heading lines' (gs.map r.glyph)) = view.heading (heading lines gs) := by
  have hbefore := annotationsBefore_redrawn h hgs
  have hstripped := (annotations_redrawn h hgs).2
  rw [heading, heading]
  -- of the annotations only these two facts are needed
  generalize annotations lines' (gs.map r.glyph) = found' at *
  generalize annotations lines gs = found at *
  obtain ⟨located', stripped'⟩ := found'
  obtain ⟨located, stripped⟩ := found
  dsimp only at hbefore hstripped ⊢
  subst hstripped
  have hinside := takeWhile_map r (fun c => c ≠ '(') stripped
  have hafter := dropWhile_map r (fun c => c ≠ '(') stripped
  have hany (gs : List Glyph) : (gs.map r.glyph).any (fun g => g.code = '=') = gs.any fun g => g.code = '=' := by
    rw [List.any_map]
    rfl
  rw [hinside, hafter, findType?_map]
  cases findType? none (stripped.takeWhile fun g => g.code ≠ '(') with
  | some p =>
    obtain ⟨first, keyword, n⟩ := p
    dsimp only [Option.map_some]
    cases typeKind? keyword with
    | none => rfl
    | some kind =>
      dsimp only [View.heading]
      rw [textOf_map, h.span_eq]
      exact congrArg (Heading.type kind _ · _) (hbefore first.offset)
  | none =>
    dsimp only [Option.map_none]
    cases stripped.dropWhile fun g => g.code ≠ '(' with
    | nil => rfl
    | cons paren rest =>
      rw [List.map_cons]
      dsimp only
      rw [hany, trailingName?_map]
      split
      · rfl
      · cases trailingName? (stripped.takeWhile fun g => g.code ≠ '(') with
        | none => rfl
        | some name =>
          cases name with
          | nil => rfl
          | cons first n =>
            have htext := textOf_map r (first :: n)
            rw [List.map_cons] at htext
            rw [Option.map_some, List.map_cons]
            dsimp only
            rw [htext]
            split
            · rfl
            · dsimp only [View.heading]
              rw [methodSpan_redrawn h]
              exact congrArg (Heading.method _ · _) (hbefore first.offset)

/-! ## Members -/

theorem declarations_openedBy (view : View) (inside : List Declaration) (heading : Heading) :
    view.declarations (ByOffset.openedBy inside heading) =
      ByOffset.openedBy (view.declarations inside) (view.heading heading) := by
  cases heading with
  | type kind name annotations span =>
    rw [ByOffset.openedBy, View.declarations, View.declaration, View.declarations]
    rfl
  | method name annotations span =>
    rw [ByOffset.openedBy, View.declarations, View.declaration, View.declarations]
    rfl
  | other => rfl

theorem declarations_endedBy (view : View) (heading : Heading) :
    view.declarations (ByOffset.endedBy heading) = ByOffset.endedBy (view.heading heading) := by
  cases heading with
  | method name annotations span =>
    rw [ByOffset.endedBy, View.declarations, View.declaration, View.declarations]
    rfl
  | _ => rfl

theorem declaredBy_redrawn (h : view.MissesWithin r lines lines' src) {gs : List Glyph} (hgs : gs <:+: src) :
    view.heading (ByOffset.declaredBy lines' (gs.map r.glyph)) = view.heading (ByOffset.declaredBy lines gs) := by
  rw [ByOffset.declaredBy, ByOffset.declaredBy, skipBlankGlyphs_map]
  have hskip := (skipBlankGlyphs_suffix gs).isInfix.trans hgs
  cases hrest : skipBlankGlyphs gs with
  | nil => rfl
  | cons g t => exact heading_redrawn h (hrest ▸ hskip)

section

variable {g : Glyph} {t header : List Glyph} (h : view.MissesWithin r lines lines' src)
  (hsrc : header.reverse ++ g :: t <:+: src)
  (rest : ∀ header' t' : List Glyph, t'.length < (g :: t).length → header'.reverse ++ t' <:+: src →
    view.declarations (members lines' (header'.map r.glyph) (t'.map r.glyph)) =
      view.declarations (members lines header' t'))

include hsrc rest

theorem members_paren_redrawn (hg : g.code = '(') :
    view.declarations (members lines' (header.map r.glyph) ((g :: t).map r.glyph)) =
      view.declarations (members lines header (g :: t)) := by
  have hg' : (r.glyph g).code = '(' := hg
  have henclose := enclose_map r '(' ')' (g :: t)
  have hrest := rest (((g :: t).take ((g :: t).length - (enclose '(' ')' (g :: t)).after.length)).reverse ++ header)
    _ (enclose_after_lt '(' ')' g t) (by
      rw [List.reverse_append, List.reverse_reverse, List.append_assoc, take_enclose]
      exact hsrc)
  rw [List.map_append, List.map_reverse, List.map_take] at hrest
  rw [List.map_cons] at henclose hrest ⊢
  rw [ByOffset.members_paren hg', ByOffset.members_paren hg, henclose]
  dsimp only
  rw [List.length_map, List.length_cons, List.length_map]
  exact hrest

include h

theorem members_brace_redrawn (hg : g.code = '{') :
    view.declarations (members lines' (header.map r.glyph) ((g :: t).map r.glyph)) =
      view.declarations (members lines header (g :: t)) := by
  have hg' : (r.glyph g).code = '{' := hg
  have hgs : g :: t <:+: src := (List.suffix_append _ _).isInfix.trans hsrc
  have henclose := enclose_map r '{' '}' (g :: t)
  have hheader := declaredBy_redrawn h ((List.prefix_append header.reverse _).isInfix.trans hsrc)
  have inside := rest [] _ (enclose_inside_lt '{' '}' g t)
    ((isPrefix_inside '{' '}' g t).isInfix.trans ((List.suffix_cons g t).isInfix.trans hgs))
  have after := rest [] _ (enclose_after_lt '{' '}' g t)
    ((enclose_after_suffix '{' '}' (g :: t)).isInfix.trans hgs)
  rw [List.map_reverse] at hheader
  rw [List.map_nil] at inside after
  rw [List.map_cons] at henclose ⊢
  rw [ByOffset.members_brace hg', ByOffset.members_brace hg, henclose, View.declarations_append,
    View.declarations_append, declarations_openedBy, declarations_openedBy, hheader, inside, after]

theorem members_semicolon_redrawn (hg : g.code = ';') :
    view.declarations (members lines' (header.map r.glyph) ((g :: t).map r.glyph)) =
      view.declarations (members lines header (g :: t)) := by
  have hg' : (r.glyph g).code = ';' := hg
  have hgs : g :: t <:+: src := (List.suffix_append _ _).isInfix.trans hsrc
  have hheader := declaredBy_redrawn h ((List.prefix_append header.reverse _).isInfix.trans hsrc)
  have after := rest [] t (Nat.lt_succ_self _) ((List.suffix_cons g t).isInfix.trans hgs)
  rw [List.map_reverse] at hheader
  rw [List.map_nil] at after
  rw [List.map_cons, ByOffset.members_semicolon hg', ByOffset.members_semicolon hg, View.declarations_append,
    View.declarations_append, declarations_endedBy, declarations_endedBy, hheader, after]

end

/-- Whoever misses a move of a source sees the same declarations after it. -/
theorem members_redrawn_within (h : view.MissesWithin r lines lines' src) {header gs : List Glyph}
    (hsrc : header.reverse ++ gs <:+: src) :
    view.declarations (members lines' (header.map r.glyph) (gs.map r.glyph)) =
      view.declarations (members lines header gs) := by
  induction hn : gs.length using Nat.strong_induction_on generalizing header gs with
  | _ n ih =>
    subst hn
    cases gs with
    | nil => rw [List.map_nil, members, members]
    | cons g t =>
      have rest (header' t' : List Glyph) (hlt : t'.length < (g :: t).length)
        (hsrc' : header'.reverse ++ t' <:+: src) := ih _ hlt hsrc' rfl
      by_cases hparen : g.code = '('
      · exact members_paren_redrawn hsrc rest hparen
      · by_cases hbrace : g.code = '{'
        · exact members_brace_redrawn h hsrc rest hbrace
        · by_cases hsemicolon : g.code = ';'
          · exact members_semicolon_redrawn h hsrc rest hsemicolon
          · have hlt := Nat.lt_succ_self t.length
            rw [List.map_cons, members, members, code_glyph, if_neg hparen, if_neg hparen, if_neg hbrace,
              if_neg hbrace, if_neg hsemicolon, if_neg hsemicolon]
            split
            · exact rest [] t hlt
                ((List.suffix_cons g t).isInfix.trans ((List.suffix_append _ _).isInfix.trans hsrc))
            · refine rest (g :: header) t hlt ?_
              rw [List.reverse_cons, List.append_assoc]
              exact hsrc

/-- Whoever misses a move sees the same declarations after it. -/
theorem members_redrawn (h : view.Misses r lines lines') (header gs : List Glyph) :
    view.declarations (members lines' (header.map r.glyph) (gs.map r.glyph)) =
      view.declarations (members lines header gs) :=
  members_redrawn_within (h.within _) List.infix_rfl

end

end Pattern

end EndpointIndex
