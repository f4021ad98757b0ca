import EndpointIndex.Proofs.Offset.Masking
import EndpointIndex.Proofs.Offset.Values

/-!
# The pattern reader by offset

The walk through a source for which a stretch is two offsets, a header is a copy that is blanked in
place, and every bracket is closed by a search below a limit. Main fact: it reads the same types as the
pattern reader and never steps outside the text (`readTypes_eq`).
-/

namespace EndpointIndex.ByOffset

open Source Pattern

/-! ## Annotations -/

/-- The name of the annotation that an `@` starts, and what follows the name. -/
def markName? : List Glyph → Option (String × List Glyph)
  | [] => none
  | g :: gs =>
    if g.code = '@' then
      match dottedName? (skipBlankGlyphs gs) with
      | none => none
      | some (parts, rest) =>
        if dottedText parts = "interface" then none else some (dottedText parts, rest)
    else none

theorem mark?_eq (gs : List Glyph) :
    mark? gs = (markName? gs).map fun p => ⟨p.1, (argumentList p.2).1, (argumentList p.2).2⟩ := by
  cases gs with
  | nil => rfl
  | cons g gs =>
    rw [mark?, markName?]
    split
    · cases dottedName? (skipBlankGlyphs gs) with
      | none => rfl
      | some named =>
        dsimp only
        split <;> rfl
    · rfl

theorem markName?_suffix {g : Glyph} {gs rest : List Glyph} {name : String}
    (h : markName? (g :: gs) = some (name, rest)) : rest <:+ gs := by
  rw [markName?] at h
  split at h
  · split at h
    · cases h
    · rename_i parts rest' hname
      split at h
      · cases h
      · cases h
        exact (dottedName?_suffix hname).trans (skipBlankGlyphs_suffix gs)
  · cases h

theorem markName?_rest_lt {gs rest : List Glyph} {name : String} (h : markName? gs = some (name, rest)) :
    rest.length < gs.length := by
  cases gs with
  | nil => cases h
  | cons g gs => exact Nat.lt_succ_of_le (markName?_suffix h).length_le

/-- The argument list after a name that ends at `i`, and the offset after it. -/
def argumentsAfter (src : List Glyph) (i stop : Nat) :
    Except BracketError ((Option Value × List (String × Value)) × { e : Nat // i ≤ e }) := do
  let ⟨j, hj⟩ ← skipBlanksBelow (codes src) i stop
  if hlt : j < stop then
    if (← charAt (codes src) j) = '(' then
      let ⟨close, hclose⟩ ← closeBelow (codes src) j stop
      return (← arguments src (j + 1) close, ⟨min (close + 1) stop, by omega⟩)
    else return ((none, []), ⟨i, Nat.le_refl i⟩)
  else return ((none, []), ⟨i, Nat.le_refl i⟩)

/-- Blanks the glyphs of a header from `start` up to, and not including, `stop`. -/
def blankGlyphs (header : List Glyph) (start stop : Nat) : Except BracketError (List Glyph) :=
  if stop ≤ header.length then
    return header.take start ++ (blanked (slice header start stop) ++ header.drop stop)
  else .error .outOfText

theorem length_slice_le {α : Type} (l : List α) (i stop : Nat) : (slice l i stop).length ≤ stop - i := by
  rw [slice, List.length_drop, List.length_take]
  omega

/-- The annotations from offset `i` on in the header from `start` up to `stop`, and the header without
them; `header` is what the annotations before have left of it. -/
def annotations (src : List Glyph) (lines : LineTable) (start i stop : Nat) (header : List Glyph) :
    Except BracketError (List (Nat × Annotation) × List Glyph) :=
  if i < stop then
    match _h : markName? (slice src i stop) with
    | none => annotations src lines start (i + 1) stop header
    | some (name, rest) => do
      let ((positional, named), ⟨e, _⟩) ← argumentsAfter src (stop - rest.length) stop
      let header ← blankGlyphs header (i - start) (e - start)
      let (found, header) ← annotations src lines start e stop header
      return ((i, ⟨name, positional, named, some (lines.span i e)⟩) :: found, header)
  else return ([], header)
termination_by stop - i
decreasing_by
  · omega
  · have hlt := markName?_rest_lt _h
    have hle := length_slice_le src i stop
    omega

/-- The values of an argument list that may be missing. -/
def argumentsOf : Option (List Glyph) → Option Value × List (String × Value)
  | some args => Pattern.arguments args
  | none => (none, [])

theorem argumentsAfter_eq {src : List Glyph} {i stop : Nat} (hi : i ≤ stop) (hstop : stop ≤ src.length) :
    ∃ e, ∃ he : i ≤ e,
      argumentsAfter src i stop = .ok (argumentsOf (argumentList (slice src i stop)).1, ⟨e, he⟩) ∧ e ≤ stop ∧
        (argumentList (slice src i stop)).2 = slice src e stop := by
  obtain ⟨j, hj, hskip, hle, hrest⟩ := skipBlanksBelow_eq hi hstop
  rw [argumentsAfter, hskip, ok_bind, argumentList, hrest]
  dsimp only
  by_cases hlt : j < stop
  · have hget := List.getElem?_eq_getElem (l := src) (i := j) (by omega)
    rw [dif_pos hlt, charAt_codes hget, ok_bind, slice_cons hget hlt]
    dsimp only
    by_cases hparen : src[j].code = '('
    · obtain ⟨close, hbounds, hclose, hpos, hinside, hafter⟩ :=
        closeBelow_eq hget (by rw [hparen]; rfl) hlt hstop (c := ')')
      rw [hparen, slice_cons hget hlt] at hinside hafter
      rw [if_pos hparen, if_pos hparen, hclose, ok_bind]
      dsimp only
      rw [hinside, hafter, arguments_eq (by omega) (by omega), ok_bind]
      refine ⟨min (close + 1) stop, by omega, rfl, by omega, ?_⟩
      -- a list that stays open ends with the header
      by_cases hend : close < stop
      · rw [Nat.min_eq_left (by omega)]
      · rw [slice_eq_nil (by omega), slice_eq_nil (by omega)]
    · rw [if_neg hparen, if_neg hparen]
      exact ⟨i, Nat.le_refl i, rfl, hi, rfl⟩
  · rw [dif_neg hlt, slice_eq_nil (by omega)]
    exact ⟨i, Nat.le_refl i, rfl, hi, rfl⟩

theorem blankGlyphs_append (pre x y : List Glyph) {start stop : Nat} (hstart : start = pre.length)
    (hstop : stop = pre.length + x.length) :
    blankGlyphs (pre ++ (x ++ y)) start stop = .ok (pre ++ (blanked x ++ y)) := by
  subst hstart hstop
  have htake : (pre ++ (x ++ y)).take (pre.length + x.length) = pre ++ x := by
    rw [← List.append_assoc, ← List.length_append, List.take_left]
  have hdrop : (pre ++ (x ++ y)).drop (pre.length + x.length) = y := by
    rw [← List.append_assoc, ← List.length_append, List.drop_left]
  rw [blankGlyphs, if_pos (by rw [List.length_append, List.length_append]; omega), slice, htake, hdrop,
    List.take_left, List.drop_left]
  rfl

variable {src : List Glyph} {lines : LineTable}

/-- The span of a slice, by its glyphs and by its offsets. -/
theorem spanOf_slice (hsrc : Indexed src) {g : Glyph} {i e : Nat} (hg : src[i]? = some g) (hlt : i < e)
    (he : e ≤ src.length) : spanOf lines g (slice src i e) = lines.span i e := by
  have hget := List.getElem?_eq_getElem (l := src) (i := e - 1) (by omega)
  have hend : ((e - 1 : Nat) : Int) + 1 = e := by omega
  rw [spanOf, getLast?_slice hlt he, hget, Option.getD_some, hsrc _ _ hget, hsrc _ _ hg, hend]

theorem annotations_of_no_mark {g : Glyph} {gs : List Glyph} (h : mark? (g :: gs) = none) :
    Pattern.annotations lines (g :: gs) =
      ((Pattern.annotations lines gs).1, g :: (Pattern.annotations lines gs).2) := by
  rw [Pattern.annotations]
  split
  · rfl
  · rename_i m hm
    rw [h] at hm
    cases hm

theorem annotationOf_eq (first : Glyph) (covered : List Glyph) (m : Mark) :
    annotationOf lines first covered m =
      ⟨m.name, (argumentsOf m.args).1, (argumentsOf m.args).2, some (spanOf lines first covered)⟩ := by
  obtain ⟨name, args, after⟩ := m
  cases args <;> rfl

/-- The annotation at an offset, whose name and arguments end at a later one. -/
theorem argumentsAfter_of_mark {i stop : Nat} {name : String} {rest : List Glyph} (hi : i ≤ stop)
    (hstop : stop ≤ src.length) (hname : markName? (slice src i stop) = some (name, rest)) :
    ∃ e args, ∃ he : stop - rest.length ≤ e,
      argumentsAfter src (stop - rest.length) stop = .ok (argumentsOf args, ⟨e, he⟩) ∧ i < e ∧ e ≤ stop ∧
        mark? (slice src i stop) = some ⟨name, args, slice src e stop⟩ := by
  have hlt := markName?_rest_lt hname
  rw [length_slice hstop] at hlt
  have hsuffix : rest <:+ slice src i stop := by
    cases hslice : slice src i stop with
    | nil =>
      rw [hslice] at hname
      cases hname
    | cons g gs =>
      rw [hslice] at hname
      exact (markName?_suffix hname).trans (List.suffix_cons g gs)
  obtain ⟨hrest, -, hle⟩ := eq_slice_of_suffix hsuffix hi hstop
  obtain ⟨e, he, hargs, hend, hafter⟩ := argumentsAfter_eq hle hstop
  rw [← hrest] at hargs hafter
  refine ⟨e, _, he, hargs, by omega, hend, ?_⟩
  rw [mark?_eq, hname, Option.map_some, hafter]

theorem annotations_eq (lines : LineTable) (hsrc : Indexed src) (pre : List Glyph) {start i stop : Nat}
    (hstart : start ≤ i) (hi : i ≤ stop) (hstop : stop ≤ src.length) (hpre : pre.length = i - start) :
    annotations src lines start i stop (pre ++ slice src i stop) =
      .ok ((Pattern.annotations lines (slice src i stop)).1,
        pre ++ (Pattern.annotations lines (slice src i stop)).2) := by
  induction hn : stop - i using Nat.strong_induction_on generalizing i pre with
  | _ n ih =>
    rw [annotations]
    by_cases hlt : i < stop
    · have hget := List.getElem?_eq_getElem (l := src) (i := i) (by omega)
      have hslice := slice_cons hget hlt
      rw [if_pos hlt]
      split
      · rename_i hname
        have hmark := mark?_eq (slice src i stop)
        rw [hname] at hmark
        rw [hslice] at hmark ⊢
        have ih := ih _ (by omega) (pre ++ [src[i]]) (by omega : start ≤ i + 1) (by omega)
          (by rw [List.length_append, List.length_singleton]; omega) rfl
        rw [List.append_assoc, List.append_assoc] at ih
        rw [annotations_of_no_mark hmark]
        exact ih
      · rename_i name rest hname
        obtain ⟨e, args, he, hargs, hie, hend, hmark⟩ := argumentsAfter_of_mark hi hstop hname
        have hsplit := slice_append (l := src) (by omega : i ≤ e) hend
        have hlength := length_slice (l := src) (i := i) (by omega : e ≤ src.length)
        -- the stretch that is blanked lies within the header
        have hheader : blankGlyphs (pre ++ slice src i stop) (i - start) (e - start) =
            .ok (pre ++ (blanked (slice src i e) ++ slice src e stop)) := by
          rw [← hsplit]
          exact blankGlyphs_append _ _ _ hpre.symm (by omega)
        have ih := ih _ (by omega) (pre ++ blanked (slice src i e)) (by omega : start ≤ e) hend
          (by rw [List.length_append, blanked, List.length_map]; omega) rfl
        rw [List.append_assoc, List.append_assoc] at ih
        rw [hargs, ok_bind]
        dsimp only
        rw [hheader, ok_bind, ih, ok_bind]
        rw [hslice] at hmark hsplit ⊢
        rw [annotations_of_mark lines hmark hsplit.symm, annotationOf_eq,
          spanOf_slice hsrc hget hie (by omega), hsrc _ _ hget]
        rfl
    · rw [if_neg hlt, slice_eq_nil (by omega), Pattern.annotations]
      rfl

/-! ## Headers -/

/-- What the header from `start` up to `stop` declares. -/
def heading (src : List Glyph) (lines : LineTable) (start stop : Nat) : Except BracketError Heading := do
  let (located, stripped) ← annotations src lines start start stop (slice src start stop)
  let beforeParen := stripped.takeWhile fun g => g.code ≠ '('
  match findType? none beforeParen with
  | some (first, keyword, n) =>
    match typeKind? keyword with
    | some kind =>
      return .type kind (textOf n) (annotationsBefore located first.offset) (spanOf lines first n)
    | none => return .other
  | none =>
    match stripped.dropWhile fun g => g.code ≠ '(' with
    | [] => return .other
    | _ :: _ =>
      if beforeParen.any fun g => g.code = '=' then return .other
      else
        match trailingName? beforeParen with
        | some (first :: n) =>
          if textOf (first :: n) ∈ reservedNames then return .other
          else
            let ⟨close, _⟩ ← closeBelow (codes src) (start + beforeParen.length) stop
            return .method (textOf (first :: n)) (annotationsBefore located first.offset)
              (lines.span first.offset (min close (stop - 1) + 1 : Nat))
        | _ => return .other

/-- What is left of a header and is no blank stands where it stood. -/
theorem getElem?_annotations (lines : LineTable) (header : List Glyph) : ∀ (n : Nat) (g : Glyph),
    (Pattern.annotations lines header).2[n]? = some g → Text.isBlank g.code = false → header[n]? = some g := by
  fun_induction Pattern.annotations lines header with
  | case1 =>
    intro n g hg
    cases hg
  | case2 h gs hmark found stripped hrest ih =>
    intro n g hg hvisible
    rw [hrest] at ih
    cases n with
    | zero => exact hg
    | succ n => exact ih n g hg hvisible
  | case3 h gs m hmark covered found stripped hrest ih =>
    intro n g hg hvisible
    rw [hrest] at ih
    have hdrop := List.suffix_iff_eq_drop.1 ((mark?_suffix hmark).2.trans (List.suffix_cons h gs))
    have hsplit : covered ++ m.after = h :: gs := by
      rw [hdrop]
      exact List.take_append_drop _ _
    rw [← hsplit]
    dsimp only at hg
    -- an annotation is blanked out, so what is still visible stands after it
    by_cases hn : n < covered.length
    · rw [List.getElem?_append_left (by rwa [List.length_map]), List.getElem?_map] at hg
      obtain ⟨c, -, rfl⟩ := Option.map_eq_some_iff.1 hg
      rw [isBlank_blankOut] at hvisible
      cases hvisible
    · rw [List.getElem?_append_right (by rw [List.length_map]; omega), List.length_map] at hg
      rw [List.getElem?_append_right (by omega)]
      exact ih _ g hg hvisible

/-- The span of a method ends with its parameters, or with the header where they stay open. -/
theorem methodSpan_eq (lines : LineTable) (hsrc : Indexed src) (first : Glyph) {paren : Glyph}
    {start k stop : Nat} (hstart : start ≤ k) (hk : k < stop) (hstop : stop ≤ src.length)
    (hparen : src[k]? = some paren) (hcode : paren.code = '(') :
    ∃ close, ∃ hclose : k ≤ close ∧ close ≤ stop, closeBelow (codes src) k stop = .ok ⟨close, hclose⟩ ∧
      methodSpan lines (slice src start stop) first paren =
        lines.span first.offset (min close (stop - 1) + 1 : Nat) := by
  obtain ⟨close, hbounds, hclose, -, hvalue⟩ :=
    closeBelow_codes hparen (by rw [hcode]; rfl) hk hstop (c := ')')
  rw [hcode] at hvalue
  refine ⟨close, hbounds, hclose, ?_⟩
  rw [methodSpan, hsrc _ _ hparen, hsrc.dropWhile_slice hstart (by omega) hstop]
  -- where the parameters are not closed, the last character of the header stands in
  cases hoffset : closeOffset '(' ')' 0 (codes (slice src k stop)) with
  | none =>
    rw [hoffset, Option.elim_none] at hvalue
    have hlast := List.getElem?_eq_getElem (l := src) (i := stop - 1) (by omega)
    have hend : min close (stop - 1) = stop - 1 := by omega
    dsimp only
    rw [getLast?_slice (by omega) hstop, hlast, hend]
    show lines.span first.offset (src[stop - 1].offset + 1) = _
    rw [hsrc _ _ hlast]
    rfl
  | some n =>
    rw [hoffset, Option.elim_some] at hvalue
    have hlt := closeOffset_lt hoffset
    rw [length_codes, length_slice hstop] at hlt
    have hlast := List.getElem?_eq_getElem (l := src) (i := k + n) (by omega)
    have hend : min close (stop - 1) = k + n := by omega
    dsimp only
    rw [getElem?_slice (by omega), hlast, hend]
    show lines.span first.offset (src[k + n].offset + 1) = _
    rw [hsrc _ _ hlast]
    rfl

/-- The first parenthesis that is left of a header stands in the source. -/
theorem getElem?_paren {start stop : Nat} {paren : Glyph} {rest stripped : List Glyph}
    (hstop : stop ≤ src.length)
    (hvisible : ∀ (n : Nat) (g : Glyph), stripped[n]? = some g → Text.isBlank g.code = false →
      (slice src start stop)[n]? = some g)
    (hparen : stripped.dropWhile (fun g => g.code ≠ '(') = paren :: rest) :
    let k := start + (stripped.takeWhile fun g => g.code ≠ '(').length
    k < stop ∧ src[k]? = some paren ∧ paren.code = '(' := by
  have hcode : paren.code = '(' := by
    have hhead := List.head?_dropWhile_not (fun g : Glyph => decide (g.code ≠ '(')) stripped
    rw [hparen] at hhead
    simpa using hhead
  have hsplit := List.takeWhile_append_dropWhile (p := fun g : Glyph => decide (g.code ≠ '(')) (l := stripped)
  rw [hparen] at hsplit
  generalize stripped.takeWhile (fun g => g.code ≠ '(') = before at *
  have hget : stripped[before.length]? = some paren := by
    rw [← hsplit, List.getElem?_append_right (Nat.le_refl _), Nat.sub_self]
    rfl
  have hslice := hvisible _ _ hget (by rw [hcode]; decide)
  have hlt := (List.getElem?_eq_some_iff.1 hslice).1
  rw [length_slice hstop] at hlt
  rw [getElem?_slice (by omega)] at hslice
  exact ⟨by omega, hslice, hcode⟩

theorem heading_eq (hsrc : Indexed src) {start stop : Nat} (hstart : start ≤ stop) (hstop : stop ≤ src.length) :
    heading src lines start stop = .ok (Pattern.heading lines (slice src start stop)) := by
  have hannotations := annotations_eq lines hsrc [] (Nat.le_refl start) hstart hstop (by simp)
  have hvisible := getElem?_annotations lines (slice src start stop)
  rw [List.nil_append, List.nil_append] at hannotations
  rw [heading, hannotations, ok_bind, Pattern.heading]
  dsimp only
  -- only what is left of the header matters from here on
  generalize Pattern.annotations lines (slice src start stop) = found at *
  obtain ⟨located, stripped⟩ := found
  dsimp only at hvisible ⊢
  cases findType? none (stripped.takeWhile fun g => g.code ≠ '(') with
  | some found =>
    obtain ⟨first, keyword, n⟩ := found
    dsimp only
    cases typeKind? keyword <;> rfl
  | none =>
    cases hparen : stripped.dropWhile fun g => g.code ≠ '(' with
    | nil => rfl
    | cons paren rest =>
      dsimp only
      split
      · rfl
      · cases htrailing : trailingName? (stripped.takeWhile fun g => g.code ≠ '(') with
        | none => rfl
        | some name =>
          cases name with
          | nil => rfl
          | cons first n =>
            dsimp only
            split
            · rfl
            · obtain ⟨hlt, hget, hcode⟩ := getElem?_paren hstop hvisible hparen
              obtain ⟨close, hbounds, hclose, hspan⟩ :=
                methodSpan_eq lines hsrc first (Nat.le_add_right start _) hlt hstop hget hcode
              rw [hclose, ok_bind, hspan]
              rfl

/-! ## Members -/

/-- What the stretch from `seg` up to `stop` declares once blanks before it are left out; nothing if it is
blank. -/
def declared (src : List Glyph) (lines : LineTable) (seg stop : Nat) : Except BracketError Heading := do
  let ⟨start, _⟩ ← skipBlanksBelow (codes src) seg stop
  if start < stop then heading src lines start stop else return .other

/-- The members from offset `i` up to `stop`, where the current header starts at `seg`. -/
def members (src : List Glyph) (lines : LineTable) (seg i stop : Nat) :
    Except BracketError (List Declaration) :=
  if i < stop then do
    let c ← charAt (codes src) i
    if c = '(' then
      let ⟨close, _⟩ ← closeBelow (codes src) i stop
      members src lines seg (close + 1) stop
    else if c = '{' then
      let ⟨close, _⟩ ← closeBelow (codes src) i stop
      let found ← match ← declared src lines seg i with
        | .type kind name annotations span => do
          let inside ← members src lines (i + 1) (i + 1) close
          pure [.type kind name annotations inside (some span)]
        | .method name annotations span => pure [.method name annotations (some span)]
        | .other => pure []
      return found ++ (← members src lines (close + 1) (close + 1) stop)
    else if c = ';' then
      let found := match ← declared src lines seg i with
        | .method name annotations span => [.method name annotations (some span)]
        | _ => []
      return found ++ (← members src lines (i + 1) (i + 1) stop)
    else if c = '}' then members src lines (i + 1) (i + 1) stop
    else members src lines seg (i + 1) stop
  else return []
termination_by stop - i

/-- What a stretch of glyphs declares. -/
def declaredBy (lines : LineTable) (gs : List Glyph) : Heading :=
  match skipBlankGlyphs gs with
  | [] => .other
  | h => Pattern.heading lines h

/-- What a heading declares whose brace opens `inside`. -/
def openedBy (inside : List Declaration) : Heading → List Declaration
  | .type kind name annotations span => [.type kind name annotations inside (some span)]
  | .method name annotations span => [.method name annotations (some span)]
  | .other => []

/-- What a heading declares that ends with a semicolon. -/
def endedBy : Heading → List Declaration
  | .method name annotations span => [.method name annotations (some span)]
  | _ => []

theorem declared_eq (hsrc : Indexed src) {seg stop : Nat} (hseg : seg ≤ stop) (hstop : stop ≤ src.length) :
    declared src lines seg stop = .ok (declaredBy lines (slice src seg stop)) := by
  obtain ⟨start, hstart, hskip, hle, hrest⟩ := skipBlanksBelow_eq hseg hstop
  rw [declared, hskip, ok_bind, declaredBy, hrest]
  dsimp only
  by_cases hlt : start < stop
  · have hget := List.getElem?_eq_getElem (l := src) (i := start) (by omega)
    rw [if_pos hlt, heading_eq hsrc hle hstop, slice_cons hget hlt]
  · rw [if_neg hlt, slice_eq_nil (by omega)]
    rfl

section

variable {g : Glyph} {r header : List Glyph}

theorem members_paren (hg : g.code = '(') :
    Pattern.members lines header (g :: r) =
      Pattern.members lines (((g :: r).take ((g :: r).length - (enclose '(' ')' (g :: r)).after.length)).reverse
        ++ header) (enclose '(' ')' (g :: r)).after := by
  rw [Pattern.members, if_pos hg]

theorem members_brace (hg : g.code = '{') :
    Pattern.members lines header (g :: r) =
      openedBy (Pattern.members lines [] (enclose '{' '}' (g :: r)).inside) (declaredBy lines header.reverse) ++
        Pattern.members lines [] (enclose '{' '}' (g :: r)).after := by
  rw [Pattern.members, if_neg (by rw [hg]; decide), if_pos hg, declaredBy]
  cases skipBlankGlyphs header.reverse with
  | nil => rfl
  | cons h hs =>
    dsimp only
    cases Pattern.heading lines (h :: hs) <;> rfl

theorem members_semicolon (hg : g.code = ';') :
    Pattern.members lines header (g :: r) =
      endedBy (declaredBy lines header.reverse) ++ Pattern.members lines [] r := by
  rw [Pattern.members, if_neg (by rw [hg]; decide), if_neg (by rw [hg]; decide), if_pos hg, declaredBy]
  cases skipBlankGlyphs header.reverse with
  | nil => rfl
  | cons h hs =>
    dsimp only
    cases Pattern.heading lines (h :: hs) <;> rfl

end

/-- Both walks find the same members between two offsets. -/
def Agrees (src : List Glyph) (lines : LineTable) (seg i stop : Nat) : Prop :=
  members src lines seg i stop = .ok (Pattern.members lines (slice src seg i).reverse (slice src i stop))

theorem Agrees.fresh {i stop : Nat} (h : Agrees src lines i i stop) :
    members src lines i i stop = .ok (Pattern.members lines [] (slice src i stop)) := by
  rw [h, slice_eq_nil (Nat.le_refl i), List.reverse_nil]

theorem agrees_of_le {seg i stop : Nat} (h : stop ≤ i) : Agrees src lines seg i stop := by
  unfold Agrees
  rw [members, if_neg (by omega), slice_eq_nil h, Pattern.members]
  rfl

section

variable {g : Glyph} {seg i stop : Nat} (hseg : seg ≤ i) (hlt : i < stop) (hget : src[i]? = some g)
  (ih : ∀ seg' i' stop', i < i' → seg' ≤ i' → stop' ≤ stop → Agrees src lines seg' i' stop')

include hseg hlt hget ih

theorem agrees_paren (hstop : stop ≤ src.length) (hg : g.code = '(') : Agrees src lines seg i stop := by
  obtain ⟨close, hbounds, hclose, hpos, -, hafter⟩ := closeBelow_eq hget (by rw [hg]; rfl) hlt hstop (c := ')')
  rw [hg] at hafter
  have hrest := ih seg (close + 1) stop (by omega) (by omega) (Nat.le_refl stop)
  unfold Agrees at hrest ⊢
  rw [members, if_pos hlt, charAt_codes hget, ok_bind, if_pos hg, hclose, ok_bind]
  dsimp only
  have hslice := slice_cons hget hlt
  rw [hrest, hslice, members_paren hg, ← hslice, hafter]
  by_cases hend : close < stop
  · have htaken : (slice src i stop).length - (slice src (close + 1) stop).length = close + 1 - i := by
      rw [length_slice hstop, length_slice hstop]
      omega
    have hnext : i + (close + 1 - i) = close + 1 := by omega
    rw [htaken, take_slice (by omega), hnext, ← List.reverse_append, slice_append hseg (by omega)]
  · -- a parenthesis that stays open hides the rest
    rw [slice_eq_nil (by omega : stop ≤ close + 1), Pattern.members, Pattern.members]

theorem agrees_brace (hsrc : Indexed src) (hstop : stop ≤ src.length) (hg : g.code = '{') :
    Agrees src lines seg i stop := by
  obtain ⟨close, hbounds, hclose, hpos, hinside, hafter⟩ :=
    closeBelow_eq hget (by rw [hg]; rfl) hlt hstop (c := '}')
  have hslice := slice_cons hget hlt
  rw [hg, hslice] at hinside hafter
  have inside := (ih (i + 1) (i + 1) close (by omega) (Nat.le_refl _) (by omega)).fresh
  have after := (ih (close + 1) (close + 1) stop (by omega) (Nat.le_refl _) (Nat.le_refl _)).fresh
  unfold Agrees
  rw [members, if_pos hlt, charAt_codes hget, ok_bind, if_neg (by rw [hg]; decide), if_pos hg, hclose, ok_bind]
  dsimp only
  rw [declared_eq hsrc hseg (by omega), ok_bind, hslice, members_brace hg, List.reverse_reverse, hinside,
    hafter]
  cases declaredBy lines (slice src seg i) with
  | type kind name annotations span =>
    dsimp only
    rw [inside, ok_bind, pure_eq_ok, ok_bind, after]
    rfl
  | method name annotations span =>
    dsimp only
    rw [pure_eq_ok, ok_bind, after]
    rfl
  | other =>
    dsimp only
    rw [pure_eq_ok, ok_bind, after]
    rfl

theorem agrees_semicolon (hsrc : Indexed src) (hstop : stop ≤ src.length) (hg : g.code = ';') :
    Agrees src lines seg i stop := by
  have after := (ih (i + 1) (i + 1) stop (by omega) (Nat.le_refl _) (Nat.le_refl _)).fresh
  unfold Agrees
  rw [members, if_pos hlt, charAt_codes hget, ok_bind, if_neg (by rw [hg]; decide), if_neg (by rw [hg]; decide),
    if_pos hg, declared_eq hsrc hseg (by omega), ok_bind, slice_cons hget hlt, members_semicolon hg,
    List.reverse_reverse, after]
  rfl

theorem agrees_other (hparen : g.code ≠ '(') (hbrace : g.code ≠ '{') (hsemicolon : g.code ≠ ';') :
    Agrees src lines seg i stop := by
  unfold Agrees
  rw [members, if_pos hlt, charAt_codes hget, ok_bind, if_neg hparen, if_neg hbrace, if_neg hsemicolon,
    slice_cons hget hlt, Pattern.members, if_neg hparen, if_neg hbrace, if_neg hsemicolon]
  by_cases hcloser : g.code = '}'
  · rw [if_pos hcloser, if_pos hcloser,
      (ih (i + 1) (i + 1) stop (by omega) (Nat.le_refl _) (Nat.le_refl _)).fresh]
  · have hrest := ih seg (i + 1) stop (by omega) (by omega) (Nat.le_refl _)
    unfold Agrees at hrest
    rw [if_neg hcloser, if_neg hcloser, hrest, slice_succ hget hseg, List.reverse_append]
    rfl

end

theorem agrees (lines : LineTable) (hsrc : Indexed src) {seg i stop : Nat} (hseg : seg ≤ i)
    (hstop : stop ≤ src.length) :
    Agrees src lines seg i stop := by
  induction hn : stop - i using Nat.strong_induction_on generalizing seg i stop with
  | _ n ih =>
    by_cases hlt : i < stop
    · have hget := List.getElem?_eq_getElem (l := src) (i := i) (by omega)
      -- whatever stands here, the walk goes on with shorter intervals
      have hrest (seg' i' stop' : Nat) (hi : i < i') (hseg' : seg' ≤ i') (hle : stop' ≤ stop) :
          Agrees src lines seg' i' stop' := by
        by_cases hlt' : i' < stop'
        · exact ih _ (by omega) hseg' (by omega) rfl
        · exact agrees_of_le (by omega)
      by_cases hparen : src[i].code = '('
      · exact agrees_paren hseg hlt hget hrest hstop hparen
      · by_cases hbrace : src[i].code = '{'
        · exact agrees_brace hseg hlt hget hrest hsrc hstop hbrace
        · by_cases hsemicolon : src[i].code = ';'
          · exact agrees_semicolon hseg hlt hget hrest hsrc hstop hsemicolon
          · exact agrees_other hseg hlt hget hrest hparen hbrace hsemicolon
    · exact agrees_of_le (by omega)

/-- The types that a source text declares, read by offset. -/
def readTypes (text : List Char) : Except BracketError (List Declaration) := do
  let src := glyphsFrom 0 text (← maskFrom text text 0)
  let found ← members src (.ofText text) 0 0 src.length
  return found.filter Declaration.isType

theorem readTypes_eq (text : List Char) : readTypes text = .ok (Pattern.readTypes text) := by
  have hmembers := (agrees (.ofText text) (indexed_glyphs text) (Nat.le_refl 0) (Nat.le_refl _)).fresh
  rw [slice_self_length] at hmembers
  rw [readTypes, maskFrom_zero, ok_bind]
  show members (glyphs text) (.ofText text) 0 0 (glyphs text).length >>= _ = _
  rw [hmembers]
  rfl

end EndpointIndex.ByOffset
