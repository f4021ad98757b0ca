import EndpointIndex.Proofs.Offset.Members
import EndpointIndex.Proofs.Prefilter

/-!
# What an annotation spells

In a masked text, an annotation is an `@`, a dotted name and, in parentheses, its arguments
(`AnnotationAt`). What the pattern reader takes for an annotation of a header is written that way, and it
ends in the text where it ends in the header, unless its parenthesis stays open and hides the rest of the
header (`mark?_spells`).
-/

namespace EndpointIndex.Pattern

open Source

/-! ## Spelling -/

def IsGap (s : List Char) : Prop := ∀ c ∈ s, Text.isBlank c = true

def IsName (s : List Char) : Prop :=
  ∃ c r, s = c :: r ∧ Text.isNameStart c = true ∧ ∀ d ∈ r, Text.isNamePart d = true

/-- A text consists of names with dots between them. Blanks may stand around a dot. -/
inductive IsDottedName : List (List Char) → List Char → Prop
  | one {n : List Char} : IsName n → IsDottedName [n] n
  | more {n gap gap' s : List Char} {parts : List (List Char)} : IsName n → IsGap gap → IsGap gap' →
    IsDottedName parts s → IsDottedName (n :: parts) (n ++ (gap ++ '.' :: (gap' ++ s)))

/-- A dotted name that comes before a text does not go on in it. -/
structure EndsDottedName (rest : List Char) : Prop where
  name : ∀ c ∈ rest.head?, Text.isNamePart c = false
  dot : ∀ gap gap' c r, rest = gap ++ '.' :: (gap' ++ c :: r) → IsGap gap → IsGap gap' →
    Text.isNameStart c = false

/-- Every parenthesis that opens in a text closes in it, and no other closes. -/
structure Matched (s : List Char) : Prop where
  prefix_le : ∀ p, p <+: s → p.count ')' ≤ p.count '('
  count_eq : s.count ')' = s.count '('

/-- After the name of an annotation, this many characters of a text belong to its argument list. -/
inductive ArgumentsTake : List Char → Nat → Prop
  | none {rest : List Char} : (∀ gap r, IsGap gap → rest ≠ gap ++ '(' :: r) → ArgumentsTake rest 0
  | list {gap inside after : List Char} : IsGap gap → Matched inside →
    ArgumentsTake (gap ++ '(' :: (inside ++ ')' :: after)) (gap.length + inside.length + 2)

/-- In a masked text, an annotation with the given simple name stands from offset `s` to offset `t`, both
included: to the last character of its name, or to the parenthesis that closes its arguments. -/
def AnnotationAt (masked simple : List Char) (s t : Nat) : Prop :=
  ∃ gap parts name rest taken, masked.drop s = '@' :: (gap ++ (name ++ rest)) ∧ IsGap gap ∧
    IsDottedName (parts ++ [simple]) name ∧ EndsDottedName rest ∧ ArgumentsTake rest taken ∧
      t = s + gap.length + name.length + taken

/-! ## Names -/

theorem isGap_codes {gs : List Glyph} (h : isBlankStretch gs = true) : IsGap (codes gs) := by
  intro c hc
  obtain ⟨g, hg, rfl⟩ := List.mem_map.1 hc
  exact List.all_eq_true.1 h g hg

theorem isBlankStretch_of_isGap {gs : List Glyph} (h : IsGap (codes gs)) : isBlankStretch gs = true :=
  List.all_eq_true.2 fun _ hg => h _ (List.mem_map_of_mem hg)

theorem name?_spells {gs n r : List Glyph} (h : name? gs = some (n, r)) :
    gs = n ++ r ∧ IsName (codes n) ∧ EndsName r := by
  cases gs with
  | nil => cases h
  | cons g gs =>
    rw [name?] at h
    split at h
    · rename_i hg
      cases h
      refine ⟨?_, ⟨g.code, codes (gs.takeWhile fun h => Text.isNamePart h.code), rfl, hg, fun d hd => ?_⟩,
        fun c hc => ?_⟩
      · rw [List.cons_append, List.takeWhile_append_dropWhile]
      · obtain ⟨c, hc, rfl⟩ := List.mem_map.1 hd
        exact List.mem_takeWhile_imp (p := fun h : Glyph => Text.isNamePart h.code) hc
      · have hhead := List.head?_dropWhile_not (fun h : Glyph => Text.isNamePart h.code) gs
        rw [Option.mem_def.1 hc] at hhead
        simpa using hhead
    · cases h

theorem dotName?_spells {gs n r : List Glyph} (h : dotName? gs = some (n, r)) :
    ∃ gap d gap', gs = gap ++ d :: (gap' ++ (n ++ r)) ∧ d.code = '.' ∧ IsGap (codes gap) ∧
      IsGap (codes gap') ∧ IsName (codes n) ∧ EndsName r := by
  obtain ⟨gap, hgs, hgap⟩ := exists_skipBlankGlyphs gs
  rw [dotName?] at h
  cases hskip : skipBlankGlyphs gs with
  | nil =>
    rw [hskip] at h
    cases h
  | cons d t =>
    rw [hskip] at h hgs
    dsimp only at h
    split at h
    · rename_i hdot
      obtain ⟨gap', ht, hgap'⟩ := exists_skipBlankGlyphs t
      obtain ⟨hn, hname, hends⟩ := name?_spells h
      exact ⟨gap, d, gap', by rw [← hn, ← ht, ← hgs], hdot, isGap_codes hgap, isGap_codes hgap', hname, hends⟩
    · cases h

/-- Where no dot with a name is read, none is spelled. -/
theorem not_isNameStart_of_dotName? {gs : List Glyph} (h : dotName? gs = none) {gap gap' r : List Char}
    {c : Char} (hgs : codes gs = gap ++ '.' :: (gap' ++ c :: r)) (hgap : IsGap gap) (hgap' : IsGap gap') :
    Text.isNameStart c = false := by
  obtain ⟨a, b, rfl, rfl, hb⟩ := List.map_eq_append_iff.1 hgs
  obtain ⟨d, t, rfl, hd, ht⟩ := List.map_eq_cons_iff.1 hb
  obtain ⟨a', b', rfl, rfl, hb'⟩ := List.map_eq_append_iff.1 ht
  obtain ⟨g, t', rfl, rfl, -⟩ := List.map_eq_cons_iff.1 hb'
  rw [dotName?, skipBlankGlyphs_append (isBlankStretch_of_isGap hgap),
    skipBlankGlyphs_cons (by rw [hd]; decide)] at h
  dsimp only at h
  rw [if_pos hd, skipBlankGlyphs_append (isBlankStretch_of_isGap hgap')] at h
  by_contra hstart
  rw [Bool.not_eq_false] at hstart
  rw [skipBlankGlyphs_cons (Text.isBlank_of_isNamePart (Text.isNamePart_of_isNameStart hstart)), name?,
    if_pos hstart] at h
  cases h

/-- The names after a first one, with what follows the last. -/
theorem moreNames_spells (gs : List Glyph) {n : List Glyph} (hn : IsName (codes n)) (hends : EndsName gs) :
    ∃ used, gs = used ++ (moreNames gs).2 ∧
      IsDottedName ((n :: (moreNames gs).1).map codes) (codes n ++ codes used) ∧
        EndsDottedName (codes (moreNames gs).2) := by
  -- the name read last stands before the stretch and changes from step to step
  fun_induction moreNames gs generalizing n with
  | case1 gs hnone =>
    refine ⟨[], rfl, ?_, ?_, fun gap gap' c r hgs hgap hgap' => ?_⟩
    · rw [codes_nil, List.append_nil]
      exact .one hn
    · intro c hc
      rw [codes, List.head?_map] at hc
      obtain ⟨g, hg, rfl⟩ := Option.map_eq_some_iff.1 hc
      exact hends g hg
    · exact not_isNameStart_of_dotName? hnone hgs hgap hgap'
  | case2 gs n' r hsome hlt ns rest hmore ih =>
    obtain ⟨gap, d, gap', hgs, hdot, hgap, hgap', hname, hends'⟩ := dotName?_spells hsome
    obtain ⟨used, hr, hdotted, hrest⟩ := ih hname hends'
    rw [hmore] at hr hdotted hrest
    refine ⟨gap ++ d :: (gap' ++ (n' ++ used)), ?_, ?_, hrest⟩
    · rw [hgs]
      nth_rewrite 1 [hr]
      simp
    · have hmany := IsDottedName.more hn hgap hgap' hdotted
      rw [← hdot, ← codes_append, ← codes_append, ← codes_cons, ← codes_append] at hmany
      exact hmany

theorem dottedName?_spells {gs rest : List Glyph} {parts : List (List Glyph)}
    (h : dottedName? gs = some (parts, rest)) :
    ∃ name, gs = name ++ rest ∧ IsDottedName (parts.map codes) (codes name) ∧ EndsDottedName (codes rest) := by
  rw [dottedName?] at h
  split at h
  · cases h
  · rename_i n r hname
    cases h
    obtain ⟨hgs, hn, hends⟩ := name?_spells hname
    obtain ⟨used, hr, hdotted, hrest⟩ := moreNames_spells r hn hends
    refine ⟨n ++ used, ?_, ?_, hrest⟩
    · rw [hgs, List.append_assoc, ← hr]
    · rw [codes_append]
      exact hdotted

/-! ## Simple names -/

theorem IsName.no_dot {s : List Char} (h : IsName s) : '.' ∉ s := by
  obtain ⟨c, r, rfl, hc, hr⟩ := h
  intro hmem
  have hdot : Text.isNamePart '.' = false := by decide
  rcases List.mem_cons.1 hmem with rfl | hmem
  · rw [Text.isNamePart_of_isNameStart hc] at hdot
    cases hdot
  · rw [hr _ hmem] at hdot
    cases hdot

theorem IsName.trim {s : List Char} (h : IsName s) : Text.trim s = s := by
  have hvisible : ∀ c ∈ s, Text.isBlank c = false := by
    obtain ⟨c, r, rfl, hc, hr⟩ := h
    intro d hd
    rcases List.mem_cons.1 hd with rfl | hd
    · exact Text.isBlank_of_isNamePart (Text.isNamePart_of_isNameStart hc)
    · exact Text.isBlank_of_isNamePart (hr d hd)
  have hleft : Text.trimLeft s = s :=
    Text.trimLeft_eq_self fun c r hs => hvisible c (hs ▸ List.mem_cons_self)
  have hright : Text.trimLeft s.reverse = s.reverse :=
    Text.trimLeft_eq_self fun c r hs => hvisible c (List.mem_reverse.1 (hs ▸ List.mem_cons_self))
  rw [Text.trim, hleft, Text.trimRight]
  change (Text.trimLeft s.reverse).reverse = s
  rw [hright, List.reverse_reverse]

theorem IsDottedName.isName {parts : List (List Char)} {s : List Char} (h : IsDottedName parts s) :
    ∀ n ∈ parts, IsName n := by
  induction h with
  | one hn => simpa using hn
  | more hn _ _ _ ih => exact List.forall_mem_cons.2 ⟨hn, ih⟩

/-- What comes after the last dot. -/
theorem takeWhile_intercalate (init : List (List Char)) {simple : List Char} (h : '.' ∉ simple) :
    (List.intercalate ['.'] (init ++ [simple])).reverse.takeWhile (· ≠ '.') = simple.reverse := by
  induction init with
  | nil =>
    rw [List.nil_append, List.intercalate_singleton, List.takeWhile_eq_self_iff]
    intro c hc
    simpa using ne_of_mem_of_not_mem (List.mem_reverse.1 hc) h
  | cons n init ih =>
    have hsplit : List.intercalate ['.'] (n :: init ++ [simple]) =
        n ++ '.' :: List.intercalate ['.'] (init ++ [simple]) := by
      cases init <;> simp [List.intercalate]
    rw [hsplit, List.reverse_append, List.reverse_cons, List.append_assoc, List.takeWhile_append, ih]
    split
    · rename_i hlength
      have hall := List.takeWhile_prefix (p := (· ≠ '.'))
        (l := (List.intercalate ['.'] (init ++ [simple])).reverse)
      rw [ih] at hall
      rw [hall.eq_of_length hlength, List.singleton_append, List.takeWhile_cons_of_neg (by simp),
        List.append_nil]
    · rfl

/-- A dotted name has a last name, and that is the simple name of an annotation with this name. -/
theorem IsDottedName.exists_simple {parts : List (List Glyph)} {s : List Char}
    (h : IsDottedName (parts.map codes) s) :
    ∃ init simple, parts.map codes = init ++ [simple] ∧
      ∀ a : Annotation, a.name = dottedText parts → a.simpleName = String.ofList simple := by
  have hne : parts.map codes ≠ [] := by
    intro hnil
    rw [hnil] at h
    cases h
  have hsplit := List.dropLast_append_getLast hne
  have hname := h.isName _ (List.getLast_mem hne)
  refine ⟨(parts.map codes).dropLast, (parts.map codes).getLast hne, hsplit.symm, fun a ha => ?_⟩
  have htext : a.name.toList = List.intercalate ['.'] (parts.map codes) := by
    have hparts : (parts.map textOf).map String.toList = parts.map codes := by
      rw [List.map_map]
      exact List.map_congr_left fun _ _ => String.toList_ofList
    rw [ha, dottedText, String.toList_intercalate, hparts]
    rfl
  have htail := takeWhile_intercalate (parts.map codes).dropLast hname.no_dot
  rw [hsplit] at htail
  unfold Annotation.simpleName
  rw [htext, htail, List.reverse_reverse]
  dsimp only
  rw [hname.trim]

/-! ## Argument lists -/

/-- Before the bracket that closes `depth + 1` brackets, all but that many are closed. -/
theorem exists_of_closeOffset {o c : Char} (hne : o ≠ c) {depth k : Nat} {s : List Char}
    (h : closeOffset o c (depth + 1) s = some k) :
    ∃ inside after, s = inside ++ c :: after ∧ inside.length = k ∧
      (∀ p, p <+: inside → p.count c ≤ p.count o + depth) ∧ inside.count c = inside.count o + depth := by
  induction s generalizing depth k with
  | nil => cases h
  | cons x r ih =>
    rw [closeOffset] at h
    -- one character more before what is found in the rest
    have hcons {d j : Nat} (hrest : closeOffset o c (d + 1) r = some j) (hj : j + 1 = k)
        (hcount : [x].count c + d = [x].count o + depth) (hle : [x].count c ≤ [x].count o + depth) :
        ∃ inside after, x :: r = inside ++ c :: after ∧ inside.length = k ∧
          (∀ p, p <+: inside → p.count c ≤ p.count o + depth) ∧
            inside.count c = inside.count o + depth := by
      obtain ⟨inside, after, rfl, hlength, hprefix, htotal⟩ := ih hrest
      refine ⟨x :: inside, after, rfl, by rw [List.length_cons, hlength, hj], fun p hp => ?_, ?_⟩
      · cases p with
        | nil => exact Nat.zero_le _
        | cons y p =>
          obtain ⟨rfl, hp'⟩ := List.cons_prefix_cons.1 hp
          have hle' := hprefix p hp'
          rw [← List.singleton_append, List.count_append, List.count_append]
          omega
      · rw [← List.singleton_append, List.count_append, List.count_append]
        omega
    split at h
    · rename_i hopen
      subst hopen
      obtain ⟨j, hj, rfl⟩ := Option.map_eq_some_iff.1 h
      exact hcons hj rfl (by simp [hne]; omega) (by simp [hne])
    · rename_i hopen
      split at h
      · rename_i hclose
        subst hclose
        cases depth with
        | zero =>
          cases h
          exact ⟨[], r, rfl, rfl, fun p hp => by simp [List.prefix_nil.1 hp], rfl⟩
        | succ depth =>
          rw [if_neg (by omega), Nat.add_sub_cancel] at h
          obtain ⟨j, hj, rfl⟩ := Option.map_eq_some_iff.1 h
          exact hcons hj rfl (by simp [hopen]; omega) (by simp [hopen])
      · rename_i hclose
        obtain ⟨j, hj, rfl⟩ := Option.map_eq_some_iff.1 h
        exact hcons hj rfl (by simp [hopen, hclose]) (by simp [hopen, hclose])

/-- A parenthesis after which something is left has been closed. -/
theorem exists_of_enclose {g : Glyph} {r : List Glyph} (hg : g.code = '(')
    (h : (enclose '(' ')' (g :: r)).after ≠ []) :
    ∃ inside close, r = inside ++ close :: (enclose '(' ')' (g :: r)).after ∧ close.code = ')' ∧
      Matched (codes inside) := by
  cases hk : closeOffset '(' ')' 0 (codes (g :: r)) with
  | none =>
    rw [enclose, hk] at h
    exact absurd rfl h
  | some k =>
    rw [codes_cons, hg, closeOffset, if_pos rfl] at hk
    obtain ⟨j, hj, rfl⟩ := Option.map_eq_some_iff.1 hk
    obtain ⟨s, after, hr, hlength, hprefix, hcount⟩ := exists_of_closeOffset (by decide) hj
    obtain ⟨inside, b, rfl, rfl, hb⟩ := List.map_eq_append_iff.1 hr
    obtain ⟨close, rest, rfl, hclose, -⟩ := List.map_eq_cons_iff.1 hb
    have hafter : (enclose '(' ')' (g :: (inside ++ close :: rest))).after = rest := by
      rw [enclose, codes_cons, hg, closeOffset, if_pos rfl, hj]
      dsimp only [Option.map_some]
      rw [← hlength, List.length_map]
      simp
    rw [hafter]
    exact ⟨inside, close, rfl, hclose, hprefix, hcount⟩

section

variable {stop : Glyph} (hstop : isEnd stop) (tail : List Glyph)
include hstop

/-- Where no parenthesis comes next in a header, none comes next in the text. -/
theorem argumentsTake_zero {rest : List Glyph} (h : ∀ g ∈ (skipBlankGlyphs rest).head?, g.code ≠ '(') :
    ArgumentsTake (codes (rest ++ stop :: tail)) 0 := by
  refine .none fun gap r hgap heq => ?_
  obtain ⟨a, b, hsplit, rfl, hb⟩ := List.map_eq_append_iff.1 heq
  obtain ⟨p, t, rfl, hp, -⟩ := List.map_eq_cons_iff.1 hb
  have hskip := skipBlankGlyphs_append_stop hstop tail rest
  rw [hsplit, skipBlankGlyphs_append (isBlankStretch_of_isGap hgap),
    skipBlankGlyphs_cons (by rw [hp]; decide)] at hskip
  cases hskipped : skipBlankGlyphs rest with
  | nil =>
    -- the header ends here, and not with a parenthesis
    rw [hskipped] at hskip
    obtain rfl : p = stop := (List.cons.inj hskip).1
    rcases hstop with hcode | hcode <;> rw [hcode] at hp <;> cases hp
  | cons g r' =>
    rw [hskipped] at hskip h
    obtain rfl : p = g := (List.cons.inj hskip).1
    exact h p rfl hp

/-- What follows the name of an annotation in a header, unless nothing is left after it. -/
theorem argumentList_spells {rest : List Glyph} (h : (argumentList rest).2 ≠ []) :
    ∃ used, rest = used ++ (argumentList rest).2 ∧
      ArgumentsTake (codes (rest ++ stop :: tail)) used.length := by
  obtain ⟨gap, hrest, hgap⟩ := exists_skipBlankGlyphs rest
  have hnone : (∀ g ∈ (skipBlankGlyphs rest).head?, g.code ≠ '(') →
      ArgumentsTake (codes (rest ++ stop :: tail)) 0 := argumentsTake_zero hstop tail
  rw [argumentList] at h ⊢
  cases hskip : skipBlankGlyphs rest with
  | nil =>
    rw [hskip] at hnone
    exact ⟨[], rfl, hnone (by simp)⟩
  | cons g r =>
    rw [hskip] at h hrest hnone
    dsimp only at h ⊢
    by_cases hg : g.code = '('
    · rw [if_pos hg] at h ⊢
      obtain ⟨inside, close, hr, hclose, hmatched⟩ := exists_of_enclose hg h
      dsimp only at h ⊢
      refine ⟨gap ++ g :: (inside ++ [close]), ?_, ?_⟩
      · rw [hrest]
        nth_rewrite 1 [hr]
        simp
      · have htake : ArgumentsTake (codes gap ++ '(' :: (codes inside ++ ')' ::
            codes ((enclose '(' ')' (g :: r)).after ++ stop :: tail)))
            ((codes gap).length + (codes inside).length + 2) :=
          .list (isGap_codes hgap) hmatched
        have htext : codes (rest ++ stop :: tail) = codes gap ++ '(' :: (codes inside ++ ')' ::
            codes ((enclose '(' ')' (g :: r)).after ++ stop :: tail)) := by
          rw [hrest]
          nth_rewrite 1 [hr]
          simp [codes, hg, hclose]
        rw [htext]
        simpa [codes, Nat.add_assoc] using htake
    · rw [if_neg hg]
      exact ⟨[], rfl, hnone (by simpa using hg)⟩

/-- An annotation of a header, unless nothing is left of the header after it. -/
theorem mark?_spells {g : Glyph} {gs : List Glyph} {m : Mark} (h : mark? (g :: gs) = some m)
    (hne : m.after ≠ []) {masked : List Char} {s : Nat}
    (hmasked : masked.drop s = codes (g :: gs ++ stop :: tail)) :
    ∃ used simple, gs = used ++ m.after ∧ AnnotationAt masked simple s (s + used.length) ∧
      ∀ a : Annotation, a.name = m.name → a.simpleName = String.ofList simple := by
  rw [mark?] at h
  split at h
  · rename_i hat
    cases hname : dottedName? (skipBlankGlyphs gs) with
    | none =>
      rw [hname] at h
      cases h
    | some p =>
      obtain ⟨parts, rest⟩ := p
      rw [hname] at h
      dsimp only at h
      split at h
      · cases h
      · cases h
        dsimp only at hne ⊢
        obtain ⟨gap, hgs, hgap⟩ := exists_skipBlankGlyphs gs
        obtain ⟨name, hskip, hdotted, -⟩ := dottedName?_spells hname
        obtain ⟨init, simple, hparts, hsimple⟩ := hdotted.exists_simple
        obtain ⟨used, hrest, htake⟩ := argumentList_spells hstop tail hne
        -- in the text, the name ends where it ends in the header
        have htext := dottedName?_append_stop hstop tail (skipBlankGlyphs gs)
        rw [hname] at htext
        obtain ⟨name', hskip', hdotted', hends⟩ := dottedName?_spells htext
        rw [hskip, List.append_assoc] at hskip'
        obtain rfl : name = name' := List.append_cancel_right hskip'
        refine ⟨gap ++ (name ++ used), simple, ?_, ⟨codes gap, init, codes name, codes (rest ++ stop :: tail),
          used.length, ?_, isGap_codes hgap, hparts ▸ hdotted, hends, htake, ?_⟩, hsimple⟩
        · rw [hgs, hskip]
          nth_rewrite 1 [hrest]
          simp
        · rw [hmasked, hgs, hskip]
          simp [codes, hat]
        · simp [codes]
          omega
  · cases h

end

end EndpointIndex.Pattern
