import EndpointIndex.Proofs.Outline.Basic
import EndpointIndex.Proofs.Outline.Spread

/-!
# Brackets of outlines

The brackets of an outline are closed where they should be. `Balanced` says that the search for a closing
bracket passes over a text, `Whole` that a split at top-level commas does not cut a stretch; both are
known of a term once they are known of plain glyphs, commas and braces (`Scan`). Main facts: what an
opening bracket encloses is found (`Spread.enclose`), and a list is split into its parts
(`Spread.splitTopLevel`).
-/

namespace EndpointIndex.Source

open Pattern (isBlankStretch splitTopLevel isOpening isClosing)

/-! ## Closing brackets -/

/-- All brackets of one kind that are opened in a text are closed in it, and no others. -/
def Balanced (o c : Char) (s : List Char) : Prop :=
  ∀ depth, 0 < depth → ∀ rest,
    closeOffset o c depth (s ++ rest) = (closeOffset o c depth rest).map (· + s.length)

/-- The two kinds of brackets that enclose declarations and arguments. -/
def IsBracket (o c : Char) : Prop := (o = '(' ∧ c = ')') ∨ (o = '{' ∧ c = '}')

theorem IsBracket.ne {o c : Char} (h : IsBracket o c) : o ≠ c := by
  rcases h with ⟨rfl, rfl⟩ | ⟨rfl, rfl⟩ <;> decide

section

variable {o c : Char} {s t : List Char}

theorem balanced_nil : Balanced o c [] := by
  intro depth _ rest
  simp

theorem Balanced.append (hs : Balanced o c s) (ht : Balanced o c t) : Balanced o c (s ++ t) := by
  intro depth hdepth rest
  rw [List.append_assoc, hs depth hdepth, ht depth hdepth, Option.map_map, List.length_append]
  congr 1
  funext k
  simp only [Function.comp_apply]
  omega

theorem balanced_of_notMem (ho : o ∉ s) (hc : c ∉ s) : Balanced o c s := by
  induction s with
  | nil => exact balanced_nil
  | cons x s ih =>
    simp only [List.mem_cons, not_or] at ho hc
    intro depth hdepth rest
    rw [List.cons_append, closeOffset, if_neg (Ne.symm ho.1), if_neg (Ne.symm hc.1),
      ih ho.2 hc.2 depth hdepth, Option.map_map, List.length_cons]
    congr 1

theorem Balanced.group (hne : o ≠ c) (hs : Balanced o c s) : Balanced o c (o :: s ++ [c]) := by
  intro depth hdepth rest
  have hinner : closeOffset o c (depth + 1) (s ++ ([c] ++ rest)) =
      (closeOffset o c depth rest).map (· + (s.length + 1)) := by
    rw [hs (depth + 1) (Nat.succ_pos depth), List.singleton_append, closeOffset, if_neg (Ne.symm hne),
      if_pos rfl, if_neg (by omega), Nat.add_sub_cancel, Option.map_map]
    congr 1
    funext k
    simp only [Function.comp_apply]
    omega
  rw [List.cons_append, List.cons_append, List.append_assoc, closeOffset, if_pos rfl, hinner,
    Option.map_map, List.length_cons, List.length_append, List.length_singleton]
  congr 1

theorem Balanced.parens (hk : IsBracket o c) (hs : Balanced o c s) : Balanced o c ('(' :: s ++ [')']) := by
  rcases hk with ⟨rfl, rfl⟩ | ⟨rfl, rfl⟩
  · exact hs.group (by decide)
  · exact ((balanced_of_notMem (s := ['(']) (by decide) (by decide)).append hs).append
      (balanced_of_notMem (by decide) (by decide))

theorem Balanced.braces (hk : IsBracket o c) (hs : Balanced o c s) : Balanced o c ('{' :: s ++ ['}']) := by
  rcases hk with ⟨rfl, rfl⟩ | ⟨rfl, rfl⟩
  · exact ((balanced_of_notMem (s := ['{']) (by decide) (by decide)).append hs).append
      (balanced_of_notMem (by decide) (by decide))
  · exact hs.group (by decide)

/-- The search for a closing brace passes over braces that close, one level deeper for every open
one. -/
theorem closeOffset_of_bracesClose (opened : Nat) {depth : Nat} (h : bracesClose opened s = true)
    (hdepth : 0 < depth) (rest : List Char) :
    closeOffset '{' '}' (depth + opened) (s ++ rest) =
      (closeOffset '{' '}' depth rest).map (· + s.length) := by
  -- the depth counts the braces opened in the text on top of those around it
  induction s generalizing opened with
  | nil =>
    rw [bracesClose, beq_iff_eq] at h
    subst h
    simp
  | cons x s ih =>
    rw [bracesClose] at h
    rw [List.cons_append, closeOffset, List.length_cons]
    by_cases hopen : x = '{'
    · rw [if_pos hopen] at h
      rw [if_pos hopen, Nat.add_assoc, ih _ h, Option.map_map]
      rfl
    · rw [if_neg hopen] at h
      rw [if_neg hopen]
      by_cases hclose : x = '}'
      · rw [if_pos hclose, Bool.and_eq_true, decide_eq_true_eq] at h
        rw [if_pos hclose, if_neg (by omega), Nat.add_sub_assoc (by omega), ih _ h.2, Option.map_map]
        rfl
      · rw [if_neg hclose] at h
        rw [if_neg hclose, ih _ h, Option.map_map]
        rfl

theorem balanced_block (b : Block) : Balanced '{' '}' ('{' :: b.text ++ ['}']) := by
  apply Balanced.group (by decide)
  intro depth hdepth rest
  exact closeOffset_of_bracesClose 0 b.closed hdepth rest

/-- An opening bracket is closed by the first one after a balanced text. -/
theorem Balanced.closeOffset_eq (hne : o ≠ c) (hs : Balanced o c s) (after : List Char) :
    closeOffset o c 0 (o :: s ++ c :: after) = some (s.length + 1) := by
  rw [List.cons_append, closeOffset, if_pos rfl, hs 1 Nat.one_pos, closeOffset, if_neg (Ne.symm hne),
    if_pos rfl, if_pos (Nat.le_refl 1)]
  simp

theorem enclose_eq (hne : o ≠ c) {g h : Glyph} {inside : List Glyph} (hg : g.code = o) (hh : h.code = c)
    (hinside : Balanced o c (codes inside)) (after : List Glyph) :
    enclose o c (g :: inside ++ h :: after) = ⟨inside, some h, after⟩ := by
  have hclose : closeOffset o c 0 (codes (g :: inside ++ h :: after)) = some (inside.length + 1) := by
    have hlength : (codes inside).length = inside.length := List.length_map ..
    rw [List.cons_append, codes_cons, codes_append, codes_cons, hg, hh, ← hlength]
    exact hinside.closeOffset_eq hne (codes after)
  have htake : ((g :: inside ++ h :: after).take (inside.length + 1)).drop 1 = inside := by
    simp
  have hget : (g :: inside ++ h :: after)[inside.length + 1]? = some h := by
    simp
  have hdrop : (g :: inside ++ h :: after).drop (inside.length + 1 + 1) = after := by
    simp
  rw [enclose, hclose]
  simp only [htake, hget, hdrop]

end

/-! ## Top-level commas -/

/-- Puts a stretch before the first of several. -/
def prepend (gs : List Glyph) : List (List Glyph) → List (List Glyph)
  | [] => [gs]
  | s :: ss => (gs ++ s) :: ss

/-- Where `least` or more brackets are open, no split cuts the stretch. -/
def Whole (least : Int) (gs : List Glyph) : Prop :=
  ∀ depth, least ≤ depth → ∀ rest,
    splitTopLevel depth (gs ++ rest) = prepend gs (splitTopLevel depth rest)

section

variable {least : Int} {gs : List Glyph}

theorem splitTopLevel_ne_nil (depth : Int) (gs : List Glyph) : splitTopLevel depth gs ≠ [] := by
  cases gs with
  | nil => simp [splitTopLevel]
  | cons g gs =>
    rw [splitTopLevel]
    split
    · simp
    · dsimp only
      split <;> simp

theorem prepend_append (a b : List Glyph) (ss : List (List Glyph)) :
    prepend (a ++ b) ss = prepend a (prepend b ss) := by
  cases ss <;> simp [prepend]

theorem whole_nil : Whole least [] := by
  intro depth _ rest
  cases hsplit : splitTopLevel depth rest with
  | nil => exact absurd hsplit (splitTopLevel_ne_nil depth rest)
  | cons s ss => simp [prepend, hsplit]

theorem Whole.append {a b : List Glyph} (ha : Whole least a) (hb : Whole least b) :
    Whole least (a ++ b) := by
  intro depth hdepth rest
  rw [List.append_assoc, ha depth hdepth, hb depth hdepth, prepend_append]

theorem Whole.mono {more : Int} (h : Whole least gs) (hle : least ≤ more) : Whole more gs :=
  fun depth hdepth => h depth (Int.le_trans hle hdepth)

/-- One glyph that is not cut away goes before the split of the rest. -/
theorem splitTopLevel_cons {g : Glyph} {depth : Int} (depth' : Int) (hcomma : ¬ (g.code = ',' ∧ depth = 0))
    (hdepth : (if isOpening g.code then depth + 1 else if isClosing g.code then depth - 1 else depth)
      = depth') (rest : List Glyph) :
    splitTopLevel depth (g :: rest) = prepend [g] (splitTopLevel depth' rest) := by
  rw [splitTopLevel, if_neg (by simpa using hcomma)]
  dsimp only
  rw [hdepth]
  cases splitTopLevel depth' rest <;> rfl

theorem whole_of_plain (h : ∀ g ∈ gs, isOpening g.code = false ∧ isClosing g.code = false ∧ g.code ≠ ',') :
    Whole least gs := by
  induction gs with
  | nil => exact whole_nil
  | cons g gs ih =>
    obtain ⟨hopen, hclose, hcomma⟩ := h g List.mem_cons_self
    intro depth hdepth rest
    have hrest := ih fun g' hg' => h g' (List.mem_cons_of_mem g hg')
    rw [List.cons_append, splitTopLevel_cons depth (fun hg => hcomma hg.1)
      (by rw [hopen, hclose]; simp), hrest depth hdepth, ← prepend_append]
    rfl

theorem whole_comma {g : Glyph} (h : g.code = ',') : Whole 1 [g] := by
  intro depth hdepth rest
  rw [List.singleton_append, splitTopLevel_cons depth]
  · omega
  · rw [h]
    rfl

theorem Whole.braces {a b : Glyph} (ha : a.code = '{') (hb : b.code = '}') (h : Whole 1 gs) :
    Whole 0 (a :: gs ++ [b]) := by
  intro depth hdepth rest
  have hopen : ¬ (a.code = ',' ∧ depth = 0) := by
    rw [ha]
    simp
  have hclose : ¬ (b.code = ',' ∧ depth + 1 = 0) := by
    rw [hb]
    simp
  rw [List.cons_append, List.cons_append, List.append_assoc,
    splitTopLevel_cons (depth + 1) hopen (by rw [ha]; rfl), h (depth + 1) (by omega),
    List.singleton_append, splitTopLevel_cons depth hclose (by rw [hb]; simp [isOpening, isClosing]),
    ← prepend_append, ← prepend_append]
  rfl

end

/-! ## Scanning terms -/

/-- The signs that a scan for brackets and commas looks at. -/
def structural : List Char := ['(', ')', '{', '}', '[', ']', ',']

/-- What a scan knows of stretches, outside of all braces and inside of some. -/
structure Scan (outer inner : List Glyph → Prop) : Prop where
  plain : ∀ gs, (∀ g ∈ gs, g.code ∉ structural) → outer gs
  append : ∀ a b, outer a → outer b → outer (a ++ b)
  inner_append : ∀ a b, inner a → inner b → inner (a ++ b)
  weaken : ∀ gs, outer gs → inner gs
  comma : ∀ g : Glyph, g.code = ',' → inner [g]
  braces : ∀ (a b : Glyph) (gs : List Glyph), a.code = '{' → b.code = '}' → inner gs →
    outer (a :: gs ++ [b])

theorem codes_notMem_of_plain {gs : List Glyph} (h : ∀ g ∈ gs, g.code ∉ structural) {c : Char}
    (hc : c ∈ structural) : c ∉ codes gs := by
  intro hmem
  obtain ⟨g, hg, rfl⟩ := List.mem_map.1 hmem
  exact h g hg hc

theorem scan_balanced {o c : Char} (hk : IsBracket o c) :
    Scan (fun gs => Balanced o c (codes gs)) (fun gs => Balanced o c (codes gs)) where
  plain gs h := by
    have ho : o ∈ structural := by rcases hk with ⟨rfl, rfl⟩ | ⟨rfl, rfl⟩ <;> decide
    have hc : c ∈ structural := by rcases hk with ⟨rfl, rfl⟩ | ⟨rfl, rfl⟩ <;> decide
    exact balanced_of_notMem (codes_notMem_of_plain h ho) (codes_notMem_of_plain h hc)
  append a b ha hb := by
    rw [codes_append]
    exact ha.append hb
  inner_append a b ha hb := by
    rw [codes_append]
    exact ha.append hb
  weaken gs h := h
  comma g h := by
    rw [codes_cons, h]
    rcases hk with ⟨rfl, rfl⟩ | ⟨rfl, rfl⟩ <;> exact balanced_of_notMem (by decide) (by decide)
  braces a b gs ha hb h := by
    rw [codes_append, codes_cons, codes_cons, codes_nil, ha, hb]
    exact h.braces hk

theorem scan_whole : Scan (Whole 0) (Whole 1) where
  plain gs h := by
    apply whole_of_plain
    intro g hg
    have hg := h g hg
    simp only [structural, List.mem_cons, List.not_mem_nil, or_false, not_or] at hg
    simp [isOpening, isClosing, hg]
  append a b ha hb := ha.append hb
  inner_append a b ha hb := ha.append hb
  weaken gs h := h.mono (by decide)
  comma g h := whole_comma h
  braces a b gs ha hb h := h.braces ha hb

/-- Words, literals and signs that no scan looks at. -/
def Lexeme.isPlain : Lexeme → Bool
  | .word _ => true
  | .literal _ => true
  | .sign c _ => c ∉ structural
  | .block _ => false

theorem notMem_structural_of_isBlank {c : Char} (h : Text.isBlank c = true) : c ∉ structural := by
  intro hmem
  have hall : ∀ d ∈ structural, Text.isBlank d = false := List.forall_iff_forall_mem.1 (by decide)
  rw [hall c hmem] at h
  cases h

theorem plain_of_isBlankStretch {gs : List Glyph} (h : isBlankStretch gs = true) :
    ∀ g ∈ gs, g.code ∉ structural :=
  fun g hg => notMem_structural_of_isBlank (List.all_eq_true.1 h g hg)

theorem Lexeme.Spells.plain {l : Lexeme} {body : List Glyph} (h : l.Spells body)
    (hplain : l.isPlain = true) : ∀ g ∈ body, g.code ∉ structural := by
  cases l with
  | word n =>
    intro g hg hmem
    have hcode : g.code ∈ n.text.toList := by
      rw [← show codes body = n.text.toList from h]
      exact List.mem_map_of_mem hg
    obtain ⟨c, r, htext, -, hparts⟩ := n.chars_eq
    have hpart := hparts g.code (htext ▸ hcode)
    have hall : ∀ d ∈ structural, Text.isNamePart d = false :=
      List.forall_iff_forall_mem.1 (by decide)
    rw [hall _ hmem] at hpart
    cases hpart
  | sign c known =>
    intro g hg
    have hcode : g.code ∈ [c] := by
      rw [← show codes body = [c] from h]
      exact List.mem_map_of_mem hg
    rw [List.mem_singleton.1 hcode]
    simpa [Lexeme.isPlain] using hplain
  | literal contents =>
    obtain ⟨first, inner, last, rfl, hfirst, hlast, hblank, -⟩ := h
    intro g hg
    simp only [List.cons_append, List.mem_cons, List.mem_append, List.not_mem_nil, or_false] at hg
    rcases hg with rfl | hg | rfl
    · rw [hfirst]
      decide
    · exact plain_of_isBlankStretch hblank g hg
    · rw [hlast]
      decide
  | block b => cases hplain

theorem spells_sign {c : Char} {known : c ∈ signs} {body : List Glyph}
    (h : (Lexeme.sign c known).Spells body) : ∃ g, body = [g] ∧ g.code = c := by
  have hcodes : body.map Glyph.code = [c] := h
  rw [List.map_eq_singleton_iff] at hcodes
  exact hcodes

namespace Scan

variable {outer inner : List Glyph → Prop}

/-- Where nothing is looked at, everything passes. -/
theorem flat (hscan : Scan outer inner) {ls : List Lexeme} (hls : ∀ l ∈ ls, l.isPlain = true)
    {gs : List Glyph} (h : Spread ls gs) : outer gs :=
  h.induct (fun gap hgap => hscan.plain gap (plain_of_isBlankStretch hgap)) hscan.append
    fun l hl body hbody => hscan.plain body (hbody.plain (hls l hl))

theorem isPlain_dottedName (n : DottedName) : ∀ l ∈ n.lexemes, l.isPlain = true := by
  intro l hl
  rw [DottedName.lexemes, List.mem_append, List.mem_flatMap] at hl
  rcases hl with ⟨q, -, hl⟩ | hl
  · rcases List.mem_cons.1 hl with rfl | hl
    · rfl
    · rw [List.mem_singleton.1 hl]
      rfl
  · rw [List.mem_singleton.1 hl]
    rfl

/-- Two parts with a comma between them, where commas do not matter. -/
theorem pair (hscan : Scan outer inner) {ls ls' : List Lexeme} {gs : List Glyph}
    (hls : ∀ a, Spread ls a → inner a) (hls' : ∀ a, Spread ls' a → inner a)
    (h : Spread (ls ++ .sign ',' :: ls') gs) : inner gs := by
  obtain ⟨a, body, b, rfl, ha, hbody, -, hb⟩ := h.splitAt
  obtain ⟨g, rfl, hg⟩ := spells_sign hbody
  exact hscan.inner_append _ _ (hls a ha)
    (hscan.inner_append _ _ (hscan.comma g hg) (hls' b hb))

theorem list (hscan : Scan outer inner) {lss : List (List Lexeme)}
    (hlss : ∀ ls ∈ lss, ∀ a, Spread ls a → outer a) {gs : List Glyph} (h : Spread (listed lss) gs) :
    inner gs := by
  induction lss generalizing gs with
  | nil => exact hscan.weaken _ (hscan.flat (by simp [listed]) h)
  | cons ls lss ih =>
    have hls : ∀ a, Spread ls a → inner a := fun a ha => hscan.weaken a (hlss ls List.mem_cons_self a ha)
    cases lss with
    | nil => exact hls gs h
    | cons ls' lss =>
      exact hscan.pair hls (fun a => ih fun x hx => hlss x (List.mem_cons_of_mem ls hx)) h

/-- A list in braces. -/
theorem braced (hscan : Scan outer inner) {ls : List Lexeme} (hls : ∀ a, Spread ls a → inner a)
    {gs : List Glyph} (h : Spread (.sign '{' :: ls ++ [.sign '}']) gs) : outer gs := by
  have hblank : ∀ gap, isBlankStretch gap = true → outer gap :=
    fun gap hgap => hscan.plain gap (plain_of_isBlankStretch hgap)
  cases h with
  | @cons _ _ gap body rest blank spells ends more =>
    obtain ⟨a, body', b, rfl, ha, hbody', -, hb⟩ := more.splitAt
    obtain ⟨first, rfl, hfirst⟩ := spells_sign spells
    obtain ⟨last, rfl, hlast⟩ := spells_sign hbody'
    have hgroup := hscan.braces first last a hfirst hlast (hls a ha)
    cases hb with
    | nil blank' =>
      have hall := hscan.append _ _ (hblank _ blank) (hscan.append _ _ hgroup (hblank _ blank'))
      simpa using hall

mutual

theorem term (hscan : Scan outer inner) (t : Term) {gs : List Glyph} (h : Spread t.lexemes gs) :
    outer gs := by
  cases t with
  | literal contents => exact hscan.flat (by simp [Term.lexemes, Lexeme.isPlain]) h
  | reference name => exact hscan.flat (isPlain_dottedName name) h
  | array items =>
    exact hscan.braced (fun a ha => hscan.list (fun ls hls b hb => terms hscan items hls hb) ha) h

theorem terms (hscan : Scan outer inner) (ts : List Term) {ls : List Lexeme}
    (hls : ls ∈ Term.lexemesOfAll ts) {gs : List Glyph} (h : Spread ls gs) : outer gs := by
  cases ts with
  | nil => cases hls
  | cons t ts =>
    rcases List.mem_cons.1 hls with rfl | hls
    · exact term hscan t h
    · exact terms hscan ts hls h

end

theorem namedTerm (hscan : Scan outer inner) (a : NamedTerm) {gs : List Glyph}
    (h : Spread a.lexemes gs) : outer gs := by
  obtain ⟨x, y, rfl, hx, hy⟩ := Spread.split (show Spread ([.word a.key, .sign '='] ++ a.term.lexemes) gs from h)
  exact hscan.append x y (hscan.flat (by simp [Lexeme.isPlain, structural]) hx) (hscan.term a.term hy)

/-- Arguments one by one. -/
theorem argument (hscan : Scan outer inner) (a : ArgumentList) {ls : List Lexeme}
    (hls : ls ∈ a.before.map NamedTerm.lexemes ++ a.unnamed.toList.map Term.lexemes ++
      a.after.map NamedTerm.lexemes) {gs : List Glyph} (h : Spread ls gs) : outer gs := by
  simp only [List.mem_append, List.mem_map] at hls
  rcases hls with (⟨n, -, rfl⟩ | ⟨t, -, rfl⟩) | ⟨n, -, rfl⟩
  · exact hscan.namedTerm n h
  · exact hscan.term t h
  · exact hscan.namedTerm n h

theorem arguments (hscan : Scan outer inner) (a : ArgumentList) {gs : List Glyph}
    (h : Spread a.lexemes gs) : inner gs :=
  hscan.list (fun _ hls _ hb => hscan.argument a hls hb) h

end Scan

/-! ## Brackets of annotations and parameters -/

section

variable {o c : Char} {gs : List Glyph}

theorem balanced_flat (hk : IsBracket o c) {ls : List Lexeme} (hls : ∀ l ∈ ls, l.isPlain = true)
    (h : Spread ls gs) : Balanced o c (codes gs) :=
  (scan_balanced hk).flat hls h

theorem balanced_blank (hk : IsBracket o c) (h : isBlankStretch gs = true) : Balanced o c (codes gs) :=
  (scan_balanced hk).plain gs (plain_of_isBlankStretch h)

theorem balanced_append {a b : List Glyph} (ha : Balanced o c (codes a)) (hb : Balanced o c (codes b)) :
    Balanced o c (codes (a ++ b)) := by
  rw [codes_append]
  exact ha.append hb

/-- Parentheses around balanced lexemes. -/
theorem balanced_parens (hk : IsBracket o c) {ls : List Lexeme}
    (hls : ∀ a, Spread ls a → Balanced o c (codes a)) (h : Spread (.sign '(' :: ls ++ [.sign ')']) gs) :
    Balanced o c (codes gs) := by
  cases h with
  | cons blank spells ends more =>
    obtain ⟨a, body', b, rfl, ha, hbody', -, hb⟩ := more.splitAt
    obtain ⟨first, rfl, hfirst⟩ := spells_sign spells
    obtain ⟨last, rfl, hlast⟩ := spells_sign hbody'
    have hgroup := (hls a ha).parens hk
    rw [← hfirst, ← hlast] at hgroup
    cases hb with
    | nil blank' =>
      have hall := (balanced_blank hk blank).append (hgroup.append (balanced_blank hk blank'))
      simpa using hall

theorem balanced_note (hk : IsBracket o c) (n : Note) (h : Spread n.lexemes gs) :
    Balanced o c (codes gs) := by
  obtain ⟨a, b, rfl, ha, hb⟩ := Spread.split (show Spread ((.sign '@' :: n.name.lexemes) ++ _) gs from h)
  apply balanced_append
  · apply balanced_flat hk _ ha
    intro l hl
    rcases List.mem_cons.1 hl with rfl | hl
    · rfl
    · exact Scan.isPlain_dottedName n.name l hl
  · cases harguments : n.arguments with
    | none =>
      rw [harguments] at hb
      exact balanced_flat hk (by simp) hb
    | some args =>
      rw [harguments] at hb
      exact balanced_parens hk (fun x hx => (scan_balanced hk).arguments args hx) hb

/-- Balanced parts make a balanced whole. -/
theorem balanced_flatMap {α : Type} {f : α → List Lexeme} {xs : List α}
    (hf : ∀ x ∈ xs, ∀ a, Spread (f x) a → Balanced o c (codes a)) (hk : IsBracket o c)
    (h : Spread (xs.flatMap f) gs) : Balanced o c (codes gs) := by
  induction xs generalizing gs with
  | nil => exact balanced_flat hk (by simp) h
  | cons x xs ih =>
    obtain ⟨a, b, rfl, ha, hb⟩ := Spread.split h
    exact balanced_append (hf x List.mem_cons_self a ha)
      (ih (fun y hy => hf y (List.mem_cons_of_mem x hy)) hb)

theorem balanced_notes (hk : IsBracket o c) (notes : List Note)
    (h : Spread (notes.flatMap Note.lexemes) gs) : Balanced o c (codes gs) :=
  balanced_flatMap (fun n _ _ ha => balanced_note hk n ha) hk h

/-- A sign that is no bracket of the kind searched for. -/
theorem balanced_sign {x : Char} {known : x ∈ signs} (ho : x ≠ o) (hc : x ≠ c) {body : List Glyph}
    (h : (Lexeme.sign x known).Spells body) : Balanced o c (codes body) := by
  rw [show codes body = [x] from h]
  exact balanced_of_notMem (by simpa using Ne.symm ho) (by simpa using Ne.symm hc)

theorem balanced_typePieces (hk : IsBracket o c) (pieces : List TypePiece)
    (h : Spread (pieces.map TypePiece.lexeme) gs) : Balanced o c (codes gs) := by
  refine h.induct (fun gap hgap => balanced_blank hk hgap) (fun a b ha hb => balanced_append ha hb) ?_
  intro l hl body hbody
  obtain ⟨piece, -, rfl⟩ := List.mem_map.1 hl
  cases piece with
  | word n => exact (scan_balanced hk).plain body (hbody.plain rfl)
  | sign x known =>
    have hall : ∀ d ∈ typeSigns, d ≠ '(' ∧ d ≠ ')' ∧ d ≠ '{' ∧ d ≠ '}' :=
      List.forall_iff_forall_mem.1 (by decide)
    obtain ⟨h₁, h₂, h₃, h₄⟩ := hall x known
    rcases hk with ⟨rfl, rfl⟩ | ⟨rfl, rfl⟩
    · exact balanced_sign h₁ h₂ hbody
    · exact balanced_sign h₃ h₄ hbody

theorem balanced_parameter (hk : IsBracket o c) (p : Parameter) (h : Spread p.lexemes gs) :
    Balanced o c (codes gs) := by
  obtain ⟨x, d, rfl, hx, hd⟩ := Spread.split h
  obtain ⟨a, b, rfl, ha, hb⟩ := Spread.split hx
  exact balanced_append
    (balanced_append (balanced_notes hk p.notes ha) (balanced_typePieces hk p.type hb))
    (balanced_flat hk (by simp [Lexeme.isPlain]) hd)

theorem balanced_parameterList (hk : IsBracket o c) (ps : List Parameter)
    (h : Spread (listed (ps.map Parameter.lexemes)) gs) : Balanced o c (codes gs) := by
  apply (scan_balanced hk).list _ h
  intro ls hls a ha
  obtain ⟨p, -, rfl⟩ := List.mem_map.1 hls
  exact balanced_parameter hk p ha

theorem balanced_opening (hk : IsBracket o c) (notes : List Note) (modifiers : List Modifier)
    (keyword name : Name) (h : Spread (Outline.opening notes modifiers keyword name) gs) :
    Balanced o c (codes gs) := by
  obtain ⟨x, d, rfl, hx, hd⟩ := Spread.split h
  obtain ⟨a, b, rfl, ha, hb⟩ := Spread.split hx
  refine balanced_append (balanced_append (balanced_notes hk notes ha) (balanced_flat hk ?_ hb))
    (balanced_flat hk (by simp [Lexeme.isPlain]) hd)
  intro l hl
  obtain ⟨m, -, rfl⟩ := List.mem_map.1 hl
  rfl

mutual

/-- The braces of a declaration are closed in it. -/
theorem balanced_outline (out : Outline) {gs : List Glyph} (h : Spread out.lexemes gs) :
    Balanced '{' '}' (codes gs) := by
  have hk : IsBracket '{' '}' := .inr ⟨rfl, rfl⟩
  cases out with
  | method notes modifiers name parameters body =>
    obtain ⟨x, d, rfl, hx, hd⟩ := Spread.split h
    obtain ⟨a, b, rfl, ha, hb⟩ := Spread.split hx
    refine balanced_append (balanced_append (balanced_opening hk notes modifiers _ _ ha)
      (balanced_parens hk (fun y hy => balanced_parameterList hk parameters hy) hb)) ?_
    refine hd.induct (fun gap hgap => balanced_blank hk hgap) (fun a b ha hb => balanced_append ha hb) ?_
    intro l hl text htext
    rw [List.mem_singleton.1 hl] at htext
    cases body with
    | none => exact balanced_sign (by decide) (by decide) htext
    | some b =>
      rw [show codes text = '{' :: b.text ++ ['}'] from htext]
      exact balanced_block b
  | type notes modifiers kind name members =>
    rw [Outline.lexemes, List.append_assoc] at h
    obtain ⟨a, b, rfl, ha, hb⟩ := Spread.split h
    apply balanced_append (balanced_opening hk notes modifiers _ _ ha)
    exact (scan_balanced hk).braced (fun y hy => balanced_outlines members hy) hb

theorem balanced_outlines (outs : List Outline) {gs : List Glyph}
    (h : Spread (Outline.lexemesOfAll outs) gs) : Balanced '{' '}' (codes gs) := by
  cases outs with
  | nil => exact balanced_flat (.inr ⟨rfl, rfl⟩) (by simp [Outline.lexemesOfAll]) h
  | cons out outs =>
    obtain ⟨a, b, rfl, ha, hb⟩ := Spread.split h
    exact balanced_append (balanced_outline out ha) (balanced_outlines outs hb)

end

end

/-! ## Finding what brackets enclose -/

/-- What stands between two signs, if their brackets are those of the signs. -/
theorem Spread.enclose {o c : Char} (hk : IsBracket o c) {ho : o ∈ signs} {hc : c ∈ signs}
    {ls ls' : List Lexeme} (hls : ∀ a, Spread ls a → Balanced o c (codes a)) {gs : List Glyph}
    (h : Spread (.sign o ho :: ls ++ .sign c hc :: ls') gs) :
    ∃ gap first inside last after, gs = gap ++ (first :: inside ++ last :: after) ∧
      isBlankStretch gap = true ∧ first.code = o ∧ last.code = c ∧
      enclose o c (first :: inside ++ last :: after) = ⟨inside, some last, after⟩ ∧
      Spread ls inside ∧ Spread ls' after := by
  cases h with
  | cons blank spells ends more =>
    obtain ⟨inside, body', after, rfl, hinside, hbody', -, hafter⟩ := more.splitAt
    obtain ⟨first, rfl, hfirst⟩ := spells_sign spells
    obtain ⟨last, rfl, hlast⟩ := spells_sign hbody'
    exact ⟨_, first, inside, last, after, rfl, blank, hfirst, hlast,
      enclose_eq hk.ne hfirst hlast (hls inside hinside) after, hinside, hafter⟩

/-- A list is split into its parts. -/
theorem Spread.splitTopLevel {ls : List Lexeme} {lss : List (List Lexeme)}
    (hlss : ∀ x ∈ ls :: lss, ∀ a, Spread x a → Whole 0 a) {gs : List Glyph}
    (h : Spread (listed (ls :: lss)) gs) :
    ∃ pieces, splitTopLevel 0 gs = pieces ∧ List.Forall₂ Spread (ls :: lss) pieces := by
  induction lss generalizing ls gs with
  | nil =>
    have hwhole := hlss ls List.mem_cons_self gs h 0 (Int.le_refl 0) []
    rw [List.append_nil] at hwhole
    refine ⟨[gs], ?_, .cons h .nil⟩
    rw [hwhole]
    simp [Pattern.splitTopLevel, prepend]
  | cons ls' lss ih =>
    obtain ⟨a, body, b, rfl, ha, hbody, -, hb⟩ :=
      Spread.splitAt (show Spread (ls ++ .sign ',' :: listed (ls' :: lss)) gs from h)
    obtain ⟨g, rfl, hg⟩ := spells_sign hbody
    obtain ⟨pieces, hpieces, hspread⟩ := ih (fun x hx => hlss x (List.mem_cons_of_mem ls hx)) hb
    refine ⟨a :: pieces, ?_, .cons ha hspread⟩
    -- the comma between two members ends the part of the first one
    have hcomma : Pattern.splitTopLevel 0 (g :: b) = [] :: pieces := by
      rw [Pattern.splitTopLevel, if_pos (by simp [hg]), hpieces]
    rw [hlss ls List.mem_cons_self a ha 0 (Int.le_refl 0), List.singleton_append, hcomma, prepend,
      List.append_nil]

end EndpointIndex.Source
