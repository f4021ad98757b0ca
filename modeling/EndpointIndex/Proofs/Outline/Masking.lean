import EndpointIndex.Proofs.Outline.Spread

/-!
# Masking a laid-out source

Masking goes through a laid-out text piece by piece: a gap becomes blank, a literal keeps its quotes, and
everything else stays as it is. Main fact: the glyphs of a layout spread its lexemes (`spread_glyphs`).
-/

namespace EndpointIndex.Source

open Pattern (isBlankStretch)

/-! ## Units of a text -/

theorem mask_nil : mask [] = [] := by rw [mask, dif_pos rfl]

theorem mask_of_ne_nil {s : List Char} (h : s ≠ []) :
    mask s = (maskUnit s).1 ++ mask (maskUnit s).2 := by
  rw [mask, dif_neg h]

/-- A character that starts neither a comment nor a literal stays. -/
theorem mask_cons {c : Char} (hslash : c ≠ '/') (hquote : c ≠ '"') (hsingle : c ≠ '\'') (r : List Char) :
    mask (c :: r) = c :: mask r := by
  have hunit : maskUnit (c :: r) = ([c], r) := by
    rw [maskUnit]
    · rw [if_neg (by simp [hquote, hsingle])]
    · intro _ hc
      exact absurd hc hslash
    · intro _ hc
      exact absurd hc hslash
    · intro _ hc
      exact absurd hc hquote
  rw [mask_of_ne_nil (List.cons_ne_nil c r), hunit]
  rfl

theorem mask_append_of_plain {s : List Char} (hslash : '/' ∉ s) (hquote : '"' ∉ s) (hsingle : '\'' ∉ s)
    (rest : List Char) : mask (s ++ rest) = s ++ mask rest := by
  induction s with
  | nil => rfl
  | cons c s ih =>
    simp only [List.mem_cons, not_or] at hslash hquote hsingle
    rw [List.cons_append, mask_cons (Ne.symm hslash.1) (Ne.symm hquote.1) (Ne.symm hsingle.1),
      ih hslash.2 hquote.2 hsingle.2, List.cons_append]

theorem isBlank_blankOut (c : Char) : Text.isBlank (blankOut c) = true := by
  unfold blankOut
  split <;> decide

theorem splitBlockComment_of_unclosed {s : List Char} (h : ¬ ['*', '/'] <:+: s) (rest : List Char) :
    splitBlockComment (s ++ '*' :: '/' :: rest) = (s ++ ['*', '/'], rest) := by
  induction s with
  | nil => rfl
  | cons c s ih =>
    have hs : ¬ ['*', '/'] <:+: s := fun hinfix => h (List.infix_cons_iff.2 (.inr hinfix))
    rw [List.cons_append, splitBlockComment]
    · rw [ih hs]
      rfl
    · -- the comment does not end at its first character, or it would have ended earlier
      rintro r rfl hr
      cases s with
      | nil => simp at hr
      | cons d s =>
        simp only [List.cons_append, List.cons.injEq] at hr
        apply h
        rw [hr.1]
        exact ⟨[], s, rfl⟩

/-! ## Gaps -/

/-- A filler becomes as many blanks. -/
theorem mask_filler (f : Filler) :
    ∃ m : List Char, m.length = f.chars.length ∧ (∀ c ∈ m, Text.isBlank c = true) ∧
      ∀ rest, mask (f.chars ++ rest) = m ++ mask rest := by
  have hnewline : ∀ rest, mask ('\n' :: rest) = '\n' :: mask rest :=
    mask_cons (by decide) (by decide) (by decide)
  cases f with
  | blank c hc =>
    refine ⟨[c], rfl, by simpa using hc, fun rest => ?_⟩
    apply mask_cons
    · rintro rfl
      cases hc
    · rintro rfl
      cases hc
    · rintro rfl
      cases hc
  | lineComment text oneLine =>
    refine ⟨('/' :: '/' :: text).map blankOut ++ ['\n'], by simp [Filler.chars], ?_, fun rest => ?_⟩
    · intro c hc
      rcases List.mem_append.1 hc with hc | hc
      · obtain ⟨d, -, rfl⟩ := List.mem_map.1 hc
        exact isBlank_blankOut d
      · rw [List.mem_singleton.1 hc]
        decide
    · have htext : ∀ d ∈ text, decide (d ≠ '\n') = true := by
        intro d hd
        rw [decide_eq_true_eq]
        rintro rfl
        exact oneLine hd
      have htake : (('/' :: '/' :: (text ++ '\n' :: rest)).takeWhile (· ≠ '\n')) = '/' :: '/' :: text := by
        rw [List.takeWhile_cons_of_pos (by decide), List.takeWhile_cons_of_pos (by decide),
          List.takeWhile_append_of_pos htext, List.takeWhile_cons_of_neg (by decide), List.append_nil]
      have hdrop : (text ++ '\n' :: rest).dropWhile (· ≠ '\n') = '\n' :: rest := by
        rw [List.dropWhile_append_of_pos htext, List.dropWhile_cons_of_neg (by decide)]
      have hchars : (Filler.lineComment text oneLine).chars ++ rest
          = '/' :: '/' :: (text ++ '\n' :: rest) := by simp [Filler.chars]
      rw [hchars, mask_of_ne_nil (List.cons_ne_nil _ _), maskUnit, htake, hdrop, hnewline,
        List.append_assoc]
      rfl
  | blockComment text unclosed =>
    refine ⟨('/' :: '*' :: (text ++ ['*', '/'])).map blankOut, by simp [Filler.chars], ?_, fun rest => ?_⟩
    · intro c hc
      obtain ⟨d, -, rfl⟩ := List.mem_map.1 hc
      exact isBlank_blankOut d
    · have hchars : (Filler.blockComment text unclosed).chars ++ rest
          = '/' :: '*' :: (text ++ '*' :: '/' :: rest) := by simp [Filler.chars]
      rw [hchars, mask_of_ne_nil (List.cons_ne_nil _ _), maskUnit,
        splitBlockComment_of_unclosed unclosed]

theorem mask_gap (gap : List Filler) :
    ∃ m : List Char, m.length = (gap.flatMap Filler.chars).length ∧ (∀ c ∈ m, Text.isBlank c = true) ∧
      ∀ rest, mask (gap.flatMap Filler.chars ++ rest) = m ++ mask rest := by
  induction gap with
  | nil => exact ⟨[], rfl, by simp, fun rest => rfl⟩
  | cons f gap ih =>
    obtain ⟨m, hlength, hblank, hmask⟩ := mask_filler f
    obtain ⟨m', hlength', hblank', hmask'⟩ := ih
    refine ⟨m ++ m', by simp [hlength, hlength'], ?_, fun rest => ?_⟩
    · intro c hc
      rcases List.mem_append.1 hc with hc | hc
      · exact hblank c hc
      · exact hblank' c hc
    · rw [List.flatMap_cons, List.append_assoc, hmask, hmask', List.append_assoc]

/-! ## Lexemes -/

/-- The contents of a literal reach to its closing quote. -/
theorem splitLiteral_written (s rest : List Char) :
    splitLiteral '"' (s.flatMap writeLiteralChar ++ '"' :: rest) =
      (s.flatMap writeLiteralChar, '"' :: rest) := by
  induction s with
  | nil =>
    rw [List.flatMap_nil, List.nil_append, splitLiteral.eq_def]
    rfl
  | cons c s ih =>
    rw [List.flatMap_cons, List.append_assoc]
    -- three characters are written with a backslash, which the split skips with the one after it
    by_cases hbackslash : c = '\\'
    · subst hbackslash
      change splitLiteral '"' ('\\' :: '\\' :: (s.flatMap writeLiteralChar ++ '"' :: rest)) = _
      rw [splitLiteral, if_neg (by decide), if_pos rfl, ih]
      rfl
    · by_cases hquote : c = '"'
      · subst hquote
        change splitLiteral '"' ('\\' :: '"' :: (s.flatMap writeLiteralChar ++ '"' :: rest)) = _
        rw [splitLiteral, if_neg (by decide), if_pos rfl, ih]
        rfl
      · by_cases hnewline : c = '\n'
        · subst hnewline
          change splitLiteral '"' ('\\' :: 'n' :: (s.flatMap writeLiteralChar ++ '"' :: rest)) = _
          rw [splitLiteral, if_neg (by decide), if_pos rfl, ih]
          rfl
        · have hwrite : writeLiteralChar c = [c] := by
            rw [writeLiteralChar, if_neg hbackslash, if_neg hquote, if_neg hnewline]
          rw [hwrite, List.singleton_append, splitLiteral.eq_def]
          simp only [hquote, hnewline, hbackslash, decide_false, Bool.or_self, Bool.false_eq_true, if_false,
            ih]
          rfl

/-- No written contents start with a quote. -/
theorem head?_writeContents (contents : String) : (writeContents contents).head? ≠ some '"' := by
  unfold writeContents
  cases contents.toList with
  | nil => simp
  | cons c s =>
    rw [List.flatMap_cons, writeLiteralChar]
    split
    · simp
    · split
      · simp
      · split
        · simp
        · simpa using ‹¬ c = '"'›

theorem mask_literal {contents : String} {rest : List Char} (hrest : rest.head? ≠ some '"') :
    mask ((Lexeme.literal contents).chars ++ rest) =
      '"' :: (writeContents contents).map blankOut ++ '"' :: mask rest := by
  have hchars : (Lexeme.literal contents).chars ++ rest = '"' :: (writeContents contents ++ '"' :: rest) := by
    simp [Lexeme.chars]
  have hsplit : splitLiteral '"' (writeContents contents ++ '"' :: rest) =
      (writeContents contents, '"' :: rest) := splitLiteral_written contents.toList rest
  have hmask : maskLiteral '"' (writeContents contents ++ '"' :: rest) =
      ('"' :: (writeContents contents).map blankOut ++ ['"'], rest) := by
    rw [maskLiteral, hsplit]
    simp
  have hunit : maskUnit ('"' :: (writeContents contents ++ '"' :: rest)) =
      maskLiteral '"' (writeContents contents ++ '"' :: rest) := by
    rw [maskUnit]
    · simp
    · simp
    · simp
    · -- three quotes in a row would be contents or a rest that start with one
      intro r _ hr
      have hhead := head?_writeContents contents
      cases hwritten : writeContents contents with
      | nil =>
        rw [hwritten] at hr
        simp only [List.nil_append, List.cons.injEq, true_and] at hr
        rw [hr] at hrest
        exact hrest rfl
      | cons d s =>
        rw [hwritten] at hr hhead
        simp only [List.cons_append, List.cons.injEq] at hr
        rw [hr.1] at hhead
        exact hhead rfl
  rw [hchars, mask_of_ne_nil (List.cons_ne_nil _ _), hunit, hmask]
  simp

/-! ## The glyphs of a layout -/

theorem glyphsFrom_append {k : Nat} {a b a' b' : List Char} (h : a'.length = a.length) :
    glyphsFrom k (a ++ b) (a' ++ b') = glyphsFrom k a a' ++ glyphsFrom (k + a.length) b b' := by
  induction a generalizing k a' with
  | nil =>
    rw [List.length_nil, List.length_eq_zero_iff] at h
    subst h
    rfl
  | cons c a ih =>
    cases a' with
    | nil => cases h
    | cons c' a' =>
      have hlength : a'.length = a.length := Nat.succ.inj h
      rw [List.cons_append, List.cons_append, glyphsFrom, glyphsFrom, ih hlength, List.cons_append,
        List.length_cons, Nat.add_assoc, Nat.add_comm 1]

theorem raws_glyphsFrom {k : Nat} {a a' : List Char} (h : a'.length = a.length) :
    raws (glyphsFrom k a a') = a := by
  induction a generalizing k a' with
  | nil => simp [glyphsFrom, raws]
  | cons c a ih =>
    cases a' with
    | nil => cases h
    | cons c' a' =>
      have hraws := ih (k := k + 1) (Nat.succ.inj h)
      rw [glyphsFrom]
      exact congrArg (c :: ·) hraws

theorem isBlankStretch_glyphsFrom {k : Nat} {a m : List Char} (h : m.length = a.length)
    (hblank : ∀ c ∈ m, Text.isBlank c = true) : isBlankStretch (glyphsFrom k a m) = true := by
  rw [isBlankStretch, List.all_eq_true]
  intro g hg
  apply hblank
  rw [← codes_glyphsFrom (k := k) h]
  exact List.mem_map_of_mem hg

/-- A text of nothing but fillers is blank. -/
theorem isBlankStretch_fillers (gap : List Filler) (k : Nat) :
    isBlankStretch (glyphsFrom k (gap.flatMap Filler.chars) (mask (gap.flatMap Filler.chars))) = true := by
  obtain ⟨m, hlength, hblank, hmask⟩ := mask_gap gap
  have hgap := hmask []
  rw [mask_nil, List.append_nil, List.append_nil] at hgap
  rw [hgap]
  exact isBlankStretch_glyphsFrom hlength hblank

theorem plain_of_isNamePart {s : List Char} (h : ∀ c ∈ s, Text.isNamePart c = true) :
    '/' ∉ s ∧ '"' ∉ s ∧ '\'' ∉ s := by
  refine ⟨fun hc => ?_, fun hc => ?_, fun hc => ?_⟩ <;> exact absurd (h _ hc) (by decide)

/-- The glyphs of a lexeme spell it. A literal must not be followed by a quote. -/
theorem mask_lexeme (l : Lexeme) {rest : List Char}
    (hrest : l.isLiteral = true → rest.head? ≠ some '"') :
    ∃ m, m.length = l.chars.length ∧ mask (l.chars ++ rest) = m ++ mask rest ∧
      ∀ k, l.Spells (glyphsFrom k l.chars m) := by
  cases l with
  | word n =>
    obtain ⟨c, r, htext, -, hparts⟩ := n.chars_eq
    obtain ⟨hslash, hquote, hsingle⟩ := plain_of_isNamePart hparts
    refine ⟨n.text.toList, rfl, ?_, fun k => codes_glyphsFrom rfl⟩
    rw [Lexeme.chars, htext]
    exact mask_append_of_plain hslash hquote hsingle rest
  | sign c known =>
    have hplain : ∀ d ∈ signs, d ≠ '/' ∧ d ≠ '"' ∧ d ≠ '\'' :=
      List.forall_iff_forall_mem.1 (by decide)
    obtain ⟨hslash, hquote, hsingle⟩ := hplain c known
    exact ⟨[c], rfl, mask_cons hslash hquote hsingle rest, fun k => rfl⟩
  | literal contents =>
    refine ⟨'"' :: (writeContents contents).map blankOut ++ ['"'], by simp [Lexeme.chars], ?_, fun k => ?_⟩
    · rw [mask_literal (hrest rfl), List.append_assoc]
      rfl
    · have hlength : ((writeContents contents).map blankOut).length = (writeContents contents).length :=
        List.length_map _
      refine ⟨⟨k, '"', '"'⟩, glyphsFrom (k + 1) (writeContents contents) ((writeContents contents).map blankOut),
        ⟨k + 1 + (writeContents contents).length, '"', '"'⟩, ?_, rfl, rfl, ?_, raws_glyphsFrom hlength⟩
      · rw [Lexeme.chars, List.cons_append, List.cons_append, glyphsFrom, glyphsFrom_append hlength]
        rfl
      · apply isBlankStretch_glyphsFrom hlength
        intro c hc
        obtain ⟨d, -, rfl⟩ := List.mem_map.1 hc
        exact isBlank_blankOut d
  | block b =>
    refine ⟨_, rfl, mask_append_of_plain ?_ ?_ ?_ rest, fun k => codes_glyphsFrom rfl⟩
    · simpa [Lexeme.chars] using b.uncommented
    · simpa [Lexeme.chars] using b.unquoted.1
    · simpa [Lexeme.chars] using b.unquoted.2

/-- What a filler starts with is no quote. -/
theorem head?_filler (f : Filler) : ∃ c r, f.chars = c :: r ∧ c ≠ '"' := by
  cases f with
  | blank c hc =>
    refine ⟨c, [], rfl, ?_⟩
    rintro rfl
    cases hc
  | lineComment text _ => exact ⟨'/', _, rfl, by decide⟩
  | blockComment text _ => exact ⟨'/', _, rfl, by decide⟩

/-- What a lexeme starts with is no quote, unless it is a literal. -/
theorem head?_lexeme {l : Lexeme} (h : l.isLiteral = false) : ∃ c r, l.chars = c :: r ∧ c ≠ '"' := by
  cases l with
  | word n =>
    obtain ⟨c, r, htext, -, hparts⟩ := n.chars_eq
    refine ⟨c, r, htext, ?_⟩
    rintro rfl
    exact absurd (hparts _ List.mem_cons_self) (by decide)
  | sign c known =>
    have hplain : ∀ d ∈ signs, d ≠ '"' := List.forall_iff_forall_mem.1 (by decide)
    exact ⟨c, [], rfl, hplain c known⟩
  | literal contents => cases h
  | block b => exact ⟨'{', _, rfl, by decide⟩

/-- Two literals do not follow each other. -/
def Lexeme.NotBothLiteral (l l' : Lexeme) : Prop := l.isLiteral = true → l'.isLiteral = false

theorem head?_fillers_append {gap : List Filler} {rest : List Char}
    (h : gap = [] → rest.head? ≠ some '"') : (gap.flatMap Filler.chars ++ rest).head? ≠ some '"' := by
  cases gap with
  | nil => exact h rfl
  | cons f gap =>
    obtain ⟨c, r, hchars, hc⟩ := head?_filler f
    rw [List.flatMap_cons, hchars]
    simpa using hc

/-- After a literal comes no quote. -/
theorem head?_after_literal {p : Placed} {placed : List Placed} {ending : List Filler}
    (hliterals : ((p :: placed).map Placed.lexeme).IsChain Lexeme.NotBothLiteral)
    (hp : p.lexeme.isLiteral = true) :
    (placed.flatMap Placed.chars ++ ending.flatMap Filler.chars).head? ≠ some '"' := by
  cases placed with
  | nil =>
    have hending : (ending.flatMap Filler.chars ++ []).head? ≠ some '"' := head?_fillers_append (by simp)
    rwa [List.append_nil] at hending
  | cons q placed =>
    rw [List.map_cons, List.map_cons, List.isChain_cons_cons] at hliterals
    obtain ⟨c, r, hchars, hc⟩ := head?_lexeme (hliterals.1 hp)
    rw [List.flatMap_cons, Placed.chars, List.append_assoc, List.append_assoc]
    apply head?_fillers_append
    intro _
    rw [hchars]
    simpa using hc

/-- Blanks end a name. -/
theorem endsName_of_blank {gap rest : List Glyph} (hgap : isBlankStretch gap = true)
    (h : gap = [] → EndsName rest) : EndsName (gap ++ rest) := by
  cases gap with
  | nil => exact h rfl
  | cons g gap =>
    rintro _ ⟨⟩
    rw [isBlankStretch_cons, Bool.and_eq_true] at hgap
    exact Text.isNamePart_of_isBlank hgap.1

/-- So does every lexeme that is no word. -/
theorem Lexeme.Spells.endsName {l : Lexeme} {body : List Glyph} (h : l.Spells body)
    (hword : l.isWord = false) (rest : List Glyph) : EndsName (body ++ rest) := by
  -- it is enough that the first character is no part of a name
  suffices hhead : ∃ c, (codes body).head? = some c ∧ Text.isNamePart c = false by
    obtain ⟨c, hc, hpart⟩ := hhead
    intro g hg
    cases body with
    | nil => cases hc
    | cons b body =>
      cases hg
      cases hc
      exact hpart
  cases l with
  | word n => cases hword
  | sign c known =>
    rw [show codes body = [c] from h]
    exact ⟨c, rfl, not_isNamePart_of_mem_signs known⟩
  | literal contents =>
    obtain ⟨first, inner, last, rfl, hfirst, -⟩ := h
    exact ⟨'"', by simp [hfirst], by decide⟩
  | block b =>
    rw [show codes body = '{' :: b.text ++ ['}'] from h]
    exact ⟨'{', rfl, by decide⟩

/-- What follows a word in a laid-out text does not continue it. -/
theorem endsName_after_word {p : Placed} {placed : List Placed} (ending : List Filler)
    (hspaced : (p :: placed).IsChain Placed.Apart)
    (hliterals : ((p :: placed).map Placed.lexeme).IsChain Lexeme.NotBothLiteral)
    (hp : p.lexeme.isWord = true) (k : Nat) :
    EndsName (glyphsFrom k (placed.flatMap Placed.chars ++ ending.flatMap Filler.chars)
      (mask (placed.flatMap Placed.chars ++ ending.flatMap Filler.chars))) := by
  cases placed with
  | nil =>
    rw [List.flatMap_nil, List.nil_append, ← List.append_nil (glyphsFrom _ _ _)]
    apply endsName_of_blank (isBlankStretch_fillers ending k)
    rintro _ _ ⟨⟩
  | cons q placed =>
    have hapart := (List.isChain_cons_cons.1 hspaced).1 hp
    have hliterals' : ((q :: placed).map Placed.lexeme).IsChain Lexeme.NotBothLiteral := hliterals.tail
    obtain ⟨m, hlength, hblank, hmask⟩ := mask_gap q.gap
    obtain ⟨m', hlength', hmask', hspells⟩ := mask_lexeme q.lexeme (head?_after_literal hliterals')
    rw [List.flatMap_cons, Placed.chars, List.append_assoc, List.append_assoc, hmask, hmask',
      glyphsFrom_append hlength, glyphsFrom_append hlength']
    apply endsName_of_blank (isBlankStretch_glyphsFrom hlength hblank)
    intro hgap
    -- without a gap the next lexeme is no word
    cases hq : q.lexeme.isWord with
    | false => exact (hspells _).endsName hq _
    | true =>
      have hm : m = [] := by
        cases m with
        | nil => rfl
        | cons c m =>
          cases htext : q.gap.flatMap Filler.chars with
          | nil => rw [htext] at hlength; cases hlength
          | cons d r => rw [htext, glyphsFrom] at hgap; cases hgap
      rw [hm, eq_comm, List.length_nil, List.length_eq_zero_iff, List.flatMap_eq_nil_iff] at hlength
      exfalso
      apply hapart hq
      apply List.eq_nil_iff_forall_not_mem.2
      intro f hf
      obtain ⟨c, r, hchars, -⟩ := head?_filler f
      rw [hlength f hf] at hchars
      cases hchars

/-- The glyphs of a laid-out text spread its lexemes. -/
theorem spread_glyphsFrom {placed : List Placed} (ending : List Filler)
    (hspaced : placed.IsChain Placed.Apart)
    (hliterals : (placed.map Placed.lexeme).IsChain Lexeme.NotBothLiteral) (k : Nat) :
    Spread (placed.map Placed.lexeme)
      (glyphsFrom k (placed.flatMap Placed.chars ++ ending.flatMap Filler.chars)
        (mask (placed.flatMap Placed.chars ++ ending.flatMap Filler.chars))) := by
  induction placed generalizing k with
  | nil =>
    rw [List.flatMap_nil, List.nil_append]
    exact .nil (isBlankStretch_fillers ending k)
  | cons p placed ih =>
    have hrest := ih hspaced.tail hliterals.tail
    obtain ⟨m, hlength, hblank, hmask⟩ := mask_gap p.gap
    obtain ⟨m', hlength', hmask', hspells⟩ := mask_lexeme p.lexeme (head?_after_literal hliterals)
    rw [List.flatMap_cons, Placed.chars, List.append_assoc, List.append_assoc, hmask, hmask',
      glyphsFrom_append hlength, glyphsFrom_append hlength', List.map_cons]
    refine .cons (isBlankStretch_glyphsFrom hlength hblank) (hspells _) ?_ (hrest _)
    intro hword
    exact endsName_after_word ending hspaced hliterals hword _

theorem spread_glyphs {lexemes : List Lexeme} (layout : Layout lexemes)
    (hliterals : lexemes.IsChain Lexeme.NotBothLiteral) : Spread lexemes (glyphs layout.text) := by
  have hchain : (layout.placed.map Placed.lexeme).IsChain Lexeme.NotBothLiteral := by
    rwa [layout.complete]
  have hspread := spread_glyphsFrom layout.ending layout.spaced hchain 0
  rwa [layout.complete] at hspread

end EndpointIndex.Source
