/-!
# Masked source

Comments and the contents of literals are blanked out, so that brackets, `@` and names in them are
not seen. The masked text keeps its length, its line feeds and the quotes of literals, so the two are
read side by side as a list of glyphs. Main facts: `length_mask`, `codes_glyphs`.
-/

namespace EndpointIndex.Source

/-- A blanked character: line feeds stay. -/
def blankOut (c : Char) : Char := if c = '\n' then '\n' else ' '

/-- Splits after the first `*/`; a comment that never ends takes the rest. -/
def splitBlockComment : List Char → List Char × List Char
  | '*' :: '/' :: r => (['*', '/'], r)
  | c :: r =>
    let (body, rest) := splitBlockComment r
    (c :: body, rest)
  | [] => ([], [])

/-- Splits before the first three double quotes. -/
def splitTextBlock : List Char → List Char × List Char
  | '"' :: '"' :: '"' :: r => ([], '"' :: '"' :: '"' :: r)
  | c :: r =>
    let (body, rest) := splitTextBlock r
    (c :: body, rest)
  | [] => ([], [])

/-- Splits before the closing quote or the end of the line. A backslash takes the next character
with it, whatever it is. -/
def splitLiteral (quote : Char) : List Char → List Char × List Char
  | [] => ([], [])
  | c :: r =>
    if c = quote || c = '\n' then ([], c :: r)
    else if c = '\\' then
      match r with
      | [] => ([c], [])
      | d :: r' =>
        let (body, rest) := splitLiteral quote r'
        (c :: d :: body, rest)
    else
      let (body, rest) := splitLiteral quote r
      (c :: body, rest)

theorem splitBlockComment_append (s : List Char) :
    (splitBlockComment s).1 ++ (splitBlockComment s).2 = s := by
  fun_induction splitBlockComment s <;> simp_all

theorem splitTextBlock_append (s : List Char) :
    (splitTextBlock s).1 ++ (splitTextBlock s).2 = s := by
  fun_induction splitTextBlock s <;> simp_all

theorem splitLiteral_append (quote : Char) (s : List Char) :
    (splitLiteral quote s).1 ++ (splitLiteral quote s).2 = s := by
  fun_induction splitLiteral quote s <;> simp_all

/-- A literal after its opening quote: what it is masked to, quotes included, and the text after it. -/
def maskLiteral (quote : Char) (s : List Char) : List Char × List Char :=
  let opened := quote :: (splitLiteral quote s).1.map blankOut
  match (splitLiteral quote s).2 with
  | [] => (opened, [])
  | d :: rest => if d = quote then (opened ++ [quote], rest) else (opened, d :: rest)

theorem length_maskLiteral (quote : Char) (s : List Char) :
    (maskLiteral quote s).1.length + (maskLiteral quote s).2.length = s.length + 1 := by
  have h := congrArg List.length (splitLiteral_append quote s)
  rw [List.length_append] at h
  unfold maskLiteral
  cases hr : (splitLiteral quote s).2 with
  | nil =>
    simp only [hr, List.length_nil] at h
    simp only [List.length_cons, List.length_map, List.length_nil]
    omega
  | cons d rest =>
    simp only [hr, List.length_cons] at h
    by_cases hd : d = quote
    · simp only [hd, ↓reduceIte, List.length_append, List.length_cons, List.length_map,
        List.length_nil]
      omega
    · simp only [hd, ↓reduceIte, List.length_cons, List.length_map]
      omega

theorem maskLiteral_ne_nil (quote : Char) (s : List Char) : (maskLiteral quote s).1 ≠ [] := by
  unfold maskLiteral
  split
  · exact List.cons_ne_nil _ _
  · split <;> exact List.cons_ne_nil _ _

/-- The first unit of a text: what it is masked to, and the text after it. -/
def maskUnit : List Char → List Char × List Char
  | [] => ([], [])
  | '/' :: '/' :: r =>
    -- the line feed is left to the next unit
    ((('/' :: '/' :: r).takeWhile (· ≠ '\n')).map blankOut, r.dropWhile (· ≠ '\n'))
  | '/' :: '*' :: r =>
    let (body, rest) := splitBlockComment r
    (('/' :: '*' :: body).map blankOut, rest)
  | '"' :: '"' :: '"' :: r =>
    let (body, rest) := splitTextBlock r
    -- where the block does not end, nothing is left to take the closing quotes from
    (['"', '"', '"'] ++ body.map blankOut ++ rest.take 3, rest.drop 3)
  | c :: r => if c = '"' || c = '\'' then maskLiteral c r else ([c], r)

theorem maskUnit_length (s : List Char) :
    (maskUnit s).1.length + (maskUnit s).2.length = s.length := by
  fun_cases maskUnit s with
  | case1 => rfl
  | case2 r =>
    have h := congrArg List.length (List.takeWhile_append_dropWhile (p := (· ≠ '\n')) (l := r))
    simp only [List.length_append] at h
    simp at h ⊢
    omega
  | case3 r body rest hs =>
    have h := congrArg List.length (splitBlockComment_append r)
    simp [hs] at h
    simp
    omega
  | case4 r body rest hs =>
    have h := congrArg List.length (splitTextBlock_append r)
    simp [hs] at h
    simp
    omega
  | case5 c r => rw [length_maskLiteral, List.length_cons]
  | case6 c r => simp only [List.length_cons, List.length_nil]; omega

theorem maskUnit_ne_nil {s : List Char} (h : s ≠ []) : (maskUnit s).1 ≠ [] := by
  fun_cases maskUnit s with
  | case1 => exact absurd rfl h
  | case2 r => exact List.cons_ne_nil _ _
  | case3 r body rest hs => exact List.cons_ne_nil _ _
  | case4 r body rest hs => exact List.cons_ne_nil _ _
  | case5 c r => exact maskLiteral_ne_nil c r
  | case6 c r => exact List.cons_ne_nil _ _

theorem maskUnit_rest_lt {s : List Char} (h : s ≠ []) :
    (maskUnit s).2.length < s.length := by
  have hlen := maskUnit_length s
  have hpos := List.length_pos_iff.2 (maskUnit_ne_nil h)
  omega

/-- The text with the contents of comments and literals blanked out. -/
def mask (s : List Char) : List Char :=
  if _h : s = [] then [] else (maskUnit s).1 ++ mask (maskUnit s).2
termination_by s.length
decreasing_by exact maskUnit_rest_lt _h

theorem length_mask (s : List Char) : (mask s).length = s.length := by
  fun_induction mask s with
  | case1 => rfl
  | case2 s h ih => rw [List.length_append, ih, maskUnit_length]

/-- A character of a source text: its offset, the character itself and its masked form. -/
structure Glyph where
  offset : Nat
  raw : Char
  code : Char
  deriving DecidableEq, Repr

/-- Pairs a text that begins at offset `k` with its masked form. -/
def glyphsFrom : Nat → List Char → List Char → List Glyph
  | k, r :: raws, c :: codes => ⟨k, r, c⟩ :: glyphsFrom (k + 1) raws codes
  | _, _, _ => []

def glyphs (text : List Char) : List Glyph := glyphsFrom 0 text (mask text)

/-- The masked characters of a stretch of source. -/
def codes (gs : List Glyph) : List Char := gs.map Glyph.code

/-- The characters of a stretch of source as they were written. -/
def raws (gs : List Glyph) : List Char := gs.map Glyph.raw

theorem codes_glyphsFrom {k : Nat} {text masked : List Char} (h : masked.length = text.length) :
    codes (glyphsFrom k text masked) = masked := by
  induction text generalizing k masked with
  | nil => simp_all [glyphsFrom, codes]
  | cons r text ih =>
    cases masked with
    | nil => simp at h
    | cons c masked =>
      have := ih (k := k + 1) (Nat.succ.inj h)
      simp_all [glyphsFrom, codes]

theorem codes_glyphs (text : List Char) : codes (glyphs text) = mask text :=
  codes_glyphsFrom (length_mask text)

end EndpointIndex.Source
