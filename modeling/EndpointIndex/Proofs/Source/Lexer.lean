import EndpointIndex.Proofs.Offset.Masking

/-!
# Masking one character at a time

A lexer reads a text from left to right, one character after another. It knows whether it is in code, in
a comment or in a literal, looks at most two characters ahead, and writes for every character either the
character itself or a blank. Main facts: masking a text comes to what the lexer writes
(`mask_eq_written`), and what it writes for two texts in a row is what it writes for each of them, if it
is back in code between them and no delimiter has a part in both (`Lexer.written_append`).
-/

namespace EndpointIndex.Source

/-- What a lexer is reading. -/
inductive Mode where
  | code
  | lineComment
  | blockComment
  /-- A string or a character literal, up to its quote. -/
  | literal (quote : Char)
  | textBlock
  deriving DecidableEq, Repr

/-- The state of a lexer. -/
structure Lexer where
  mode : Mode
  /-- The characters that come next and belong to a delimiter or an escape that has been recognised: for
  each of them, whether it is written as it is. -/
  due : List Bool
  deriving DecidableEq, Repr

namespace Lexer

def start : Lexer := ⟨.code, []⟩

/-- Reads a character. `ahead` are the two characters after it, as far as there are so many. The result
is the next state and the character that is written. -/
def step (ahead : List Char) (c : Char) : Lexer → Lexer × Char
  | ⟨m, keep :: due⟩ => (⟨m, due⟩, if keep then c else blankOut c)
  | ⟨.code, []⟩ =>
    if c = '/' ∧ ahead.head? = some '/' then (⟨.lineComment, []⟩, blankOut c)
    else if c = '/' ∧ ahead.head? = some '*' then (⟨.blockComment, [false]⟩, blankOut c)
    else if c = '"' ∧ ahead = ['"', '"'] then (⟨.textBlock, [true, true]⟩, c)
    else if c = '"' ∨ c = '\'' then (⟨.literal c, []⟩, c)
    else (⟨.code, []⟩, c)
  | ⟨.lineComment, []⟩ => (⟨if c = '\n' then .code else .lineComment, []⟩, blankOut c)
  | ⟨.blockComment, []⟩ =>
    if c = '*' ∧ ahead.head? = some '/' then (⟨.code, [false]⟩, blankOut c)
    else (⟨.blockComment, []⟩, blankOut c)
  | ⟨.literal quote, []⟩ =>
    if c = quote ∨ c = '\n' then (⟨.code, []⟩, c)
    else if c = '\\' then (⟨.literal quote, [false]⟩, blankOut c)
    else (⟨.literal quote, []⟩, blankOut c)
  | ⟨.textBlock, []⟩ =>
    if c = '"' ∧ ahead = ['"', '"'] then (⟨.code, [true, true]⟩, c)
    else (⟨.textBlock, []⟩, blankOut c)

/-- What is written for a text. -/
def written : Lexer → List Char → List Char
  | _, [] => []
  | l, c :: r => (step (r.take 2) c l).2 :: written (step (r.take 2) c l).1 r

/-- The state after a text. -/
def after : Lexer → List Char → Lexer
  | l, [] => l
  | l, c :: r => after (step (r.take 2) c l).1 r

theorem written_cons (l : Lexer) (c : Char) (r : List Char) :
    l.written (c :: r) = (step (r.take 2) c l).2 :: (step (r.take 2) c l).1.written r := rfl

/-! ## Single characters -/

/-- What is written for a character is the character or a blank. -/
theorem step_snd (ahead : List Char) (c : Char) (l : Lexer) :
    (step ahead c l).2 = c ∨ (step ahead c l).2 = blankOut c := by
  fun_cases step ahead c l with
  | case1 m keep due => cases keep <;> simp
  | _ => simp

theorem length_written (l : Lexer) (s : List Char) : (l.written s).length = s.length := by
  induction s generalizing l with
  | nil => rfl
  | cons c r ih => rw [written_cons, List.length_cons, List.length_cons, ih]

theorem getElem?_written (l : Lexer) {s : List Char} {i : Nat} {c : Char} (h : s[i]? = some c) :
    (l.written s)[i]? = some c ∨ (l.written s)[i]? = some (blankOut c) := by
  induction s generalizing l i with
  | nil => cases h
  | cons d r ih =>
    rw [written_cons]
    cases i with
    | zero =>
      rw [List.getElem?_cons_zero] at h ⊢
      cases h
      simpa using step_snd (r.take 2) c l
    | succ i =>
      rw [List.getElem?_cons_succ] at h ⊢
      exact ih _ h

/-- A last character that is not blank is the one of the text. -/
theorem getLast?_written {l : Lexer} {s : List Char} {c : Char} (h : (l.written s).getLast? = some c)
    (hc : Text.isBlank c = false) : s.getLast? = some c := by
  rw [List.getLast?_eq_getElem?, length_written] at h
  rw [List.getLast?_eq_getElem?]
  cases hlast : s[s.length - 1]? with
  | none =>
    rw [List.getElem?_eq_none_iff, ← length_written l s, ← List.getElem?_eq_none_iff,
      length_written] at hlast
    rw [hlast] at h
    cases h
  | some d =>
    rcases l.getElem?_written hlast with hd | hd
    · rwa [hd] at h
    · rw [hd] at h
      cases h
      rw [isBlank_blankOut] at hc
      cases hc

/-! ## Units of a text -/

theorem written_lineComment (r : List Char) :
    written ⟨.lineComment, []⟩ r =
      (r.takeWhile (· ≠ '\n')).map blankOut ++ start.written (r.dropWhile (· ≠ '\n')) := by
  induction r with
  | nil => rfl
  | cons c r ih =>
    by_cases hc : c = '\n'
    · subst hc
      rfl
    · rw [written_cons, step, if_neg hc, List.takeWhile_cons_of_pos (by simpa using hc),
        List.dropWhile_cons_of_pos (by simpa using hc), ih]
      rfl

theorem eq_cons_of_head?_take {r : List Char} {d : Char} (h : (r.take 2).head? = some d) :
    ∃ t, r = d :: t := by
  rwa [List.head?_take, if_neg (by decide), List.head?_eq_some_iff] at h

theorem eq_cons_cons_of_take {r : List Char} {d e : Char} (h : r.take 2 = [d, e]) :
    ∃ t, r = d :: e :: t := by
  refine ⟨r.drop 2, ?_⟩
  conv_lhs => rw [← List.take_append_drop 2 r, h]
  rfl

theorem written_blockComment (r : List Char) :
    written ⟨.blockComment, []⟩ r =
      (splitBlockComment r).1.map blankOut ++ start.written (splitBlockComment r).2 := by
  fun_induction splitBlockComment r with
  | case1 r => rfl
  | case2 c r hend body rest hsplit ih =>
    have hopen : ¬ (c = '*' ∧ (r.take 2).head? = some '/') := by
      rintro ⟨hc, hr⟩
      obtain ⟨t, rfl⟩ := eq_cons_of_head?_take hr
      exact hend t hc rfl
    rw [hsplit] at ih
    rw [written_cons, step, if_neg hopen, ih]
    rfl
  | case3 => rfl

theorem written_textBlock (r : List Char) :
    written ⟨.textBlock, []⟩ r =
      (splitTextBlock r).1.map blankOut ++ (splitTextBlock r).2.take 3 ++
        start.written ((splitTextBlock r).2.drop 3) := by
  fun_induction splitTextBlock r with
  | case1 r => rfl
  | case2 c r hend body rest hsplit ih =>
    have hopen : ¬ (c = '"' ∧ r.take 2 = ['"', '"']) := by
      rintro ⟨hc, hr⟩
      obtain ⟨t, rfl⟩ := eq_cons_cons_of_take hr
      exact hend t hc rfl
    rw [hsplit] at ih
    rw [written_cons, step, if_neg hopen, ih]
    rfl
  | case3 => rfl

/-- A literal is read up to its quote or the end of its line. -/
theorem splitLiteral_rest (quote : Char) (s : List Char) :
    (splitLiteral quote s).2 = [] ∨
      ∃ d r, (splitLiteral quote s).2 = d :: r ∧ (d = quote ∨ d = '\n') := by
  fun_induction splitLiteral quote s with
  | case1 => exact .inl rfl
  | case2 d r hend => exact .inr ⟨d, r, rfl, by simpa using hend⟩
  | case3 hend => exact .inl rfl
  | case4 d r body rest hsplit hend ih =>
    rw [hsplit] at ih
    exact ih
  | case5 d r hend hslash body rest hsplit ih =>
    rw [hsplit] at ih
    exact ih

theorem written_splitLiteral (quote : Char) (s : List Char) :
    written ⟨.literal quote, []⟩ s =
      (splitLiteral quote s).1.map blankOut ++ (splitLiteral quote s).2.take 1 ++
        start.written ((splitLiteral quote s).2.drop 1) := by
  fun_induction splitLiteral quote s with
  | case1 => rfl
  | case2 d r hend =>
    rw [written_cons, step, if_pos (by simpa using hend)]
    rfl
  | case3 hend =>
    rw [written_cons, step, if_neg (by simpa using hend), if_pos rfl]
    rfl
  | case4 d r body rest hsplit hend ih =>
    rw [hsplit] at ih
    rw [written_cons, step, if_neg (by simpa using hend), if_pos rfl, written_cons, step, ih]
    rfl
  | case5 d r hend hslash body rest hsplit ih =>
    rw [hsplit] at ih
    rw [written_cons, step, if_neg (by simpa using hend), if_neg hslash, ih]
    rfl

/-- A literal, from its opening quote on. -/
theorem written_literal (quote : Char) (s : List Char) :
    quote :: written ⟨.literal quote, []⟩ s =
      (maskLiteral quote s).1 ++ start.written (maskLiteral quote s).2 := by
  rw [written_splitLiteral, maskLiteral]
  rcases splitLiteral_rest quote s with hrest | ⟨d, r, hrest, hd⟩
  · rw [hrest]
    simp [written]
  · rw [hrest]
    by_cases hquote : d = quote
    · simp [hquote]
    · -- the end of the line is read once more, as code
      obtain rfl : d = '\n' := hd.resolve_left hquote
      simp [hquote]
      rfl

/-- A character of code at which neither a comment nor a text block starts. -/
theorem step_start {c : Char} {r : List Char} (hline : ∀ t, c = '/' → r = '/' :: t → False)
    (hblock : ∀ t, c = '/' → r = '*' :: t → False) (htriple : ∀ t, c = '"' → r = '"' :: '"' :: t → False) :
    start.step (r.take 2) c = (⟨if c = '"' ∨ c = '\'' then .literal c else .code, []⟩, c) := by
  have hline' : ¬ (c = '/' ∧ (r.take 2).head? = some '/') := by
    rintro ⟨hc, hr⟩
    obtain ⟨t, rfl⟩ := eq_cons_of_head?_take hr
    exact hline t hc rfl
  have hblock' : ¬ (c = '/' ∧ (r.take 2).head? = some '*') := by
    rintro ⟨hc, hr⟩
    obtain ⟨t, rfl⟩ := eq_cons_of_head?_take hr
    exact hblock t hc rfl
  have htriple' : ¬ (c = '"' ∧ r.take 2 = ['"', '"']) := by
    rintro ⟨hc, hr⟩
    obtain ⟨t, rfl⟩ := eq_cons_cons_of_take hr
    exact htriple t hc rfl
  rw [start, step, if_neg hline', if_neg hblock', if_neg htriple']
  split <;> rfl

/-- The first unit of a text is read from code to code. -/
theorem written_unit {s : List Char} (hne : s ≠ []) :
    start.written s = (maskUnit s).1 ++ start.written (maskUnit s).2 := by
  fun_cases maskUnit s with
  | case1 => exact absurd rfl hne
  | case2 r =>
    have hopened : start.written ('/' :: '/' :: r) =
        blankOut '/' :: blankOut '/' :: written ⟨.lineComment, []⟩ r := rfl
    rw [hopened, written_lineComment]
    simp
  | case3 r body rest hs =>
    have hopened : start.written ('/' :: '*' :: r) =
        blankOut '/' :: blankOut '*' :: written ⟨.blockComment, []⟩ r := rfl
    rw [hopened, written_blockComment, hs]
    rfl
  | case4 r body rest hs =>
    have hopened : start.written ('"' :: '"' :: '"' :: r) =
        '"' :: '"' :: '"' :: written ⟨.textBlock, []⟩ r := rfl
    rw [hopened, written_textBlock, hs]
    rfl
  | case5 c r hline hblock htriple hquote =>
    rw [written_cons, step_start hline hblock htriple, if_pos (by simpa using hquote), written_literal]
  | case6 c r hline hblock htriple hquote =>
    rw [written_cons, step_start hline hblock htriple, if_neg (by simpa using hquote)]
    rfl

/-- Masking a text comes to what a lexer writes. -/
theorem mask_eq (s : List Char) : mask s = start.written s := by
  fun_induction mask s with
  | case1 => rfl
  | case2 s hne ih => rw [ih, ← written_unit hne]

/-! ## Two texts in a row -/

/-- No delimiter begins in what is written as `w` and ends in `b`. -/
structure Apart (w b : List Char) : Prop where
  quotes : b.head? = some '"' → w.getLast? ≠ some '"'
  slashes : b.head? = some '/' ∨ b.head? = some '*' → w.getLast? ≠ some '/'

theorem Apart.tail {c : Char} {w b : List Char} (h : Apart (c :: w) b) : Apart w b := by
  cases w with
  | nil => exact ⟨by simp, by simp⟩
  | cons d w => exact ⟨fun hb => by simpa using h.quotes hb, fun hb => by simpa using h.slashes hb⟩

section

variable {l : Lexer} {a b : List Char} {c d : Char}

/-- What follows a text that ends in code does not matter for its last character. -/
theorem step_last (hafter : (step [] c l).1 = start) (hapart : Apart [(step [] c l).2] b) :
    step (b.take 2) c l = step [] c l := by
  obtain ⟨m, due⟩ := l
  cases due with
  | cons keep due => rfl
  | nil =>
    cases m with
    | lineComment => rfl
    | literal quote => rfl
    | blockComment => simp [step, start] at hafter
    | textBlock => simp [step, start] at hafter
    | code =>
      by_cases hslash : c = '/'
      · subst hslash
        have hline : b.head? ≠ some '/' := fun hb => hapart.slashes (.inl hb) rfl
        have hblock : b.head? ≠ some '*' := fun hb => hapart.slashes (.inr hb) rfl
        simp [step, List.head?_take, hline, hblock]
      · by_cases hquote : c = '"'
        · -- a string would have begun
          simp [step, start, hquote] at hafter
        · simp [step, hslash, hquote]

/-- Nor does it for the character before that. -/
theorem step_last_but_one (hafter : l.after [c, d] = start) (hapart : Apart (l.written [c, d]) b) :
    step ((d :: b).take 2) c l = step [d] c l := by
  have htake : (d :: b).take 2 = d :: b.take 1 := rfl
  rw [htake]
  obtain ⟨m, due⟩ := l
  cases due with
  | cons keep due => rfl
  | nil =>
    cases m with
    | lineComment => rfl
    | literal quote => rfl
    | blockComment => rfl
    | textBlock => simp [after, step, start] at hafter
    | code =>
      by_cases htriple : c = '"' ∧ d :: b.take 1 = ['"', '"']
      · -- the two quotes are a string
        obtain ⟨rfl, hd⟩ := htriple
        obtain ⟨rfl, hb⟩ := List.cons.inj hd
        have hhead : b.head? = some '"' := by
          cases b with
          | nil => cases hb
          | cons e b => exact congrArg some (List.cons.inj hb).1
        exact absurd rfl (hapart.quotes hhead)
      · have htriple' : ¬ (c = '"' ∧ [d] = ['"', '"']) := by simp
        rw [step, step, if_neg htriple, if_neg htriple']
        rfl

theorem written_append (hafter : l.after a = start) (hapart : Apart (l.written a) b) :
    l.written (a ++ b) = l.written a ++ start.written b ∧ l.after (a ++ b) = start.after b := by
  induction a generalizing l with
  | nil =>
    obtain rfl : l = start := hafter
    exact ⟨rfl, rfl⟩
  | cons c r ih =>
    have hstep : step ((r ++ b).take 2) c l = step (r.take 2) c l := by
      match r with
      | [] => exact step_last hafter hapart
      | [d] => exact step_last_but_one hafter hapart
      | d :: e :: t => rfl
    obtain ⟨hwritten, hafter'⟩ := ih hafter hapart.tail
    rw [List.cons_append, written_cons, written_cons, after, hstep, hwritten, hafter']
    exact ⟨rfl, rfl⟩

end

end Lexer

theorem blankOut_eq_newline {c : Char} : blankOut c = '\n' ↔ c = '\n' := by
  by_cases hc : c = '\n' <;> simp [blankOut, hc]

/-- Masking a text comes to what a lexer writes that reads one character after another. So the masked
text is as long as the text, has its line feeds where the text has them, and has at every offset the
character of the text or a space. -/
theorem mask_eq_written (text : List Char) :
    mask text = Lexer.start.written text ∧ (mask text).length = text.length ∧
      (∀ i : Nat, (mask text)[i]? = some '\n' ↔ text[i]? = some '\n') ∧
      ∀ (i : Nat) (c : Char), text[i]? = some c → (mask text)[i]? = some c ∨ (mask text)[i]? = some ' ' := by
  have hmask := Lexer.mask_eq text
  refine ⟨hmask, length_mask text, fun i => ?_, fun i c hc => ?_⟩
  · cases hc : text[i]? with
    | none =>
      rw [List.getElem?_eq_none_iff, ← length_mask text, ← List.getElem?_eq_none_iff] at hc
      simp [hc]
    | some c =>
      rcases Lexer.start.getElem?_written hc with hwritten | hwritten
      · rw [hmask, hwritten]
      · rw [hmask, hwritten, Option.some_inj, Option.some_inj, blankOut_eq_newline]
  · rw [hmask]
    rcases Lexer.start.getElem?_written hc with hwritten | hwritten
    · exact .inl hwritten
    · by_cases hnewline : c = '\n'
      · exact .inl (by rw [hwritten, blankOut, if_pos hnewline, hnewline])
      · exact .inr (by rw [hwritten, blankOut, if_neg hnewline])

/-- A string whose last quote but one is escaped, and a comment. -/
example : Lexer.start.written "\"a\\\"\"; // b".toList = "\"   \";     ".toList := by decide

end EndpointIndex.Source
