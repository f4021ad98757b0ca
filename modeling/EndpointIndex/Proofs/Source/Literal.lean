import EndpointIndex.Proofs.Source.Lexer

/-!
# Literals as whole units

A literal is delimited text in which a backslash takes the next character with it. Strings and
characters are masked as one unit each, whatever they hold. A text block is masked up to its first three
quotes in a row, and backslashes before them are not looked at. Main facts: a literal in the midst of
code is masked as one unit exactly when no earlier three quotes stand in its contents
(`mask_literal_iff`), which an escaped quote can bring about (`not_mask_literal`).
-/

namespace EndpointIndex.Source

inductive LiteralKind where
  | string
  | character
  | textBlock
  deriving DecidableEq, Repr

/-- A part of the contents of a literal: one character, or a backslash and one character. -/
inductive LiteralPart where
  | plain (c : Char)
  | escaped (c : Char)
  deriving DecidableEq, Repr

def LiteralPart.chars : LiteralPart → List Char
  | plain c => [c]
  | escaped c => ['\\', c]

/-- The characters that may follow a backslash. Octal escapes go on with ordinary digits. -/
def escapable : List Char := "btnfrs\"'\\01234567".toList

namespace LiteralKind

def delimiter : LiteralKind → List Char
  | string => ['"']
  | character => ['\'']
  | textBlock => ['"', '"', '"']

/-- What may stand in a literal. Only a text block may go on in the next line. -/
def admits : LiteralKind → LiteralPart → Bool
  | string, .plain c => c ∉ ['"', '\\', '\n', '\r']
  | character, .plain c => c ∉ ['\'', '\\', '\n', '\r']
  | textBlock, .plain c => c ≠ '\\'
  | textBlock, .escaped c => c ∈ escapable ++ ['\n', '\r']
  | _, .escaped c => c ∈ escapable

end LiteralKind

/-- A literal of a source text. -/
structure SourceLiteral where
  kind : LiteralKind
  parts : List LiteralPart
  admitted : ∀ p ∈ parts, kind.admits p = true
  /-- A text block ends at the first three quotes that are not escaped. -/
  closed : kind = .textBlock →
    ¬ [.plain '"', .plain '"', .plain '"'] <:+: parts ++ [.plain '"', .plain '"']

namespace SourceLiteral

def contents (l : SourceLiteral) : List Char := l.parts.flatMap LiteralPart.chars

def text (l : SourceLiteral) : List Char := l.kind.delimiter ++ l.contents ++ l.kind.delimiter

/-- The literal with its contents blanked out. -/
def masked (l : SourceLiteral) : List Char :=
  l.kind.delimiter ++ l.contents.map blankOut ++ l.kind.delimiter

/-- The first three quotes in a row are those at the end, whether they are escaped or not. -/
def EndsAtQuotes (l : SourceLiteral) : Prop :=
  l.kind = .textBlock → ¬ ['"', '"', '"'] <:+: l.contents ++ ['"', '"']

end SourceLiteral

/-! ## Strings and characters -/

section

variable {quote : Char} {parts : List LiteralPart}

/-- Within quotes, neither the quote nor the end of the line stands alone. -/
def LiteralPart.Within (quote : Char) : LiteralPart → Prop
  | plain c => c ≠ quote ∧ c ≠ '\n' ∧ c ≠ '\\'
  | escaped _ => True

/-- The contents of a literal are read up to its closing quote. -/
theorem Lexer.written_parts (hquote : quote ≠ '\\') (h : ∀ p ∈ parts, p.Within quote) :
    written ⟨.literal quote, []⟩ (parts.flatMap LiteralPart.chars ++ [quote]) =
        (parts.flatMap LiteralPart.chars).map blankOut ++ [quote] ∧
      after ⟨.literal quote, []⟩ (parts.flatMap LiteralPart.chars ++ [quote]) = start := by
  induction parts with
  | nil => simp [written, after, step, start]
  | cons p parts ih =>
    obtain ⟨hwritten, hafter⟩ := ih fun q hq => h q (List.mem_cons_of_mem p hq)
    rw [List.flatMap_cons, List.append_assoc]
    cases p with
    | plain c =>
      obtain ⟨hc, hnewline, hslash⟩ := h _ List.mem_cons_self
      constructor
      · simp [LiteralPart.chars, written, step, hc, hnewline, hslash, hwritten]
      · simp [LiteralPart.chars, after, step, hc, hnewline, hslash, hafter]
    | escaped c =>
      constructor
      · simp [LiteralPart.chars, written, step, Ne.symm hquote, hwritten]
      · simp [LiteralPart.chars, after, step, Ne.symm hquote, hafter]

/-- A literal between single quotes or between double quotes. -/
theorem Lexer.written_quoted (hquote : quote = '"' ∨ quote = '\'') (h : ∀ p ∈ parts, p.Within quote) :
    start.written (quote :: (parts.flatMap LiteralPart.chars ++ [quote])) =
        quote :: ((parts.flatMap LiteralPart.chars).map blankOut ++ [quote]) ∧
      start.after (quote :: (parts.flatMap LiteralPart.chars ++ [quote])) = start := by
  have hne : quote ≠ '\\' ∧ quote ≠ '/' := by rcases hquote with rfl | rfl <;> decide
  have hopened : start.step ((parts.flatMap LiteralPart.chars ++ [quote]).take 2) quote =
      (⟨.literal quote, []⟩, quote) := by
    rw [step_start (fun _ hc => absurd hc hne.2) (fun _ hc => absurd hc hne.2), if_pos hquote]
    -- three quotes would be contents that begin with one
    rintro t rfl hr
    cases parts with
    | nil => simp at hr
    | cons p parts =>
      cases p with
      | plain c => exact (h _ List.mem_cons_self).1 (by simpa [LiteralPart.chars] using congrArg List.head? hr)
      | escaped c => simp [LiteralPart.chars] at hr
  obtain ⟨hwritten, hafter⟩ := written_parts hne.1 h
  exact ⟨by rw [written_cons, hopened, hwritten], by rw [after, hopened, hafter]⟩

end

/-! ## Text blocks -/

section

variable {s : List Char}

theorem isPrefix_quotes {c : Char} {s : List Char} :
    ['"', '"', '"'] <+: c :: s ↔ c = '"' ∧ s.take 2 = ['"', '"'] := by
  rw [List.cons_prefix_cons, eq_comm, List.prefix_iff_eq_take, eq_comm (a := ['"', '"'])]
  rfl

/-- What comes after two quotes cannot be seen from before them. -/
theorem take_two_append (s t : List Char) :
    (s ++ '"' :: '"' :: t).take 2 = (s ++ ['"', '"']).take 2 := by
  rw [show s ++ '"' :: '"' :: t = (s ++ ['"', '"']) ++ t by simp, List.take_append_of_le_length]
  simp

/-- A text block without earlier quotes is read up to its end. -/
theorem Lexer.written_block (h : ¬ ['"', '"', '"'] <:+: s ++ ['"', '"']) :
    written ⟨.textBlock, []⟩ (s ++ ['"', '"', '"']) = s.map blankOut ++ ['"', '"', '"'] ∧
      after ⟨.textBlock, []⟩ (s ++ ['"', '"', '"']) = start := by
  induction s with
  | nil => exact ⟨rfl, rfl⟩
  | cons c s ih =>
    rw [List.cons_append, List.infix_cons_iff, isPrefix_quotes, not_or] at h
    obtain ⟨hwritten, hafter⟩ := ih h.2
    have hopen : ¬ (c = '"' ∧ (s ++ ['"', '"', '"']).take 2 = ['"', '"']) := by
      rw [take_two_append]
      exact h.1
    constructor
    · rw [List.cons_append, written_cons, step, if_neg hopen, hwritten]
      rfl
    · rw [List.cons_append, after, step, if_neg hopen, hafter]

/-- At the first three quotes of a text block, a quote is written. -/
theorem Lexer.written_block_early (h : ['"', '"', '"'] <:+: s ++ ['"', '"']) (rest : List Char) :
    ∃ i < s.length, (written ⟨.textBlock, []⟩ (s ++ '"' :: '"' :: rest))[i]? = some '"' := by
  induction s with
  | nil => exact absurd h.length_le (by decide)
  | cons c s ih =>
    rw [List.cons_append, List.infix_cons_iff, isPrefix_quotes] at h
    by_cases hclose : c = '"' ∧ (s ++ '"' :: '"' :: rest).take 2 = ['"', '"']
    · refine ⟨0, Nat.succ_pos _, ?_⟩
      rw [List.cons_append, written_cons, step, if_pos hclose, hclose.1]
      rfl
    · rw [take_two_append] at hclose
      obtain ⟨i, hi, hquote⟩ := ih (h.resolve_left hclose)
      refine ⟨i + 1, Nat.succ_lt_succ hi, ?_⟩
      rw [List.cons_append, written_cons, step, if_neg (by rwa [take_two_append])]
      exact hquote

end

/-! ## Literals in code -/

namespace SourceLiteral

theorem within_of_admits {quote : Char} {parts : List LiteralPart}
    (h : ∀ p ∈ parts, ∀ c, p = .plain c → c ∉ [quote, '\\', '\n', '\r']) :
    ∀ p ∈ parts, p.Within quote := by
  intro p hp
  cases p with
  | plain c =>
    have hc := h _ hp c rfl
    simp only [List.mem_cons, List.not_mem_nil, or_false, not_or] at hc
    exact ⟨hc.1, hc.2.2.1, hc.2.1⟩
  | escaped c => trivial

/-- A literal that ends at its first three quotes is read as one unit. -/
theorem written_text {l : SourceLiteral} (h : l.EndsAtQuotes) :
    Lexer.start.written l.text = l.masked ∧ Lexer.start.after l.text = .start := by
  obtain ⟨kind, parts, admitted, closed⟩ := l
  cases kind with
  | string =>
    apply Lexer.written_quoted (.inl rfl) (within_of_admits _)
    rintro p hp c rfl
    simpa [LiteralKind.admits] using admitted _ hp
  | character =>
    apply Lexer.written_quoted (.inr rfl) (within_of_admits _)
    rintro p hp c rfl
    simpa [LiteralKind.admits] using admitted _ hp
  | textBlock =>
    obtain ⟨hwritten, hafter⟩ := Lexer.written_block (h rfl)
    exact ⟨congrArg (['"', '"', '"'] ++ ·) hwritten, hafter⟩

theorem head?_text (l : SourceLiteral) (b : List Char) :
    (l.text ++ b).head? = some '"' ∨ (l.text ++ b).head? = some '\'' := by
  obtain ⟨kind, parts, admitted, closed⟩ := l
  cases kind with
  | string => exact .inl rfl
  | character => exact .inr rfl
  | textBlock => exact .inl rfl

theorem getLast?_masked (l : SourceLiteral) :
    l.masked.getLast? = some '"' ∨ l.masked.getLast? = some '\'' := by
  have hlast : l.masked.getLast? = l.kind.delimiter.getLast? := by
    rw [masked]
    apply List.getLast?_append_of_ne_nil
    cases l.kind <;> decide
  rw [hlast]
  cases l.kind
  · exact .inl rfl
  · exact .inr rfl
  · exact .inl rfl

end SourceLiteral

/-- A literal in the midst of code is masked as one unit, and the code around it as if it were alone,
exactly if the literal ends at its first three quotes in a row. -/
theorem mask_literal_iff {a b : List Char} (l : SourceLiteral) (hcode : Lexer.start.after a = .start)
    (ha : a.getLast? ≠ some '"') (hb : b.head? ≠ some '"') :
    mask (a ++ l.text ++ b) = mask a ++ l.masked ++ mask b ↔ l.EndsAtQuotes := by
  have hbefore : mask (a ++ (l.text ++ b)) = mask a ++ Lexer.start.written (l.text ++ b) := by
    rw [Lexer.mask_eq, Lexer.mask_eq]
    refine (Lexer.written_append hcode ⟨fun _ hlast => ?_, fun hhead => ?_⟩).1
    · exact ha (Lexer.getLast?_written hlast (by decide))
    · rcases l.head?_text b with hquote | hquote <;> simp [hquote] at hhead
  rw [List.append_assoc, List.append_assoc, hbefore, List.append_cancel_left_eq]
  constructor
  · -- a quote would be written where the contents are blank
    intro hmask hkind hinfix
    have htext : l.text ++ b = '"' :: '"' :: '"' :: (l.contents ++ '"' :: '"' :: '"' :: b) := by
      simp [SourceLiteral.text, LiteralKind.delimiter, hkind]
    have hmasked : l.masked ++ mask b =
        '"' :: '"' :: '"' :: (l.contents.map blankOut ++ '"' :: '"' :: '"' :: mask b) := by
      simp [SourceLiteral.masked, LiteralKind.delimiter, hkind]
    have hopened : Lexer.start.written (l.text ++ b) = '"' :: '"' :: '"' ::
        Lexer.written ⟨.textBlock, []⟩ (l.contents ++ '"' :: '"' :: '"' :: b) := by
      rw [htext]
      rfl
    rw [hopened, hmasked, List.cons.injEq, List.cons.injEq, List.cons.injEq] at hmask
    -- three quotes in the contents end the block early
    obtain ⟨i, hi, hquote⟩ := Lexer.written_block_early hinfix ('"' :: b)
    rw [hmask.2.2.2, List.getElem?_append_left (by rwa [List.length_map]), List.getElem?_map,
      List.getElem?_eq_getElem hi, Option.map_some, Option.some_inj] at hquote
    have hblank := isBlank_blankOut l.contents[i]
    rw [hquote] at hblank
    cases hblank
  · intro hends
    obtain ⟨hwritten, hafter⟩ := SourceLiteral.written_text hends
    have hapart : Lexer.Apart (Lexer.start.written l.text) b := by
      rw [hwritten]
      refine ⟨fun hhead => ?_, fun _ hlast => ?_⟩
      · exact absurd hhead hb
      · rcases l.getLast?_masked with hquote | hquote <;> simp [hquote] at hlast
    rw [(Lexer.written_append hafter hapart).1, hwritten, Lexer.mask_eq]

/-- A text block with an escaped quote between two others, and with what looks like a comment. -/
def sampleBlock : SourceLiteral where
  kind := .textBlock
  parts := [.plain '\n', .plain '"', .escaped '"', .plain '"', .plain '/', .plain '/', .plain '\n']
  admitted := by decide
  closed := by decide

theorem mask_literal_iff_sampleBlock :
    Lexer.start.after "s = ".toList = .start ∧
      mask ("s = ".toList ++ sampleBlock.text ++ ";".toList) =
        mask "s = ".toList ++ sampleBlock.masked ++ mask ";".toList :=
  ⟨by decide, (mask_literal_iff sampleBlock (by decide) (by decide) (by decide)).2 fun _ => by decide⟩

/-- A text block in which three quotes follow a backslash. -/
def quotedBlock : SourceLiteral where
  kind := .textBlock
  parts := [.plain '\n', .escaped '"', .plain '"', .plain '"', .plain 'x']
  admitted := by decide
  closed := by decide

/-- Not every text block is masked as one unit: the three quotes after the backslash end it. -/
theorem not_mask_literal :
    ¬ ∀ (a b : List Char) (l : SourceLiteral), Lexer.start.after a = .start →
      a.getLast? ∉ [some '"', some '\''] → b.head? ∉ [some '"', some '\''] →
      mask (a ++ l.text ++ b) = mask a ++ l.masked ++ mask b := by
  intro h
  have hmask := h "s = ".toList ";".toList quotedBlock (by decide) (by decide) (by decide)
  rw [Lexer.mask_eq, Lexer.mask_eq, Lexer.mask_eq] at hmask
  revert hmask
  decide

end EndpointIndex.Source
