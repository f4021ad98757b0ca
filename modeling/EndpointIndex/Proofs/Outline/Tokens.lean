import EndpointIndex.Java.Parser
import EndpointIndex.Proofs.Outline.Adjacency

/-!
# The tokens of laid-out sources

A source without comments and escapes is cut into the tokens of its lexemes, whatever blanks stand
between them (`tokens?_layout`). The lines on which the tokens stand are left open: `Writes ls ts` says
that `ts` are the tokens of `ls` on some lines.
-/

namespace EndpointIndex.Source

open Java

/-! ## Tokens of lexemes -/

def signKind (c : Char) : TokenKind :=
  if c = '@' then .atSign else if isSeparator c then .separator else .operator

/-- What is written between two lexemes, as far as a source without comments goes. -/
def Filler.isBlank : Filler → Bool
  | blank _ _ => true
  | _ => false

/-- A layout with nothing but blanks between its lexemes. -/
def Layout.isUncommented {lexemes : List Lexeme} (layout : Layout lexemes) : Bool :=
  layout.placed.all (fun p => p.gap.all Filler.isBlank) && layout.ending.all Filler.isBlank

namespace Lexeme

/-- Kinds and texts of the tokens of a lexeme that is written plainly. -/
def faces : Lexeme → List (TokenKind × String)
  | word name => [(wordKind name.text, name.text)]
  | sign c _ => [(signKind c, String.ofList [c])]
  | literal contents => [(.literal, String.ofList ('"' :: contents.toList ++ ['"']))]
  | block _ => [(.separator, Parser.openBrace), (.separator, Parser.closeBrace)]

/-- Lexemes without escapes, statements and the signs of type arguments. -/
def isSimple : Lexeme → Bool
  | word _ => true
  | sign c _ => c = '@' || c = '=' || c = '.' || c = ',' || c = ';' || c = '(' || c = ')' || c = '{' || c = '}'
  | literal contents => contents.toList.all fun c => c ≠ '\\' && c ≠ '"' && c ≠ '\n'
  | block b => b.text.all Text.isBlank

/-- Whether nothing that follows is taken for a part of the lexeme. -/
def Ends : Lexeme → List Char → Prop
  | word _, rest => ∀ c ∈ rest.head?, Text.isIdentifierPart c = false
  | sign c _, rest =>
    (c = '.' → ∀ d ∈ rest.head?, d ≠ '.' ∧ d.isDigit = false) ∧ (c = '=' → ∀ d ∈ rest.head?, d ≠ '=')
  | _, _ => True

/-- What may stand right after a sign: only a word after a dot, and no second equals sign. -/
def MayPrecede : Lexeme → Lexeme → Prop
  | sign c _, l => (c = '.' → l.isWord = true) ∧ (c = '=' → isSign '=' l = false)
  | _, _ => True

end Lexeme

/-- Tokens with the kinds and texts that lexemes have, on whatever lines. -/
def Writes (ls : List Lexeme) (ts : List Token) : Prop :=
  ts.map (fun t => (t.kind, t.text)) = ls.flatMap Lexeme.faces

namespace Writes

variable {ls ls' : List Lexeme} {ts ts' : List Token}

theorem nil : Writes [] [] := rfl

theorem append (h : Writes ls ts) (h' : Writes ls' ts') : Writes (ls ++ ls') (ts ++ ts') := by
  rw [Writes, List.map_append, h, h', List.flatMap_append]

theorem eq_nil (h : Writes [] ts) : ts = [] := List.map_eq_nil_iff.1 h

theorem split (h : Writes (ls ++ ls') ts) : ∃ a b, ts = a ++ b ∧ Writes ls a ∧ Writes ls' b := by
  rw [Writes, List.flatMap_append] at h
  obtain ⟨a, b, rfl, ha, hb⟩ := List.map_eq_append_iff.1 h
  exact ⟨a, b, rfl, ha, hb⟩

/-- A lexeme that is a single token. -/
theorem uncons {l : Lexeme} (h : Writes (l :: ls) ts) (kind : TokenKind) (text : String)
    (hl : l.faces = [(kind, text)]) : ∃ line r, ts = ⟨kind, text, line⟩ :: r ∧ Writes ls r := by
  rw [Writes, List.flatMap_cons, hl] at h
  obtain ⟨t, r, rfl, ht, hr⟩ := List.map_eq_cons_iff.1 h
  obtain ⟨k, w, line⟩ := t
  cases ht
  exact ⟨line, r, rfl, hr⟩

theorem uncons_block {b : Block} (h : Writes (.block b :: ls) ts) :
    ∃ line line' r, ts = ⟨.separator, Parser.openBrace, line⟩ :: ⟨.separator, Parser.closeBrace, line'⟩ :: r ∧
      Writes ls r := by
  rw [Writes, List.flatMap_cons] at h
  obtain ⟨⟨k, w, line⟩, r, rfl, ht, hr⟩ := List.map_eq_cons_iff.1 h
  obtain ⟨⟨k', w', line'⟩, r', rfl, ht', hr'⟩ := List.map_eq_cons_iff.1 hr
  cases ht
  cases ht'
  exact ⟨line, line', r', rfl, hr'⟩

end Writes

end EndpointIndex.Source

namespace EndpointIndex.Java

open Source

/-! ## Escapes -/

theorem pairUnits_codePoints (s : List Char) : pairUnits (codePoints s) = s := by
  have hsurrogate : ∀ c : Char, isHigh c.toNat = false ∧ isLow c.toNat = false := by
    intro c
    have hvalid := c.valid
    simp only [UInt32.isValidChar, Nat.isValidChar] at hvalid
    simp only [isHigh, isLow, Bool.and_eq_false_iff, decide_eq_false_iff_not, Char.toNat]
    omega
  induction s with
  | nil => rfl
  | cons c s ih =>
    obtain ⟨hhigh, hlow⟩ := hsurrogate c
    cases s with
    | nil =>
      rw [codePoints, List.map_cons, List.map_nil, pairUnits, hhigh, hlow]
      simp
    | cons d s =>
      rw [codePoints, List.map_cons, List.map_cons, pairUnits, hhigh, hlow]
      simpa [codePoints] using ih

theorem expand?_of_no_escape {s : List Char} (h : ¬ ['\\', 'u'] <:+: s) : expand? s = some s := by
  rw [expand?, expandUnits?_of_no_escape h, List.reverse_nil, List.nil_append, Option.map_some,
    pairUnits_codePoints]

/-! ## Reading tokens off a text -/

theorem tokensFrom?_nil (line : Nat) : tokensFrom? line [] = some [] := by
  unfold tokensFrom?
  rfl

theorem tokensFrom?_cons (line : Nat) (c : Char) (r : List Char) :
    tokensFrom? line (c :: r) =
      match lexeme? (c :: r) with
      | some (.skip (n + 1)) => tokensFrom? (line + ((c :: r).take (n + 1)).count '\n') (r.drop n)
      | some (.token kind (n + 1)) =>
        (tokensFrom? line (r.drop n)).map fun ts =>
          ⟨kind, String.ofList (c :: r.take n), line⟩ :: ts
      | _ => none := by
  exact tokensFrom?.eq_def line (c :: r)

theorem tokensFrom?_token {w rest : List Char} {kind : TokenKind} (hw : w ≠ [])
    (h : lexeme? (w ++ rest) = some (.token kind w.length)) (line : Nat) :
    tokensFrom? line (w ++ rest) =
      (tokensFrom? line rest).map fun ts => ⟨kind, String.ofList w, line⟩ :: ts := by
  obtain ⟨c, r, rfl⟩ := List.exists_cons_of_ne_nil hw
  rw [List.cons_append, List.length_cons] at h
  rw [List.cons_append, tokensFrom?_cons, h]
  simp

theorem tokensFrom?_blank {gap rest : List Char} (hgap : ∀ c ∈ gap, Text.isBlank c = true)
    (hrest : ∀ c ∈ rest.head?, Text.isBlank c = false) (line : Nat) :
    tokensFrom? line (gap ++ rest) = tokensFrom? (line + gap.count '\n') rest := by
  cases gap with
  | nil => rfl
  | cons c gap =>
    have htake : (c :: gap ++ rest).takeWhile Text.isBlank = c :: gap := by
      rw [List.takeWhile_append_of_pos hgap]
      cases rest with
      | nil => simp
      | cons d rest => simp [hrest d rfl]
    have hlexeme : lexeme? (c :: (gap ++ rest)) = some (.skip (gap.length + 1)) := by
      rw [lexeme?, if_pos (hgap c List.mem_cons_self), ← List.cons_append, htake, List.length_cons]
    rw [List.cons_append, tokensFrom?_cons, hlexeme]
    simp

theorem toNat_lt_of_isPlainPart {c : Char} (h : isPlainPart c = true) : c.toNat < 128 := by
  simp only [isPlainPart, Bool.or_eq_true, beq_iff_eq] at h
  rcases h with (h | rfl) | rfl
  · exact Text.toNat_lt_of_isAlphanum h
  · decide
  · decide

theorem isPlainPart_of_isNameStart {c : Char} (h : Text.isNameStart c = true) : isPlainPart c = true := by
  simp only [Text.isNameStart, Bool.or_eq_true] at h
  simp only [isPlainPart, Char.isAlphanum, Bool.or_eq_true]
  exact h.imp_left (Or.imp_left Or.inl)

/-- What starts a name starts an identifier and no other token. -/
theorem lexical_of_isNameStart {c : Char} (h : Text.isNameStart c = true) :
    Text.isBlank c = false ∧ c ∉ ['/', '.', '@', '"', '\''] ∧ isSeparator c = false ∧ c.isDigit = false ∧
      Text.isIdentifierStart c = true := by
  have hall : ∀ n < 128, Text.isNameStart (Char.ofNat n) = true →
      Text.isBlank (Char.ofNat n) = false ∧ Char.ofNat n ∉ ['/', '.', '@', '"', '\''] ∧
        isSeparator (Char.ofNat n) = false ∧ (Char.ofNat n).isDigit = false ∧
        Text.isIdentifierStart (Char.ofNat n) = true := by decide
  have hc := hall c.toNat (toNat_lt_of_isPlainPart (isPlainPart_of_isNameStart h))
  rw [Char.ofNat_toNat] at hc
  exact hc h

theorem isIdentifierPart_of_isPlainPart {c : Char} (h : isPlainPart c = true) :
    Text.isIdentifierPart c = true := by
  have hall : ∀ n < 128, isPlainPart (Char.ofNat n) = true → Text.isIdentifierPart (Char.ofNat n) = true := by
    decide
  have hc := hall c.toNat (toNat_lt_of_isPlainPart h)
  rw [Char.ofNat_toNat] at hc
  exact hc h

theorem lexeme?_word (n : Name) {rest : List Char} (hrest : (Source.Lexeme.word n).Ends rest) :
    lexeme? (n.text.toList ++ rest) = some (.token (wordKind n.text) n.text.toList.length) := by
  obtain ⟨c, r, htext, hfirst, hparts⟩ := n.plainChars_eq
  obtain ⟨hblank, hmem, hseparator, hdigit, hstart⟩ := lexical_of_isNameStart hfirst
  have htake : (r ++ rest).takeWhile Text.isIdentifierPart = r := by
    rw [List.takeWhile_append_of_pos fun d hd => isIdentifierPart_of_isPlainPart (hparts d hd)]
    cases rest with
    | nil => simp
    | cons d rest => simp [hrest d rfl]
  simp only [List.mem_cons, List.not_mem_nil, or_false, not_or] at hmem
  obtain ⟨hslash, hdot, hat, hquote, hapostrophe⟩ := hmem
  rw [htext, List.cons_append, lexeme?]
  simp [hblank, hslash, hdot, Ne.symm hdot, hat, hseparator, hquote, hapostrophe, hdigit, hstart, htake,
    ← htext]

theorem lexeme?_sign {c : Char} {known : c ∈ signs} {rest : List Char}
    (hsimple : (Source.Lexeme.sign c known).isSimple = true)
    (hrest : (Source.Lexeme.sign c known).Ends rest) :
    lexeme? (c :: rest) = some (.token (signKind c) 1) := by
  simp only [Source.Lexeme.isSimple, Bool.or_eq_true, decide_eq_true_eq] at hsimple
  rcases hsimple with (((((((rfl | rfl) | rfl) | rfl) | rfl) | rfl) | rfl) | rfl) | rfl
  · rfl
  · -- a second equals sign would make a comparison of it
    have hequals : operator? ('=' :: rest) = some "=" := by
      cases rest with
      | nil => rfl
      | cons d rest =>
        have hd : d ≠ '=' := hrest.2 rfl d rfl
        rw [operator?, operators]
        simp [Ne.symm hd]
    have hlexeme : lexeme? ('=' :: rest) = operatorLexeme? ('=' :: rest) := rfl
    rw [hlexeme, operatorLexeme?, hequals]
    rfl
  · rw [lexeme?]
    cases rest with
    | nil => rfl
    | cons d rest =>
      obtain ⟨hd, hdigit⟩ := hrest.1 rfl d rfl
      have hblank : Text.isBlank '.' = false := by decide
      have hseparator : isSeparator '.' = true := by decide
      simp [hblank, hseparator, hdigit, Ne.symm hd, signKind]
  all_goals rfl

theorem quotedLength?_simple {contents : List Char} (h : ∀ c ∈ contents, c ≠ '\\' ∧ c ≠ '"') (rest : List Char) :
    quotedLength? '"' (contents ++ '"' :: rest) = some (contents.length + 1) := by
  induction contents with
  | nil =>
    unfold quotedLength?
    rfl
  | cons c contents ih =>
    obtain ⟨hbackslash, hquote⟩ := h c List.mem_cons_self
    have hmore := ih fun d hd => h d (List.mem_cons_of_mem c hd)
    unfold quotedLength?
    rw [List.cons_append]
    dsimp only
    rw [if_neg hbackslash, if_neg hquote, hmore]
    rfl

theorem lexeme?_literal {contents : List Char} (h : ∀ c ∈ contents, c ≠ '\\' ∧ c ≠ '"')
    (rest : List Char) :
    lexeme? ('"' :: contents ++ ['"'] ++ rest) =
      some (.token .literal ('"' :: contents ++ ['"']).length) := by
  have hlexeme : lexeme? ('"' :: (contents ++ '"' :: rest)) =
      (quotedLength? '"' (contents ++ '"' :: rest)).map fun n => .token .literal (n + 1) := rfl
  rw [List.append_assoc, List.cons_append, List.singleton_append, hlexeme, quotedLength?_simple h]
  simp

/-- A brace is a token of its own, whatever follows. -/
theorem lexeme?_brace {c : Char} (h : c = '{' ∨ c = '}') (rest : List Char) :
    lexeme? ([c] ++ rest) = some (.token .separator [c].length) := by
  rcases h with rfl | rfl <;> rfl

end EndpointIndex.Java

namespace EndpointIndex.Source

open Java

/-! ## Lexemes -/

theorem writeContents_of_isSimple {contents : String} (h : (Lexeme.literal contents).isSimple = true) :
    writeContents contents = contents.toList ∧ ∀ c ∈ contents.toList, c ≠ '\\' ∧ c ≠ '"' := by
  simp only [Lexeme.isSimple, List.all_eq_true, Bool.and_eq_true, decide_eq_true_eq] at h
  refine ⟨?_, fun c hc => (h c hc).1⟩
  have hwritten : contents.toList.flatMap writeLiteralChar = contents.toList.flatMap fun c => [c] := by
    apply List.flatMap_congr
    intro c hc
    obtain ⟨⟨hbackslash, hquote⟩, hfeed⟩ := h c hc
    rw [writeLiteralChar, if_neg hbackslash, if_neg hquote, if_neg hfeed]
  rw [writeContents, hwritten, List.flatMap_singleton']

/-- A lexeme is cut off the text as its tokens. -/
theorem tokensFrom?_lexeme {l : Lexeme} (hsimple : l.isSimple = true) {rest : List Char} (hrest : l.Ends rest)
    (line : Nat) :
    ∃ ts line', Writes [l] ts ∧
      tokensFrom? line (l.chars ++ rest) = (tokensFrom? line' rest).map fun more => ts ++ more := by
  cases l with
  | word n =>
    obtain ⟨c, r, htext, -⟩ := n.chars_eq
    have hne : n.text.toList ≠ [] := by simp [htext]
    refine ⟨[⟨wordKind n.text, n.text, line⟩], line, rfl, ?_⟩
    rw [Lexeme.chars, tokensFrom?_token hne (lexeme?_word n hrest), String.ofList_toList]
    rfl
  | sign c known =>
    refine ⟨[⟨signKind c, String.ofList [c], line⟩], line, rfl, ?_⟩
    rw [Lexeme.chars, tokensFrom?_token (List.cons_ne_nil c []) (lexeme?_sign hsimple hrest)]
    rfl
  | literal contents =>
    obtain ⟨hwritten, hplain⟩ := writeContents_of_isSimple hsimple
    refine ⟨[⟨.literal, String.ofList ('"' :: contents.toList ++ ['"']), line⟩], line, rfl, ?_⟩
    have hne : '"' :: contents.toList ++ ['"'] ≠ [] := by simp
    rw [Lexeme.chars, hwritten, tokensFrom?_token hne (lexeme?_literal hplain rest)]
    rfl
  | block b =>
    -- a simple block holds nothing but blanks, and makes two tokens
    have hblank : ∀ c ∈ b.text, Text.isBlank c = true := List.all_eq_true.1 hsimple
    have hbrace : ∀ c ∈ (['}'] ++ rest).head?, Text.isBlank c = false := by
      rintro _ ⟨⟩
      decide
    have hinside := tokensFrom?_blank hblank hbrace line
    refine ⟨[⟨.separator, Parser.openBrace, line⟩,
      ⟨.separator, Parser.closeBrace, line + b.text.count '\n'⟩], line + b.text.count '\n', rfl, ?_⟩
    have hchars : (Lexeme.block b).chars ++ rest = ['{'] ++ (b.text ++ (['}'] ++ rest)) := by
      simp [Lexeme.chars]
    rw [hchars, tokensFrom?_token (List.cons_ne_nil _ _) (lexeme?_brace (.inl rfl) _), hinside,
      tokensFrom?_token (List.cons_ne_nil _ _) (lexeme?_brace (.inr rfl) _), Option.map_map]
    rfl

theorem isBlank_head_chars (l : Lexeme) (rest : List Char) :
    ∀ c ∈ (l.chars ++ rest).head?, Text.isBlank c = false := by
  cases l with
  | word n =>
    obtain ⟨c, r, htext, -, hparts⟩ := n.chars_eq
    rw [Lexeme.chars, htext]
    rintro _ ⟨⟩
    exact Text.isBlank_of_isNamePart (hparts c List.mem_cons_self)
  | sign c known =>
    rintro _ ⟨⟩
    exact not_isBlank_of_mem_signs known
  | literal contents =>
    rintro _ ⟨⟩
    decide
  | block b =>
    rintro _ ⟨⟩
    decide

/-- Blanks end every lexeme. -/
theorem ends_of_blank {rest : List Char} (h : ∀ c ∈ rest.head?, Text.isBlank c = true) (l : Lexeme) :
    l.Ends rest := by
  cases l with
  | word n => exact fun c hc => Text.isIdentifierPart_of_isBlank (h c hc)
  | sign c known =>
    refine ⟨fun _ d hd => ⟨?_, ?_⟩, fun _ d hd => ?_⟩
    · rintro rfl
      exact absurd (h '.' hd) (by decide)
    · cases hdigit : d.isDigit with
      | false => rfl
      | true =>
        have hpart : Text.isNamePart d = true := by
          simp [Text.isNamePart, Text.isWord_of_isAlphanum (c := d) (by simp [Char.isAlphanum, hdigit])]
        rw [Text.isNamePart_of_isBlank (h d hd)] at hpart
        cases hpart
    · rintro rfl
      exact absurd (h '=' hd) (by decide)
  | literal contents => trivial
  | block b => trivial

/-- Without blanks between them, lexemes still end where the next one starts, unless both are words. -/
theorem ends_of_mayPrecede {l l' : Lexeme} (h : l.MayPrecede l')
    (hwords : l.isWord = true → l'.isWord = false) (rest : List Char) : l.Ends (l'.chars ++ rest) := by
  have hsigns : ∀ c ∈ signs, Text.isIdentifierPart c = false := List.forall_iff_forall_mem.1 (by decide)
  cases l with
  | word n =>
    cases l' with
    | word n' => cases hwords rfl
    | sign c known =>
      rintro _ ⟨⟩
      exact hsigns c known
    | literal contents =>
      rintro _ ⟨⟩
      decide
    | block b =>
      rintro _ ⟨⟩
      decide
  | sign c known =>
    cases l' with
    | word n' =>
      obtain ⟨d, r, htext, hstart, -⟩ := n'.chars_eq
      obtain ⟨-, hmem, -, hdigit, -⟩ := lexical_of_isNameStart hstart
      rw [Lexeme.chars, htext]
      refine ⟨?_, ?_⟩
      · rintro - _ ⟨⟩
        exact ⟨fun hd => hmem (by simp [hd]), hdigit⟩
      · rintro - _ ⟨⟩ rfl
        exact absurd hstart (by decide)
    | sign d known' =>
      refine ⟨fun hdot => ?_, ?_⟩
      · cases h.1 hdot
      · rintro hequals _ ⟨⟩ rfl
        cases h.2 hequals
    | literal contents =>
      refine ⟨fun hdot => ?_, ?_⟩
      · cases h.1 hdot
      · rintro - _ ⟨⟩
        decide
    | block b =>
      refine ⟨fun hdot => ?_, ?_⟩
      · cases h.1 hdot
      · rintro - _ ⟨⟩
        decide
  | literal contents => trivial
  | block b => trivial

/-! ## Layouts -/

theorem isBlank_of_mem_gap {gap : List Filler} (h : gap.all Filler.isBlank = true) :
    ∀ c ∈ gap.flatMap Filler.chars, Text.isBlank c = true := by
  intro c hc
  obtain ⟨f, hf, hc⟩ := List.mem_flatMap.1 hc
  have hblank := List.all_eq_true.1 h f hf
  cases f with
  | blank d isBlank =>
    rw [List.mem_singleton.1 hc]
    exact isBlank
  | lineComment text oneLine => cases hblank
  | blockComment text unclosed => cases hblank

/-- What follows a lexeme in a layout ends it. -/
theorem ends_of_placed {p : Placed} {placed : List Placed} {ending : List Filler}
    (hgaps : ∀ q ∈ placed, q.gap.all Filler.isBlank = true) (hending : ending.all Filler.isBlank = true)
    (hspaced : (p :: placed).IsChain Placed.Apart)
    (hchain : ((p :: placed).map Placed.lexeme).IsChain Lexeme.MayPrecede) :
    p.lexeme.Ends (placed.flatMap Placed.chars ++ ending.flatMap Filler.chars) := by
  cases placed with
  | nil =>
    refine ends_of_blank (fun c hc => ?_) _
    exact isBlank_of_mem_gap hending c (List.mem_of_mem_head? hc)
  | cons q placed =>
    have hgap := hgaps q List.mem_cons_self
    rw [List.flatMap_cons, Placed.chars, List.append_assoc, List.append_assoc]
    cases hempty : q.gap with
    | nil =>
      have hapart := (List.isChain_cons_cons.1 hspaced).1
      refine ends_of_mayPrecede (List.isChain_cons_cons.1 hchain).1 (fun hp => ?_) _
      cases hq : q.lexeme.isWord with
      | false => rfl
      | true => exact absurd hempty (hapart hp hq)
    | cons f gap =>
      rw [hempty, List.all_cons, Bool.and_eq_true] at hgap
      cases f with
      | blank c isBlank =>
        refine ends_of_blank ?_ _
        rintro _ ⟨⟩
        exact isBlank
      | lineComment text oneLine => cases hgap.1
      | blockComment text unclosed => cases hgap.1

theorem tokensFrom?_placed {placed : List Placed} {ending : List Filler}
    (hsimple : ∀ p ∈ placed, p.lexeme.isSimple = true)
    (hgaps : ∀ p ∈ placed, p.gap.all Filler.isBlank = true) (hending : ending.all Filler.isBlank = true)
    (hspaced : placed.IsChain Placed.Apart)
    (hchain : (placed.map Placed.lexeme).IsChain Lexeme.MayPrecede) (line : Nat) :
    ∃ ts, Writes (placed.map Placed.lexeme) ts ∧
      tokensFrom? line (placed.flatMap Placed.chars ++ ending.flatMap Filler.chars) = some ts := by
  induction placed generalizing line with
  | nil =>
    have hnothing : ∀ c ∈ ([] : List Char).head?, Text.isBlank c = false := by simp
    have hskip := tokensFrom?_blank (isBlank_of_mem_gap hending) hnothing line
    rw [List.append_nil, tokensFrom?_nil] at hskip
    exact ⟨[], .nil, hskip⟩
  | cons p placed ih =>
    have hgaps' : ∀ q ∈ placed, q.gap.all Filler.isBlank = true :=
      fun q hq => hgaps q (List.mem_cons_of_mem p hq)
    have hends := ends_of_placed hgaps' hending hspaced hchain
    have hgap := tokensFrom?_blank (isBlank_of_mem_gap (hgaps p List.mem_cons_self))
      (isBlank_head_chars p.lexeme (placed.flatMap Placed.chars ++ ending.flatMap Filler.chars)) line
    obtain ⟨ts, line', hts, hlexeme⟩ := tokensFrom?_lexeme (hsimple p List.mem_cons_self) hends
      (line + (p.gap.flatMap Filler.chars).count '\n')
    obtain ⟨more, hmore, hread⟩ := ih (fun q hq => hsimple q (List.mem_cons_of_mem p hq)) hgaps'
      hspaced.tail hchain.tail line'
    refine ⟨ts ++ more, hts.append hmore, ?_⟩
    rw [List.flatMap_cons, Placed.chars, List.append_assoc, List.append_assoc, hgap, hlexeme, hread]
    rfl

theorem no_backslash_of_isSimple {l : Lexeme} (h : l.isSimple = true) : '\\' ∉ l.chars := by
  cases l with
  | word n =>
    obtain ⟨c, r, htext, -, hparts⟩ := n.chars_eq
    rw [Lexeme.chars, htext]
    intro hmem
    exact absurd (hparts _ hmem) (by decide)
  | sign c known =>
    intro hmem
    rw [← List.mem_singleton.1 hmem] at known
    exact absurd known (by decide)
  | literal contents =>
    obtain ⟨hwritten, hplain⟩ := writeContents_of_isSimple h
    rw [Lexeme.chars, hwritten]
    simp only [List.cons_append, List.mem_cons, List.mem_append, List.not_mem_nil, or_false, not_or]
    exact ⟨by decide, fun hmem => (hplain _ hmem).1 rfl, by decide⟩
  | block b =>
    have hblank := List.all_eq_true.1 h
    rw [Lexeme.chars]
    simp only [List.cons_append, List.mem_cons, List.mem_append, List.not_mem_nil, or_false, not_or]
    exact ⟨by decide, fun hmem => absurd (hblank _ hmem) (by decide), by decide⟩

/-- A source with nothing but blanks between its lexemes is cut into their tokens. -/
theorem tokens?_layout {lexemes : List Lexeme} (layout : Layout lexemes)
    (hlayout : layout.isUncommented = true) (hsimple : ∀ l ∈ lexemes, l.isSimple = true)
    (hchain : lexemes.IsChain Lexeme.MayPrecede) :
    ∃ ts, Writes lexemes ts ∧ tokens? layout.text = some ts := by
  obtain ⟨placed, ending, rfl, hspaced⟩ := layout
  rw [Layout.isUncommented, Bool.and_eq_true, List.all_eq_true] at hlayout
  obtain ⟨hgaps, hending⟩ := hlayout
  have hsimple' : ∀ p ∈ placed, p.lexeme.isSimple = true :=
    fun p hp => hsimple p.lexeme (List.mem_map_of_mem hp)
  obtain ⟨ts, hts, hread⟩ := tokensFrom?_placed hsimple' hgaps hending hspaced hchain 1
  have hbackslash : '\\' ∉ placed.flatMap Placed.chars ++ ending.flatMap Filler.chars := by
    intro hmem
    rcases List.mem_append.1 hmem with hmem | hmem
    · obtain ⟨p, hp, hmem⟩ := List.mem_flatMap.1 hmem
      rcases List.mem_append.1 hmem with hmem | hmem
      · exact absurd (isBlank_of_mem_gap (hgaps p hp) _ hmem) (by decide)
      · exact no_backslash_of_isSimple (hsimple' p hp) hmem
    · exact absurd (isBlank_of_mem_gap hending _ hmem) (by decide)
  refine ⟨ts, hts, ?_⟩
  have hescape := expand?_of_no_escape fun h => hbackslash (h.subset List.mem_cons_self)
  rw [tokens?, Layout.text, hescape, Option.bind_some, hread]

/-- Neighbours in a unit may follow each other without blanks, where the words are kept apart. -/
theorem isChain_mayPrecede {unit : List Outline} (h : Outline.parameterlessAll unit = true) :
    (Outline.lexemesOfAll unit).IsChain Lexeme.MayPrecede := by
  have hR : Adjoining Lexeme.MayPrecede :=
    { word := fun _ _ => trivial
      sign := fun _ _ _ hdot hequals => ⟨fun h => absurd h hdot, fun h => absurd h hequals⟩
      dot := fun _ => ⟨fun _ => rfl, fun _ => rfl⟩
      equals := fun _ hl => ⟨fun h => absurd h (by decide), fun _ => hl⟩
      literal := fun _ _ _ => trivial
      block := fun _ _ => trivial }
  exact hR.isChain unit (.inr h)

end EndpointIndex.Source
