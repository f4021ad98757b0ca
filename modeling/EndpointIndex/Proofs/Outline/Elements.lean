import EndpointIndex.Java.Grammar
import EndpointIndex.Proofs.Java.Parser
import EndpointIndex.Proofs.Outline.WellFormed

/-!
# Annotations by grammar

What the grammar makes of the tokens of names, values and annotations. A value is read up to a comma or a
closing bracket (`elementValue_term`). Main fact: an annotation is read as it was written (`mark_note`).
-/

namespace EndpointIndex

open Source Java Java.Parser

/-! ## What the grammar keeps -/

mutual

def Term.element : Term → Element
  | .literal contents => .literal (String.ofList ('"' :: contents.toList ++ ['"']))
  | .reference name => .name (name.qualifiers.map Name.text) name.simple.text
  | .array [] => .emptyArray
  | .array (t :: ts) => .array (t.element :: elements ts)

def Term.elements : List Term → List Element
  | [] => []
  | t :: ts => t.element :: elements ts

end

def NamedTerm.pair (a : NamedTerm) : String × Element := (a.key.text, a.term.element)

def ArgumentList.arguments? (a : ArgumentList) : Option Arguments :=
  match a.unnamed with
  | none => if a.named.isEmpty then none else some (.pairs (a.named.map NamedTerm.pair))
  | some t => some (.single t.element)

def Note.mark (n : Note) : Java.Mark := ⟨n.name.text, n.arguments.bind ArgumentList.arguments?⟩

namespace Java

/-! ## Texts of tokens -/

/-- Texts that the grammar looks for where a name or a literal may stand. -/
def otherTexts : List String :=
  ["(", ")", "<", openBrace, closeBrace, "++", "--", "!", "~", "+", "-", "this", "super", "new", "interface"]

theorem wordKind_of_mem_keywords {w : String} (h : w ∈ keywords) : wordKind w ≠ .identifier := by
  unfold wordKind
  split_ifs <;> simp

theorem identifier_not_mem {n : Name} (hn : n.isIdentifier = true) : n.text ∉ otherTexts := by
  have hall : ∀ w ∈ otherTexts, isPlainName w.toList = false ∨ w ∈ keywords := by decide
  intro hmem
  rcases hall n.text hmem with hplain | hkeyword
  · rw [n.plain] at hplain
    cases hplain
  · exact wordKind_of_mem_keywords hkeyword (of_decide_eq_true hn)

theorem literal_not_mem (contents : List Char) : String.ofList ('"' :: contents) ∉ otherTexts := by
  have hall : ∀ w ∈ otherTexts, w.toList.head? ≠ some '"' := by decide
  intro hmem
  apply hall _ hmem
  rw [String.toList_ofList, List.head?_cons]

theorem ne_of_mem_otherTexts {text : String} (h : text ∉ otherTexts) (w : String) (hw : w ∈ otherTexts) :
    text ≠ w ∧ w ≠ text := by
  have hne : text ≠ w := by
    rintro rfl
    exact h hw
  exact ⟨hne, hne.symm⟩

/-- What may stand after a value. -/
def EndsValue (rest : List Token) : Prop :=
  ∃ t r, rest = t :: r ∧ t.text ∈ [",", ")", closeBrace]

theorem writes_identifier {n : Name} (hn : n.isIdentifier = true) {ls : List Source.Lexeme}
    {ts : List Token} (h : Writes (.word n :: ls) ts) :
    ∃ line r, ts = ⟨.identifier, n.text, line⟩ :: r ∧ Writes ls r := by
  apply h.uncons .identifier n.text
  rw [Source.Lexeme.faces, of_decide_eq_true hn]

/-! ## Names -/

theorem head_of_dottedName {n : DottedName} (hn : n.isJava = true) {ts : List Token}
    (h : Writes n.lexemes ts) :
    ∃ text line r, ts = ⟨.identifier, text, line⟩ :: r ∧ text ∉ otherTexts := by
  obtain ⟨qs, simple⟩ := n
  rw [DottedName.isJava, Bool.and_eq_true, List.all_eq_true] at hn
  cases qs with
  | nil =>
    obtain ⟨line, r, rfl, -⟩ := writes_identifier hn.2 h
    exact ⟨_, line, r, rfl, identifier_not_mem hn.2⟩
  | cons q qs =>
    rw [DottedName.lexemes_cons] at h
    have hq := hn.1 q List.mem_cons_self
    obtain ⟨line, r, rfl, -⟩ := writes_identifier hq h
    exact ⟨_, line, r, rfl, identifier_not_mem hq⟩

theorem separated_names (qs : List Name) (simple : Name) (hqs : ∀ q ∈ qs, q.isIdentifier = true)
    (hsimple : simple.isIdentifier = true) {ts rest : List Token}
    (h : Writes (DottedName.mk qs simple).lexemes ts) (hrest : startsWith ["."] rest = false) :
    Separated "." identifier (ts ++ rest) ((qs ++ [simple]).map Name.text) rest := by
  induction qs generalizing ts with
  | nil =>
    obtain ⟨line, r, rfl, hr⟩ := writes_identifier hsimple h
    rw [hr.eq_nil]
    exact .last (identifier_run _ line rest) hrest
  | cons q qs ih =>
    rw [DottedName.lexemes_cons] at h
    obtain ⟨line, r, rfl, hr⟩ := writes_identifier (hqs q List.mem_cons_self) h
    obtain ⟨line', r', rfl, hr'⟩ := hr.uncons .separator "." rfl
    refine .turn (identifier_run _ line _) rfl ?_ (ih (fun q' hq' => hqs q' (List.mem_cons_of_mem q hq')) hr')
    show (r' ++ rest).length < (r' ++ rest).length + 1 + 1
    omega

theorem qualifiedName_dottedName {n : DottedName} (hn : n.isJava = true) {ts rest : List Token}
    (h : Writes n.lexemes ts) (hrest : startsWith ["."] rest = false) :
    qualifiedName (ts ++ rest) = .ok (n.text, rest) := by
  rw [DottedName.isJava, Bool.and_eq_true, List.all_eq_true] at hn
  have hnames := separated_names n.qualifiers n.simple hn.1 hn.2 h hrest
  rw [qualifiedName, bind_ok hnames.separated_eq, pure_run, DottedName.text]

/-! ## Values -/

theorem ne_of_mem_ends {t : Token} (h : t.text ∈ [",", ")", closeBrace]) (w : String)
    (hw : w ∉ [",", ")", closeBrace]) : t.text ≠ w ∧ w ≠ t.text := by
  have hne : t.text ≠ w := by
    rintro rfl
    exact hw h
  exact ⟨hne, hne.symm⟩

variable {self : Grammar}

/-- A primary expression that a value ends with has no selectors and no operators. -/
theorem unary_of_primary {t : Token} {s rest : List Token} {e : Element}
    (ht : t.text ∉ otherTexts) (hprimary : primary self (t :: s) = .ok (e, rest))
    (hrest : EndsValue rest) : unary self (t :: s) = .ok (e, rest) := by
  obtain ⟨t', r, rfl, ht'⟩ := hrest
  have hne := ne_of_mem_ends ht'
  have hfirst := ne_of_mem_otherTexts ht
  have hoperators : skipOperators prefixOperators (t :: s) = .ok ((), t :: s) := by
    change Except.ok ((), (t :: s).dropWhile _) = _
    rw [List.dropWhile_cons_of_neg (by simp +decide [prefixOperators, hfirst])]
  have hselectors : bounded (selectors self) (t' :: r) = .ok ((), t' :: r) := by
    change selectors self (r.length + 1 + 1) (t' :: r) = _
    rw [selectors, get_bind]
    simp +decide [hne]
  have hpostfix : skipOperators postfixOperators (t' :: r) = .ok ((), t' :: r) := by
    change Except.ok ((), (t' :: r).dropWhile _) = _
    rw [List.dropWhile_cons_of_neg (by simp +decide [postfixOperators, hne])]
  rw [unary, bind_ok hoperators, nextIs_bind, textAt_zero, beq_false_of_ne (hfirst "(" (by decide)).1,
    if_neg Bool.false_ne_true, selection, bind_ok hprimary, bind_ok hselectors, bind_ok hpostfix, pure_run]

theorem ternary_of_unary {s rest : List Token} {e : Element} (hunary : self .unary s = .ok (e, rest))
    (hrest : EndsValue rest) : ternary self s = .ok (e, rest) := by
  obtain ⟨t, r, rfl, ht⟩ := hrest
  have hne := ne_of_mem_ends ht
  have hchain : infixChain self s = .ok (e, t :: r) := by
    have hturns : Turns (fun s => !startsInfix s) (operand self) (t :: r) [] (t :: r) := by
      apply Turns.done
      simp +decide [startsInfix, infixOperators, hne]
    rw [infixChain, bind_ok hunary, bind_ok hturns.untilNext_eq]
    rfl
  rw [ternary, bind_ok hchain]
  simp +decide [hne]

theorem primary_literal (w : String) (line : Nat) (s : List Token) :
    primary self (⟨.literal, w, line⟩ :: s) = .ok (.literal w, s) := by
  rw [primary, nextKind_bind, kindAt_zero, beq_self_eq_true, if_pos rfl,
    bind_ok (acceptKind_run .literal w line s), pure_run]

theorem nameSuffix_ends (qualifier : List String) (member : String) {rest : List Token}
    (hrest : EndsValue rest) : nameSuffix self qualifier member rest = .ok (.name qualifier member, rest) := by
  obtain ⟨t, r, rfl, ht⟩ := hrest
  have hne := ne_of_mem_ends ht
  rw [nameSuffix]
  simp +decide [hne]

theorem dottedRun_ends {rest : List Token} (hrest : EndsValue rest) : dottedRun rest = ([], rest) := by
  obtain ⟨t, r, rfl, ht⟩ := hrest
  have hne := ne_of_mem_ends ht
  cases r with
  | nil => rfl
  | cons t' r =>
    rw [dottedRun]
    simp +decide [hne]

theorem dottedRun_names (qs : List Name) (simple : Name) (hqs : ∀ q ∈ qs, q.isIdentifier = true)
    (hsimple : simple.isIdentifier = true) {ts rest : List Token}
    (h : Writes (.sign '.' :: (DottedName.mk qs simple).lexemes) ts) (hrest : EndsValue rest) :
    dottedRun (ts ++ rest) = ((qs ++ [simple]).map Name.text, rest) := by
  induction qs generalizing ts with
  | nil =>
    obtain ⟨line, r, rfl, hr⟩ := h.uncons .separator "." rfl
    obtain ⟨line', r', rfl, hr'⟩ := writes_identifier hsimple hr
    rw [hr'.eq_nil]
    simp [dottedRun, dottedRun_ends hrest]
  | cons q qs ih =>
    rw [DottedName.lexemes_cons] at h
    obtain ⟨line, r, rfl, hr⟩ := h.uncons .separator "." rfl
    obtain ⟨line', r', rfl, hr'⟩ := writes_identifier (hqs q List.mem_cons_self) hr
    have hmore := ih (fun q' hq' => hqs q' (List.mem_cons_of_mem q hq')) hr'
    simp [dottedRun, hmore]

theorem primary_identifier {n : Name} (hn : n.isIdentifier = true) (line : Nat) (s : List Token) :
    primary self (⟨.identifier, n.text, line⟩ :: s) =
      nameSuffix self (n.text :: (dottedRun s).1).dropLast ((dottedRun s).1.getLastD n.text)
        (dottedRun s).2 := by
  have hne := ne_of_mem_otherTexts (identifier_not_mem hn)
  rw [primary]
  simp +decide [hne]

theorem primary_reference {n : DottedName} (hn : n.isJava = true) {ts rest : List Token}
    (h : Writes n.lexemes ts) (hrest : EndsValue rest) :
    primary self (ts ++ rest) = .ok ((Term.reference n).element, rest) := by
  obtain ⟨qs, simple⟩ := n
  rw [DottedName.isJava, Bool.and_eq_true, List.all_eq_true] at hn
  cases qs with
  | nil =>
    obtain ⟨line, r, rfl, hr⟩ := writes_identifier hn.2 h
    rw [hr.eq_nil, List.singleton_append, primary_identifier hn.2, dottedRun_ends hrest,
      nameSuffix_ends _ _ hrest]
    rfl
  | cons q qs =>
    rw [DottedName.lexemes_cons] at h
    obtain ⟨line, r, rfl, hr⟩ := writes_identifier (hn.1 q List.mem_cons_self) h
    have hrun := dottedRun_names qs simple (fun q' hq' => hn.1 q' (List.mem_cons_of_mem q hq')) hn.2 hr hrest
    rw [List.cons_append, primary_identifier (hn.1 q List.mem_cons_self), hrun, nameSuffix_ends _ _ hrest,
      Term.element, List.map_append, List.map_singleton, ← List.cons_append, List.dropLast_concat,
      List.getLastD_concat]
    rfl

/-- A value that is a primary expression. -/
theorem elementValue_of_primary {t : Token} {s rest : List Token} {e : Element} (ht : t.text ∉ otherTexts)
    (hkind : t.kind ≠ .atSign) (hprimary : ∀ self, primary self (t :: s) = .ok (e, rest))
    (hrest : EndsValue rest) {n : Nat} (hn : 3 ≤ n) :
    parseRule n .elementValue (t :: s) = .ok (e, rest) := by
  obtain ⟨m, rfl⟩ := Nat.exists_eq_add_of_le' hn
  have hunary : parseRule (m + 1) .unary (t :: s) = .ok (e, rest) := unary_of_primary ht (hprimary _) hrest
  have hternary : parseRule (m + 2) .ternary (t :: s) = .ok (e, rest) := ternary_of_unary hunary hrest
  have hfirst := ne_of_mem_otherTexts ht
  change elementValue (parseRule (m + 2)) (t :: s) = _
  rw [elementValue, get_bind]
  simp +decide [startsMark, hkind, hfirst, hternary]

/-- The first token of a value closes no bracket. -/
theorem head_of_term {t : Term} (ht : t.isJava = true) {ts : List Token} (h : Writes t.lexemes ts) :
    ∃ tok r, ts = tok :: r ∧ tok.text ≠ closeBrace ∧ tok.text ≠ ")" := by
  have hother : ∀ text ∉ otherTexts, text ≠ closeBrace ∧ text ≠ ")" := by
    intro text htext
    have hne := ne_of_mem_otherTexts htext
    exact ⟨(hne _ (by decide)).1, (hne _ (by decide)).1⟩
  cases t with
  | literal contents =>
    obtain ⟨line, r, rfl, -⟩ := h.uncons _ _ rfl
    exact ⟨_, r, rfl, hother _ (literal_not_mem _)⟩
  | reference name =>
    obtain ⟨text, line, r, rfl, htext⟩ := head_of_dottedName ht h
    exact ⟨_, r, rfl, hother _ htext⟩
  | array items =>
    have hbrace : openBrace ≠ closeBrace ∧ openBrace ≠ ")" := by decide
    obtain ⟨line, r, rfl, -⟩ := h.uncons .separator openBrace rfl
    exact ⟨_, r, rfl, hbrace⟩

theorem listed_cons (ls : List Source.Lexeme) (lss : List (List Source.Lexeme)) :
    ∃ more, listed (ls :: lss) = ls ++ more := by
  cases lss with
  | nil => exact ⟨[], (List.append_nil ls).symm⟩
  | cons ls' lss => exact ⟨_, rfl⟩

theorem head_of_terms {t : Term} {items : List Term} (h : Term.isJavaAll (t :: items) = true) {ts : List Token}
    (hts : Writes (listed (Term.lexemesOfAll (t :: items))) ts) :
    ∃ tok r, ts = tok :: r ∧ tok.text ≠ closeBrace := by
  rw [Term.isJavaAll, Bool.and_eq_true] at h
  obtain ⟨more, hmore⟩ := listed_cons t.lexemes (Term.lexemesOfAll items)
  rw [Term.lexemesOfAll, hmore] at hts
  obtain ⟨a, b, rfl, ha, -⟩ := hts.split
  obtain ⟨tok, r, rfl, htok, -⟩ := head_of_term h.1 ha
  exact ⟨tok, r ++ b, rfl, htok⟩

theorem elementArray_of_items {items : List Element} {tok : Token} {inner rest : List Token} {line line' : Nat}
    (htok : tok.text ≠ closeBrace)
    (hitems : bounded (elementItems self) (tok :: inner ++ ⟨.separator, closeBrace, line'⟩ :: rest) =
      .ok (items, ⟨.separator, closeBrace, line'⟩ :: rest)) :
    elementArray self
        (⟨.separator, openBrace, line⟩ :: (tok :: inner ++ ⟨.separator, closeBrace, line'⟩ :: rest)) =
      .ok (.array items, rest) := by
  have hopen : startsWith [closeBrace] (tok :: inner ++ ⟨.separator, closeBrace, line'⟩ :: rest) = false := by
    simp [Ne.symm htok]
  have hcomma : ("," == closeBrace) = false := by decide
  rw [elementArray, accept_bind, tryAccept_bind, hopen, if_neg Bool.false_ne_true, if_neg Bool.false_ne_true,
    bind_ok hitems]
  simp [hcomma]

mutual

/-- Values are read as they were written. -/
theorem elementValue_term (t : Term) (ht : t.isJava = true) {ts rest : List Token} (h : Writes t.lexemes ts)
    (hrest : EndsValue rest) {n : Nat} (hn : ts.length + 2 ≤ n) :
    parseRule n .elementValue (ts ++ rest) = .ok (t.element, rest) := by
  cases t with
  | literal contents =>
    obtain ⟨line, r, rfl, hr⟩ := h.uncons _ _ rfl
    rw [hr.eq_nil] at hn ⊢
    exact elementValue_of_primary (literal_not_mem _) (by simp) (fun self => primary_literal _ line rest)
      hrest hn
  | reference name =>
    have hprimary : ∀ self, primary self (ts ++ rest) = .ok ((Term.reference name).element, rest) :=
      fun self => primary_reference ht h hrest
    obtain ⟨text, line, r, rfl, htext⟩ := head_of_dottedName ht h
    refine elementValue_of_primary htext (by simp) hprimary hrest ?_
    rw [List.length_cons] at hn
    omega
  | array items =>
    rw [Term.lexemes, List.cons_append] at h
    obtain ⟨line, r, rfl, hr⟩ := h.uncons .separator openBrace rfl
    obtain ⟨inner, last, rfl, hinner, hlast⟩ := hr.split
    obtain ⟨line', r', rfl, hr'⟩ := hlast.uncons .separator closeBrace rfl
    rw [hr'.eq_nil] at hn ⊢
    rw [List.length_cons, List.length_append, List.length_singleton] at hn
    -- the items are read one level further down
    obtain ⟨m, rfl⟩ : ∃ m, n = m + 1 := ⟨n - 1, by omega⟩
    have harray : ∀ s, parseRule (m + 1) .elementValue (⟨.separator, openBrace, line⟩ :: s) =
        elementArray (parseRule m) (⟨.separator, openBrace, line⟩ :: s) := by
      intro s
      change elementValue (parseRule m) _ = _
      rw [elementValue, get_bind]
      simp [startsMark]
    rw [List.cons_append, List.append_assoc, List.singleton_append, harray]
    cases items with
    | nil =>
      rw [hinner.eq_nil, elementArray]
      simp [Term.element]
    | cons t items =>
      have hitems : bounded (elementItems (parseRule m)) (inner ++ ⟨.separator, closeBrace, line'⟩ :: rest) = _ :=
        elementItems_terms (t :: items) (List.cons_ne_nil t items) ht hinner line' rest (by omega)
          (by rw [List.length_append]; omega)
      obtain ⟨tok, inner', rfl, htok⟩ := head_of_terms ht hinner
      rw [elementArray_of_items htok hitems, Term.element, Term.elements]

theorem elementItems_terms (items : List Term) (hne : items ≠ []) (hitems : Term.isJavaAll items = true)
    {ts : List Token} (h : Writes (listed (Term.lexemesOfAll items)) ts) (line : Nat) (rest : List Token)
    {n k : Nat} (hn : ts.length + 2 ≤ n) (hk : ts.length ≤ k) :
    elementItems (parseRule n) k (ts ++ ⟨.separator, closeBrace, line⟩ :: rest) =
      .ok (Term.elements items, ⟨.separator, closeBrace, line⟩ :: rest) := by
  cases items with
  | nil => exact absurd rfl hne
  | cons t items =>
    rw [Term.isJavaAll, Bool.and_eq_true] at hitems
    cases items with
    | nil =>
      have hts : Writes t.lexemes ts := h
      have hends : EndsValue (⟨.separator, closeBrace, line⟩ :: rest) := ⟨_, rest, rfl, by simp⟩
      have hvalue := elementValue_term t hitems.1 hts hends hn
      obtain ⟨tok, r, rfl, -⟩ := head_of_term hitems.1 hts
      obtain ⟨j, rfl⟩ : ∃ j, k = j + 1 := ⟨k - 1, by rw [List.length_cons] at hk; omega⟩
      rw [elementItems, bind_ok hvalue]
      simp [Term.elements]
    | cons t' items =>
      obtain ⟨a, b, rfl, ha, hb⟩ := h.split
      obtain ⟨line', r, rfl, hr⟩ := hb.uncons .separator "," rfl
      rw [List.length_append, List.length_cons] at hn hk
      have hends : EndsValue (⟨.separator, ",", line'⟩ :: (r ++ ⟨.separator, closeBrace, line⟩ :: rest)) :=
        ⟨_, _, rfl, by simp⟩
      have hvalue := elementValue_term t hitems.1 ha hends (show a.length + 2 ≤ n by omega)
      obtain ⟨j, rfl⟩ : ∃ j, k = j + 1 := ⟨k - 1, by omega⟩
      have hmore := elementItems_terms (t' :: items) (List.cons_ne_nil t' items) hitems.2 hr line rest
        (show r.length + 2 ≤ n by omega) (show r.length ≤ j by omega)
      obtain ⟨tok, r', rfl, htok⟩ := head_of_terms hitems.2 hr
      have hcomma : ("," == closeBrace) = false := by decide
      -- the comma is not the optional one before the closing brace
      have hgoes : startsWith [",", closeBrace]
          (⟨.separator, ",", line'⟩ :: (tok :: r' ++ ⟨.separator, closeBrace, line⟩ :: rest)) = false := by
        simp [Ne.symm htok]
      rw [List.append_assoc, List.cons_append, elementItems, bind_ok hvalue, nextIs_bind, next_bind, hgoes,
        textAt_zero, hcomma, if_neg (by simp), accept_bind, bind_ok hmore, pure_run]
      rfl

end

/-! ## Annotations -/

theorem elementPair_named {a : NamedTerm} (ha : a.isJava = true) {ts rest : List Token}
    (h : Writes a.lexemes ts) (hrest : EndsValue rest) {n : Nat} (hn : ts.length + 2 ≤ n) :
    elementPair (parseRule n) (ts ++ rest) = .ok (a.pair, rest) := by
  rw [NamedTerm.isJava, Bool.and_eq_true] at ha
  obtain ⟨line, r, rfl, hr⟩ := writes_identifier ha.1 h
  obtain ⟨line', r', rfl, hr'⟩ := hr.uncons .operator "=" rfl
  rw [List.length_cons, List.length_cons] at hn
  have hvalue := elementValue_term a.term ha.2 hr' hrest (show r'.length + 2 ≤ n by omega)
  rw [List.cons_append, List.cons_append, elementPair, identifier_bind, accept_bind, bind_ok hvalue, pure_run]
  rfl

theorem separated_pairs (a : NamedTerm) (as : List NamedTerm) (has : ∀ x ∈ a :: as, x.isJava = true)
    {ts : List Token} (h : Writes (listed ((a :: as).map NamedTerm.lexemes)) ts) (line : Nat)
    (rest : List Token) {n : Nat} (hn : ts.length + 2 ≤ n) :
    Separated "," (elementPair (parseRule n)) (ts ++ ⟨.separator, ")", line⟩ :: rest)
      ((a :: as).map NamedTerm.pair) (⟨.separator, ")", line⟩ :: rest) := by
  induction as generalizing a ts with
  | nil =>
    have hends : EndsValue (⟨.separator, ")", line⟩ :: rest) := ⟨_, rest, rfl, by simp⟩
    exact .last (elementPair_named (has a List.mem_cons_self) h hends hn) rfl
  | cons a' as ih =>
    obtain ⟨x, y, rfl, hx, hy⟩ := h.split
    obtain ⟨line', r, rfl, hr⟩ := hy.uncons .separator "," rfl
    rw [List.length_append, List.length_cons] at hn
    have hends : EndsValue (⟨.separator, ",", line'⟩ :: (r ++ ⟨.separator, ")", line⟩ :: rest)) :=
      ⟨_, _, rfl, by simp⟩
    have hpair := elementPair_named (has a List.mem_cons_self) hx hends (show x.length + 2 ≤ n by omega)
    have hmore := ih a' (fun x hx => has x (List.mem_cons_of_mem a hx)) hr (by omega)
    rw [List.append_assoc, List.cons_append]
    refine .turn hpair rfl ?_ hmore
    simp only [List.length_append, List.length_cons]
    omega

/-- An unnamed value is not taken for a named one. -/
theorem not_nextName_term {t : Term} (ht : t.isJava = true) {ts rest : List Token} (h : Writes t.lexemes ts)
    (hrest : EndsValue rest) :
    (kindAt (ts ++ rest) 0 == some .identifier && textAt (ts ++ rest) 1 == "=") = false := by
  cases t with
  | literal contents =>
    obtain ⟨line, r, rfl, -⟩ := h.uncons _ _ rfl
    rfl
  | reference name =>
    obtain ⟨qs, simple⟩ := name
    rw [Term.isJava, DottedName.isJava, Bool.and_eq_true, List.all_eq_true] at ht
    cases qs with
    | nil =>
      obtain ⟨line, r, rfl, hr⟩ := writes_identifier ht.2 h
      obtain ⟨tok, rest, rfl, htok⟩ := hrest
      rw [hr.eq_nil]
      simp [(ne_of_mem_ends htok "=" (by decide)).1]
    | cons q qs =>
      rw [Term.lexemes, DottedName.lexemes_cons] at h
      obtain ⟨line, r, rfl, hr⟩ := writes_identifier (ht.1 q List.mem_cons_self) h
      obtain ⟨line', r', rfl, -⟩ := hr.uncons .separator "." rfl
      rfl
  | array items =>
    obtain ⟨line, r, rfl, -⟩ := h.uncons .separator openBrace rfl
    rfl

/-- Named arguments start with a name and an equals sign. -/
theorem head_of_pairs {a : NamedTerm} (ha : a.isJava = true) (as : List NamedTerm) {ts : List Token}
    (h : Writes (listed ((a :: as).map NamedTerm.lexemes)) ts) :
    ∃ line line' r, ts = ⟨.identifier, a.key.text, line⟩ :: ⟨.operator, "=", line'⟩ :: r := by
  rw [NamedTerm.isJava, Bool.and_eq_true] at ha
  obtain ⟨more, hmore⟩ := listed_cons a.lexemes (as.map NamedTerm.lexemes)
  rw [List.map_cons, hmore] at h
  obtain ⟨x, y, rfl, hx, -⟩ := h.split
  obtain ⟨line, r, rfl, hr⟩ := writes_identifier ha.1 hx
  obtain ⟨line', r', rfl, -⟩ := hr.uncons .operator "=" rfl
  exact ⟨line, line', r' ++ y, rfl⟩

/-- Between the parentheses of an annotation there is nothing, or the arguments are read. -/
theorem annotationArguments_list {a : ArgumentList} (ha : a.isJava = true) {ts : List Token}
    (h : Writes a.lexemes ts) (line : Nat) (rest : List Token) {n : Nat} (hn : ts.length + 2 ≤ n) :
    a.arguments? = none ∧ ts = [] ∨
      ∃ arguments tok r, a.arguments? = some arguments ∧ ts = tok :: r ∧ tok.text ≠ ")" ∧
        annotationArguments (parseRule n) (ts ++ ⟨.separator, ")", line⟩ :: rest) =
          .ok (arguments, ⟨.separator, ")", line⟩ :: rest) := by
  rw [ArgumentList.isJava] at ha
  rw [ArgumentList.arguments?]
  cases hunnamed : a.unnamed with
  | none =>
    rw [hunnamed] at ha
    rw [ArgumentList.lexemes_of_named hunnamed] at h
    cases hnamed : a.named with
    | nil =>
      rw [hnamed] at h
      exact .inl ⟨rfl, h.eq_nil⟩
    | cons x xs =>
      rw [hnamed] at h ha
      have hpairs := separated_pairs x xs (List.all_eq_true.1 ha) h line rest hn
      have hx : x.isJava = true := List.all_eq_true.1 ha x List.mem_cons_self
      have hkey := identifier_not_mem (Bool.and_eq_true_iff.1 hx).1
      obtain ⟨line₁, line₂, r, rfl⟩ := head_of_pairs hx xs h
      refine .inr ⟨_, _, _, rfl, rfl, (ne_of_mem_otherTexts hkey ")" (by decide)).1, ?_⟩
      rw [annotationArguments, nextName_bind, if_pos (by simp), bind_ok hpairs.separated_eq, pure_run]
  | some t =>
    rw [hunnamed, Bool.and_eq_true] at ha
    rw [ArgumentList.lexemes_of_unnamed hunnamed ha.1] at h
    have hends : EndsValue (⟨.separator, ")", line⟩ :: rest) := ⟨_, rest, rfl, by simp⟩
    have hvalue := elementValue_term t ha.2 h hends hn
    -- a single value without a name is not taken for a pair
    have hname := not_nextName_term ha.2 h hends
    obtain ⟨tok, r, hts, -, htok⟩ := head_of_term ha.2 h
    refine .inr ⟨_, tok, r, rfl, hts, htok, ?_⟩
    rw [annotationArguments, nextName_bind, hname, if_neg Bool.false_ne_true, bind_ok hvalue, pure_run]

/-- An annotation is read as it was written. -/
theorem mark_note {note : Note} (hnote : note.isJava = true) {ts rest : List Token}
    (h : Writes note.lexemes ts) (hrest : startsWith ["."] rest = false ∧ startsWith ["("] rest = false)
    {n : Nat} (hn : ts.length + 2 ≤ n) : parseRule n .mark (ts ++ rest) = .ok (note.mark, rest) := by
  obtain ⟨name, nameable, arguments⟩ := note
  rw [Note.isJava, Bool.and_eq_true] at hnote
  rw [Note.lexemes, List.cons_append] at h
  obtain ⟨line, r, rfl, hr⟩ := h.uncons .atSign "@" rfl
  obtain ⟨named, more, rfl, hnamed, hmore⟩ := hr.split
  rw [List.length_cons, List.length_append] at hn
  obtain ⟨m, rfl⟩ : ∃ m, n = m + 1 := ⟨n - 1, by omega⟩
  change mark (parseRule m) _ = _
  rw [List.cons_append, List.append_assoc, mark, accept_bind]
  cases arguments with
  | none =>
    have hname := qualifiedName_dottedName hnote.1 hnamed hrest.1
    rw [hmore.eq_nil, List.nil_append, bind_ok hname, tryAccept_bind, hrest.2, if_neg Bool.false_ne_true,
      if_neg Bool.false_ne_true, pure_run]
    rfl
  | some a =>
    obtain ⟨line₁, r₁, rfl, hr₁⟩ := hmore.uncons .separator "(" rfl
    obtain ⟨inner, last, rfl, hinner, hlast⟩ := hr₁.split
    obtain ⟨line₂, r₂, rfl, hr₂⟩ := hlast.uncons .separator ")" rfl
    rw [List.length_cons, List.length_append, List.length_cons] at hn
    rw [hr₂.eq_nil, List.cons_append, List.append_assoc, List.singleton_append]
    have hparens : startsWith ["."]
        (⟨.separator, "(", line₁⟩ :: (inner ++ ⟨.separator, ")", line₂⟩ :: rest)) = false := by simp
    have hname := qualifiedName_dottedName hnote.1 hnamed hparens
    have hargs := annotationArguments_list hnote.2 hinner line₂ rest (show inner.length + 2 ≤ m by omega)
    rw [bind_ok hname, tryAccept_bind]
    rcases hargs with ⟨hnone, rfl⟩ | ⟨arguments, tok, r, hsome, rfl, htok, hread⟩
    · simp [Note.mark, hnone]
    · simp only [List.cons_append] at hread
      simp [Note.mark, hsome, htok, bind_ok hread]

end Java

end EndpointIndex
