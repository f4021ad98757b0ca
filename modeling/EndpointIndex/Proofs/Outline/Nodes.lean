import EndpointIndex.Proofs.Outline.Settled

/-!
# Declarations by grammar

What the grammar makes of the tokens of declarations. Modifiers and annotations are read together
(`modifierList_opening`), then a type or a method. Main fact: the grammar accepts the tokens of a unit
and reports its declarations (`compilationUnit_unit`).
-/

namespace EndpointIndex.Java

open EndpointIndex.Source EndpointIndex.Java.Parser

mutual

/-- What the grammar reports of a declaration, without places. -/
def Node.declared : Node → Declaration
  | .method name _ marks => .method name (marks.map Mark.annotation) none
  | .type kind name _ marks members =>
    .type kind name (marks.map Mark.annotation) (declaredAll members) none

def Node.declaredAll : List Node → List Declaration
  | [] => []
  | n :: ns => n.declared :: declaredAll ns

end

/-! ## Modifiers -/

/-- A modifier, or an annotation, which is kept. -/
def modifierItem (self : Grammar) : Parser (Option Mark) := do
  if ← nextKind .modifier then
    let _ ← advance
    return none
  else some <$> self .mark

theorem modifierList_eq (self : Grammar) :
    modifierList self = do
      return (← untilNext (fun s => !startsModifier s) (modifierItem self)).filterMap id := rfl

/-- Tokens that start with an annotation or a word. -/
def StartsDeclaration (s : List Token) : Prop :=
  ∃ t r, s = t :: r ∧ (t.text = "@" ∨ isPlainName t.text.toList = true)

theorem StartsDeclaration.ne {s : List Token} (h : StartsDeclaration s) {w : String}
    (hw : w ≠ "@" ∧ isPlainName w.toList = false) : textAt s 0 ≠ w := by
  obtain ⟨t, r, rfl, ht⟩ := h
  rw [textAt_zero]
  rintro rfl
  rcases ht with ht | ht
  · exact hw.1 ht
  · rw [hw.2] at ht
    cases ht

theorem StartsDeclaration.startsWith {s : List Token} (h : StartsDeclaration s) {w : String}
    (hw : w ≠ "@" ∧ isPlainName w.toList = false) : startsWith [w] s = false := by
  have hne := h.ne hw
  obtain ⟨t, r, rfl, -⟩ := h
  rw [textAt_zero] at hne
  rw [startsWith_cons, beq_false_of_ne (Ne.symm hne), Bool.false_and]

theorem startsDeclaration_of_notes {notes : List Note} {ts rest : List Token}
    (h : Writes (notes.flatMap Note.lexemes) ts) (hrest : StartsDeclaration rest) :
    StartsDeclaration (ts ++ rest) := by
  cases notes with
  | nil =>
    rw [h.eq_nil]
    exact hrest
  | cons note notes =>
    obtain ⟨line, r, rfl, -⟩ := h.uncons .atSign "@" rfl
    exact ⟨_, r ++ rest, rfl, .inl rfl⟩

theorem startsDeclaration_of_words {words : List Name} {ts rest : List Token}
    (h : Writes (words.map .word) ts) (hrest : StartsDeclaration rest) : StartsDeclaration (ts ++ rest) := by
  cases words with
  | nil =>
    rw [h.eq_nil]
    exact hrest
  | cons w words =>
    obtain ⟨line, r, rfl, -⟩ := h.uncons _ _ rfl
    exact ⟨_, r ++ rest, rfl, .inr w.plain⟩

theorem head_of_note {note : Note} (hnote : note.isJava = true) {ts : List Token} (h : Writes note.lexemes ts) :
    ∃ line text line' r, ts = ⟨.atSign, "@", line⟩ :: ⟨.identifier, text, line'⟩ :: r ∧ text ≠ "interface" := by
  rw [Note.isJava, Bool.and_eq_true] at hnote
  rw [Note.lexemes, List.cons_append] at h
  obtain ⟨line, r, rfl, hr⟩ := h.uncons .atSign "@" rfl
  obtain ⟨a, b, rfl, ha, -⟩ := hr.split
  obtain ⟨text, line', r', rfl, htext⟩ := head_of_dottedName hnote.1 ha
  exact ⟨line, text, line', r' ++ b, rfl, (ne_of_mem_otherTexts htext _ (by decide)).1⟩

/-- Annotations are read by a loop that stops at none of them. -/
theorem turns_notes {α : Type} {stop : List Token → Bool} {item : Parser α} {f : Note → α} {n : Nat}
    (hgo : ∀ line text line' s, text ≠ "interface" →
      stop (⟨.atSign, "@", line⟩ :: ⟨.identifier, text, line'⟩ :: s) = false)
    (hitem : ∀ (note : Note) line s s', parseRule n .mark (⟨.atSign, "@", line⟩ :: s) = .ok (note.mark, s') →
      item (⟨.atSign, "@", line⟩ :: s) = .ok (f note, s'))
    {notes : List Note} (hnotes : notes.all Note.isJava = true) {ts rest rest' : List Token} {as : List α}
    (h : Writes (notes.flatMap Note.lexemes) ts) (hrest : StartsDeclaration rest)
    (hturns : Turns stop item rest as rest') (hn : ts.length + 2 ≤ n) :
    Turns stop item (ts ++ rest) (notes.map f ++ as) rest' := by
  induction notes generalizing ts with
  | nil =>
    rw [h.eq_nil]
    exact hturns
  | cons note notes ih =>
    rw [List.all_cons, Bool.and_eq_true] at hnotes
    obtain ⟨a, b, rfl, ha, hb⟩ := h.split
    rw [List.length_append] at hn
    have hfollows := startsDeclaration_of_notes hb hrest
    have hmark := mark_note hnotes.1 ha ⟨hfollows.startsWith (by decide), hfollows.startsWith (by decide)⟩
      (show a.length + 2 ≤ n by omega)
    obtain ⟨line, text, line', r, rfl, htext⟩ := head_of_note hnotes.1 ha
    rw [List.append_assoc]
    refine .turn (hgo line text line' _ htext) (hitem note line _ _ hmark) ?_ (ih hnotes.2 hb (by omega))
    simp only [List.cons_append, List.length_cons, List.length_append]
    omega

theorem turns_modifiers {n : Nat} {rest : List Token} (hstop : startsModifier rest = false)
    (modifiers : List Modifier) {ts : List Token} (h : Writes ((modifiers.map Modifier.word).map .word) ts) :
    Turns (fun s => !startsModifier s) (modifierItem (parseRule n)) (ts ++ rest)
      (modifiers.map fun _ => none) rest := by
  induction modifiers generalizing ts with
  | nil =>
    rw [h.eq_nil]
    exact .done (by simp [hstop])
  | cons m modifiers ih =>
    have hkind : wordKind m.text = .modifier := by
      rw [wordKind, if_pos m.known]
    obtain ⟨line, r, rfl, hr⟩ := h.uncons .modifier m.text (by rw [← hkind]; rfl)
    refine .turn ?_ ?_ ?_ (ih hr)
    · simp [startsModifier]
    · rw [List.cons_append, modifierItem, nextKind_bind, kindAt_zero, beq_self_eq_true, if_pos rfl, advance_bind,
        pure_run]
    · simp

/-- The annotations of a declaration are kept, its modifiers are not. -/
theorem modifierList_opening {notes : List Note} (hnotes : notes.all Note.isJava = true)
    (modifiers : List Modifier) {keyword name : Name} (hkeyword : wordKind keyword.text = .keyword)
    (hname : name.isIdentifier = true) {ts : List Token}
    (h : Writes (Outline.opening notes modifiers keyword name) ts) {n : Nat} (hn : ts.length + 2 ≤ n) :
    ∃ line line', ∀ rest, modifierList (parseRule n) (ts ++ rest) =
      .ok (notes.map Note.mark, ⟨.keyword, keyword.text, line⟩ :: ⟨.identifier, name.text, line'⟩ :: rest) := by
  rw [Outline.opening_eq, List.map_append] at h
  obtain ⟨a, b, rfl, ha, hb⟩ := h.split
  obtain ⟨c, d, rfl, hc, hd⟩ := hb.split
  obtain ⟨line, r, rfl, hr⟩ := hd.uncons .keyword keyword.text (by rw [← hkeyword]; rfl)
  obtain ⟨line', r', rfl, hr'⟩ := writes_identifier hname hr
  rw [hr'.eq_nil] at hn ⊢
  rw [List.length_append] at hn
  refine ⟨line, line', fun rest => ?_⟩
  have hstop : startsModifier
      (⟨.keyword, keyword.text, line⟩ :: ⟨.identifier, name.text, line'⟩ :: rest) = false := by
    simp [startsModifier, startsMark]
  -- only annotations are kept
  have hitem : ∀ (note : Note) line s s', parseRule n .mark (⟨.atSign, "@", line⟩ :: s) = .ok (note.mark, s') →
      modifierItem (parseRule n) (⟨.atSign, "@", line⟩ :: s) = .ok (some note.mark, s') := by
    intro note line s s' hmark
    rw [modifierItem, nextKind_bind]
    exact map_ok hmark some
  have hwords := startsDeclaration_of_words hc
    (show StartsDeclaration (⟨.keyword, keyword.text, line⟩ :: ⟨.identifier, name.text, line'⟩ :: rest) from
      ⟨_, _, rfl, .inr keyword.plain⟩)
  have hturns := turns_notes (by simp [startsModifier, startsMark]) hitem hnotes ha hwords
    (turns_modifiers hstop modifiers hc) (by omega)
  have hmarks : (notes.map (fun note : Note => some note.mark) ++ modifiers.map fun _ => none).filterMap id =
      notes.map Note.mark := by
    rw [List.filterMap_append, List.filterMap_map, List.filterMap_map]
    simp
  rw [modifierList_eq, List.append_assoc, List.append_assoc, List.cons_append, List.singleton_append,
    bind_ok hturns.untilNext_eq, hmarks, pure_run]

/-! ## Methods -/

theorem block_empty (n line line' : Nat) (rest : List Token) :
    parseRule (n + 1) .block (⟨.separator, openBrace, line⟩ :: ⟨.separator, closeBrace, line'⟩ :: rest) =
      .ok ((), rest) := by
  have hturns : Turns (startsWithText closeBrace) (parseRule n .blockStatement)
      (⟨.separator, closeBrace, line'⟩ :: rest) [] (⟨.separator, closeBrace, line'⟩ :: rest) :=
    .done (by simp)
  change block (parseRule n) _ = _
  rw [block, bind_ok hturns.enclosed_eq, pure_run]

theorem methodRest_body {body : Option Block} {ts : List Token}
    (h : Writes (Outline.parameterLexemes [] ++ [Outline.bodyLexeme body]) ts) (rest : List Token) {n : Nat}
    (hn : 0 < n) : methodRest (parseRule n) false (ts ++ rest) = .ok ((), rest) := by
  obtain ⟨line₁, r₁, rfl, hr₁⟩ := h.uncons .separator "(" rfl
  obtain ⟨line₂, r₂, rfl, hr₂⟩ := hr₁.uncons .separator ")" rfl
  obtain ⟨m, rfl⟩ := Nat.exists_eq_add_of_lt hn
  rw [Nat.zero_add]
  have hparameters : parameters (parseRule (m + 1))
      (⟨.separator, "(", line₁⟩ :: ⟨.separator, ")", line₂⟩ :: (r₂ ++ rest)) = .ok ((), r₂ ++ rest) := by
    rw [parameters, accept_bind]
    simp
  rw [List.cons_append, List.cons_append, methodRest, bind_ok hparameters]
  cases body with
  | none =>
    have hbrace : (";" == openBrace) = false := by decide
    obtain ⟨line₃, r₃, rfl, hr₃⟩ := hr₂.uncons .separator ";" rfl
    rw [hr₃.eq_nil]
    simp [optionalThrows, bodyOrSemicolon, hbrace]
  | some b =>
    have hbrace : ("throws" == openBrace) = false := by decide
    obtain ⟨line₃, line₄, r₃, rfl, hr₃⟩ := hr₂.uncons_block
    rw [hr₃.eq_nil]
    simp [optionalThrows, bodyOrSemicolon, hbrace, block_empty]

/-! ## Members -/

/-- How a member of a type is read. -/
def memberItem (self : Grammar) : TypeKind → Parser (Option Node)
  | .classType => classItem self
  | .interfaceType => interfaceItem self

/-- How the members of a type are read. -/
def typeBody (self : Grammar) : TypeKind → Parser (List Node)
  | .classType => self .classBody
  | .interfaceType => self .interfaceBody

theorem startsDeclaration_of_opening {notes : List Note} {modifiers : List Modifier} {keyword name : Name}
    {ts : List Token} (h : Writes (Outline.opening notes modifiers keyword name) ts) (rest : List Token) :
    StartsDeclaration (ts ++ rest) ∧ startsWith ["static", openBrace] (ts ++ rest) = false := by
  rw [Outline.opening_eq] at h
  obtain ⟨a, b, rfl, ha, hb⟩ := h.split
  obtain ⟨w, w', ws, hws⟩ : ∃ w w' ws, modifiers.map Modifier.word ++ [keyword, name] = w :: w' :: ws := by
    cases modifiers with
    | nil => exact ⟨keyword, name, [], rfl⟩
    | cons m modifiers =>
      cases modifiers with
      | nil => exact ⟨m.word, keyword, [name], rfl⟩
      | cons m' modifiers => exact ⟨m.word, m'.word, _, rfl⟩
  rw [hws] at hb
  obtain ⟨line, r, rfl, hr⟩ := hb.uncons _ _ rfl
  obtain ⟨line', r', rfl, -⟩ := hr.uncons _ _ rfl
  cases notes with
  | nil =>
    -- a second word is no brace
    have hbrace : isPlainName openBrace.toList = false := by decide
    have hne : openBrace ≠ w'.text := by
      intro heq
      rw [heq, w'.plain] at hbrace
      cases hbrace
    rw [ha.eq_nil]
    exact ⟨⟨_, _, rfl, .inr w.plain⟩, by simp [hne]⟩
  | cons note notes =>
    obtain ⟨line₁, r₁, rfl, -⟩ := ha.uncons .atSign "@" rfl
    exact ⟨⟨_, _, rfl, .inl rfl⟩, rfl⟩

theorem startsDeclaration_of_outline (out : Outline) {ts : List Token} (h : Writes out.lexemes ts)
    (rest : List Token) :
    StartsDeclaration (ts ++ rest) ∧ startsWith ["static", openBrace] (ts ++ rest) = false := by
  cases out with
  | method notes modifiers name parameters body =>
    rw [Outline.lexemes, List.append_assoc] at h
    obtain ⟨a, b, rfl, ha, -⟩ := h.split
    rw [List.append_assoc]
    exact startsDeclaration_of_opening ha (b ++ rest)
  | type notes modifiers kind name members =>
    rw [Outline.lexemes, List.append_assoc] at h
    obtain ⟨a, b, rfl, ha, -⟩ := h.split
    rw [List.append_assoc]
    exact startsDeclaration_of_opening ha (b ++ rest)

theorem classItem_eq_member (self : Grammar) {s : List Token} (hstart : StartsDeclaration s)
    (hstatic : startsWith ["static", openBrace] s = false) : classItem self s = member self s := by
  have hend : startsWith [";"] s = false := hstart.startsWith (by decide)
  have hbrace : textAt s 0 ≠ openBrace := hstart.ne (by decide)
  rw [classItem, tryAccept_bind, hend, if_neg Bool.false_ne_true, if_neg Bool.false_ne_true, next_bind, hstatic,
    if_neg Bool.false_ne_true, nextIs_bind, beq_false_of_ne hbrace, if_neg Bool.false_ne_true]

theorem interfaceItem_eq_interfaceMember (self : Grammar) {s : List Token} (hstart : StartsDeclaration s) :
    interfaceItem self s = interfaceMember self s := by
  have hend : startsWith [";"] s = false := hstart.startsWith (by decide)
  rw [interfaceItem, tryAccept_bind, hend, if_neg Bool.false_ne_true, if_neg Bool.false_ne_true]

section

variable {self : Grammar} {s s' rest : List Token} {marks : List Mark}

theorem memberItem_void (kind : TypeKind) (hstart : StartsDeclaration s)
    (hstatic : startsWith ["static", openBrace] s = false) {name : String} {line line' : Nat}
    (hmarks : modifierList self s =
      .ok (marks, ⟨.keyword, "void", line⟩ :: ⟨.identifier, name, line'⟩ :: s'))
    (hmethod : methodRest self false s' = .ok ((), rest)) :
    memberItem self kind s = .ok (some (.method name line marks), rest) := by
  cases kind with
  | classType =>
    change classItem self s = _
    rw [classItem_eq_member self hstart hstatic, member, bind_ok hmarks]
    simp [map_ok hmethod]
  | interfaceType =>
    change interfaceItem self s = _
    rw [interfaceItem_eq_interfaceMember self hstart, interfaceMember, bind_ok hmarks]
    simp [map_ok hmethod, startsType, startsMarkType]

theorem memberItem_type (kind inner : TypeKind) (hstart : StartsDeclaration s)
    (hstatic : startsWith ["static", openBrace] s = false) {line : Nat}
    (hmarks : modifierList self s = .ok (marks, ⟨.keyword, inner.keyword, line⟩ :: s')) :
    memberItem self kind s = typeAfterModifiers self marks (⟨.keyword, inner.keyword, line⟩ :: s') := by
  cases kind with
  | classType =>
    change classItem self s = _
    rw [classItem_eq_member self hstart hstatic, member, bind_ok hmarks]
    cases inner <;> simp [startsType, TypeKind.keyword]
  | interfaceType =>
    change interfaceItem self s = _
    rw [interfaceItem_eq_interfaceMember self hstart, interfaceMember, bind_ok hmarks]
    cases inner <;> simp [startsType, TypeKind.keyword]

theorem typeAfterModifiers_body (kind : TypeKind) (marks : List Mark) (name : String) (line line' : Nat)
    {nodes : List Node} {line'' : Nat}
    (hbody : typeBody self kind (⟨.separator, openBrace, line''⟩ :: s) = .ok (nodes, rest)) :
    typeAfterModifiers self marks
        (⟨.keyword, kind.keyword, line⟩ :: ⟨.identifier, name, line'⟩ :: ⟨.separator, openBrace, line''⟩ :: s) =
      .ok (some (.type kind name line marks nodes), rest) := by
  have hbrace : (openBrace == "<") = false ∧ ("extends" == openBrace) = false ∧
      ("implements" == openBrace) = false := by decide
  cases kind with
  | classType =>
    have hbody : self .classBody (⟨.separator, openBrace, line''⟩ :: s) = .ok (nodes, rest) := hbody
    rw [typeAfterModifiers]
    simp [TypeKind.keyword, classDeclaration, optionalTypeParameters, hbrace, map_ok hbody]
  | interfaceType =>
    have hbody : self .interfaceBody (⟨.separator, openBrace, line''⟩ :: s) = .ok (nodes, rest) := hbody
    rw [typeAfterModifiers]
    simp [TypeKind.keyword, interfaceDeclaration, optionalTypeParameters, hbrace, map_ok hbody]

end

theorem typeBody_of_turns (kind : TypeKind) (line : Nat) {n line' : Nat} {s rest : List Token} {nodes : List Node}
    (h : Turns (startsWithText closeBrace) (memberItem (parseRule n) kind) s (nodes.map some)
      (⟨.separator, closeBrace, line'⟩ :: rest)) :
    typeBody (parseRule (n + 1)) kind (⟨.separator, openBrace, line⟩ :: s) = .ok (nodes, rest) := by
  have hnodes : (nodes.map some).filterMap id = nodes := by simp
  cases kind with
  | classType =>
    change classBody (parseRule n) _ = _
    rw [classBody]
    change (enclosed openBrace closeBrace (memberItem (parseRule n) .classType) >>= _) _ = _
    rw [bind_ok h.enclosed_eq, hnodes, pure_run]
  | interfaceType =>
    change interfaceBody (parseRule n) _ = _
    rw [interfaceBody]
    change (enclosed openBrace closeBrace (memberItem (parseRule n) .interfaceType) >>= _) _ = _
    rw [bind_ok h.enclosed_eq, hnodes, pure_run]

theorem marks_declared {notes : List Note} (h : notes.all Note.isJava = true) :
    (notes.map Note.mark).map Mark.annotation = (notes.map Note.annotation).map Annotation.settled := by
  rw [List.map_map, List.map_map]
  apply List.map_congr_left
  intro note hnote
  exact annotation_mark (List.all_eq_true.1 h note hnote)

theorem wordKind_keyword (kind : TypeKind) : wordKind kind.word.text = .keyword := by
  cases kind <;> decide

theorem memberItem_method (kind : TypeKind) {notes : List Note} {modifiers : List Modifier} {name : MethodName}
    {parameters : List Parameter} {body : Option Block}
    (hout : (Outline.method notes modifiers name parameters body).isJava = true) {ts : List Token}
    (h : Writes (Outline.method notes modifiers name parameters body).lexemes ts) (rest : List Token) {n : Nat}
    (hn : ts.length + 2 ≤ n) :
    ∃ node, memberItem (parseRule n) kind (ts ++ rest) = .ok (some node, rest) ∧
      node.declared =
        (Outline.method notes modifiers name parameters body).declared.recast Annotation.settled := by
  obtain ⟨hstart, hstatic⟩ := startsDeclaration_of_outline _ h rest
  simp only [Outline.isJava, Bool.and_eq_true, List.isEmpty_iff] at hout
  obtain ⟨⟨⟨hnotes, hname⟩, rfl⟩, -⟩ := hout
  rw [Outline.lexemes, List.append_assoc] at h
  obtain ⟨a, b, rfl, ha, hb⟩ := h.split
  rw [List.length_append] at hn
  obtain ⟨line, line', hmarks⟩ := modifierList_opening hnotes modifiers (by decide) hname ha
    (show a.length + 2 ≤ n by omega)
  have hmethod := methodRest_body hb rest (show 0 < n by omega)
  have hmarks' := hmarks (b ++ rest)
  rw [← List.append_assoc] at hmarks'
  refine ⟨_, memberItem_void kind hstart hstatic hmarks' hmethod, ?_⟩
  rw [Node.declared, marks_declared hnotes, Outline.declared, Declaration.recast]

/-- The members of a type are read up to the brace that closes it. -/
def MembersRead (members : List Outline) : Prop :=
  ∀ (kind : TypeKind) {ts : List Token}, Writes (Outline.lexemesOfAll members) ts →
    ∀ (line : Nat) (rest : List Token) {n : Nat}, ts.length + 2 ≤ n →
      ∃ nodes, Turns (startsWithText closeBrace) (memberItem (parseRule n) kind)
          (ts ++ ⟨.separator, closeBrace, line⟩ :: rest) (nodes.map some)
          (⟨.separator, closeBrace, line⟩ :: rest) ∧
        Node.declaredAll nodes = Declaration.recastAll Annotation.settled (Outline.declaredAll members)

/-- A type is read after its modifiers, if its members are. -/
theorem typeAfterModifiers_outline {notes : List Note} {modifiers : List Modifier} {kind : TypeKind}
    {name : Name} {members : List Outline}
    (hout : (Outline.type notes modifiers kind name members).isJava = true) (hmembers : MembersRead members)
    {ts : List Token} (h : Writes (Outline.type notes modifiers kind name members).lexemes ts)
    (rest : List Token) {n : Nat} (hn : ts.length + 2 ≤ n) :
    ∃ line s node, modifierList (parseRule n) (ts ++ rest) =
        .ok (notes.map Note.mark, ⟨.keyword, kind.keyword, line⟩ :: s) ∧
      typeAfterModifiers (parseRule n) (notes.map Note.mark) (⟨.keyword, kind.keyword, line⟩ :: s) =
        .ok (some node, rest) ∧
      node.declared = (Outline.type notes modifiers kind name members).declared.recast Annotation.settled := by
  simp only [Outline.isJava, Bool.and_eq_true] at hout
  obtain ⟨⟨hnotes, hname⟩, -⟩ := hout
  rw [Outline.lexemes, List.append_assoc, List.cons_append] at h
  obtain ⟨a, b, rfl, ha, hb⟩ := h.split
  obtain ⟨line₁, r₁, rfl, hr₁⟩ := hb.uncons .separator openBrace rfl
  obtain ⟨c, d, rfl, hc, hd⟩ := hr₁.split
  obtain ⟨line₂, r₂, rfl, hr₂⟩ := hd.uncons .separator closeBrace rfl
  rw [hr₂.eq_nil] at hn ⊢
  rw [List.length_append, List.length_cons, List.length_append, List.length_singleton] at hn
  obtain ⟨m, rfl⟩ : ∃ m, n = m + 1 := ⟨n - 1, by omega⟩
  obtain ⟨line, line', hmarks⟩ := modifierList_opening hnotes modifiers (wordKind_keyword kind) hname ha
    (show a.length + 2 ≤ m + 1 by omega)
  obtain ⟨nodes, hturns, hnodes⟩ := hmembers kind hc line₂ rest (show c.length + 2 ≤ m by omega)
  have hbody := typeAfterModifiers_body kind (notes.map Note.mark) name.text line line'
    (typeBody_of_turns kind line₁ hturns)
  refine ⟨line, _, _, ?_, hbody, ?_⟩
  · rw [List.append_assoc, List.cons_append, List.append_assoc, List.singleton_append]
    exact hmarks _
  · rw [Node.declared, marks_declared hnotes, hnodes, Outline.declared, Declaration.recast]

mutual

/-- A member is read, whatever the kind of the type around it. -/
theorem memberItem_outline (kind : TypeKind) (out : Outline) (hout : out.isJava = true) {ts : List Token}
    (h : Writes out.lexemes ts) (rest : List Token) {n : Nat} (hn : ts.length + 2 ≤ n) :
    ∃ node, memberItem (parseRule n) kind (ts ++ rest) = .ok (some node, rest) ∧
      node.declared = out.declared.recast Annotation.settled := by
  cases out with
  | method notes modifiers name parameters body => exact memberItem_method kind hout h rest hn
  | type notes modifiers inner name members =>
    have hmembers := membersRead members (Bool.and_eq_true_iff.1 hout).2
    obtain ⟨hstart, hstatic⟩ := startsDeclaration_of_outline _ h rest
    obtain ⟨line, s, node, hmarks, hread, hnode⟩ := typeAfterModifiers_outline hout hmembers h rest hn
    exact ⟨node, (memberItem_type kind inner hstart hstatic hmarks).trans hread, hnode⟩

theorem membersRead (members : List Outline) (hmembers : Outline.isJavaAll members = true) :
    MembersRead members := by
  intro kind ts h line rest n hn
  cases members with
  | nil =>
    rw [h.eq_nil]
    exact ⟨[], .done (by simp), rfl⟩
  | cons out outs =>
    rw [Outline.isJavaAll, Bool.and_eq_true] at hmembers
    obtain ⟨a, b, rfl, ha, hb⟩ := h.split
    rw [List.length_append] at hn
    obtain ⟨node, hread, hnode⟩ := memberItem_outline kind out hmembers.1 ha
      (b ++ ⟨.separator, closeBrace, line⟩ :: rest) (show a.length + 2 ≤ n by omega)
    obtain ⟨nodes, hturns, hnodes⟩ := membersRead outs hmembers.2 kind hb line rest
      (show b.length + 2 ≤ n by omega)
    have hstart := (startsDeclaration_of_outline out ha (b ++ ⟨.separator, closeBrace, line⟩ :: rest)).1
    refine ⟨node :: nodes, ?_, ?_⟩
    · rw [List.append_assoc]
      refine .turn (hstart.startsWith (by decide)) hread ?_ hturns
      obtain ⟨t, r, hne, -⟩ := (startsDeclaration_of_outline out ha []).1
      rw [List.append_nil] at hne
      simp only [hne, List.length_append, List.length_cons]
      omega
    · rw [Node.declaredAll, Outline.declaredAll, Declaration.recastAll, hnode, hnodes]

end

/-! ## Units -/

theorem wordKind_ne_atSign (w : String) : wordKind w ≠ .atSign := by
  unfold wordKind
  split_ifs <;> simp

/-- After its annotations a type starts with a modifier or with the word for its kind. -/
theorem head_of_type {modifiers : List Modifier} {kind : TypeKind} {name : Name} {ts : List Token}
    (h : Writes ((modifiers.map Modifier.word ++ [kind.word, name]).map .word) ts) (rest : List Token) :
    StartsDeclaration (ts ++ rest) ∧ startsMark (ts ++ rest) = false ∧
      textAt (ts ++ rest) 0 ∈ "class" :: "interface" :: Java.modifiers := by
  obtain ⟨w, ws, hws, hw⟩ : ∃ w ws, modifiers.map Modifier.word ++ [kind.word, name] = w :: ws ∧
      w.text ∈ "class" :: "interface" :: Java.modifiers := by
    cases modifiers with
    | nil => exact ⟨kind.word, [name], rfl, by cases kind <;> decide⟩
    | cons m modifiers =>
      exact ⟨m.word, _, rfl, List.mem_cons_of_mem _ (List.mem_cons_of_mem _ m.known)⟩
  rw [hws] at h
  obtain ⟨line, r, rfl, -⟩ := h.uncons _ _ rfl
  refine ⟨⟨_, _, rfl, .inr w.plain⟩, ?_, hw⟩
  simp [startsMark, wordKind_ne_atSign]

/-- A unit has no package and no imports. -/
theorem head_of_unit {unit : List Outline} (htypes : unit.all Outline.isType = true)
    (hunit : Outline.isJavaAll unit = true) {ts : List Token} (h : Writes (Outline.lexemesOfAll unit) ts)
    {n : Nat} (hn : ts.length + 2 ≤ n) :
    packageDeclaration (parseRule n) ts = .ok ((), ts) ∧ textAt ts 0 ≠ "import" := by
  cases unit with
  | nil =>
    have hturns : Turns (fun s => !startsMark s) (parseRule n .mark) [] [] [] := .done rfl
    rw [h.eq_nil, packageDeclaration, get_bind, bind_ok hturns.untilNext_eq]
    exact ⟨rfl, by simp⟩
  | cons out outs =>
    rw [List.all_cons, Bool.and_eq_true] at htypes
    rw [Outline.isJavaAll, Bool.and_eq_true] at hunit
    cases out with
    | method notes modifiers name parameters body => cases htypes.1
    | type notes modifiers kind name members =>
      have hnotes := (Bool.and_eq_true_iff.1 (Bool.and_eq_true_iff.1 hunit.1).1).1
      rw [Outline.lexemesOfAll, Outline.lexemes, Outline.opening_eq, List.append_assoc, List.append_assoc,
        List.append_assoc] at h
      obtain ⟨a, b, rfl, ha, hb⟩ := h.split
      obtain ⟨c, d, rfl, hc, -⟩ := hb.split
      obtain ⟨hstart, hmark, htext⟩ := head_of_type hc d
      have hwords : ∀ w ∈ "class" :: "interface" :: Java.modifiers, w ≠ "package" ∧ w ≠ "import" := by decide
      rw [List.length_append] at hn
      constructor
      · have hstop : (!startsMark (c ++ d)) = true := by rw [hmark, Bool.not_false]
        have hgo : ∀ line text line' s, text ≠ "interface" →
            (!startsMark (⟨.atSign, "@", line⟩ :: ⟨.identifier, text, line'⟩ :: s)) = false := by
          intro line text line' s hne
          simp [startsMark, hne]
        -- the annotations of the first type are read in case they are those of a package
        have hturns : Turns (fun s => !startsMark s) (parseRule n .mark) (a ++ (c ++ d)) _ (c ++ d) :=
          turns_notes hgo (fun _ _ _ _ h => h) hnotes ha hstart (.done hstop) (by omega)
        have hpackage : startsWith ["package"] (c ++ d) = false := by
          rw [startsWith_singleton _ _ (by decide)]
          exact beq_false_of_ne (Ne.symm (hwords _ htext).1)
        rw [packageDeclaration, get_bind, bind_ok hturns.untilNext_eq, tryAccept_bind, hpackage,
          if_neg Bool.false_ne_true, if_neg Bool.false_ne_true, set_run]
      · cases notes with
        | nil =>
          rw [ha.eq_nil]
          exact (hwords _ htext).2
        | cons note notes =>
          obtain ⟨line, r, rfl, -⟩ := ha.uncons .atSign "@" rfl
          exact (show "@" ≠ "import" by decide)

theorem turns_unit (unit : List Outline) (htypes : unit.all Outline.isType = true)
    (hunit : Outline.isJavaAll unit = true) {ts : List Token} (h : Writes (Outline.lexemesOfAll unit) ts)
    {n : Nat} (hn : ts.length + 3 ≤ n) :
    ∃ nodes, Turns List.isEmpty (topLevelItem (parseRule n)) ts (nodes.map some) [] ∧
      Node.declaredAll nodes = Declaration.recastAll Annotation.settled (Outline.declaredAll unit) := by
  induction unit generalizing ts with
  | nil =>
    rw [h.eq_nil]
    exact ⟨[], .done rfl, rfl⟩
  | cons out outs ih =>
    rw [List.all_cons, Bool.and_eq_true] at htypes
    rw [Outline.isJavaAll, Bool.and_eq_true] at hunit
    obtain ⟨a, b, rfl, ha, hb⟩ := h.split
    rw [List.length_append] at hn
    obtain ⟨nodes, hturns, hnodes⟩ := ih htypes.2 hunit.2 hb (by omega)
    have hstart := (startsDeclaration_of_outline out ha b).1
    obtain ⟨t, r, hne, -⟩ := (startsDeclaration_of_outline out ha []).1
    rw [List.append_nil] at hne
    obtain ⟨m, rfl⟩ : ∃ m, n = m + 1 := ⟨n - 1, by omega⟩
    cases out with
    | method notes modifiers name parameters body => cases htypes.1
    | type notes modifiers kind name members =>
      have hmembers := membersRead members (Bool.and_eq_true_iff.1 hunit.1).2
      obtain ⟨line, s, node, hmarks, hread, hnode⟩ := typeAfterModifiers_outline hunit.1 hmembers ha b
        (show a.length + 2 ≤ m by omega)
      have hend : startsWith [";"] (a ++ b) = false := hstart.startsWith (by decide)
      have hitem : topLevelItem (parseRule (m + 1)) (a ++ b) = .ok (some node, b) := by
        rw [topLevelItem, tryAccept_bind, hend, if_neg Bool.false_ne_true, if_neg Bool.false_ne_true]
        change typeDeclaration (parseRule m) _ = _
        rw [typeDeclaration, bind_ok hmarks, hread]
      refine ⟨node :: nodes, .turn ?_ hitem ?_ hturns, ?_⟩
      · rw [hne]
        rfl
      · simp only [hne, List.length_append, List.length_cons]
        omega
      · rw [Node.declaredAll, Outline.declaredAll, Declaration.recastAll, hnode, hnodes]

/-- The grammar accepts the tokens of a unit and reports its declarations. -/
theorem compilationUnit_unit {unit : List Outline} (htypes : unit.all Outline.isType = true)
    (hunit : Outline.isJavaAll unit = true) {ts : List Token} (h : Writes (Outline.lexemesOfAll unit) ts)
    {n : Nat} (hn : ts.length + 3 ≤ n) :
    ∃ nodes, compilationUnit (parseRule n) ts = .ok (nodes, []) ∧
      Node.declaredAll nodes = Declaration.recastAll Annotation.settled (Outline.declaredAll unit) := by
  obtain ⟨hpackage, himport⟩ := head_of_unit htypes hunit h (show ts.length + 2 ≤ n by omega)
  obtain ⟨nodes, hturns, hnodes⟩ := turns_unit unit htypes hunit h hn
  have himports : Turns (fun s => textAt s 0 != "import") importDeclaration ts [] ts :=
    .done (by simpa using himport)
  have hkept : (nodes.map some).filterMap id = nodes := by simp
  refine ⟨nodes, ?_, hnodes⟩
  rw [compilationUnit, bind_ok hpackage, bind_ok himports.untilNext_eq, bind_ok hturns.untilNext_eq, hkept,
    pure_run]

end EndpointIndex.Java
