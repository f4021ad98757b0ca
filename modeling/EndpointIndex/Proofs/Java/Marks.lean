import EndpointIndex.Proofs.Java.Stays

/-!
# Annotations that the grammar reads

Every annotation in what the grammar reads stands among the tokens: its name is read behind a token `@`
(`MarkOf`). One rule yields it, and the others pass it on (`yields_grammar`), so it holds of all
declarations of a source (`marksOf_of_parse?`). In a text without escapes the `@` is one of the text
(`nameAt_of_parse?`).
-/

namespace EndpointIndex.Java

open EndpointIndex.Java.Parser

variable {α β : Type} {all : List Token}

/-- What a parser reads from an end of a list of tokens has a property. -/
def Yields (all : List Token) (p : Parser α) (Q : α → Prop) : Prop :=
  ∀ s a s', s <:+ all → p s = .ok (a, s') → Q a

section

variable {P : α → Prop} {Q : β → Prop}

theorem yields_pure {b : β} (h : Q b) : Yields all (pure b) Q := by
  intro s b' s' hs hrun
  cases hrun
  exact h

theorem yields_mismatch : Yields all mismatch Q := by
  intro s b s' hs hrun
  cases hrun

theorem yields_exhausted : Yields all exhausted Q := by
  intro s b s' hs hrun
  cases hrun

theorem Yields.bind {p : Parser α} [hp : Stays all p] {f : α → Parser β} (h : Yields all p P)
    (hf : ∀ a, P a → Yields all (f a) Q) : Yields all (p >>= f) Q := by
  intro s b s' hs hrun
  obtain ⟨a, u, hu, hb⟩ := bind_eq_ok hrun
  exact hf a (h s a u hs hu) u b s' (hp.suffix s a u hs hu) hb

/-- What was read before does not matter. -/
theorem yields_after {p : Parser α} [Stays all p] {f : α → Parser β} (hf : ∀ a, Yields all (f a) Q) :
    Yields all (p >>= f) Q :=
  Yields.bind (P := fun _ => True) (fun _ _ _ _ _ => trivial) fun a _ => hf a

theorem Yields.map {p : Parser α} [Stays all p] (h : Yields all p P) {f : α → β}
    (hf : ∀ a, P a → Q (f a)) : Yields all (f <$> p) Q := by
  rw [← bind_pure_comp]
  exact h.bind fun a ha => yields_pure (hf a ha)

theorem yields_ite {c : Prop} [Decidable c] {p q : Parser β} (hp : Yields all p Q) (hq : Yields all q Q) :
    Yields all (if c then p else q) Q := by
  split
  · exact hp
  · exact hq

theorem Yields.untilNext {item : Parser α} [Stays all item] (h : Yields all item P)
    (stop : List Token → Bool) : Yields all (untilNext stop item) fun as => ∀ a ∈ as, P a := by
  have hloop : ∀ n, Stays all (untilNext.loop stop item n) ∧
      Yields all (untilNext.loop stop item n) fun as => ∀ a ∈ as, P a := by
    intro n
    induction n with
    | zero =>
      unfold Parser.untilNext.loop
      exact ⟨inferInstance, yields_exhausted⟩
    | succ n ih =>
      obtain ⟨hstays, ih⟩ := ih
      unfold Parser.untilNext.loop
      refine ⟨inferInstance, yields_after fun s => yields_ite (yields_pure (by simp)) ?_⟩
      refine h.bind fun a ha => ih.bind fun as has => yields_pure ?_
      exact List.forall_mem_cons.2 ⟨ha, has⟩
  exact fun s as s' hs hrun => (hloop _).2 s as s' hs hrun

theorem Yields.enclosed {item : Parser α} [Stays all item] (h : Yields all item P)
    (opening closing : String) : Yields all (enclosed opening closing item) fun as => ∀ a ∈ as, P a := by
  unfold Parser.enclosed
  refine yields_after fun _ => (h.untilNext _).bind fun as has => ?_
  exact yields_after fun _ => yields_pure has

end

/-! ## What is read of an annotation -/

mutual

/-- The annotations of a declaration and of all its members. -/
def Node.allMarks : Node → List Mark
  | .method _ _ marks => marks
  | .type _ _ _ marks members => marks ++ Node.marksOfAll members

def Node.marksOfAll : List Node → List Mark
  | [] => []
  | n :: ns => n.allMarks ++ Node.marksOfAll ns

end

/-- The name of an annotation is read behind a token `@`. -/
def MarkOf (all : List Token) (m : Mark) : Prop :=
  ∃ t s rest, t :: s <:+ all ∧ t.text = "@" ∧ qualifiedName s = .ok (m.name, rest)

def MarksOf (all : List Token) (nodes : List Node) : Prop := ∀ m ∈ Node.marksOfAll nodes, MarkOf all m

theorem marksOf_nil : MarksOf all [] := by
  intro m hm
  cases hm

theorem marksOf_cons {n : Node} {ns : List Node} (hn : ∀ m ∈ n.allMarks, MarkOf all m)
    (hns : MarksOf all ns) : MarksOf all (n :: ns) := by
  intro m hm
  rcases List.mem_append.1 hm with hm | hm
  · exact hn m hm
  · exact hns m hm

theorem marksOf_method {marks : List Mark} (h : ∀ m ∈ marks, MarkOf all m) (name : String) (line : Nat) :
    MarksOf all [.method name line marks] :=
  marksOf_cons h marksOf_nil

theorem marksOf_type {marks : List Mark} (h : ∀ m ∈ marks, MarkOf all m) {members : List Node}
    (hmembers : MarksOf all members) (kind : TypeKind) (name : String) (line : Nat) :
    MarksOf all [.type kind name line marks members] :=
  marksOf_cons (fun m hm => (List.mem_append.1 hm).elim (h m) (hmembers m)) marksOf_nil

/-- Items that are no declarations are left out. -/
theorem marksOf_filterMap {items : List (Option Node)} (h : ∀ item ∈ items, MarksOf all item.toList) :
    MarksOf all (items.filterMap id) := by
  induction items with
  | nil => exact marksOf_nil
  | cons item items ih =>
    obtain ⟨hitem, hitems⟩ := List.forall_mem_cons.1 h
    cases item with
    | none => exact ih hitems
    | some n =>
      refine marksOf_cons (fun m hm => hitem m ?_) (ih hitems)
      rw [Option.toList_some, Node.marksOfAll]
      exact List.mem_append_left _ hm

/-- What the grammar passes on of annotations. -/
def Rule.Kept (all : List Token) : (r : Rule) → r.Result → Prop
  | .mark => MarkOf all
  | .typeDeclaration => fun item => MarksOf all item.toList
  | .classBody => MarksOf all
  | .interfaceBody => MarksOf all
  | _ => fun _ => True

/-! ## The rules that pass annotations on -/

theorem accept_eq_ok {text : String} {s s' : List Token} (h : accept text s = .ok ((), s')) :
    ∃ t, s = t :: s' ∧ t.text = text := by
  cases s with
  | nil => cases h
  | cons t s =>
    rw [accept, advance_bind] at h
    by_cases ht : t.text == text
    · rw [if_pos ht] at h
      cases h
      exact ⟨t, rfl, eq_of_beq ht⟩
    · rw [if_neg ht] at h
      cases h

/-- A method keeps the annotations before it. -/
theorem yields_method {marks : List Mark} (hmarks : ∀ m ∈ marks, MarkOf all m) (line : Nat)
    {rest : Parser Unit} [Stays all rest] (name : String) :
    Yields all (do
      rest
      return some (.method name line marks)) fun item : Option Node => MarksOf all item.toList :=
  yields_after fun _ => yields_pure (marksOf_method hmarks name line)

section

variable {self : Grammar} [∀ r, Stays all (self r)]

theorem yields_mark : Yields all (mark self) (MarkOf all) := by
  intro s m s' hs hrun
  unfold mark at hrun
  obtain ⟨⟨⟩, u, hat, hnamed⟩ := bind_eq_ok hrun
  obtain ⟨name, v, hname, hrest⟩ := bind_eq_ok hnamed
  obtain ⟨t, rfl, ht⟩ := accept_eq_ok hat
  -- whether arguments follow or not, the name stays
  have hm : Yields all (do
      if ← tryAccept "(" then
        let arguments ← if ← nextIs ")" then pure none else some <$> annotationArguments self
        accept ")"
        return ⟨name, arguments⟩
      else return ⟨name, none⟩ : Parser Mark) fun m => m.name = name :=
    yields_after fun _ => yields_ite
      (yields_after fun _ => yields_ite
        (yields_after fun _ => yields_after fun _ => yields_pure rfl)
        (yields_after fun _ => yields_after fun _ => yields_pure rfl))
      (yields_pure rfl)
  have hu := (List.suffix_cons t u).trans hs
  have hv := Stays.suffix (p := qualifiedName) u name v hu hname
  exact ⟨t, u, v, hs, ht, (hm v m s' hv hrest).symm ▸ hname⟩

variable (hself : ∀ r, Yields all (self r) (r.Kept all))

include hself

theorem yields_modifierList : Yields all (modifierList self) fun marks => ∀ m ∈ marks, MarkOf all m := by
  unfold modifierList
  have hitem : Yields all (do
      if ← nextKind .modifier then
        let _ ← advance
        return none
      else some <$> self .mark : Parser (Option Mark)) fun item => ∀ m ∈ item, MarkOf all m := by
    refine yields_after fun _ => yields_ite (yields_after fun _ => yields_pure (by simp)) ?_
    exact Yields.map (hself .mark) fun m hm m' hm' => Option.some.inj hm' ▸ hm
  refine (hitem.untilNext _).bind fun items hitems => yields_pure ?_
  intro m hm
  obtain ⟨item, hmem, hitem⟩ := List.mem_filterMap.1 hm
  exact hitems item hmem m hitem

section

variable {marks : List Mark} (hmarks : ∀ m ∈ marks, MarkOf all m) (line : Nat)

include hmarks

theorem yields_classDeclaration :
    Yields all (classDeclaration self line marks) fun item => MarksOf all item.toList := by
  have hbody : ∀ name, Yields all (do return some (.type .classType name line marks (← self .classBody)))
      fun item : Option Node => MarksOf all item.toList := fun name =>
    (hself .classBody).bind fun _ hns => yields_pure (marksOf_type hmarks hns .classType name line)
  dsimp only [classDeclaration]
  refine yields_after fun _ => yields_after fun name => yields_after fun _ => yields_after fun _ => ?_
  -- clauses may stand between the name and the body
  have hclause := yields_after (p := typeList self) fun _ => hbody name
  have himplements := yields_after (p := tryAccept "implements") fun found =>
    yields_ite (c := found = true) hclause (hbody name)
  exact yields_ite (yields_after fun _ => himplements) himplements

theorem yields_interfaceDeclaration :
    Yields all (interfaceDeclaration self line marks) fun item => MarksOf all item.toList := by
  have hbody : ∀ name, Yields all
      (do return some (.type .interfaceType name line marks (← self .interfaceBody)))
      fun item : Option Node => MarksOf all item.toList := fun name =>
    (hself .interfaceBody).bind fun _ hns => yields_pure (marksOf_type hmarks hns .interfaceType name line)
  dsimp only [interfaceDeclaration]
  refine yields_after fun _ => yields_after fun name => yields_after fun _ => yields_after fun _ => ?_
  exact yields_ite (yields_after fun _ => hbody name) (hbody name)

theorem yields_typeAfterModifiers :
    Yields all (typeAfterModifiers self marks) fun item => MarksOf all item.toList := by
  unfold typeAfterModifiers
  refine yields_after fun line => yields_after fun _ => yields_ite ?classType (yields_after fun _ => ?_)
  case classType => exact yields_classDeclaration hself hmarks line
  refine yields_ite ?enum (yields_after fun _ => yields_ite ?interfaceType (yields_after fun _ => ?_))
  case interfaceType => exact yields_interfaceDeclaration hself hmarks line
  case enum =>
    dsimp only [enumDeclaration]
    refine yields_after fun _ => yields_after fun _ => yields_after fun _ => yields_ite ?_ ?_
    · exact yields_after fun _ => yields_after fun _ => yields_pure marksOf_nil
    · exact yields_after fun _ => yields_pure marksOf_nil
  refine yields_ite ?_ yields_mismatch
  unfold annotationTypeDeclaration
  exact yields_after fun _ => yields_after fun _ => yields_after fun _ => yields_pure marksOf_nil

end

theorem yields_typeDeclaration :
    Yields all (typeDeclaration self) fun item => MarksOf all item.toList := by
  unfold typeDeclaration
  exact (yields_modifierList hself).bind fun _ hmarks => yields_typeAfterModifiers hself hmarks

theorem yields_member : Yields all (member self) fun item => MarksOf all item.toList := by
  dsimp only [member]
  refine (yields_modifierList hself).bind fun marks hmarks => yields_after fun line => ?_
  have hnone {α : Type} {p : Parser α} [Stays all p] :
      Yields all (do let _ ← p; return none) fun item : Option Node => MarksOf all item.toList :=
    yields_after fun _ => yields_pure marksOf_nil
  refine yields_after fun _ => yields_ite ?void (yields_after fun _ => yields_ite ?generic ?plain)
  case void => exact yields_after fun name => yields_method hmarks line name
  case generic =>
    refine yields_after fun _ => yields_after fun _ => yields_ite hnone ?_
    refine yields_after fun _ => yields_ite (yields_after fun name => yields_method hmarks line name) ?_
    exact yields_after fun _ => yields_after fun name => yields_method hmarks line name
  case plain =>
    refine yields_after fun _ => yields_ite (yields_typeAfterModifiers hself hmarks) ?_
    refine yields_after fun _ => yields_ite hnone (yields_after fun _ => yields_after fun name => ?_)
    exact yields_after fun _ => yields_ite (yields_method hmarks line name) hnone

theorem yields_classItem : Yields all (classItem self) fun item => MarksOf all item.toList := by
  have hnone : Yields all (pure none) fun item : Option Node => MarksOf all item.toList :=
    yields_pure marksOf_nil
  unfold classItem
  refine yields_after fun _ => yields_ite hnone (yields_after fun _ => yields_ite ?_ ?_)
  · exact yields_after fun _ => yields_after fun _ => hnone
  · exact yields_after fun _ => yields_ite (yields_after fun _ => hnone) (yields_member hself)

theorem yields_interfaceMember : Yields all (interfaceMember self) fun item => MarksOf all item.toList := by
  dsimp only [interfaceMember]
  refine (yields_modifierList hself).bind fun marks hmarks => yields_after fun line => ?_
  refine yields_after fun _ => yields_ite (yields_typeAfterModifiers hself hmarks) ?_
  refine yields_after fun _ => yields_ite ?generic (yields_after fun _ => yields_ite ?void ?plain)
  case generic =>
    have hname : Yields all (do
        let name ← identifier
        methodRest self true
        return some (.method name line marks)) fun item : Option Node => MarksOf all item.toList :=
      yields_after fun name => yields_method hmarks line name
    refine yields_after fun _ => yields_after fun _ => ?_
    exact yields_ite (yields_after fun _ => hname) hname
  case void => exact yields_after fun name => yields_method hmarks line name
  case plain =>
    refine yields_after fun _ => yields_after fun name => yields_after fun _ => ?_
    refine yields_ite (yields_method hmarks line name) ?_
    exact yields_after fun _ => yields_after fun _ => yields_pure marksOf_nil

theorem yields_interfaceItem : Yields all (interfaceItem self) fun item => MarksOf all item.toList := by
  unfold interfaceItem
  exact yields_after fun _ => yields_ite (yields_pure marksOf_nil) (yields_interfaceMember hself)

/-- A grammar whose rules pass on annotations of the tokens only, read once more. -/
theorem yields_grammar (r : Rule) : Yields all (grammar self r) (r.Kept all) := by
  cases r with
  | mark => exact yields_mark
  | typeDeclaration => exact yields_typeDeclaration hself
  | classBody =>
    exact Yields.bind ((yields_classItem hself).enclosed _ _) fun _ h => yields_pure (marksOf_filterMap h)
  | interfaceBody =>
    exact Yields.bind ((yields_interfaceItem hself).enclosed _ _) fun _ h => yields_pure (marksOf_filterMap h)
  | _ => exact fun _ _ _ _ _ => trivial

theorem yields_compilationUnit : Yields all (compilationUnit self) (MarksOf all) := by
  have hitem : Yields all (topLevelItem self) fun item => MarksOf all item.toList := by
    unfold topLevelItem
    exact yields_after fun _ => yields_ite (yields_pure marksOf_nil) (hself .typeDeclaration)
  unfold compilationUnit
  refine yields_after fun _ => yields_after fun _ => (hitem.untilNext _).bind fun _ h => ?_
  exact yields_pure (marksOf_filterMap h)

end

theorem yields_parseRule (n : Nat) (r : Rule) : Yields all (parseRule n r) (r.Kept all) := by
  induction n generalizing r with
  | zero => exact yields_exhausted
  | succ n ih => exact yields_grammar ih r

/-- The annotations of a source are read from its tokens. -/
theorem marksOf_of_parse? {text : List Char} {nodes : List Node} (h : parse? text = some nodes) :
    ∃ ts, tokens? text = some ts ∧ MarksOf ts nodes := by
  unfold parse? at h
  split at h
  · cases h
  · rename_i ts hts
    split at h
    · rename_i s' hrun
      cases h
      exact ⟨ts, hts, yields_compilationUnit (yields_parseRule _) ts nodes s' List.suffix_rfl hrun⟩
    · cases h

/-! ## Annotations in a text -/

/-- A token stands in its text, and the tokens after it are those of the text after it. -/
theorem exists_chars_of_suffix {line : Nat} {text : List Char} {ts : List Token}
    (h : tokensFrom? line text = some ts) {t : Token} {s : List Token} (hs : t :: s <:+ ts) :
    ∃ w r line', w ++ r <:+ text ∧ t.text = String.ofList w ∧ tokensFrom? line' r = some s := by
  fun_induction tokensFrom? line text generalizing ts with
  | case1 =>
    cases h
    cases List.suffix_nil.1 hs
  | case2 line c r n hskip ih =>
    obtain ⟨w, r', line', hchars, hrest⟩ := ih h hs
    exact ⟨w, r', line', hchars.trans ((List.drop_suffix n r).trans (List.suffix_cons c r)), hrest⟩
  | case3 line c r kind n htoken ih =>
    obtain ⟨ts', hts', rfl⟩ := Option.map_eq_some_iff.1 h
    rcases List.suffix_cons_iff.1 hs with heq | hs
    · cases heq
      exact ⟨c :: r.take n, r.drop n, line, by simp, rfl, hts'⟩
    · obtain ⟨w, r', line', hchars, hrest⟩ := ih hts' hs
      exact ⟨w, r', line', hchars.trans ((List.drop_suffix n r).trans (List.suffix_cons c r)), hrest⟩
  | case4 => cases h

/-- A dotted name is read at the front of a text. -/
def NameAt (text : List Char) (name : String) : Prop :=
  ∃ line ts rest, tokensFrom? line text = some ts ∧ qualifiedName ts = .ok (name, rest)

/-- The annotations of a source without escapes are read behind an `@` of its text. -/
theorem nameAt_of_parse? {text : List Char} (hescape : expand? text = some text) {nodes : List Node}
    (h : parse? text = some nodes) : ∀ m ∈ Node.marksOfAll nodes, ∃ s, '@' :: s <:+ text ∧ NameAt s m.name := by
  obtain ⟨ts, hts, hmarks⟩ := marksOf_of_parse? h
  rw [tokens?, hescape, Option.bind_some] at hts
  intro m hm
  obtain ⟨t, s, rest, hs, ht, hname⟩ := hmarks m hm
  obtain ⟨w, r, line, hw, hchars, hr⟩ := exists_chars_of_suffix hts hs
  have hat : w = ['@'] := by
    rw [hchars] at ht
    simpa using congrArg String.toList ht
  rw [hat] at hw
  exact ⟨r, hw, line, s, rest, hr, hname⟩

end EndpointIndex.Java
