import EndpointIndex.Proofs.Outline.Tokens

/-!
# Outlines that are Java

The outlines whose sources a full grammar of Java accepts too: names that Java does not keep for itself,
literals without escapes, at most one unnamed argument and then no other, no parameters, empty bodies
(`Outline.isJava`). Main fact: all their lexemes are simple (`Outline.isSimple_lexemesOfAll`).
-/

namespace EndpointIndex

open Source

/-- Whether a name is no word that Java keeps for itself. -/
def Source.Name.isIdentifier (n : Name) : Bool := Java.wordKind n.text = .identifier

def DottedName.isJava (n : DottedName) : Bool :=
  n.qualifiers.all Name.isIdentifier && n.simple.isIdentifier

mutual

def Term.isJava : Term → Bool
  | .literal contents => (Lexeme.literal contents).isSimple
  | .reference name => name.isJava
  | .array items => isJavaAll items

def Term.isJavaAll : List Term → Bool
  | [] => true
  | t :: ts => t.isJava && isJavaAll ts

end

def NamedTerm.isJava (a : NamedTerm) : Bool := a.key.isIdentifier && a.term.isJava

/-- An unnamed argument stands alone. -/
def ArgumentList.isJava (a : ArgumentList) : Bool :=
  match a.unnamed with
  | none => a.named.all NamedTerm.isJava
  | some t => a.named.isEmpty && t.isJava

def Note.isJava (n : Note) : Bool := n.name.isJava && n.arguments.all ArgumentList.isJava

mutual

def Outline.isJava : Outline → Bool
  | .method notes _ name parameters body =>
    notes.all Note.isJava && name.name.isIdentifier && parameters.isEmpty &&
      (Outline.bodyLexeme body).isSimple
  | .type notes _ _ name members => notes.all Note.isJava && name.isIdentifier && isJavaAll members

def Outline.isJavaAll : List Outline → Bool
  | [] => true
  | out :: outs => out.isJava && isJavaAll outs

end

/-! ## Simple lexemes -/

/-- Lexemes all of which are simple. -/
def AllSimple (ls : List Lexeme) : Prop := ∀ l ∈ ls, l.isSimple = true

@[simp] theorem allSimple_nil : AllSimple [] := by simp [AllSimple]

@[simp] theorem allSimple_cons (l : Lexeme) (ls : List Lexeme) :
    AllSimple (l :: ls) ↔ l.isSimple = true ∧ AllSimple ls := List.forall_mem_cons

@[simp] theorem allSimple_append (ls ls' : List Lexeme) :
    AllSimple (ls ++ ls') ↔ AllSimple ls ∧ AllSimple ls' := List.forall_mem_append

theorem allSimple_words (ws : List Name) : AllSimple (ws.map .word) := by
  intro l hl
  obtain ⟨w, -, rfl⟩ := List.mem_map.1 hl
  rfl

theorem allSimple_listed {lss : List (List Lexeme)} (h : ∀ ls ∈ lss, AllSimple ls) :
    AllSimple (listed lss) := by
  induction lss with
  | nil => simp [listed]
  | cons ls lss ih =>
    have hls := h ls List.mem_cons_self
    cases lss with
    | nil => exact hls
    | cons ls' lss =>
      have hmore := ih fun x hx => h x (List.mem_cons_of_mem ls hx)
      change AllSimple (ls ++ .sign ',' :: listed (ls' :: lss))
      rw [allSimple_append, allSimple_cons]
      exact ⟨hls, rfl, hmore⟩

theorem allSimple_dottedName (n : DottedName) : AllSimple n.lexemes := by
  obtain ⟨qs, simple⟩ := n
  induction qs with
  | nil => exact allSimple_words [simple]
  | cons q qs ih =>
    rw [DottedName.lexemes_cons, allSimple_cons, allSimple_cons]
    exact ⟨rfl, rfl, ih⟩

mutual

theorem allSimple_term (t : Term) (ht : t.isJava = true) : AllSimple t.lexemes := by
  cases t with
  | literal contents =>
    rw [Term.lexemes, allSimple_cons]
    exact ⟨ht, allSimple_nil⟩
  | reference name => exact allSimple_dottedName name
  | array items =>
    rw [Term.lexemes, List.cons_append, allSimple_cons, allSimple_append, allSimple_cons]
    exact ⟨rfl, allSimple_listed (allSimple_terms items ht), rfl, allSimple_nil⟩

theorem allSimple_terms (ts : List Term) (hts : Term.isJavaAll ts = true) :
    ∀ ls ∈ Term.lexemesOfAll ts, AllSimple ls := by
  cases ts with
  | nil => simp [Term.lexemesOfAll]
  | cons t ts =>
    rw [Term.isJavaAll, Bool.and_eq_true] at hts
    rw [Term.lexemesOfAll, List.forall_mem_cons]
    exact ⟨allSimple_term t hts.1, allSimple_terms ts hts.2⟩

end

theorem allSimple_namedTerm {a : NamedTerm} (ha : a.isJava = true) : AllSimple a.lexemes := by
  rw [NamedTerm.isJava, Bool.and_eq_true] at ha
  rw [NamedTerm.lexemes, allSimple_cons, allSimple_cons]
  exact ⟨rfl, rfl, allSimple_term a.term ha.2⟩

theorem ArgumentList.lexemes_of_named {a : ArgumentList} (h : a.unnamed = none) :
    a.lexemes = listed (a.named.map NamedTerm.lexemes) := by
  simp [ArgumentList.lexemes, ArgumentList.named, h]

theorem ArgumentList.lexemes_of_unnamed {a : ArgumentList} {t : Term} (h : a.unnamed = some t)
    (hnamed : a.named.isEmpty = true) : a.lexemes = t.lexemes := by
  have hnone := List.append_eq_nil_iff.1 (List.isEmpty_iff.1 hnamed)
  simp [ArgumentList.lexemes, h, hnone, listed]

theorem allSimple_arguments {a : ArgumentList} (ha : a.isJava = true) : AllSimple a.lexemes := by
  rw [ArgumentList.isJava] at ha
  cases hunnamed : a.unnamed with
  | none =>
    rw [hunnamed] at ha
    rw [ArgumentList.lexemes_of_named hunnamed]
    apply allSimple_listed
    intro ls hls
    obtain ⟨x, hx, rfl⟩ := List.mem_map.1 hls
    exact allSimple_namedTerm (List.all_eq_true.1 ha x hx)
  | some t =>
    rw [hunnamed, Bool.and_eq_true] at ha
    rw [ArgumentList.lexemes_of_unnamed hunnamed ha.1]
    exact allSimple_term t ha.2

theorem allSimple_note {n : Note} (hn : n.isJava = true) : AllSimple n.lexemes := by
  rw [Note.isJava, Bool.and_eq_true] at hn
  rw [Note.lexemes, allSimple_append, allSimple_cons]
  refine ⟨⟨rfl, allSimple_dottedName n.name⟩, ?_⟩
  cases harguments : n.arguments with
  | none => exact allSimple_nil
  | some a =>
    rw [harguments] at hn
    rw [allSimple_append, allSimple_cons, allSimple_cons]
    exact ⟨⟨rfl, allSimple_arguments hn.2⟩, rfl, allSimple_nil⟩

theorem allSimple_opening {notes : List Note} (hnotes : notes.all Note.isJava = true)
    (modifiers : List Modifier) (keyword name : Name) :
    AllSimple (Outline.opening notes modifiers keyword name) := by
  rw [Outline.opening_eq, allSimple_append]
  refine ⟨?_, allSimple_words _⟩
  intro l hl
  obtain ⟨n, hn, hl⟩ := List.mem_flatMap.1 hl
  exact allSimple_note (List.all_eq_true.1 hnotes n hn) l hl

namespace Outline

mutual

theorem isSimple_lexemes (out : Outline) (hout : out.isJava = true) : AllSimple out.lexemes := by
  cases out with
  | method notes modifiers name parameters body =>
    simp only [isJava, Bool.and_eq_true, List.isEmpty_iff] at hout
    obtain ⟨⟨⟨hnotes, -⟩, rfl⟩, hbody⟩ := hout
    rw [lexemes, allSimple_append, allSimple_append, allSimple_cons]
    refine ⟨⟨allSimple_opening hnotes _ _ _, ?_⟩, hbody, allSimple_nil⟩
    simp [AllSimple, parameterLexemes, listed, Lexeme.isSimple]
  | type notes modifiers kind name members =>
    simp only [isJava, Bool.and_eq_true] at hout
    rw [lexemes, List.append_assoc, List.cons_append, allSimple_append, allSimple_cons, allSimple_append,
      allSimple_cons]
    exact ⟨allSimple_opening hout.1.1 _ _ _, rfl, isSimple_lexemesOfAll members hout.2, rfl, allSimple_nil⟩

theorem isSimple_lexemesOfAll (outs : List Outline) (houts : isJavaAll outs = true) :
    AllSimple (lexemesOfAll outs) := by
  cases outs with
  | nil => exact allSimple_nil
  | cons out outs =>
    rw [isJavaAll, Bool.and_eq_true] at houts
    rw [lexemesOfAll, allSimple_append]
    exact ⟨isSimple_lexemes out houts.1, isSimple_lexemesOfAll outs houts.2⟩

end

mutual

theorem parameterless_of_isJava (out : Outline) (hout : out.isJava = true) : out.parameterless = true := by
  cases out with
  | method notes modifiers name parameters body =>
    simp only [isJava, Bool.and_eq_true] at hout
    exact hout.1.2
  | type notes modifiers kind name members =>
    simp only [isJava, Bool.and_eq_true] at hout
    exact parameterlessAll_of_isJavaAll members hout.2

theorem parameterlessAll_of_isJavaAll (outs : List Outline) (houts : isJavaAll outs = true) :
    parameterlessAll outs = true := by
  cases outs with
  | nil => rfl
  | cons out outs =>
    rw [isJavaAll, Bool.and_eq_true] at houts
    rw [parameterlessAll, parameterless_of_isJava out houts.1, parameterlessAll_of_isJavaAll outs houts.2]
    rfl

end

end Outline

end EndpointIndex
