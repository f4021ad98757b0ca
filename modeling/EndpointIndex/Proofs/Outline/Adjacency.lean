import EndpointIndex.Proofs.Outline.Masking
import EndpointIndex.Proofs.Outline.Values

/-!
# Neighbouring lexemes

Which lexemes of an outline can stand next to each other. `Adjoining R` lists the pairs that occur, so
that a relation which holds of them holds between any two neighbours (`Adjoining.isChain`). Main fact:
no two literals are neighbours (`isChain_notBothLiteral`).
-/

namespace EndpointIndex.Outline

mutual

/-- Whether no method has parameters. -/
def parameterless : Outline → Bool
  | method _ _ _ parameters _ => parameters.isEmpty
  | type _ _ _ _ members => parameterlessAll members

def parameterlessAll : List Outline → Bool
  | [] => true
  | out :: outs => out.parameterless && parameterlessAll outs

end

end EndpointIndex.Outline

namespace EndpointIndex.Source

/-- A relation that holds of the neighbours in annotations and declarations. -/
structure Adjoining (R : Lexeme → Lexeme → Prop) : Prop where
  word : ∀ n l, R (.word n) l
  sign : ∀ c known l, c ≠ '.' → c ≠ '=' → R (.sign c known) l
  dot : ∀ n, R (.sign '.') (.word n)
  equals : ∀ l, Lexeme.isSign '=' l = false → R (.sign '=') l
  literal : ∀ s l, l.isLiteral = false → R (.literal s) l
  block : ∀ b l, R (.block b) l

/-- Lexemes of which the first is no literal. -/
def NoLiteralFirst (ls : List Lexeme) : Prop := ∀ l ∈ ls.head?, l.isLiteral = false

/-- Lexemes that can be put before any others that do not start with a literal. -/
def Chains (R : Lexeme → Lexeme → Prop) (ls : List Lexeme) : Prop :=
  ∀ rest, rest.IsChain R → NoLiteralFirst rest → (ls ++ rest).IsChain R

section

variable {R : Lexeme → Lexeme → Prop}

theorem chains_nil : Chains R [] := fun _ hrest _ => hrest

theorem noLiteralFirst_nil : NoLiteralFirst [] := by
  intro l hl
  cases hl

theorem noLiteralFirst_cons {l : Lexeme} (hl : l.isLiteral = false) (ls : List Lexeme) :
    NoLiteralFirst (l :: ls) := by
  rintro _ ⟨⟩
  exact hl

theorem NoLiteralFirst.append {a b : List Lexeme} (ha : NoLiteralFirst a) (hb : NoLiteralFirst b) :
    NoLiteralFirst (a ++ b) := by
  cases a with
  | nil => exact hb
  | cons l a => exact ha

theorem Chains.append {a b : List Lexeme} (ha : Chains R a) (hb : Chains R b) (hhead : NoLiteralFirst b) :
    Chains R (a ++ b) := by
  intro rest hrest hliteral
  rw [List.append_assoc]
  exact ha _ (hb rest hrest hliteral) (hhead.append hliteral)

/-- A word or a sign after which anything may stand. -/
theorem Chains.cons {l : Lexeme} {ls : List Lexeme} (hl : ∀ l', R l l') (hls : Chains R ls) :
    Chains R (l :: ls) :=
  fun rest hrest hliteral => (hls rest hrest hliteral).cons fun l' _ => hl l'

namespace Adjoining

theorem words (hR : Adjoining R) (ws : List Name) : Chains R (ws.map .word) := by
  induction ws with
  | nil => exact chains_nil
  | cons w ws ih => exact ih.cons (hR.word w)

theorem dottedName (hR : Adjoining R) (n : DottedName) : Chains R n.lexemes := by
  obtain ⟨qs, simple⟩ := n
  induction qs with
  | nil => exact hR.words [simple]
  | cons q qs ih =>
    rw [DottedName.lexemes_cons]
    intro rest hrest hliteral
    refine ((ih rest hrest hliteral).cons fun l hl => ?_).cons fun l _ => hR.word q l
    -- after a dot comes the next part of the name
    cases qs with
    | nil =>
      cases hl
      exact hR.dot simple
    | cons q' qs =>
      rw [DottedName.lexemes_cons] at hl
      cases hl
      exact hR.dot q'

theorem list (hR : Adjoining R) {lss : List (List Lexeme)} (hlss : ∀ ls ∈ lss, Chains R ls) :
    Chains R (listed lss) := by
  induction lss with
  | nil => exact chains_nil
  | cons ls lss ih =>
    have hls := hlss ls List.mem_cons_self
    cases lss with
    | nil => exact hls
    | cons ls' lss =>
      have hmore := ih fun x hx => hlss x (List.mem_cons_of_mem ls hx)
      exact hls.append (hmore.cons fun l => hR.sign ',' _ l (by decide) (by decide))
        (noLiteralFirst_cons rfl _)

/-- Brackets around lexemes. -/
theorem enclosed (hR : Adjoining R) {o c : Char} {ho : o ∈ signs} {hc : c ∈ signs}
    (hsigns : o ≠ '.' ∧ o ≠ '=' ∧ c ≠ '.' ∧ c ≠ '=') {ls : List Lexeme} (hls : Chains R ls) :
    Chains R (.sign o ho :: ls ++ [.sign c hc]) := by
  rw [List.cons_append]
  apply Chains.cons fun l => hR.sign o ho l hsigns.1 hsigns.2.1
  exact hls.append (chains_nil.cons fun l => hR.sign c hc l hsigns.2.2.1 hsigns.2.2.2)
    (noLiteralFirst_cons rfl _)

mutual

theorem term (hR : Adjoining R) (t : Term) : Chains R t.lexemes := by
  cases t with
  | literal contents =>
    intro rest hrest hliteral
    exact hrest.cons fun l hl => hR.literal contents l (hliteral l hl)
  | reference n => exact hR.dottedName n
  | array items => exact hR.enclosed (by decide) (hR.list fun ls hls => terms hR items ls hls)

theorem terms (hR : Adjoining R) (ts : List Term) : ∀ ls ∈ Term.lexemesOfAll ts, Chains R ls := by
  cases ts with
  | nil => simp [Term.lexemesOfAll]
  | cons t ts =>
    intro ls hls
    rcases List.mem_cons.1 hls with rfl | hls
    · exact term hR t
    · exact terms hR ts ls hls

end

theorem namedTerm (hR : Adjoining R) (a : NamedTerm) : Chains R a.lexemes := by
  intro rest hrest hliteral
  refine ((hR.term a.term rest hrest hliteral).cons fun l hl => hR.equals l ?_).cons fun l _ =>
    hR.word a.key l
  obtain ⟨first, ls, hlexemes⟩ := lexemes_ne_nil_of_term a.term
  have hstart := startsWith_equals_term a.term
  rw [hlexemes] at hl hstart
  cases hl
  exact hstart

theorem arguments (hR : Adjoining R) (a : ArgumentList) : Chains R a.lexemes := by
  apply hR.list
  intro ls hls
  simp only [List.mem_append, List.mem_map] at hls
  rcases hls with (⟨n, -, rfl⟩ | ⟨t, -, rfl⟩) | ⟨n, -, rfl⟩
  · exact hR.namedTerm n
  · exact hR.term t
  · exact hR.namedTerm n

theorem note (hR : Adjoining R) (n : Note) : Chains R n.lexemes := by
  rw [Note.lexemes, List.cons_append]
  apply Chains.cons fun l => hR.sign '@' _ l (by decide) (by decide)
  cases n.arguments with
  | none =>
    rw [List.append_nil]
    exact hR.dottedName n.name
  | some a =>
    exact (hR.dottedName n.name).append (hR.enclosed (by decide) (hR.arguments a))
      (noLiteralFirst_cons rfl _)

theorem noLiteralFirst_notes (notes : List Note) : NoLiteralFirst (notes.flatMap Note.lexemes) := by
  cases notes with
  | nil => exact noLiteralFirst_nil
  | cons n notes => exact noLiteralFirst_cons rfl _

theorem notes (hR : Adjoining R) (notes : List Note) : Chains R (notes.flatMap Note.lexemes) := by
  induction notes with
  | nil => exact chains_nil
  | cons n notes ih => exact (hR.note n).append ih (noLiteralFirst_notes notes)

theorem noLiteralFirst_words (ws : List Name) : NoLiteralFirst (ws.map .word) := by
  cases ws with
  | nil => exact noLiteralFirst_nil
  | cons w ws => exact noLiteralFirst_cons rfl _

theorem opening (hR : Adjoining R) (notes : List Note) (modifiers : List Modifier) (keyword name : Name) :
    Chains R (Outline.opening notes modifiers keyword name) := by
  rw [Outline.opening_eq]
  exact (hR.notes notes).append (hR.words _) (noLiteralFirst_words _)

theorem noLiteralFirst_opening (notes : List Note) (modifiers : List Modifier) (keyword name : Name) :
    NoLiteralFirst (Outline.opening notes modifiers keyword name) := by
  rw [Outline.opening_eq]
  exact (noLiteralFirst_notes notes).append (noLiteralFirst_words _)

/-- The types of parameters are written with signs after which anything may stand. -/
theorem typePieces (hR : Adjoining R) (hsigns : ∀ c known l, R (.sign c known) l)
    (pieces : List TypePiece) : Chains R (pieces.map TypePiece.lexeme) := by
  induction pieces with
  | nil => exact chains_nil
  | cons piece pieces ih =>
    cases piece with
    | word n => exact ih.cons (hR.word n)
    | sign c known => exact ih.cons (hsigns c _)

theorem noLiteralFirst_typePieces (pieces : List TypePiece) :
    NoLiteralFirst (pieces.map TypePiece.lexeme) := by
  cases pieces with
  | nil => exact noLiteralFirst_nil
  | cons piece pieces =>
    cases piece with
    | word n => exact noLiteralFirst_cons rfl _
    | sign c known => exact noLiteralFirst_cons rfl _

theorem parameter (hR : Adjoining R) (hsigns : ∀ c known l, R (.sign c known) l) (p : Parameter) :
    Chains R p.lexemes := by
  apply Chains.append _ (hR.words [p.name]) (noLiteralFirst_words [p.name])
  exact (hR.notes p.notes).append (hR.typePieces hsigns p.type) (noLiteralFirst_typePieces p.type)

end Adjoining

end

/-! ## Declarations -/

namespace Adjoining

variable {R : Lexeme → Lexeme → Prop}

theorem parameterList (hR : Adjoining R) {parameters : List Parameter}
    (h : (∀ c known l, R (.sign c known) l) ∨ parameters.isEmpty = true) :
    Chains R (Outline.parameterLexemes parameters) := by
  apply hR.enclosed (by decide)
  apply hR.list
  intro ls hls
  obtain ⟨p, hp, rfl⟩ := List.mem_map.1 hls
  rcases h with hsigns | hempty
  · exact hR.parameter hsigns p
  · rw [List.isEmpty_iff.1 hempty] at hp
    cases hp

theorem noLiteralFirst_outlines (outs : List Outline) :
    NoLiteralFirst (Outline.lexemesOfAll outs) := by
  cases outs with
  | nil => exact noLiteralFirst_nil
  | cons out outs =>
    cases out with
    | method notes modifiers name parameters body =>
      simp only [Outline.lexemesOfAll, Outline.lexemes, List.append_assoc]
      exact (noLiteralFirst_opening _ _ _ _).append (noLiteralFirst_cons rfl _)
    | type notes modifiers kind name members =>
      simp only [Outline.lexemesOfAll, Outline.lexemes, List.append_assoc]
      exact (noLiteralFirst_opening _ _ _ _).append (noLiteralFirst_cons rfl _)

mutual

theorem outline (hR : Adjoining R) (out : Outline)
    (h : (∀ c known l, R (.sign c known) l) ∨ out.parameterless = true) : Chains R out.lexemes := by
  cases out with
  | method notes modifiers name parameters body =>
    have hparameters : Chains R (Outline.parameterLexemes parameters) :=
      hR.parameterList (by simpa [Outline.parameterless] using h)
    have hbody : Chains R [Outline.bodyLexeme body] := by
      cases body with
      | none => exact chains_nil.cons fun l => hR.sign ';' _ l (by decide) (by decide)
      | some b => exact chains_nil.cons (hR.block b)
    have hfirst : NoLiteralFirst [Outline.bodyLexeme body] := by
      cases body <;> exact noLiteralFirst_cons rfl _
    exact ((hR.opening notes modifiers voidWord name.name).append hparameters
      (noLiteralFirst_cons rfl _)).append hbody hfirst
  | type notes modifiers kind name members =>
    have hmembers := outlines hR members (by simpa [Outline.parameterless] using h)
    rw [Outline.lexemes, List.append_assoc]
    exact (hR.opening notes modifiers kind.word name).append (hR.enclosed (by decide) hmembers)
      (noLiteralFirst_cons rfl _)

theorem outlines (hR : Adjoining R) (outs : List Outline)
    (h : (∀ c known l, R (.sign c known) l) ∨ Outline.parameterlessAll outs = true) :
    Chains R (Outline.lexemesOfAll outs) := by
  cases outs with
  | nil => exact chains_nil
  | cons out outs =>
    rw [Outline.parameterlessAll, Bool.and_eq_true] at h
    exact (outline hR out (h.imp_right And.left)).append
      (outlines hR outs (h.imp_right And.right)) (noLiteralFirst_outlines outs)

end

/-- Any two neighbours in a unit are related. -/
theorem isChain (hR : Adjoining R) (outs : List Outline)
    (h : (∀ c known l, R (.sign c known) l) ∨ Outline.parameterlessAll outs = true) :
    (Outline.lexemesOfAll outs).IsChain R := by
  have hchain := hR.outlines outs h [] List.isChain_nil noLiteralFirst_nil
  rwa [List.append_nil] at hchain

end Adjoining

/-- No two literals are neighbours. -/
theorem isChain_notBothLiteral (outs : List Outline) :
    (Outline.lexemesOfAll outs).IsChain Lexeme.NotBothLiteral := by
  have hR : Adjoining Lexeme.NotBothLiteral :=
    { word := fun _ _ h => by cases h
      sign := fun _ _ _ _ _ h => by cases h
      dot := fun _ h => by cases h
      equals := fun _ _ h => by cases h
      literal := fun _ _ hl _ => hl
      block := fun _ _ h => by cases h }
  exact hR.isChain outs (.inl fun _ _ _ h => by cases h)

end EndpointIndex.Source
