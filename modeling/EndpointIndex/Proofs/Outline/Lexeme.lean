import EndpointIndex.Proofs.Text.Blank
import EndpointIndex.Source.Mask
import Mathlib.Data.List.Chain

/-!
# Laid-out sources

A source text as its author lays it out: words, signs, string literals and blocks one after another,
with blanks and comments between them. Between two words there is always something. A `Layout` of a
list of lexemes is one such text (`Layout.text`).
-/

namespace EndpointIndex.Source

/-! ## Lexemes -/

/-- The characters that continue a name in plain ASCII. -/
def isPlainPart (c : Char) : Bool := c.isAlphanum || c == '_' || c == '$'

def isPlainName : List Char → Bool
  | [] => false
  | c :: r => Text.isNameStart c && r.all isPlainPart

/-- A name in plain ASCII; keywords are names too. -/
structure Name where
  text : String
  plain : isPlainName text.toList = true
  deriving DecidableEq

/-- Whether all braces are closed in the order in which they are opened, `depth` of them being open
at the start. -/
def bracesClose : Nat → List Char → Bool
  | depth, [] => depth == 0
  | depth, c :: r =>
    if c = '{' then bracesClose (depth + 1) r
    else if c = '}' then 0 < depth && bracesClose (depth - 1) r
    else bracesClose depth r

/-- What stands between the braces of a method: any text without quotes and slashes. -/
structure Block where
  text : List Char
  unquoted : '"' ∉ text ∧ '\'' ∉ text
  uncommented : '/' ∉ text
  closed : bracesClose 0 text = true

def Block.empty : Block where
  text := []
  unquoted := ⟨List.not_mem_nil, List.not_mem_nil⟩
  uncommented := List.not_mem_nil
  closed := rfl

def signs : List Char := ['@', '.', ',', '=', '(', ')', '{', '}', ';', '[', ']', '<', '>', '?', '&']

inductive Lexeme where
  | word (name : Name)
  | sign (c : Char) (known : c ∈ signs := by decide)
  /-- A string literal with the given contents. -/
  | literal (contents : String)
  /-- A text in braces that is not looked into. -/
  | block (b : Block)

/-- How a character is written inside a string literal. -/
def writeLiteralChar (c : Char) : List Char :=
  if c = '\\' then ['\\', '\\']
  else if c = '"' then ['\\', '"']
  else if c = '\n' then ['\\', 'n']
  else [c]

def writeContents (contents : String) : List Char := contents.toList.flatMap writeLiteralChar

namespace Lexeme

def isWord : Lexeme → Bool
  | word _ => true
  | _ => false

def isLiteral : Lexeme → Bool
  | literal _ => true
  | _ => false

def chars : Lexeme → List Char
  | word name => name.text.toList
  | sign c _ => [c]
  | literal contents => '"' :: writeContents contents ++ ['"']
  | block b => '{' :: b.text ++ ['}']

end Lexeme

/-! ## Layouts -/

/-- What may stand between two lexemes. -/
inductive Filler where
  | blank (c : Char) (isBlank : Text.isBlank c = true)
  | lineComment (text : List Char) (oneLine : '\n' ∉ text)
  | blockComment (text : List Char) (unclosed : ¬ ['*', '/'] <:+: text)

def Filler.chars : Filler → List Char
  | blank c _ => [c]
  | lineComment text _ => '/' :: '/' :: text ++ ['\n']
  | blockComment text _ => '/' :: '*' :: text ++ ['*', '/']

/-- A lexeme with what stands before it. -/
structure Placed where
  gap : List Filler
  lexeme : Lexeme

def Placed.chars (p : Placed) : List Char := p.gap.flatMap Filler.chars ++ p.lexeme.chars

/-- Two words that follow each other are kept apart. -/
def Placed.Apart (p q : Placed) : Prop :=
  p.lexeme.isWord = true → q.lexeme.isWord = true → q.gap ≠ []

/-- A way to write lexemes one after another. -/
structure Layout (lexemes : List Lexeme) where
  placed : List Placed
  /-- What stands after the last lexeme. -/
  ending : List Filler
  complete : placed.map Placed.lexeme = lexemes
  spaced : placed.IsChain Placed.Apart

def Layout.text {lexemes : List Lexeme} (layout : Layout lexemes) : List Char :=
  layout.placed.flatMap Placed.chars ++ layout.ending.flatMap Filler.chars

/-- Lexemes with a space between two words and nothing else; `afterWord` tells whether a word stands
before them. -/
def tightlyPlaced (afterWord : Bool) : List Lexeme → List Placed
  | [] => []
  | l :: ls =>
    ⟨if afterWord && l.isWord then [.blank ' ' rfl] else [], l⟩ :: tightlyPlaced l.isWord ls

theorem map_lexeme_tightlyPlaced (afterWord : Bool) (ls : List Lexeme) :
    (tightlyPlaced afterWord ls).map Placed.lexeme = ls := by
  induction ls generalizing afterWord with
  | nil => rfl
  | cons l ls ih => rw [tightlyPlaced, List.map_cons, ih]

theorem isChain_tightlyPlaced (afterWord : Bool) (ls : List Lexeme) :
    (tightlyPlaced afterWord ls).IsChain Placed.Apart := by
  induction ls generalizing afterWord with
  | nil => exact .nil
  | cons l ls ih =>
    refine (ih l.isWord).cons fun q hq => ?_
    cases ls with
    | nil => cases hq
    | cons l' ls =>
      cases hq
      intro hl hl'
      rw [if_pos]
      · simp
      · rw [hl', Bool.and_true]
        exact hl

/-- The shortest way to write lexemes. -/
def Layout.tight (lexemes : List Lexeme) : Layout lexemes where
  placed := tightlyPlaced false lexemes
  ending := []
  complete := map_lexeme_tightlyPlaced false lexemes
  spaced := isChain_tightlyPlaced false lexemes

/-! ## Character classes -/

theorem isNamePart_of_isPlainPart {c : Char} (h : isPlainPart c = true) : Text.isNamePart c = true := by
  simp only [isPlainPart, Bool.or_eq_true, beq_iff_eq] at h
  rcases h with (h | rfl) | rfl
  · simp [Text.isNamePart, Text.isWord_of_isAlphanum h]
  · decide
  · decide

theorem Name.plainChars_eq (n : Name) :
    ∃ c r, n.text.toList = c :: r ∧ Text.isNameStart c = true ∧ ∀ d ∈ r, isPlainPart d = true := by
  have hplain := n.plain
  cases htext : n.text.toList with
  | nil =>
    rw [htext] at hplain
    cases hplain
  | cons c r =>
    rw [htext, isPlainName, Bool.and_eq_true, List.all_eq_true] at hplain
    exact ⟨c, r, rfl, hplain⟩

/-- A name has a first character, which starts names, and all of it are parts of names. -/
theorem Name.chars_eq (n : Name) :
    ∃ c r, n.text.toList = c :: r ∧ Text.isNameStart c = true ∧
      ∀ d ∈ c :: r, Text.isNamePart d = true := by
  obtain ⟨c, r, htext, hstart, hparts⟩ := n.plainChars_eq
  refine ⟨c, r, htext, hstart, ?_⟩
  intro d hd
  rcases List.mem_cons.1 hd with rfl | hd
  · exact Text.isNamePart_of_isNameStart hstart
  · exact isNamePart_of_isPlainPart (hparts d hd)

theorem not_isNamePart_of_mem_signs {c : Char} (h : c ∈ signs) : Text.isNamePart c = false := by
  have hall : ∀ d ∈ signs, Text.isNamePart d = false := List.forall_iff_forall_mem.1 (by decide)
  exact hall c h

theorem not_isBlank_of_mem_signs {c : Char} (h : c ∈ signs) : Text.isBlank c = false := by
  have hall : ∀ d ∈ signs, Text.isBlank d = false := List.forall_iff_forall_mem.1 (by decide)
  exact hall c h

end EndpointIndex.Source
