import EndpointIndex.Console.Emoji
import EndpointIndex.Console.Literal
import EndpointIndex.Console.Style
import EndpointIndex.Console.Wrap

/-!
# Markup

Text in which a style is switched on by `[name]` and off by `[/name]`. A tag's name starts with a
small letter, a hash, an at sign or a slash, and reaches to the next closing bracket; all other
brackets are text. A backslash before a tag makes it text. What is shown is the text without its
tags, with emoji for their names; a closing tag must close a style that is on. An at sign starts the
name of an action, whose parameters must be well written when it is closed.
-/

namespace EndpointIndex.Console

inductive Piece where
  | text (shown : List Char)
  | tag (body : List Char)
  deriving DecidableEq, Repr

/-- Why a text cannot be shown. -/
inductive MarkupError where
  /-- A closing tag that closes nothing. -/
  | unmatched (body : List Char)
  /-- An action with parameters that cannot be read. -/
  | badAction (parameters : List Char)
  /-- A component of a color that is no number. -/
  | badColor
  deriving DecidableEq, Repr

def MarkupError.message : MarkupError → String
  | unmatched body => "Closing tag without its opening one: [" ++ String.ofList body ++ "]"
  | badAction parameters => "Parameters that cannot be read: " ++ String.ofList parameters
  | badColor => "A color with a component that is no number."

/-- What a marked-up text shows, and the descriptions of the styles it is shown in. -/
structure Shown where
  text : List Char
  styles : List (List Char)
  deriving DecidableEq, Repr

namespace Markup

def startsTag (c : Char) : Bool := ('a' ≤ c && c ≤ 'z') || c == '#' || c == '/' || c == '@'

/-- What stands before the closing bracket, and what after it. -/
def upToClosing? : List Char → Option (List Char × List Char)
  | [] => none
  | c :: r =>
    if c = ']' then some ([], r)
    else if c = '[' then none
    else (upToClosing? r).map fun p => (c :: p.1, p.2)

/-- The body of a tag and what follows it, for a text that starts after an opening bracket. -/
def tag? : List Char → Option (List Char × List Char)
  | c :: r => if startsTag c then upToClosing? (c :: r) else none
  | [] => none

theorem length_of_upToClosing? {s body rest : List Char} (h : upToClosing? s = some (body, rest)) :
    s.length = body.length + rest.length + 1 := by
  induction s generalizing body with
  | nil => simp [upToClosing?] at h
  | cons c r ih =>
    simp only [upToClosing?] at h
    split at h
    · simp only [Option.some.injEq, Prod.mk.injEq] at h
      simp [← h.1, ← h.2]
    · split at h
      · simp at h
      · obtain ⟨p, hp, he⟩ := Option.map_eq_some_iff.1 h
        simp only [Prod.mk.injEq] at he
        have := ih (show upToClosing? r = some (p.1, rest) by rw [hp, ← he.2])
        simp only [List.length_cons, ← he.1]
        omega

theorem length_of_tag? {s body rest : List Char} (h : tag? s = some (body, rest)) :
    rest.length < s.length := by
  cases s with
  | nil => simp [tag?] at h
  | cons c r =>
    simp only [tag?] at h
    split at h
    · have := length_of_upToClosing? h
      omega
    · simp at h

/-- A stretch of text, if it holds anything. -/
def textPiece (s : List Char) : List Piece := if s.isEmpty then [] else [.text s]

/-- The pieces for a tag with backslashes before it: two of them stand for one, and one that is left
over makes the tag text. -/
def escaped (backslashes : Nat) (body : List Char) : List Piece :=
  textPiece (List.replicate (backslashes / 2) '\\') ++
    [if backslashes % 2 = 0 then .tag body else .text ('[' :: body ++ [']'])]

/-- The pieces of a text; `before` holds in reverse what has been read since the last tag. -/
def piecesAfter (before : List Char) (s : List Char) : List Piece :=
  match s with
  | [] => textPiece before.reverse
  | c :: r =>
    if c = '[' then
      match _h : tag? r with
      | some (body, rest) =>
        textPiece (before.dropWhile (· = '\\')).reverse
          ++ escaped (before.takeWhile (· = '\\')).length body ++ piecesAfter [] rest
      | none => piecesAfter (c :: before) r
    else piecesAfter (c :: before) r
termination_by s.length
decreasing_by
  · have := length_of_tag? _h
    simp only [List.length_cons]
    omega
  · simp
  · simp

def pieces (s : List Char) : List Piece := piecesAfter [] s

/-- A backslash before a bracket of the text is not shown. -/
def unescape : List Char → List Char
  | '\\' :: '[' :: r => '[' :: unescape r
  | c :: r => c :: unescape r
  | [] => []

/-- A tag that switches something on: the name of its style, and what follows an equals sign. -/
structure Tag where
  name : String
  parameters : Option (List Char)
  deriving DecidableEq, Repr

/-- The name of a tag ends at an equals sign. -/
def splitBody (body : List Char) : List Char × Option (List Char) :=
  match body.dropWhile (· ≠ '=') with
  | [] => (body, none)
  | _ :: parameters => (body.takeWhile (· ≠ '='), some parameters)

/-- The description of the style that a tag switches on. -/
def Tag.style (t : Tag) : List Char :=
  t.name.toList ++ (t.parameters.map (' ' :: ·)).getD []

def Tag.isAction (t : Tag) : Bool := t.name.toList.head? = some '@'

/-- Closing a tag: the descriptions of the styles it was shown in. -/
def Tag.close (t : Tag) : Except MarkupError (List (List Char)) :=
  if t.isAction then
    match t.parameters with
    | none => .ok []
    | some parameters =>
      if parameters.isEmpty || Literal.isAction parameters then .ok []
      else .error (.badAction parameters)
  else .ok [t.style]

def styleName (name : List Char) : Except MarkupError String :=
  (Style.nameOf name).mapError fun _ => .badColor

/-- The tag that a closing tag closes, and those that stay on. Without a name it closes the latest,
otherwise the latest of that name. -/
def closed (on : List Tag) (body name : List Char) : Except MarkupError (Tag × List Tag) :=
  if (Text.trim name).isEmpty then
    match on with
    | [] => .error (.unmatched body)
    | t :: rest => .ok (t, rest)
  else do
    let style ← styleName (Text.trim name)
    match on.find? (·.name == style) with
    | some t => return (t, on.eraseP (·.name == style))
    | none => throw (.unmatched body)

/-- What pieces show where the tags `on` are on, the latest first. -/
def show? (on : List Tag) : List Piece → Except MarkupError Shown
  | [] => .ok ⟨[], on.map Tag.style⟩
  | .text s :: rest => do
    let more ← show? on rest
    return { more with text := Emoji.replace (unescape s) ++ more.text }
  | .tag body :: rest =>
    match splitBody body with
    | ('/' :: name, _) => do
      let (t, on) ← closed on body name
      let styles ← t.close
      let more ← show? on rest
      return { more with styles := styles ++ more.styles }
    | (name, parameters) => do
      let style ← styleName name
      show? (⟨style, parameters⟩ :: on) rest

/-- Bell, backspace, vertical tab, form feed and carriage return are not shown. -/
def isDropped (c : Char) : Bool := [7, 8, 11, 12, 13].contains c.toNat

/-- What a marked-up text shows. -/
def render (s : String) : Except MarkupError Shown :=
  (show? [] (pieces s.toList)).map fun t => { t with text := t.text.filter fun c => !isDropped c }

/-- Looks the styles of shown text up. A description that is none is passed over. -/
def checkStyles : List (List Char) → Except MarkupError Unit
  | [] => .ok ()
  | s :: rest =>
    match Style.parse s with
    | .error .notNumber => .error .badColor
    | _ => checkStyles rest

/-- The lines in which a marked-up text is shown. -/
def lay (layout : Layout) (s : String) : Except MarkupError (List (List Char)) := do
  let shown ← render s
  checkStyles shown.styles
  return layout.lay shown.text

/-! A text without brackets has no tags. -/

theorem piecesAfter_of_no_bracket {s : List Char} (h : '[' ∉ s) (before : List Char) :
    piecesAfter before s = textPiece (before.reverse ++ s) := by
  induction s generalizing before with
  | nil => simp [piecesAfter]
  | cons c r ih =>
    have hc : c ≠ '[' := fun e => h (by simp [e])
    have hr : '[' ∉ r := fun e => h (List.mem_cons_of_mem _ e)
    rw [piecesAfter, if_neg hc, ih hr]
    simp

end Markup

end EndpointIndex.Console
