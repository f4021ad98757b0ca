import EndpointIndex.Java.Token

/-!
# Token parsers

A parser reads a value off the head of a token list. It fails in two ways: on a token that does not
fit, after which another reading may be tried, and at the end of the tokens, which ends the whole
parse. Loops are bounded by the number of tokens, since each turn reads at least one.
-/

namespace EndpointIndex.Java

inductive Failure where
  /-- A token does not fit. -/
  | mismatch
  /-- The tokens end. -/
  | exhausted
  deriving DecidableEq, Repr

abbrev Parser := StateT (List Token) (Except Failure)

namespace Parser

def mismatch {α : Type} : Parser α := throw .mismatch

def exhausted {α : Type} : Parser α := throw .exhausted

/-- Reads with `p`, and with `q` from the same place if a token does not fit `p`. -/
def orElse {α : Type} (p q : Parser α) : Parser α := fun s =>
  match p s with
  | .error .mismatch => q s
  | r => r

/-- Runs a loop with as many turns as there are tokens, and one more. -/
def bounded {α : Type} (loop : Nat → Parser α) : Parser α := fun s => loop (s.length + 1) s

/-! ## Looking ahead -/

def textAt (s : List Token) (i : Nat) : String := (s[i]?.map Token.text).getD ""

def kindAt (s : List Token) (i : Nat) : Option TokenKind := s[i]?.map Token.kind

def startsWith (texts : List String) (s : List Token) : Bool :=
  texts.isPrefixOf ((s.take texts.length).map Token.text)

/-- Whether the next tokens have the given texts. -/
def next (texts : List String) : Parser Bool := do return startsWith texts (← get)

def nextIs (text : String) : Parser Bool := do return textAt (← get) 0 == text

def nextIn (texts : List String) : Parser Bool := do
  match ← get with
  | [] => return false
  | t :: _ => return texts.contains t.text

def nextKind (kind : TokenKind) : Parser Bool := do return kindAt (← get) 0 == some kind

/-- Whether an identifier is next, and then the given text. -/
def nextName (after : String) : Parser Bool := do
  let s ← get
  return kindAt s 0 == some .identifier && textAt s 1 == after

/-- Whether an annotation, and not the declaration of one, starts here. -/
def startsMark (s : List Token) : Bool :=
  kindAt s 0 == some .atSign && textAt s 1 != "interface"

def startsMarkType (s : List Token) : Bool :=
  kindAt s 0 == some .atSign && textAt s 1 == "interface"

def nextLine : Parser Nat := do return ((← get).head?.map Token.line).getD 0

/-! ## Reading -/

def advance : Parser Token := do
  match ← get with
  | [] => exhausted
  | t :: r => set r; return t

def accept (text : String) : Parser Unit := do
  let t ← advance
  if t.text == text then return () else mismatch

def acceptAll (texts : List String) : Parser Unit := texts.forM accept

def acceptKind (kind : TokenKind) : Parser String := do
  let t ← advance
  if t.kind == kind then return t.text else mismatch

def identifier : Parser String := acceptKind .identifier

/-- Reads the given tokens if they are next. -/
def tryAll (texts : List String) : Parser Bool := do
  let s ← get
  if startsWith texts s then
    set (s.drop texts.length)
    return true
  else return false

def tryAccept (text : String) : Parser Bool := tryAll [text]

/-! ## Loops -/

/-- Reads items until the next token passes a test. -/
def untilNext {α : Type} (stop : List Token → Bool) (item : Parser α) : Parser (List α) :=
  bounded loop
where
  loop : Nat → Parser (List α)
    | 0 => exhausted
    | n + 1 => do
      if stop (← get) then return []
      let a ← item
      return a :: (← loop n)

/-- Reads one or more items with a separator between them. -/
def separated {α : Type} (separator : String) (item : Parser α) : Parser (List α) :=
  bounded loop
where
  loop : Nat → Parser (List α)
    | 0 => exhausted
    | n + 1 => do
      let a ← item
      if ← tryAccept separator then return a :: (← loop n) else return [a]

def openBrace : String := "\x7b"

def closeBrace : String := "\x7d"

def startsWithText (text : String) (s : List Token) : Bool := startsWith [text] s

/-- Reads items up to a closing token, which is read too. -/
def enclosed {α : Type} (opening closing : String) (item : Parser α) : Parser (List α) := do
  accept opening
  let items ← untilNext (startsWithText closing) item
  accept closing
  return items

end Parser

end EndpointIndex.Java
