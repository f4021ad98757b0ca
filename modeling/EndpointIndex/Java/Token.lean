import EndpointIndex.Java.Escape
import EndpointIndex.Text.Blank
import EndpointIndex.Text.Category

/-!
# Java tokens

A source text cut into tokens, each with the line on which it starts. Comments and blanks only count
lines. Anything that starts no token, an unknown escape in a literal and a literal or comment that
does not end are errors of the whole text.
-/

namespace EndpointIndex.Java

inductive TokenKind where
  | identifier
  /-- A keyword that is neither a modifier nor a basic type. -/
  | keyword
  | modifier
  | basicType
  | literal
  | separator
  | operator
  /-- The sign that starts an annotation. -/
  | atSign
  deriving DecidableEq, Repr

structure Token where
  kind : TokenKind
  text : String
  line : Nat
  deriving DecidableEq, Repr

/-! ## Words -/

def modifiers : List String :=
  ["abstract", "default", "final", "native", "private", "protected", "public", "static", "strictfp",
   "synchronized", "transient", "volatile"]

def basicTypes : List String :=
  ["boolean", "byte", "char", "double", "float", "int", "long", "short"]

def keywords : List String :=
  ["assert", "break", "case", "catch", "class", "const", "continue", "do", "else", "enum", "extends",
   "finally", "for", "goto", "if", "implements", "import", "instanceof", "interface", "new",
   "package", "return", "super", "switch", "this", "throw", "throws", "try", "void", "while"]

def wordLiterals : List String := ["true", "false", "null"]

def wordKind (word : String) : TokenKind :=
  if word ∈ modifiers then .modifier
  else if word ∈ basicTypes then .basicType
  else if word ∈ keywords then .keyword
  else if word ∈ wordLiterals then .literal
  else .identifier

/-! ## Operators -/

/-- Operators, the longest first. Two or three `>` in a row are so many tokens, because they may
close nested type arguments. -/
def operators : List String :=
  [">>>=", ">>=", "<<=", "...", "%=", "^=", "|=", "&=", "/=", "*=", "-=", "+=", "<<", "--", "++",
   "||", "&&", "!=", ">=", "<=", "==", "->", "::", "%", "^", "|", "&", "/", "*", "-", "+", ":", "?",
   "~", "!", "<", ">", "="]

def operator? (s : List Char) : Option String :=
  operators.find? fun op => op.toList.isPrefixOf s

def isSeparator (c : Char) : Bool := "()\x7b\x7d[];,.".toList.contains c

/-! ## Literals -/

/-- The length of the rest of a quoted literal, closing quote included. -/
def quotedLength? (quote : Char) : List Char → Option Nat
  | [] => none
  | c :: r =>
    if c = '\\' then
      match r with
      | [] => none
      | e :: r' =>
        if "btnfru\"'\\01234567".toList.contains e then (quotedLength? quote r').map (· + 2)
        else none
    else if c = quote then some 1
    else (quotedLength? quote r).map (· + 1)

def isBinaryDigit (c : Char) : Bool := c = '0' || c = '1'

def isOctalDigit (c : Char) : Bool := '0' ≤ c && c ≤ '7'

def isHexDigit (c : Char) : Bool :=
  c.isDigit || ('a' ≤ c && c ≤ 'f') || ('A' ≤ c && c ≤ 'F')

/-- The text after a run of digits. Underscores between digits belong to the run. -/
def afterDigits (isDigit : Char → Bool) : List Char → List Char
  | [] => []
  | c :: r =>
    if isDigit c then afterDigits isDigit r
    else if c = '_' && (r.dropWhile (· = '_')).head?.any isDigit then afterDigits isDigit r
    else c :: r

/-- The text after a run of digits and the mark of a long integer, which is looked for behind
trailing underscores too. -/
def afterInteger (isDigit : Char → Bool) (s : List Char) : List Char :=
  let r := afterDigits isDigit s
  match (r.dropWhile (· = '_')).head? with
  | some c => if c = 'l' || c = 'L' then r.drop 1 else r
  | none => r

def dropIf (p : Char → Bool) : List Char → List Char
  | c :: r => if p c then r else c :: r
  | [] => []

def isFloatSuffix (c : Char) : Bool := c = 'f' || c = 'F' || c = 'd' || c = 'D'

def isSign (c : Char) : Bool := c = '-' || c = '+'

/-- The text after a decimal number. -/
def afterDecimal (s : List Char) : List Char :=
  let r := afterInteger Char.isDigit s
  let r := match r with
    | '.' :: t => afterInteger Char.isDigit t
    | _ => r
  let r := match r with
    | c :: t => if c = 'e' || c = 'E' then afterInteger Char.isDigit (dropIf isSign t) else r
    | [] => r
  dropIf isFloatSuffix r

/-- The text after a hexadecimal number whose mark `0x` is already read. One with a point must have
an exponent. -/
def afterHex? (s : List Char) : Option (List Char) :=
  let r := afterInteger isHexDigit s
  match r with
  | c :: t =>
    if c = '.' || c = 'p' || c = 'P' then
      let r := if c = '.' then afterInteger isHexDigit t else r
      match r with
      | p :: t' =>
        if p = 'p' || p = 'P' then
          some (dropIf isFloatSuffix (afterInteger Char.isDigit (dropIf isSign t')))
        else none
      | [] => none
    else some r
  | [] => some r

/-- The text after a number. -/
def afterNumber? (s : List Char) : Option (List Char) :=
  match s with
  | '0' :: x :: r =>
    if x = 'x' || x = 'X' then afterHex? r
    else if x = 'b' || x = 'B' then some (afterInteger isBinaryDigit r)
    else if isOctalDigit x then some (afterInteger isOctalDigit (x :: r))
    else some (afterDecimal s)
  | _ => some (afterDecimal s)

/-! ## Units -/

/-- What a text starts with: a token and its length, or a stretch to pass over. -/
inductive Lexeme where
  | token (kind : TokenKind) (length : Nat)
  | skip (length : Nat)

/-- The length of a block comment after its opening, the closing included. -/
def blockCommentLength? : List Char → Option Nat
  | '*' :: '/' :: _ => some 2
  | _ :: r => (blockCommentLength? r).map (· + 1)
  | [] => none

/-- The length of a line comment; its line feed is included. -/
def lineCommentLength (s : List Char) : Nat :=
  let body := s.takeWhile (· ≠ '\n')
  if body.length < s.length then body.length + 1 else body.length

def operatorLexeme? (s : List Char) : Option Lexeme :=
  (operator? s).map fun op => .token .operator op.length

def numberLexeme? (s : List Char) : Option Lexeme :=
  (afterNumber? s).map fun r => .token .literal (s.length - r.length)

/-- The first lexeme of a text that is not empty. -/
def lexeme? : List Char → Option Lexeme
  | [] => none
  | c :: r =>
    let s := c :: r
    if Text.isBlank c then some (.skip (s.takeWhile Text.isBlank).length)
    else if c = '/' && r.head? = some '/' then some (.skip (lineCommentLength s))
    else if c = '/' && r.head? = some '*' then
      (blockCommentLength? (r.drop 1)).map fun n => .skip (n + 2)
    -- three dots are one operator, not three separators
    else if "...".toList.isPrefixOf s then some (.token .operator 3)
    else if c = '@' then some (.token .atSign 1)
    else if c = '.' && r.head?.any Char.isDigit then
      some (.token .literal (s.length - (afterDecimal s).length))
    else if isSeparator c then some (.token .separator 1)
    else if c = '"' || c = '\'' then
      (quotedLength? c r).map fun n => .token .literal (n + 1)
    else if c.isDigit then numberLexeme? s
    else if Text.isIdentifierStart c then
      let word := c :: r.takeWhile Text.isIdentifierPart
      some (.token (wordKind (String.ofList word)) word.length)
    else operatorLexeme? s

/-- The tokens of a text that starts on the given line. Line feeds count where they are passed
over, not inside literals. -/
def tokensFrom? (line : Nat) (s : List Char) : Option (List Token) :=
  match s with
  | [] => some []
  | c :: r =>
    match lexeme? (c :: r) with
    | some (.skip (n + 1)) => tokensFrom? (line + ((c :: r).take (n + 1)).count '\n') (r.drop n)
    | some (.token kind (n + 1)) =>
      (tokensFrom? line (r.drop n)).map fun ts =>
        ⟨kind, String.ofList (c :: r.take n), line⟩ :: ts
    -- no lexeme, or one of no length
    | _ => none
termination_by s.length
decreasing_by all_goals simp only [List.length_drop, List.length_cons]; omega

/-- The tokens of a source text, its escapes replaced first. -/
def tokens? (text : List Char) : Option (List Token) := (expand? text).bind (tokensFrom? 1)

end EndpointIndex.Java
