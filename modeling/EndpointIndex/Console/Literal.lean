import EndpointIndex.Text.Blank
import EndpointIndex.Text.Category
import EndpointIndex.Text.Numeral

/-!
# Literals

The values that can be written out in the arguments of an action: numbers, texts, bytes, truth values
and nothing, tuples, sets and maps of such. Nothing is computed here but whether a text is such a
literal: an action runs nowhere in this program, but its arguments must be well written.
-/

namespace EndpointIndex.Console.Literal

inductive Token where
  | number (imaginary : Bool)
  | text (bytes : Bool)
  | word (name : String)
  | mark (c : Char)
  | ellipsis
  deriving DecidableEq, Repr

/-! ## Numbers -/

/-- The length of a run of digits with single underscores before them. -/
def runLength (isDigit : Char → Bool) : List Char → Nat
  | '_' :: c :: r => if isDigit c then runLength isDigit r + 2 else 0
  | c :: r => if isDigit c then runLength isDigit r + 1 else 0
  | [] => 0

/-- The length of digits with single underscores between them. -/
def digitsLength (isDigit : Char → Bool) : List Char → Nat
  | c :: r => if isDigit c then runLength isDigit r + 1 else 0
  | [] => 0

def isHexDigit (c : Char) : Bool :=
  c.isDigit || ('a' ≤ c && c ≤ 'f') || ('A' ≤ c && c ≤ 'F')

/-- The digits after the mark of a base. -/
def radixDigit? (mark : Char) : Option (Char → Bool) :=
  match mark.toLower with
  | 'x' => some isHexDigit
  | 'o' => some fun c => '0' ≤ c && c ≤ '7'
  | 'b' => some fun c => c = '0' || c = '1'
  | _ => none

/-- A number must not run into a word. -/
def ends (s : List Char) : Bool := !(s.head?.any fun c => Text.isWord c || c.toNat ≥ 128)

/-- The length of an exponent. -/
def exponentLength : List Char → Nat
  | c :: s :: r =>
    if c.toLower = 'e' then
      if s = '+' || s = '-' then
        match digitsLength Char.isDigit r with
        | 0 => 0
        | n => n + 2
      else
        match digitsLength Char.isDigit (s :: r) with
        | 0 => 0
        | n => n + 1
    else 0
  | _ => 0

/-- The length of a point and the digits after it. A point alone needs digits on one side. -/
def fractionLength (whole : Nat) : List Char → Nat
  | '.' :: r => if whole = 0 && digitsLength Char.isDigit r = 0 then 0
    else digitsLength Char.isDigit r + 1
  | _ => 0

/-- An integer starts with a zero only if it is zero. -/
def isInteger (digits : List Char) : Bool :=
  (digits.head? ≠ some '0' || digits.all fun c => c = '0' || c = '_')
    && (digits.filter (· ≠ '_')).length ≤ Text.maxIntDigits

/-- A decimal number: whether it is imaginary, and what follows. -/
def decimal? (s : List Char) : Option (Bool × List Char) :=
  let whole := digitsLength Char.isDigit s
  let fraction := fractionLength whole (s.drop whole)
  let exponent := if whole + fraction = 0 then 0 else exponentLength (s.drop (whole + fraction))
  let rest := s.drop (whole + fraction + exponent)
  if whole + fraction = 0 then none
  else
    match rest with
    | 'j' :: r => if ends r then some (true, r) else none
    | 'J' :: r => if ends r then some (true, r) else none
    | _ =>
      if ends rest && (fraction + exponent ≠ 0 || isInteger (s.take whole)) then some (false, rest)
      else none

def number? (s : List Char) : Option (Bool × List Char) :=
  match s with
  | '0' :: mark :: r =>
    match radixDigit? mark with
    | some isDigit =>
      let n := runLength isDigit r
      if n ≠ 0 && ends (r.drop n) then some (false, r.drop n) else none
    | none => decimal? s
  | _ => decimal? s

/-! ## Texts -/

def isLineEnd (c : Char) : Bool := c = '\n' || c = '\r'

def hexValue (s : List Char) : Nat :=
  s.foldl (fun n c =>
    16 * n + (if c.isDigit then c.toNat - 48 else c.toLower.toNat - 87)) 0

def isHexRun (n : Nat) (s : List Char) : Bool := (s.take n).length = n && (s.take n).all isHexDigit

/-- Whether a character after a backslash, and what follows it, may stand in a text. -/
def isEscape (bytes : Bool) (c : Char) (rest : List Char) : Bool :=
  if c = 'x' then isHexRun 2 rest
  else if bytes then true
  else if c = 'u' then isHexRun 4 rest
  else if c = 'U' then isHexRun 8 rest && hexValue (rest.take 8) ≤ 0x10FFFF
  else if c = 'N' then
    rest.head? = some '\x7b' && (rest.drop 1).head? ≠ some '\x7d' && rest.contains '\x7d'
  else true

/-- How a text is written. -/
structure Quoting where
  quote : Char
  triple : Bool
  raw : Bool
  bytes : Bool

/-- What follows the closing quotes. -/
def afterQuotes? (q : Quoting) : List Char → Option (List Char)
  | [] => none
  | '\\' :: c :: r =>
    if (q.bytes && c.toNat ≥ 128) || !(q.raw || isEscape q.bytes c r) then none else afterQuotes? q r
  | c :: r =>
    if c = q.quote then
      if !q.triple then some r
      else if (r.take 2) = [q.quote, q.quote] then some (r.drop 2)
      else afterQuotes? q r
    else if (isLineEnd c && !q.triple) || (q.bytes && c.toNat ≥ 128) then none
    else afterQuotes? q r

def isQuote (c : Char) : Bool := c = '\'' || c = '"'

/-- The letters that may stand before a quote: whether they make a raw text, and whether bytes. -/
def letters? (letters : List Char) : Option (Bool × Bool) :=
  match String.ofList (letters.map Char.toLower) with
  | "" => some (false, false)
  | "u" => some (false, false)
  | "r" => some (true, false)
  | "b" => some (false, true)
  | "br" => some (true, true)
  | "rb" => some (true, true)
  | _ => none

/-- A text after the letters before its quote: whether it is of bytes, and what follows. -/
def text? (letters : List Char) (quote : Char) (r : List Char) : Option (Bool × List Char) :=
  match letters? letters with
  | none => none
  | some (raw, bytes) =>
    let triple := r.take 2 = [quote, quote]
    let rest := if triple then r.drop 2 else r
    (afterQuotes? ⟨quote, triple, raw, bytes⟩ rest).map fun t => (bytes, t)

/-! ## Tokens -/

/-- A token and what follows it, for a text that starts with no blank. -/
def token? (s : List Char) : Option (Token × List Char) :=
  match s with
  | [] => none
  | c :: r =>
    if isQuote c then (text? [] c r).map fun p => (.text p.1, p.2)
    else if c.isDigit || (c = '.' && r.head?.any Char.isDigit) then
      (number? s).map fun p => (.number p.1, p.2)
    else if c = '.' then if r.take 2 = ['.', '.'] then some (.ellipsis, r.drop 2) else none
    else if Text.isWord c then
      let word := s.takeWhile Text.isWord
      let rest := s.drop word.length
      match rest with
      | q :: rest' =>
        if isQuote q then (text? word q rest').map fun p => (.text p.1, p.2)
        else some (.word (String.ofList word), rest)
      | [] => some (.word (String.ofList word), [])
    else if "()\x7b\x7d+-,:".toList.contains c then some (.mark c, r)
    else none

/-- How many parentheses are open after a token. -/
def nesting (depth : Nat) : Token → Nat
  | .mark c =>
    if c = '(' || c = '\x7b' then depth + 1 else if c = ')' || c = '\x7d' then depth - 1 else depth
  | _ => depth

/-- The tokens of a text; lines end only inside parentheses. The fuel bounds the number of steps. -/
def tokens? : Nat → Nat → List Char → Option (List Token)
  | _, _, [] => some []
  | 0, _, _ => none
  | fuel + 1, depth, c :: r =>
    if c = ' ' || c = '\t' || c = '\x0c' || (isLineEnd c && depth ≠ 0) then tokens? fuel depth r
    else if c = '#' then tokens? fuel depth (r.dropWhile fun d => !isLineEnd d)
    else if c = '\\' && r.head?.any isLineEnd then tokens? fuel depth (r.drop 1)
    else
      match token? (c :: r) with
      | some (t, rest) => (tokens? fuel (nesting depth t) rest).map (t :: ·)
      | none => none

/-! ## Values -/

/-- What of a value matters for the one around it. -/
inductive Shape where
  | number (imaginary : Bool)
  | signed (imaginary : Bool)
  | other (hashable : Bool)
  deriving DecidableEq, Repr

/-- Whether a value can be a key or a member of a set. -/
def Shape.isHashable : Shape → Bool
  | .other h => h
  | _ => true

/-- A real number with its sign. -/
def Shape.isReal : Shape → Bool
  | .number imaginary => !imaginary
  | .signed imaginary => !imaginary
  | .other _ => false

abbrev Read := Option (Shape × List Token)

mutual

/-- A number, text, word or enclosed value. -/
def atom? : Nat → List Token → Read
  | 0, _ => none
  | _, [] => none
  | fuel + 1, t :: r =>
    match t with
    | .number imaginary => some (.number imaginary, r)
    | .text bytes =>
      match r.dropWhile (· = .text bytes) with
      | .text _ :: _ => none
      | rest => some (.other true, rest)
    | .ellipsis => some (.other true, r)
    | .word name =>
      if name == "True" || name == "False" || name == "None" then some (.other true, r)
      else if name == "set" && r.take 2 = [.mark '(', .mark ')'] then some (.other false, r.drop 2)
      else none
    | .mark '(' =>
      match r with
      | .mark ')' :: rest => some (.other true, rest)
      | _ => group? fuel r
    | .mark '\x7b' =>
      match r with
      | .mark '\x7d' :: rest => some (.other false, rest)
      | _ => braces? fuel r
    | .mark _ => none

/-- A value: an atom, a number with its sign, or the sum of a real and an imaginary number. -/
def value? : Nat → List Token → Read
  | 0, _ => none
  | fuel + 1, ts =>
    let first : Read :=
      match ts with
      | .mark c :: r =>
        if c = '+' || c = '-' then
          match atom? fuel r with
          | some (.number imaginary, rest) => some (.signed imaginary, rest)
          | _ => none
        else atom? fuel ts
      | _ => atom? fuel ts
    match first with
    | some (left, .mark c :: r) =>
      if c = '+' || c = '-' then
        match atom? fuel r with
        | some (.number true, rest) => if left.isReal then some (.other true, rest) else none
        | _ => none
      else some (left, .mark c :: r)
    | other => other

/-- What an opening parenthesis encloses: one value, or a tuple if a comma follows it. -/
def group? : Nat → List Token → Read
  | 0, _ => none
  | fuel + 1, ts =>
    match value? fuel ts with
    | some (shape, .mark ')' :: rest) => some (shape, rest)
    | some (shape, .mark ',' :: rest) => tuple? fuel shape.isHashable rest
    | _ => none

/-- The rest of a tuple after a comma. -/
def tuple? : Nat → Bool → List Token → Read
  | 0, _, _ => none
  | fuel + 1, hashable, ts =>
    match ts with
    | .mark ')' :: rest => some (.other hashable, rest)
    | _ =>
      match value? fuel ts with
      | some (shape, .mark ')' :: rest) => some (.other (hashable && shape.isHashable), rest)
      | some (shape, .mark ',' :: rest) => tuple? fuel (hashable && shape.isHashable) rest
      | _ => none

/-- What an opening brace encloses: a set or a map. -/
def braces? : Nat → List Token → Read
  | 0, _ => none
  | fuel + 1, ts =>
    match value? fuel ts with
    | some (shape, .mark ':' :: rest) => if shape.isHashable then entry? fuel rest else none
    | some (shape, .mark c :: rest) =>
      if !shape.isHashable then none
      else if c = '\x7d' then some (.other false, rest)
      else if c = ',' then members? fuel rest
      else none
    | _ => none

/-- The rest of a set after a comma. -/
def members? : Nat → List Token → Read
  | 0, _ => none
  | fuel + 1, ts =>
    match ts with
    | .mark '\x7d' :: rest => some (.other false, rest)
    | _ =>
      match value? fuel ts with
      | some (shape, .mark c :: rest) =>
        if !shape.isHashable then none
        else if c = '\x7d' then some (.other false, rest)
        else if c = ',' then members? fuel rest
        else none
      | _ => none

/-- The rest of a map after a colon. -/
def entry? : Nat → List Token → Read
  | 0, _ => none
  | fuel + 1, ts =>
    match value? fuel ts with
    | some (_, .mark '\x7d' :: rest) => some (.other false, rest)
    | some (_, .mark ',' :: .mark '\x7d' :: rest) => some (.other false, rest)
    | some (_, .mark ',' :: rest) =>
      match value? fuel rest with
      | some (key, .mark ':' :: rest') => if key.isHashable then entry? fuel rest' else none
      | _ => none
    | _ => none

end

/-- Values with commas between them, up to the end. -/
def isList : Nat → List Token → Bool
  | 0, _ => false
  | fuel + 1, ts =>
    match value? fuel ts with
    | some (_, []) => true
    | some (_, [.mark ',']) => true
    | some (_, .mark ',' :: rest) => isList fuel rest
    | _ => false

/-- Whether a text is a literal. -/
def isLiteral (s : List Char) : Bool :=
  match tokens? (s.length + 1) 0 s with
  | some ts => isList (4 * ts.length + 4) ts
  | none => false

/-- Whether a text can stand as the parameters of an action: a name of word characters and points,
with or without arguments in parentheses, or a literal. -/
def isAction (parameters : List Char) : Bool :=
  let s := Text.trim parameters
  match s.dropWhile fun c => Text.isWord c || c = '.' with
  | [] => true
  | rest =>
    if rest.head? = some '(' && rest.getLast? = some ')' && !rest.contains '\n' then isLiteral rest
    else isLiteral s

end EndpointIndex.Console.Literal
