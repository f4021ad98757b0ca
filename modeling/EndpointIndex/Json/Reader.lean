import EndpointIndex.Json.Basic
import EndpointIndex.Text.Numeral

/-!
# Reading JSON

The whole text is one value with blanks around it. Beyond the standard, `NaN`, `Infinity` and
`-Infinity` are numbers. An integer of more than 4300 digits is refused.
-/

namespace EndpointIndex.Json

def isSpace (c : Char) : Bool := c = ' ' || c = '\t' || c = '\n' || c = '\r'

def skipSpace (s : List Char) : List Char := s.dropWhile isSpace

def hexValue? (c : Char) : Option Nat :=
  if c.isDigit then some (c.toNat - 48)
  else if 'a' ≤ c && c ≤ 'f' then some (c.toNat - 87)
  else if 'A' ≤ c && c ≤ 'F' then some (c.toNat - 55)
  else none

/-- The 16-bit unit of an escape, after its `u`. -/
def unit? : List Char → Option (Nat × List Char)
  | a :: b :: c :: d :: r => do
    let a ← hexValue? a
    let b ← hexValue? b
    let c ← hexValue? c
    let d ← hexValue? d
    some (((a * 16 + b) * 16 + c) * 16 + d, r)
  | _ => none

def isHighSurrogate (n : Nat) : Bool := 0xD800 ≤ n && n < 0xDC00

def isLowSurrogate (n : Nat) : Bool := 0xDC00 ≤ n && n < 0xE000

/-- Stands in for half of a surrogate pair, which is no character. -/
def replacement : Char := '\uFFFD'

def unitChar (n : Nat) : Char :=
  if isHighSurrogate n || isLowSurrogate n then replacement else Char.ofNat n

/-- The second half of a surrogate pair. -/
def lowUnit? : List Char → Option (Nat × List Char)
  | '\\' :: 'u' :: r => (unit? r).filter fun p => isLowSurrogate p.1
  | _ => none

def shortUnescape? : Char → Option Char
  | '"' => some '"'
  | '\\' => some '\\'
  | '/' => some '/'
  | 'n' => some '\n'
  | 'r' => some '\r'
  | 't' => some '\t'
  | 'b' => some '\x08'
  | 'f' => some '\x0c'
  | _ => none

/-- The rest of a string after its opening quote, and what follows the closing one. The fuel bounds
the number of characters. -/
def stringBody? : Nat → List Char → Option (List Char × List Char)
  | 0, _ => none
  | _ + 1, [] => none
  | fuel + 1, c :: r =>
    if c = '"' then some ([], r)
    -- control characters have to be escaped
    else if c.toNat < 32 then none
    else if c = '\\' then
      match r with
      | [] => none
      | e :: r' =>
        if e = 'u' then
          match unit? r' with
          | none => none
          | some (n, r'') =>
            match if isHighSurrogate n then lowUnit? r'' else none with
            | some (low, r''') =>
              (stringBody? fuel r''').map fun (cs, rest) =>
                (Char.ofNat (0x10000 + (n - 0xD800) * 1024 + (low - 0xDC00)) :: cs, rest)
            | none => (stringBody? fuel r'').map fun (cs, rest) => (unitChar n :: cs, rest)
        else
          match shortUnescape? e with
          | none => none
          | some d => (stringBody? fuel r').map fun (cs, rest) => (d :: cs, rest)
    else (stringBody? fuel r).map fun (cs, rest) => (c :: cs, rest)

/-- The digits of the integral part: a zero, or digits that do not start with one. -/
def integral? : List Char → Option (List Char × List Char)
  | '0' :: r => some (['0'], r)
  | c :: r =>
    if c.isDigit then some (c :: r.takeWhile Char.isDigit, r.dropWhile Char.isDigit) else none
  | [] => none

/-- The digits after a point, if there are any. -/
def fraction : List Char → List Char × List Char
  | '.' :: r =>
    match r.takeWhile Char.isDigit with
    | [] => ([], '.' :: r)
    | ds => (ds, r.dropWhile Char.isDigit)
  | s => ([], s)

/-- The exponent, if there is one. -/
def exponent? : List Char → Option (Int × List Char)
  | e :: r =>
    if e = 'e' || e = 'E' then
      let (negative, r) := match r with
        | '-' :: t => (true, t)
        | '+' :: t => (false, t)
        | t => (false, t)
      match r.takeWhile Char.isDigit with
      | [] => none
      | ds =>
        let n := Text.digitsValue ds
        some (if negative then -(n : Int) else n, r.dropWhile Char.isDigit)
    else none
  | [] => none

def number? (negative : Bool) (s : List Char) : Option (Json × List Char) :=
  match integral? s with
  | none => none
  | some (whole, r) =>
    let (frac, r) := fraction r
    match exponent? r, frac with
    | none, [] =>
      if Text.maxIntDigits < whole.length then none
      else
        let n := Text.digitsValue whole
        some (.int (if negative then -(n : Int) else n), r)
    | none, _ :: _ =>
      some (.double (.ofDecimal negative (Text.digitsValue (whole ++ frac)) (-(frac.length : Int))), r)
    | some (e, r), _ =>
      some (.double (.ofDecimal negative (Text.digitsValue (whole ++ frac)) (e - (frac.length : Int))), r)

/-- What follows a word that the text starts with. -/
def afterWord? (word : String) (s : List Char) : Option (List Char) :=
  if word.toList.isPrefixOf s then some (s.drop word.length) else none

/-- Values that are single words. -/
def words : List (String × Json) :=
  [("null", .null), ("true", .bool true), ("false", .bool false), ("NaN", .double .nan),
   ("Infinity", .double (.infinite false)), ("-Infinity", .double (.infinite true))]

def word? (s : List Char) : Option (Json × List Char) :=
  words.findSome? fun (w, v) => (afterWord? w s).map fun r => (v, r)

mutual

/-- The value at the head of a text, and what follows it. The fuel bounds the nesting and the number
of items. -/
def value? : Nat → List Char → Option (Json × List Char)
  | 0, _ => none
  | _ + 1, [] => none
  | fuel + 1, c :: r =>
    match c with
    | '"' => (stringBody? (r.length + 1) r).map fun (cs, rest) => (.string (String.ofList cs), rest)
    | '[' =>
      match skipSpace r with
      | ']' :: rest => some (.array [], rest)
      | s => (items? fuel s).map fun (vs, rest) => (.array vs, rest)
    | '{' =>
      match skipSpace r with
      | '}' :: rest => some (.object [], rest)
      | s => (members? fuel [] s).map fun (ms, rest) => (.object ms, rest)
    | _ =>
      match word? (c :: r) with
      | some found => some found
      | none => if c = '-' then number? true r else number? false (c :: r)

def items? : Nat → List Char → Option (List Json × List Char)
  | 0, _ => none
  | fuel + 1, s =>
    match value? fuel s with
    | none => none
    | some (v, r) =>
      match skipSpace r with
      | ']' :: rest => some ([v], rest)
      | ',' :: rest => (items? fuel (skipSpace rest)).map fun (vs, rest) => (v :: vs, rest)
      | _ => none

/-- The members of an object, after those read before. -/
def members? : Nat → List (String × Json) → List Char → Option (List (String × Json) × List Char)
  | 0, _, _ => none
  | fuel + 1, before, s =>
    match s with
    | '"' :: r =>
      match stringBody? (r.length + 1) r with
      | none => none
      | some (k, r) =>
        match skipSpace r with
        | ':' :: r =>
          match value? fuel (skipSpace r) with
          | none => none
          | some (v, r) =>
            let sofar := setMember (String.ofList k) v before
            match skipSpace r with
            | '}' :: rest => some (sofar, rest)
            | ',' :: rest => members? fuel sofar (skipSpace rest)
            | _ => none
        | _ => none
    | _ => none

end

/-- The value that a whole text spells. -/
def parseChars? (s : List Char) : Option Json :=
  match value? (2 * s.length + 2) (skipSpace s) with
  | some (v, rest) => if (skipSpace rest).isEmpty then some v else none
  | none => none

def parse? (s : String) : Option Json := parseChars? s.toList

end EndpointIndex.Json
