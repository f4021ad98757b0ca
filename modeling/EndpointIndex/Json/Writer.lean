import EndpointIndex.Json.Basic

/-!
# Written JSON

Two layouts: `compact` on one line with characters beyond ASCII as they are, and `pretty` with an
indentation of two and nothing but ASCII.
-/

namespace EndpointIndex.Json

def hexDigit (n : Nat) : Char := (Nat.toDigits 16 (n % 16)).getLastD '0'

/-- The escape of a 16-bit unit. -/
def unitEscape (n : Nat) : List Char :=
  ['\\', 'u', hexDigit (n / 4096), hexDigit (n / 256), hexDigit (n / 16), hexDigit n]

/-- The characters that have an escape of their own. -/
def shortEscape? : Char → Option Char
  | '"' => some '"'
  | '\\' => some '\\'
  | '\n' => some 'n'
  | '\r' => some 'r'
  | '\t' => some 't'
  | '\x08' => some 'b'
  | '\x0c' => some 'f'
  | _ => none

/-- A character inside a string. Control characters are always escaped. -/
def escapeChar (c : Char) : List Char :=
  match shortEscape? c with
  | some e => ['\\', e]
  | none => if c.toNat < 32 then unitEscape c.toNat else [c]

/-- A character inside a string of ASCII; beyond the first plane it takes two units. -/
def escapeCharAscii (c : Char) : List Char :=
  match shortEscape? c with
  | some e => ['\\', e]
  | none =>
    let n := c.toNat
    if 32 ≤ n && n < 127 then [c]
    else if n < 0x10000 then unitEscape n
    else unitEscape (0xD800 + (n - 0x10000) / 1024) ++ unitEscape (0xDC00 + (n - 0x10000) % 1024)

def quoteWith (escape : Char → List Char) (s : String) : List Char :=
  '"' :: s.toList.flatMap escape ++ ['"']

def intChars (i : Int) : List Char :=
  match i with
  | .ofNat n => Nat.toDigits 10 n
  | .negSucc n => '-' :: Nat.toDigits 10 (n + 1)

mutual

def compactChars : Json → List Char
  | .null => "null".toList
  | .bool b => (if b then "true" else "false").toList
  | .int i => intChars i
  | .double x => x.write.toList
  | .string s => quoteWith escapeChar s
  | .array items => '[' :: compactItems items ++ [']']
  | .object members => '{' :: compactMembers members ++ ['}']

def compactItems : List Json → List Char
  | [] => []
  | [v] => compactChars v
  | v :: vs => compactChars v ++ ',' :: compactItems vs

def compactMembers : List (String × Json) → List Char
  | [] => []
  | [(k, v)] => quoteWith escapeChar k ++ ':' :: compactChars v
  | (k, v) :: ms => quoteWith escapeChar k ++ ':' :: compactChars v ++ ',' :: compactMembers ms

end

def compact (v : Json) : String := String.ofList (compactChars v)

/-- A new line at the given depth. -/
def newLine (depth : Nat) : List Char := '\n' :: List.replicate (2 * depth) ' '

mutual

def prettyChars (depth : Nat) : Json → List Char
  | .array [] => "[]".toList
  | .object [] => ['{', '}']
  | .array items => '[' :: newLine (depth + 1) ++ prettyItems (depth + 1) items ++ newLine depth ++ [']']
  | .object members =>
    '{' :: newLine (depth + 1) ++ prettyMembers (depth + 1) members ++ newLine depth ++ ['}']
  | .null => "null".toList
  | .bool b => (if b then "true" else "false").toList
  | .int i => intChars i
  | .double x => x.write.toList
  | .string s => quoteWith escapeCharAscii s

def prettyItems (depth : Nat) : List Json → List Char
  | [] => []
  | [v] => prettyChars depth v
  | v :: vs => prettyChars depth v ++ ',' :: newLine depth ++ prettyItems depth vs

def prettyMembers (depth : Nat) : List (String × Json) → List Char
  | [] => []
  | [(k, v)] => quoteWith escapeCharAscii k ++ ": ".toList ++ prettyChars depth v
  | (k, v) :: ms =>
    quoteWith escapeCharAscii k ++ ": ".toList ++ prettyChars depth v ++
      ',' :: newLine depth ++ prettyMembers depth ms

end

def pretty (v : Json) : String := String.ofList (prettyChars 0 v)

end EndpointIndex.Json
