import EndpointIndex.Json.Writer
import EndpointIndex.Text.Printable

/-!
# Values in messages

How a value is shown inside a message: words for the constants, a bare text at the top, and quoted
texts inside arrays and objects.
-/

namespace EndpointIndex.Json

def hexOfWidth (width n : Nat) : List Char :=
  let ds := Nat.toDigits 16 n
  List.replicate (width - ds.length) '0' ++ ds

/-- A character of a quoted text. -/
def displayChar (quote : Char) (c : Char) : List Char :=
  if c = quote || c = '\\' then ['\\', c]
  else if c = '\n' then ['\\', 'n']
  else if c = '\r' then ['\\', 'r']
  else if c = '\t' then ['\\', 't']
  else if Text.isPrintable c then [c]
  else if c.toNat < 0x100 then '\\' :: 'x' :: hexOfWidth 2 c.toNat
  else if c.toNat < 0x10000 then '\\' :: 'u' :: hexOfWidth 4 c.toNat
  else '\\' :: 'U' :: hexOfWidth 8 c.toNat

/-- A text in single quotes, or in double ones when it holds single quotes and no double ones. -/
def displayQuoted (s : String) : List Char :=
  let cs := s.toList
  let quote := if cs.contains '\'' && !cs.contains '"' then '"' else '\''
  quote :: cs.flatMap (displayChar quote) ++ [quote]

mutual

def displayNested : Json → List Char
  | .null => "None".toList
  | .bool b => (if b then "True" else "False").toList
  | .int i => intChars i
  | .double x => x.write.toList
  | .string s => displayQuoted s
  | .array items => '[' :: displayItems items ++ [']']
  | .object members => '{' :: displayMembers members ++ ['}']

def displayItems : List Json → List Char
  | [] => []
  | [v] => displayNested v
  | v :: vs => displayNested v ++ ", ".toList ++ displayItems vs

def displayMembers : List (String × Json) → List Char
  | [] => []
  | [(k, v)] => displayQuoted k ++ ": ".toList ++ displayNested v
  | (k, v) :: ms => displayQuoted k ++ ": ".toList ++ displayNested v ++ ", ".toList ++ displayMembers ms

end

def display : Json → String
  | .string s => s
  | v => String.ofList (displayNested v)

end EndpointIndex.Json
