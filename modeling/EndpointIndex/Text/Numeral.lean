import EndpointIndex.Text.Blank
import EndpointIndex.Text.Category

/-!
# Written integers

Two ways in which a text spells an integer. `readInt?` is the one for character codes: blanks around,
a sign, digits of any script, single underscores between digits. `ofField` is the one for fields and
options: ASCII digits, with underscores between them and a tail of zeros after a point. Zeros in front
of such a number carry nothing, and its minus may follow them.
-/

namespace EndpointIndex.Text

/-- The value of a digit in bases up to sixteen. -/
def digitValue? (base : Nat) (c : Char) : Option Nat :=
  let value := match decimalValue? c with
    | some d => some d
    | none =>
      if 'a' ≤ c && c ≤ 'f' then some (c.toNat - 87)
      else if 'A' ≤ c && c ≤ 'F' then some (c.toNat - 55)
      else none
  value.filter (· < base)

/-- Digits with single underscores between them, after the value `acc` of the digits before. -/
def digitsFrom? (base : Nat) (acc : Nat) : List Char → Option Nat
  | [] => some acc
  | '_' :: c :: r => (digitValue? base c).bind fun d => digitsFrom? base (acc * base + d) r
  | c :: r => (digitValue? base c).bind fun d => digitsFrom? base (acc * base + d) r

def digits? (base : Nat) : List Char → Option Nat
  | [] => none
  | c :: r => (digitValue? base c).bind fun d => digitsFrom? base d r

/-- In base sixteen the digits may be marked by `0x`. -/
def magnitude? (base : Nat) : List Char → Option Nat
  | '0' :: x :: r =>
    if base = 16 && (x = 'x' || x = 'X') then
      match r with
      | '_' :: r' => digits? base r'
      | _ => digits? base r
    else digits? base ('0' :: x :: r)
  | s => digits? base s

def readInt? (base : Nat) (s : List Char) : Option Int :=
  match trim s with
  | '-' :: r => (magnitude? base r).map fun n => -(n : Int)
  | '+' :: r => (magnitude? base r).map fun n => (n : Int)
  | r => (magnitude? base r).map fun n => (n : Int)

/-! ## Fields -/

/-- The most characters that an integer may have, its minus counted. -/
def maxIntDigits : Nat := 4300

/-- Why a text gives no integer. -/
inductive IntFault where
  | unreadable
  | tooLong
  deriving DecidableEq, Repr

/-- Blanks that surround a number in a field; information separators are not among them. -/
def isFieldBlank (c : Char) : Bool := isBlank c && !(28 ≤ c.toNat && c.toNat ≤ 31)

def trimField (s : List Char) : List Char :=
  ((s.dropWhile isFieldBlank).reverse.dropWhile isFieldBlank).reverse

/-- What a number without zeros in front of it starts with. -/
def startsNumber (c : Char) : Bool := ('1' ≤ c && c ≤ '9') || c = '-'

/-- The number after zeros, and underscores among them, of which `last` is the last. Before a point
and at the end this one stays. -/
def afterZeros? (last : Char) : List Char → Option (List Char)
  | [] => some [last]
  | c :: r =>
    if c = '0' || c = '_' then afterZeros? c r
    else if startsNumber c then some (c :: r)
    else if c = '.' then some (last :: c :: r)
    else none

def dropZeros? : List Char → Option (List Char)
  | [] => none
  | c :: r => if c = '0' then afterZeros? c r else if startsNumber c then some (c :: r) else none

/-- Drops a point followed by one zero or more and nothing else. -/
def dropZeroFraction (s : List Char) : List Char :=
  match s.dropWhile (· ≠ '.') with
  | _ :: '0' :: zeros => if zeros.all (· = '0') then s.takeWhile (· ≠ '.') else s
  | _ => s

/-- Whether an underscore stands beside another one. -/
def hasDoubleUnderscore : List Char → Bool
  | '_' :: '_' :: _ => true
  | _ :: r => hasDoubleUnderscore r
  | [] => false

/-- Drops underscores, if all of them stand alone between two characters. -/
def dropUnderscores (s : List Char) : List Char :=
  if s.head? = some '_' || s.getLast? = some '_' || hasDoubleUnderscore s then s
  else s.filter (· ≠ '_')

/-- The value of ASCII digits. -/
def digitsValue (ds : List Char) : Nat := ds.foldl (fun n d => n * 10 + (d.toNat - 48)) 0

/-- An integer in its plain form: a minus or none, and digits that do not start with a zero. -/
def plainInt (s : List Char) : Except IntFault Int :=
  let digits := if s.head? = some '-' then s.drop 1 else s
  let run := digits.takeWhile Char.isDigit
  if run.isEmpty || (run.head? = some '0' && 1 < run.length) then .error .unreadable
  else if maxIntDigits < s.length - digits.length + run.length then .error .tooLong
  else if run ≠ digits then .error .unreadable
  else .ok (if s.head? = some '-' then -(digitsValue run : Int) else digitsValue run)

/-- A number without its sign, brought into its plain form. -/
def plainForm? (s : List Char) : Option (List Char) :=
  (dropZeros? s).map fun r => dropUnderscores (dropZeroFraction r)

/-- The plain form of the number in a field. A plus is dropped, a minus kept. -/
def fieldForm? (s : List Char) : Option (List Char) :=
  match trimField s with
  | '+' :: r => if r.head? = some '-' then none else plainForm? r
  | '-' :: r => (plainForm? r).map ('-' :: ·)
  | r => plainForm? r

/-- The integer that a field spells. -/
def ofField (s : List Char) : Except IntFault Int :=
  match fieldForm? s with
  | some r => plainInt r
  | none => .error .unreadable

example : (ofField " +0_012.00 ".toList).toOption = some 12 := by decide +kernel
example : (ofField "-007".toList).toOption = some (-7) := by decide +kernel
example : (ofField "0-5".toList).toOption = some (-5) := by decide +kernel
example : (ofField "-0-5".toList).toOption = none := by decide +kernel
example : (ofField "1.".toList).toOption = none := by decide +kernel

end EndpointIndex.Text
