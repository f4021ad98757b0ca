import EndpointIndex.Number.Round

/-!
# Binary floating point

Numbers of 53 significant bits, held as a mantissa and a power of two. A decimal is rounded to the
nearest of them, a tie to the even mantissa; a number is written with the fewest digits that read
back as itself. All arithmetic is exact, on natural numbers.
-/

namespace EndpointIndex

inductive Double where
  /-- `mantissa * 2 ^ exponent`, with a sign that zero has too. -/
  | finite (negative : Bool) (mantissa : Nat) (exponent : Int)
  | infinite (negative : Bool)
  | nan
  deriving DecidableEq, Repr

namespace Double

/-- The numerator and denominator of `num / den / base ^ e`. -/
def scaled (num den base : Nat) (e : Int) : Nat × Nat :=
  if 0 ≤ e then (num, den * base.pow e.toNat) else (num * base.pow (-e).toNat, den)

/-- The least exponent of a finite number. -/
def minExponent : Int := -1074

/-- The greatest exponent of a finite number. -/
def maxExponent : Int := 971

/-- The exponent at which the quotient of two positive numbers has a mantissa of 53 bits. -/
def exponentOf (num den : Nat) : Int :=
  let guess : Int := (Nat.log2 num : Int) - (Nat.log2 den : Int) - 53
  let (n, d) := scaled num den 2 guess
  max minExponent (if Nat.pow 2 53 ≤ n / d then guess + 1 else guess)

/-- The nearest number to a quotient of natural numbers. -/
def ofRatio (negative : Bool) (num den : Nat) : Double :=
  if num = 0 then .finite negative 0 0
  else
    let e := exponentOf num den
    let (n, d) := scaled num den 2 e
    let m := roundDiv n d
    let (m, e) := if m = Nat.pow 2 53 then (Nat.pow 2 52, e + 1) else (m, e)
    if maxExponent < e then .infinite negative
    else if m = 0 then .finite negative 0 0
    else .finite negative m e

/-- How many decimal digits a number has. -/
def decimalLength (n : Nat) : Nat := (Nat.toDigits 10 n).length

/-- The nearest number to `digits * 10 ^ exponent`. -/
def ofDecimal (negative : Bool) (digits : Nat) (exponent : Int) : Double :=
  let top := (decimalLength digits : Int) + exponent
  if digits = 0 then .finite negative 0 0
  else if 400 < top then .infinite negative
  else if top < -400 then .finite negative 0 0
  else if 0 ≤ exponent then ofRatio negative (digits * Nat.pow 10 exponent.toNat) 1
  else ofRatio negative digits (Nat.pow 10 (-exponent).toNat)

/-- The integer that a finite number is, if it is one. -/
def toInt? : Double → Option Int
  | .finite negative m e =>
    let sign (n : Nat) : Int := if negative then -(n : Int) else n
    if 0 ≤ e then some (sign (m * Nat.pow 2 e.toNat))
    else
      let d := Nat.pow 2 (-e).toNat
      if m % d = 0 then some (sign (m / d)) else none
  | _ => none

/-- The exponent of the leading decimal digit of a quotient of positive numbers. -/
def leadingExponent (num den : Nat) : Int :=
  let guess : Int := ((Nat.log2 num : Int) - (Nat.log2 den : Int)) * 30103 / 100000 - 2
  let reached (e : Int) : Bool := let (n, d) := scaled num den 10 e; d ≤ n
  (List.range 5).foldl (fun e _ => if reached (e + 1) then e + 1 else e) guess

/-- A decimal with `count` digits next to a quotient that reads back as `x`. -/
def decimalWith? (x : Double) (num den : Nat) (lead : Int) (count : Nat) : Option (Nat × Int) :=
  let e := lead - (count : Int) + 1
  let (n, d) := scaled num den 10 e
  let below := n / d
  let near := if 2 * (n % d) ≤ d then [below, below + 1] else [below + 1, below]
  (near.find? fun digits => ofDecimal false digits e == x).map fun digits => (digits, e)

/-- The decimal with the fewest digits that reads back as the number. -/
def shortest (m : Nat) (e : Int) : Nat × Int :=
  let (num, den) := if 0 ≤ e then (m * Nat.pow 2 e.toNat, 1) else (m, Nat.pow 2 (-e).toNat)
  let lead := leadingExponent num den
  let x := ofRatio false num den
  ((List.range 18).findSome? fun k => decimalWith? x num den lead (k + 1)).getD (m, 0)

/-- Digits with their trailing zeros moved into the exponent. -/
def stripZeros : Nat → Nat × Int → Nat × Int
  | 0, p => p
  | fuel + 1, (n, e) => if n ≠ 0 && n % 10 = 0 then stripZeros fuel (n / 10, e + 1) else (n, e)

/-- How a decimal is written: positionally for leading exponents from -4 to 15, with a point always,
and otherwise with an exponent of two digits or more. -/
def writeDecimal (digits : Nat) (exponent : Int) : String :=
  let (digits, exponent) := stripZeros 20 (digits, exponent)
  let ds := Nat.toDigits 10 digits
  let lead := (ds.length : Int) + exponent - 1
  if -4 ≤ lead && lead < 16 then
    if 0 ≤ exponent then String.ofList (ds ++ List.replicate exponent.toNat '0') ++ ".0"
    else if 0 ≤ lead then
      let whole := lead.toNat + 1
      String.ofList (ds.take whole) ++ "." ++ String.ofList (ds.drop whole)
    else "0." ++ String.ofList (List.replicate (-lead - 1).toNat '0' ++ ds)
  else
    let body := match ds with
      | [d] => String.ofList [d]
      | d :: rest => String.ofList (d :: '.' :: rest)
      | [] => ""
    let power := Nat.toDigits 10 lead.natAbs
    let power := if power.length < 2 then '0' :: power else power
    body ++ "e" ++ (if lead < 0 then "-" else "+") ++ String.ofList power

def write : Double → String
  | .nan => "nan"
  | .infinite negative => if negative then "-inf" else "inf"
  | .finite negative m e =>
    let body :=
      if m = 0 then "0.0"
      else
        let (digits, exponent) := shortest m e
        writeDecimal digits exponent
    if negative then "-" ++ body else body

example : (ofDecimal false 1 (-1)).write = "0.1" := by decide +kernel
example : (ofDecimal false 10 (-1)).write = "1.0" := by decide +kernel
example : (ofDecimal true 15 15).write = "-1.5e+16" := by decide +kernel
example : (ofDecimal false 9007199254740993 0).toInt? = some 9007199254740992 := by decide +kernel

end Double

end EndpointIndex
