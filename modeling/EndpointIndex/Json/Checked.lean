import EndpointIndex.Json.Basic
import EndpointIndex.Text.Numeral

/-!
# Checked values

Typed values read out of JSON. A reading that fails says of every place that does not fit where it is
and why; the faults stand in the order in which the fields are declared.
-/

namespace EndpointIndex

/-- Why a value does not fit its place. -/
inductive Misfit where
  | missing
  | notString
  /-- No kind of value that can stand for an integer. -/
  | notInt
  /-- A text that spells no integer. -/
  | unreadableInt
  /-- An integer that is written with too many digits or is too large for its kind. -/
  | oversizedInt
  /-- A number that is not whole. -/
  | fractional
  | notFinite
  | notBool
  /-- A text or number that stands for no truth value. -/
  | unreadableBool
  /-- A word that is not among those admitted. -/
  | unknownWord
  | notList
  /-- No object where any members are admitted. -/
  | notMap
  /-- No object where declared fields are expected. -/
  | notRecord
  | notPath
  /-- A number below the least one admitted. -/
  | tooSmall
  deriving DecidableEq, Repr

/-- A misfit and the way to it, from the outside in. -/
structure Fault where
  place : List String
  misfit : Misfit
  deriving DecidableEq, Repr

/-- Moves a fault one level out. -/
def Fault.within (step : String) (f : Fault) : Fault := { f with place := step :: f.place }

inductive Checked (α : Type) where
  | ok (value : α)
  | faulty (faults : List Fault)

namespace Checked

variable {α β : Type}

def misfit (m : Misfit) : Checked α := faulty [⟨[], m⟩]

/-- Applies a checked function; the faults of both sides are kept. -/
def apply : Checked (α → β) → Checked α → Checked β
  | ok f, ok a => ok (f a)
  | ok _, faulty es => faulty es
  | faulty es, ok _ => faulty es
  | faulty es, faulty es' => faulty (es ++ es')

instance : Applicative Checked where
  pure := ok
  seq f x := apply f (x ())

def within (step : String) : Checked α → Checked α
  | ok a => ok a
  | faulty es => faulty (es.map (Fault.within step))

@[simp] theorem within_ok (step : String) (a : α) : (ok a).within step = ok a := rfl

@[simp] theorem map_ok (f : α → β) (a : α) : f <$> (ok a : Checked α) = ok (f a) := rfl

@[simp] theorem seq_ok (f : α → β) (a : α) : (ok f : Checked (α → β)) <*> ok a = ok (f a) := rfl

/-- Checks the values one after another; each fault is placed by its position. -/
def all (check : Json → Checked α) : Nat → List Json → Checked (List α)
  | _, [] => ok []
  | i, v :: vs => List.cons <$> (check v).within (toString i) <*> all check (i + 1) vs

theorem all_map {check : Json → Checked α} {write : α → Json} (h : ∀ a, check (write a) = ok a)
    (i : Nat) (items : List α) : all check i (items.map write) = ok items := by
  induction items generalizing i with
  | nil => rfl
  | cons a r ih => simp [all, h, ih]

end Checked

namespace Json

variable {α : Type}

/-! ## Kinds of values -/

def checkString : Json → Checked String
  | .string s => .ok s
  | _ => .misfit .notString

/-- The bound for whole numbers that are not written as integers. -/
def wholeBound : Int := Nat.pow 2 63

def checkIntText : Except Text.IntFault Int → Checked Int
  | .ok i => .ok i
  | .error .unreadable => .misfit .unreadableInt
  | .error .tooLong => .misfit .oversizedInt

/-- Integers, truth values as one and zero, whole numbers and texts that spell an integer. -/
def checkInt : Json → Checked Int
  | .int i => .ok i
  | .bool b => .ok (if b then 1 else 0)
  | .double (.finite negative m e) =>
    match (Double.finite negative m e).toInt? with
    | some i => if -wholeBound < i && i < wholeBound then .ok i else .misfit .oversizedInt
    | none => .misfit .fractional
  | .double _ => .misfit .notFinite
  | .string s => checkIntText (Text.ofField s.toList)
  | _ => .misfit .notInt

def checkList (item : Json → Checked α) : Json → Checked (List α)
  | .array vs => .all item 0 vs
  | _ => .misfit .notList

/-- The members of an object, each checked and placed by its key. -/
def checkMembers (item : Json → Checked α) : List (String × Json) → Checked (List (String × α))
  | [] => .ok []
  | (k, v) :: ms => (fun a r => (k, a) :: r) <$> (item v).within k <*> checkMembers item ms

def checkMap (item : Json → Checked α) : Json → Checked (List (String × α))
  | .object ms => checkMembers item ms
  | _ => .misfit .notMap

theorem checkMembers_map {check : Json → Checked α} {write : α → Json}
    (h : ∀ a, check (write a) = .ok a) (items : List (String × α)) :
    checkMembers check (items.map fun p => (p.1, write p.2)) = .ok items := by
  induction items with
  | nil => rfl
  | cons p r ih => simp [checkMembers, h, ih]

/-! ## Fields of records -/

/-- The name of a field, and a second one that is looked for where the first is absent. -/
structure Key where
  name : String
  other : String

def Key.find? (k : Key) (record : Json) : Option (String × Json) :=
  match record.member? k.name with
  | some v => some (k.name, v)
  | none => (record.member? k.other).map fun v => (k.other, v)

/-- A field that must be there. -/
def required (k : Key) (check : Json → Checked α) (record : Json) : Checked α :=
  match k.find? record with
  | some (name, v) => (check v).within name
  | none => .faulty [⟨[k.name], .missing⟩]

/-- A field that has a value of its own when it is absent. -/
def withDefault (k : Key) (default : α) (check : Json → Checked α) (record : Json) : Checked α :=
  match k.find? record with
  | some (name, v) => (check v).within name
  | none => .ok default

/-- A reading of declared fields, which takes nothing but objects. -/
def checkRecord (fields : Json → Checked α) : Json → Checked α
  | .object ms => fields (.object ms)
  | _ => .misfit .notRecord

end Json

end EndpointIndex
