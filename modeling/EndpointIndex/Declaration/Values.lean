import EndpointIndex.Declaration.Basic

/-!
# Values in source order

A value and the values nested in it, from left to right, down to a bounded depth. Main facts: a
value comes first (`upTo_eq_cons`), and at bound zero nothing is opened (`upTo_nonpositive`).
-/

namespace EndpointIndex.Value

/-- How deep a search through an annotation argument goes. -/
def searchDepth : Int := 4

/-- The values still to visit, each with its depth; the next one is at the head. -/
abbrev Agenda := List (Value × Int)

/-- The agenda entries that a value opens, unless it lies at the bound. -/
def opened (bound : Int) : Value × Int → Agenda
  | (.array items, depth) => if depth < bound then items.map fun v => (v, depth + 1) else []
  | _ => []

mutual

/-- The number of values in a tree. -/
def count : Value → Nat
  | .array items => 1 + countAll items
  | _ => 1

def countAll : List Value → Nat
  | [] => 0
  | v :: vs => count v + countAll vs

end

def agendaCount : Agenda → Nat
  | [] => 0
  | (v, _) :: rest => count v + agendaCount rest

theorem agendaCount_append (a b : Agenda) :
    agendaCount (a ++ b) = agendaCount a + agendaCount b := by
  induction a with
  | nil => simp [agendaCount]
  | cons p a ih => simp [agendaCount, ih, Nat.add_assoc]

theorem agendaCount_map (items : List Value) (d : Int) :
    agendaCount (items.map fun v => (v, d)) = countAll items := by
  induction items with
  | nil => rfl
  | cons v vs ih => simp [agendaCount, countAll, ih]

theorem agendaCount_opened_lt (bound : Int) (p : Value × Int) :
    agendaCount (opened bound p) < count p.1 := by
  obtain ⟨v, d⟩ := p
  cases v with
  | array items =>
    simp only [opened, count]
    split
    · rw [agendaCount_map]; omega
    · simp only [agendaCount]; omega
  | _ => simp [opened, agendaCount, count]

/-- Works the agenda off: the head is visited, and what it opens is visited next. -/
def visit (bound : Int) : Agenda → List Value
  | [] => []
  | p :: rest => p.1 :: visit bound (opened bound p ++ rest)
termination_by agenda => agendaCount agenda
decreasing_by
  have := agendaCount_opened_lt bound p
  simp only [agendaCount, agendaCount_append]
  omega

/-- A value and its nested values in source order, none deeper than `bound`. -/
def upTo (bound : Int) (v : Value) : List Value := visit bound [(v, 0)]

/-- The first value in source order that a test accepts. -/
def findFirst? (test : Value → Bool) (bound : Int) (v : Value) : Option Value :=
  (upTo bound v).find? test

theorem upTo_eq_cons (bound : Int) (v : Value) :
    upTo bound v = v :: visit bound (opened bound (v, 0)) := by
  rw [upTo, visit, List.append_nil]

theorem upTo_nonpositive {bound : Int} (h : bound ≤ 0) (v : Value) : upTo bound v = [v] := by
  rw [upTo_eq_cons]
  have : opened bound (v, 0) = [] := by
    cases v <;> simp [opened]
    omega
  rw [this, visit]

def isLiteral : Value → Bool
  | .literal _ => true
  | _ => false

end EndpointIndex.Value
