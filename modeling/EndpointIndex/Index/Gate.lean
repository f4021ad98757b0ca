/-!
# The gate

Which work may start. One build runs at a time and nothing beside it; updates of single files may
run beside each other, but not beside a build. Main facts: `beginBuild?_isSome_iff`,
`beginUpdate?_isSome_iff`, and that an end takes back its begin (`endUpdate_of_beginUpdate?`).
-/

namespace EndpointIndex

inductive Gate where
  | idle
  | building
  /-- Updates are running, `others` of them besides one. -/
  | updating (others : Nat)
  deriving DecidableEq, Repr

namespace Gate

def beginBuild? : Gate → Option Gate
  | idle => some building
  | _ => none

def endBuild (_ : Gate) : Gate := idle

def beginUpdate? : Gate → Option Gate
  | idle => some (updating 0)
  | building => none
  | updating n => some (updating (n + 1))

def endUpdate : Gate → Gate
  | updating (n + 1) => updating n
  | _ => idle

def isBuilding (g : Gate) : Bool := g == building

/-- The name under which a state is shown. -/
def label : Gate → String
  | idle => "idle"
  | building => "building"
  | updating _ => "updating_file"

theorem beginBuild?_isSome_iff (g : Gate) : g.beginBuild?.isSome ↔ g = idle := by
  cases g <;> simp [beginBuild?]

theorem beginUpdate?_isSome_iff (g : Gate) : g.beginUpdate?.isSome ↔ g ≠ building := by
  cases g <;> simp [beginUpdate?]

theorem building_of_beginBuild? {g g' : Gate} (h : g.beginBuild? = some g') :
    g = idle ∧ g' = building := by
  cases g with
  | idle =>
    cases h
    exact ⟨rfl, rfl⟩
  | building => cases h
  | updating n => cases h

theorem updating_of_beginUpdate? {g g' : Gate} (h : g.beginUpdate? = some g') :
    ∃ others, g' = updating others := by
  cases g with
  | idle =>
    cases h
    exact ⟨0, rfl⟩
  | building => cases h
  | updating n =>
    cases h
    exact ⟨n + 1, rfl⟩

theorem endUpdate_of_beginUpdate? {g g' : Gate} (h : g.beginUpdate? = some g') :
    g'.endUpdate = g := by
  cases g <;> simp [beginUpdate?] at h <;> subst h <;> rfl

end Gate

end EndpointIndex
