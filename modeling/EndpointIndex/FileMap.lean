/-!
# Maps from files

Values by file path, in the order in which the paths were first put. Putting a value for a path that
is there keeps its place; a path that is erased and put again comes last. Main facts: `get?_put`,
`get?_erase` and `get?_eq_some_iff`.
-/

namespace EndpointIndex

structure FileMap (α : Type) where
  entries : List (String × α)
  /-- No path stands twice. -/
  nodup : (entries.map Prod.fst).Nodup

namespace FileMap

variable {α : Type}

def empty : FileMap α := ⟨[], List.nodup_nil⟩

def files (m : FileMap α) : List String := m.entries.map Prod.fst

def size (m : FileMap α) : Nat := m.entries.length

def get? (m : FileMap α) (file : String) : Option α :=
  (m.entries.find? fun p => p.1 == file).map Prod.snd

def contains (m : FileMap α) (file : String) : Bool := (m.get? file).isSome

/-- The entries with one path set to a value. -/
def putEntry (file : String) (a : α) : List (String × α) → List (String × α)
  | [] => [(file, a)]
  | (f, b) :: rest => if f = file then (f, a) :: rest else (f, b) :: putEntry file a rest

theorem map_fst_putEntry (file : String) (a : α) (entries : List (String × α)) :
    (putEntry file a entries).map Prod.fst =
      if file ∈ entries.map Prod.fst then entries.map Prod.fst
      else entries.map Prod.fst ++ [file] := by
  induction entries with
  | nil => rfl
  | cons p r ih =>
    obtain ⟨f, b⟩ := p
    by_cases h : f = file
    · simp [putEntry, h]
    · simp only [putEntry, h, if_false, List.map_cons, ih, List.mem_cons, Ne.symm h, false_or]
      split <;> rfl

def put (m : FileMap α) (file : String) (a : α) : FileMap α where
  entries := putEntry file a m.entries
  nodup := by
    rw [map_fst_putEntry]
    split
    · exact m.nodup
    · rename_i h
      exact List.nodup_append.2 ⟨m.nodup, by simp, by
        intro x hx y hy hxy
        simp only [List.mem_singleton] at hy
        exact h (hy ▸ hxy ▸ hx)⟩

def erase (m : FileMap α) (file : String) : FileMap α where
  entries := m.entries.filter fun p => p.1 != file
  nodup := m.nodup.sublist (List.filter_sublist.map Prod.fst)

/-- The map that holds the given pairs; of two for one path the later counts. -/
def ofList (pairs : List (String × α)) : FileMap α := pairs.foldl (fun m p => m.put p.1 p.2) empty

@[simp] theorem get?_empty (file : String) : (empty : FileMap α).get? file = none := rfl

theorem find?_putEntry (file g : String) (a : α) (entries : List (String × α)) :
    (putEntry file a entries).find? (fun p => p.1 == g) =
      if g = file then some (file, a) else entries.find? fun p => p.1 == g := by
  induction entries with
  | nil =>
    by_cases h : g = file
    · simp [putEntry, h]
    · simp [putEntry, h, Ne.symm h]
  | cons p r ih =>
    obtain ⟨f, b⟩ := p
    by_cases hf : f = file <;> by_cases hg : g = file <;> by_cases hfg : f = g <;>
      simp_all [putEntry]

theorem get?_put (m : FileMap α) (file g : String) (a : α) :
    (m.put file a).get? g = if g = file then some a else m.get? g := by
  simp only [get?, put, find?_putEntry]
  split <;> rfl

theorem get?_erase (m : FileMap α) (file g : String) :
    (m.erase file).get? g = if g = file then none else m.get? g := by
  simp only [get?, erase, List.find?_filter]
  by_cases h : g = file
  · subst h
    simp
  · simp only [h, if_false]
    congr 2
    funext p
    by_cases hp : p.1 = g
    · simp [hp, h]
    · simp [hp]

theorem get?_eq_some_iff (m : FileMap α) (file : String) (a : α) :
    m.get? file = some a ↔ (file, a) ∈ m.entries := by
  obtain ⟨entries, nodup⟩ := m
  simp only [get?]
  induction entries with
  | nil => simp
  | cons p r ih =>
    obtain ⟨f, b⟩ := p
    simp only [List.map_cons, List.nodup_cons, List.mem_map, Prod.exists, exists_and_right,
      exists_eq_right, not_exists] at nodup
    by_cases h : f = file
    · subst h
      simp [eq_comm, nodup.1]
    · simp [h, Ne.symm h, ih nodup.2]

end FileMap

end EndpointIndex
