import EndpointIndex.Endpoint.Basic
import EndpointIndex.FileMap

/-!
# The store

What the index answers from: the endpoints of each file that declares any. Setting a file to no
endpoints removes it (`get?_set`).
-/

namespace EndpointIndex

structure Store where
  byFile : FileMap (List Endpoint)

namespace Store

def empty : Store := ⟨.empty⟩

def get? (s : Store) (file : String) : Option (List Endpoint) := s.byFile.get? file

def contains (s : Store) (file : String) : Bool := s.byFile.contains file

def files (s : Store) : List String := s.byFile.files

def size (s : Store) : Nat := s.byFile.size

def set (s : Store) (file : String) (endpoints : List Endpoint) : Store :=
  match endpoints with
  | [] => ⟨s.byFile.erase file⟩
  | es => ⟨s.byFile.put file es⟩

def remove (s : Store) (file : String) : Store := ⟨s.byFile.erase file⟩

/-- All endpoints, file by file. -/
def snapshot (s : Store) : List Endpoint := s.byFile.entries.flatMap Prod.snd

def count (s : Store) : Nat := s.byFile.entries.foldr (fun p n => p.2.length + n) 0

theorem get?_set (s : Store) (file g : String) (endpoints : List Endpoint) :
    (s.set file endpoints).get? g =
      if g = file then (if endpoints = [] then none else some endpoints) else s.get? g := by
  cases endpoints with
  | nil => simp [set, get?, FileMap.get?_erase]
  | cons e es => simp [set, get?, FileMap.get?_put]

theorem get?_remove (s : Store) (file g : String) :
    (s.remove file).get? g = if g = file then none else s.get? g :=
  FileMap.get?_erase s.byFile file g

theorem count_eq_length_snapshot (s : Store) : s.count = s.snapshot.length := by
  unfold count snapshot
  induction s.byFile.entries with
  | nil => rfl
  | cons p rest ih => rw [List.foldr_cons, List.flatMap_cons, List.length_append, ih]

end Store

end EndpointIndex
