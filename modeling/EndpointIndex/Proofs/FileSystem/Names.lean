import EndpointIndex.Proofs.FileSystem.Tidy
import Mathlib.Data.List.Basic

/-!
# Names of entries

What an entry of a directory is called is one name of a path (`Path.isName`). Where all entries have
such names, a place is where its own path leads (`Tidy.resolve_ofLocation`) and no two places have the
same path (`Location.toString_inj`).
-/

namespace EndpointIndex

/-- Whether an entry of a directory can have this name. -/
def Path.isName (name : String) : Bool :=
  name ≠ "" && name ≠ "." && name ≠ ".." && !name.toList.contains '/'

namespace Node

mutual

/-- Whether all entries below have names that entries can have. -/
def named : Node → Bool
  | file .. => true
  | link _ => true
  | directory entries _ => namedEntries entries

def namedEntries : List (String × Node) → Bool
  | [] => true
  | (x, n) :: rest => Path.isName x && named n && namedEntries rest

end

theorem isName_of_child? {x : String} {n : Node} {entries : List (String × Node)}
    (hentries : namedEntries entries = true) (h : child? x entries = some n) :
    Path.isName x = true ∧ named n = true := by
  induction entries with
  | nil => cases h
  | cons p rest ih =>
    obtain ⟨y, m⟩ := p
    rw [namedEntries, Bool.and_eq_true, Bool.and_eq_true] at hentries
    obtain ⟨⟨hy, hm⟩, hrest⟩ := hentries
    rw [child?] at h
    split at h
    · rename_i hyx
      cases h
      exact ⟨hyx ▸ hy, hm⟩
    · exact ih hrest h

/-- All names on the way to something are names of entries. -/
theorem isName_of_get? {n m : Node} {l : Location} (hn : named n = true) (h : get? n l = some m) :
    ∀ x ∈ l, Path.isName x = true := by
  induction l generalizing n with
  | nil => simp
  | cons x l ih =>
    cases n with
    | file => cases h
    | link => cases h
    | directory entries since =>
      obtain ⟨c, hc, hget⟩ := Option.bind_eq_some_iff.1 h
      obtain ⟨hx, hnamed⟩ := isName_of_child? hn hc
      exact List.forall_mem_cons.2 ⟨hx, ih hnamed hget⟩

end Node

theorem Path.ne_up_of_isName {name : String} (h : Path.isName name = true) : name ≠ ".." := by
  simp only [Path.isName, Bool.and_eq_true, decide_eq_true_eq] at h
  exact h.1.2

theorem Path.slash_notMem_of_isName {name : String} (h : Path.isName name = true) :
    '/' ∉ name.toList := by
  simpa [Path.isName] using And.right (Bool.and_eq_true_iff.1 h)

/-- The path of a place spells the place. -/
theorem FileSystem.walk_eq_append {names : List String} (h : ∀ x ∈ names, Path.isName x = true)
    (here : Location) : walk here names = here ++ names := by
  induction names generalizing here with
  | nil => rw [List.append_nil]; rfl
  | cons x names ih =>
    obtain ⟨hx, hnames⟩ := List.forall_mem_cons.1 h
    rw [walk, List.foldl_cons, if_neg (Path.ne_up_of_isName hx), ← walk, ih hnames, List.append_assoc]
    rfl

theorem FileSystem.Tidy.resolve_ofLocation {fs : FileSystem} (h : fs.Tidy) {l : Location}
    (hl : ∀ x ∈ l, Path.isName x = true) : fs.resolve (ofLocation l) = .ok l := by
  rw [h.resolve_eq_spelled, spelled]
  exact congrArg Except.ok (walk_eq_append hl [])

theorem Location.toString_inj {l l' : Location} (hl : l ≠ []) (hl' : l' ≠ [])
    (hnames : ∀ x ∈ l, Path.isName x = true) (hnames' : ∀ x ∈ l', Path.isName x = true)
    (h : l.toString = l'.toString) : l = l' := by
  have hsplit : ∀ {q : Location}, q ≠ [] → (∀ x ∈ q, Path.isName x = true) →
      (String.intercalate "/" q).toList.splitOn '/' = q.map String.toList := by
    intro q hq hqs
    rw [String.toList_intercalate]
    refine List.splitOn_intercalate '/' ?_ (by simpa using hq)
    intro x hx
    obtain ⟨name, hname, rfl⟩ := List.mem_map.1 hx
    exact Path.slash_notMem_of_isName (hqs name hname)
  have hpaths : String.intercalate "/" l = String.intercalate "/" l' := by
    rw [Location.toString, Location.toString, ← String.toList_inj, String.toList_append,
      String.toList_append] at h
    exact String.toList_inj.1 (List.append_cancel_left h)
  have hmap := (hsplit hl hnames).symm.trans ((congrArg (·.toList.splitOn '/') hpaths).trans
    (hsplit hl' hnames'))
  exact List.map_injective_iff.2 (fun _ _ => String.toList_inj.1) hmap

end EndpointIndex
