/-!
# Directory trees

Files, directories and links, and the places in a tree. Main facts: what is put at a place stands
there (`get?_put`), and a change leaves every place alone that is neither above nor below it
(`get?_alter_of_apart`).
-/

namespace EndpointIndex

inductive Node where
  /-- The bytes, and the time of the last change in nanoseconds. -/
  | file (content : List UInt8) (modified : Int)
  /-- The entries, and the time at which one was last added, removed or renamed. -/
  | directory (entries : List (String × Node)) (modified : Int := 0)
  | link (target : String)
  deriving Inhabited

/-- A place in a tree: the names on the way down to it. -/
abbrev Location := List String

/-- A place as an absolute path. -/
def Location.toString (l : Location) : String := "/" ++ String.intercalate "/" l

namespace Node

def isDirectory : Node → Bool
  | directory .. => true
  | _ => false

def isFile : Node → Bool
  | file .. => true
  | _ => false

/-- The entry of a directory with the given name. -/
def child? (name : String) : List (String × Node) → Option Node
  | [] => none
  | (x, n) :: rest => if x = name then some n else child? name rest

/-- The node at a place; links are not followed. -/
def get? : Node → Location → Option Node
  | n, [] => some n
  | directory entries _, x :: r => (child? x entries).bind fun n => get? n r
  | file .., _ :: _ => none
  | link _, _ :: _ => none

/-- Changes, adds or removes the entry with the given name. -/
def alterEntry (name : String) (f : Option Node → Option Node) :
    List (String × Node) → List (String × Node)
  | [] =>
    match f none with
    | some n => [(name, n)]
    | none => []
  | (x, n) :: rest =>
    if x = name then
      match f (some n) with
      | some m => (x, m) :: rest
      | none => rest
    else (x, n) :: alterEntry name f rest

/-- Changes, adds or removes the node at a place whose directory is there. -/
def alter (f : Option Node → Option Node) : Location → Option Node → Option Node
  | [], n => f n
  | x :: r, some (directory entries since) =>
    some (directory (alterEntry x (alter f r) entries) since)
  | _ :: _, n => n

/-- Puts a node at a place whose directory is there. -/
def put (n : Node) (l : Location) (m : Node) : Node := (alter (fun _ => some m) l (some n)).getD n

/-- Removes the node at a place. -/
def erase (n : Node) (l : Location) : Node := (alter (fun _ => none) l (some n)).getD n

/-- The same node, if it is a directory with another time. -/
def changedAt (time : Int) : Node → Node
  | directory entries _ => directory entries time
  | n => n

def changedAt? (time : Int) : Option Node → Option Node
  | some n => some (changedAt time n)
  | none => none

/-- Gives a time to the directory at a place. -/
def stamp (n : Node) (l : Location) (time : Int) : Node := (alter (changedAt? time) l (some n)).getD n

mutual

/-- How many links a tree holds. -/
def linkCount : Node → Nat
  | file .. => 0
  | link _ => 1
  | directory entries _ => linkCountEntries entries

def linkCountEntries : List (String × Node) → Nat
  | [] => 0
  | (_, n) :: rest => linkCount n + linkCountEntries rest

end

/-! ## Lemmas -/

theorem child?_alterEntry_of_ne {name other : String} (f : Option Node → Option Node)
    (h : other ≠ name) (entries : List (String × Node)) :
    child? other (alterEntry name f entries) = child? other entries := by
  induction entries with
  | nil =>
    simp only [alterEntry]
    split <;> simp [child?, Ne.symm h]
  | cons p rest ih =>
    obtain ⟨x, n⟩ := p
    by_cases hx : x = name
    · subst hx
      simp only [alterEntry, if_true]
      split <;> simp [child?, Ne.symm h]
    · by_cases ho : x = other
      · simp [alterEntry, child?, h, ho]
      · simp [alterEntry, child?, hx, ho, ih]

theorem child?_alterEntry_self {name : String} {f : Option Node → Option Node}
    {entries : List (String × Node)} {m : Node} (h : f (child? name entries) = some m) :
    child? name (alterEntry name f entries) = some m := by
  induction entries with
  | nil => simp_all [alterEntry, child?]
  | cons p rest ih =>
    obtain ⟨x, n⟩ := p
    by_cases hx : x = name
    · simp_all [alterEntry, child?]
    · simp_all [alterEntry, child?]

theorem get?_put {n m : Node} {q : Location} {x : String} {entries : List (String × Node)} {since : Int}
    (h : get? n q = some (directory entries since)) : get? (put n (q ++ [x]) m) (q ++ [x]) = some m := by
  suffices hs : ∃ k, alter (fun _ => some m) (q ++ [x]) (some n) = some k ∧
      get? k (q ++ [x]) = some m by
    obtain ⟨k, hk, hg⟩ := hs
    simp [put, hk, hg]
  induction q generalizing n with
  | nil =>
    simp only [get?, Option.some.injEq] at h
    subst h
    refine ⟨_, rfl, ?_⟩
    simp only [List.nil_append, get?]
    rw [child?_alterEntry_self (m := m) rfl]
    rfl
  | cons y r ih =>
    cases n with
    | file => simp [get?] at h
    | link => simp [get?] at h
    | directory es _ =>
      simp only [get?] at h
      cases he : child? y es with
      | none => simp [he] at h
      | some c =>
        simp only [he, Option.bind_some] at h
        obtain ⟨k, hk, hg⟩ := ih h
        refine ⟨_, rfl, ?_⟩
        simp only [List.cons_append, get?]
        rw [child?_alterEntry_self (m := k) (by rw [he]; exact hk)]
        simpa using hg

/-- Two places neither of which lies on the way to the other. -/
def Apart (p q : Location) : Prop := ¬ p <+: q ∧ ¬ q <+: p

theorem get?_alter_of_apart (f : Option Node → Option Node) {p q : Location} (h : Apart p q)
    (n : Node) : ((alter f p (some n)).bind fun m => get? m q) = get? n q := by
  induction p generalizing q n with
  | nil => exact absurd List.nil_prefix h.1
  | cons x r ih =>
    cases q with
    | nil => exact absurd List.nil_prefix h.2
    | cons y s =>
      cases n with
      | file => rfl
      | link => rfl
      | directory entries _ =>
        simp only [alter, Option.bind_some, get?]
        by_cases hxy : y = x
        · subst hxy
          have hrs : Apart r s := by
            simpa [Apart, List.cons_prefix_cons] using h
          induction entries with
          | nil =>
            simp only [alterEntry, child?]
            have : alter f r none = none := by
              cases r with
              | nil => exact absurd List.nil_prefix hrs.1
              | cons => rfl
            simp [this, child?]
          | cons p rest ihe =>
            obtain ⟨z, m⟩ := p
            by_cases hz : z = y
            · subst hz
              have := ih hrs m
              simp only [alterEntry, if_true, child?, Option.bind_some]
              cases r with
              | nil => exact absurd List.nil_prefix hrs.1
              | cons a r' =>
                cases m with
                | file => simp [alter, child?]
                | link => simp [alter, child?]
                | directory es _ => simpa [alter, child?] using this
            · simpa [alterEntry, child?, hz] using ihe
        · rw [child?_alterEntry_of_ne _ hxy]

end Node

end EndpointIndex
