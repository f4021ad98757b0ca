import EndpointIndex.FileSystem.Tree
import EndpointIndex.Path

/-!
# Following links

Two ways from a written path to a place. `resolve` names the place a path stands for whether or not
anything is there, and fails only on links that lead to themselves. `locate` is how files are opened:
every directory on the way must be there.
-/

namespace EndpointIndex

structure FileSystem where
  /-- What stands at the top. -/
  tree : Node
  /-- Where relative paths start. -/
  workDir : Location

namespace FileSystem

def get? (fs : FileSystem) (l : Location) : Option Node := fs.tree.get? l

/-- Where a path starts, seen from a place. -/
def startOf (here : Location) (p : Path) : Location :=
  match p.anchor with
  | .relative => here
  | _ => []

/-! ## Resolving -/

/-- Takes the names of a path one after another. A link is replaced by what it leads to; `active` are
the links being replaced, and meeting one of them again is a loop, which leaves the rest of the names
as they are. -/
def resolveNames (fs : FileSystem) (active : List Location)
    (expand : List Location → Location → List String → Except (List String) Location) :
    Location → List String → Except (List String) Location
  | here, [] => .ok here
  | here, name :: rest =>
    if name = ".." then resolveNames fs active expand here.dropLast rest
    else
      let there := here ++ [name]
      match fs.get? there with
      | some (.link target) =>
        if active.contains there then .error (there ++ rest)
        else
          let p := Path.ofString target
          match expand (there :: active) (startOf here p) p.parts with
          | .ok l => resolveNames fs active expand l rest
          | .error names => .error (names ++ rest)
      | _ => resolveNames fs active expand there rest

/-- Resolves names through links nested less than `depth` deep. -/
def resolveWithin (fs : FileSystem) :
    Nat → List Location → Location → List String → Except (List String) Location
  | 0, _, here, names => .error (here ++ names)
  | depth + 1, active, here, names =>
    resolveNames fs active (resolveWithin fs depth) here names

/-- Removes each double dot together with the name before it. -/
def collapse (names : List String) : Location :=
  names.foldl (fun l name => if name = ".." then l.dropLast else l ++ [name]) []

/-! ## Locating -/

/-- Why there is no way to a place. -/
inductive Obstacle where
  /-- A name on the way is not there. -/
  | missing
  /-- The way leads through something that is no directory. -/
  | notDirectory
  | tooManyLinks
  deriving DecidableEq, Repr

/-- How many links are followed on the way to one place. -/
def maxLinks : Nat := 40

/-- The place that names lead to. Only the last name may be absent. -/
def locateNames (fs : FileSystem) (links : Nat) (here : Location) (names : List String) :
    Except Obstacle Location :=
  match names with
  | [] => .ok here
  | name :: rest =>
    match fs.get? here with
    | some (.directory ..) =>
      if name = ".." then locateNames fs links here.dropLast rest
      else
        match fs.get? (here ++ [name]) with
        | none => if rest = [] then .ok (here ++ [name]) else .error .missing
        | some (.link target) =>
          match links with
          | 0 => .error .tooManyLinks
          | n + 1 =>
            let p := Path.ofString target
            -- the names of the target come before those that are left
            locateNames fs n (startOf here p) (p.parts ++ rest)
        | some _ => locateNames fs links (here ++ [name]) rest
    | some _ => .error .notDirectory
    | none => .error .missing
termination_by (links, names.length)

def locate (fs : FileSystem) (p : Path) : Except Obstacle Location :=
  locateNames fs maxLinks (startOf fs.workDir p) p.parts

/-- The place of something that is there, and what it is. -/
def find (fs : FileSystem) (p : Path) : Except Obstacle (Location × Node) :=
  match fs.locate p with
  | .error o => .error o
  | .ok l =>
    match fs.get? l with
    | some n => .ok (l, n)
    | none => .error .missing

def ofLocation (l : Location) : Path := ⟨.root, l⟩

/-- Links that lead to themselves; the path is the one at which they were met. -/
structure LinkLoop where
  place : Location
  deriving DecidableEq, Repr

/-- The place that a path stands for. -/
def resolve (fs : FileSystem) (p : Path) : Except LinkLoop Location :=
  match resolveWithin fs (fs.tree.linkCount + 1) [] (startOf fs.workDir p) p.parts with
  | .ok l => .ok l
  | .error names =>
    -- a loop is a failure only where it also keeps the place from being opened
    let l := collapse names
    match fs.locate (ofLocation l) with
    | .error .tooManyLinks => .error ⟨l⟩
    | _ => .ok l

/-- Without links a path stands for the place that its names spell. -/
theorem resolveNames_of_no_link {fs : FileSystem} {active : List Location}
    {expand : List Location → Location → List String → Except (List String) Location}
    (h : ∀ l target, fs.get? l ≠ some (.link target)) (here : Location) (names : List String) :
    resolveNames fs active expand here names =
      .ok (names.foldl (fun l name => if name = ".." then l.dropLast else l ++ [name]) here) := by
  induction names generalizing here with
  | nil => rfl
  | cons name rest ih =>
    simp only [resolveNames, List.foldl_cons]
    split
    · rw [ih]
    · split
      · rename_i ht
        exact absurd ht (h _ _)
      · rw [ih]

end FileSystem

end EndpointIndex
