import EndpointIndex.FileSystem.Basic
import EndpointIndex.Glob

/-!
# Source files of a tree

The files below a directory whose relative path some glob admits and no other excludes. The files of
a directory come before those of its subdirectories, each in the order of their names; directories
of tools and of build products are passed over, and links to directories are not entered.
-/

namespace EndpointIndex.Scan

/-- Directories that hold no sources of their own. -/
def ignoredNames : List String :=
  [".git", ".svn", ".hg", ".idea", ".vscode", ".gradle", ".mvn", ".routefinder", "node_modules",
   "target", "build", "out", "bin"]

def isIgnored (directory : Path) : Bool := ignoredNames.contains directory.name

def byName {α : Type} (a b : String × α) : Bool := !(b.1 < a.1)

/-- The names of a directory's entries that are listed as files. -/
def fileNames (leadsToDirectory : Location → Bool) (here : Location) :
    List (String × Node) → List String
  | [] => []
  | (_, .directory ..) :: rest => fileNames leadsToDirectory here rest
  | (name, .file ..) :: rest => name :: fileNames leadsToDirectory here rest
  | (name, .link _) :: rest =>
    -- a link that leads nowhere is listed too
    if leadsToDirectory (here ++ [name]) then fileNames leadsToDirectory here rest
    else name :: fileNames leadsToDirectory here rest

mutual

/-- The places of all files below a node that stands at `here`. -/
def walk (leadsToDirectory : Location → Bool) (here : Location) : Node → List Location
  | .directory entries _ =>
    ((fileNames leadsToDirectory here entries).mergeSort fun a b => !(b < a)).map
        (fun name => here ++ [name])
      ++ ((walkEntries leadsToDirectory here entries).mergeSort byName).flatMap Prod.snd
  | _ => []

/-- The places of all files below each subdirectory. -/
def walkEntries (leadsToDirectory : Location → Bool) (here : Location) :
    List (String × Node) → List (String × List Location)
  | [] => []
  | (name, n) :: rest =>
    if n.isDirectory && !ignoredNames.contains name then
      (name, walk leadsToDirectory (here ++ [name]) n) :: walkEntries leadsToDirectory here rest
    else walkEntries leadsToDirectory here rest

end

/-- Which relative paths are wanted. -/
structure Selection where
  includes : List String
  excludes : List String
  deriving Repr

def Selection.admits (s : Selection) (path : String) : Bool :=
  s.includes.any (Glob.matchesPath · path) && !s.excludes.any (Glob.matchesPath · path)

/-- The admitted files below a directory. -/
def admitted (fs : FileSystem) (root : Location) (node : Node) (s : Selection) : List Location :=
  (walk (fun l => fs.isDirectory (FileSystem.ofLocation l)) root node).filter fun l =>
    s.admits (String.intercalate "/" (l.drop root.length))

/-- The absolute paths of places. With a limit, no place is looked at after as many paths have been
found; `found` counts those before. -/
def absolutePaths (fs : FileSystem) (limit : Option Int) (found : Nat) :
    List Location → Except FileSystem.LinkLoop (List String)
  | [] => .ok []
  | l :: rest =>
    match fs.resolve (FileSystem.ofLocation l) with
    | .error e => .error e
    | .ok place =>
      -- the first path is given even for a limit of zero or less
      if limit.any (· ≤ (found : Int) + 1) then .ok [place.toString]
      else (absolutePaths fs limit (found + 1) rest).map (place.toString :: ·)

/-- The admitted files below a root. A root that is no directory holds none. -/
def sourceFiles (fs : FileSystem) (root : Path) (s : Selection) (limit : Option Int) :
    Except FileSystem.LinkLoop (List String) :=
  match fs.find root with
  | .ok (l, n) => absolutePaths fs limit 0 (admitted fs l n s)
  | .error _ => .ok []

end EndpointIndex.Scan
