import EndpointIndex.FileSystem.Links

/-!
# File operations

Reading and changing a file system by path, and the ways in which that fails.
-/

namespace EndpointIndex

inductive FileError where
  | notFound
  | alreadyThere
  | notDirectory
  | isDirectory
  /-- A directory that is not empty stands in the way. -/
  | notEmpty
  /-- A directory cannot be moved into itself. -/
  | intoItself
  | tooManyLinks
  /-- A path without a last name cannot be written beside. -/
  | unnamed
  deriving DecidableEq, Repr

namespace FileSystem

def Obstacle.toError : Obstacle → FileError
  | .missing => .notFound
  | .notDirectory => .notDirectory
  | .tooManyLinks => .tooManyLinks

/-! ## Questions -/

def exists? (fs : FileSystem) (p : Path) : Bool := (fs.find p).toBool

def isDirectory (fs : FileSystem) (p : Path) : Bool :=
  match fs.find p with
  | .ok (_, n) => n.isDirectory
  | .error _ => false

def isFile (fs : FileSystem) (p : Path) : Bool :=
  match fs.find p with
  | .ok (_, n) => n.isFile
  | .error _ => false

/-- When something was last changed. -/
def modified (fs : FileSystem) (p : Path) : Except FileError Int :=
  match fs.find p with
  | .ok (_, .file _ time) => .ok time
  | .ok (_, .directory _ time) => .ok time
  -- links are followed, so that none is ever found
  | .ok (_, .link _) => .error .notFound
  | .error o => .error (Obstacle.toError o)

def read (fs : FileSystem) (p : Path) : Except FileError (List UInt8) :=
  match fs.find p with
  | .ok (_, .file content _) => .ok content
  | .ok _ => .error .isDirectory
  | .error o => .error (Obstacle.toError o)

/-! ## Changes -/

def put (fs : FileSystem) (l : Location) (n : Node) : FileSystem :=
  { fs with tree := fs.tree.put l n }

def erase (fs : FileSystem) (l : Location) : FileSystem := { fs with tree := fs.tree.erase l }

/-- Notes the time at which the names in a directory have changed. -/
def stamp (fs : FileSystem) (l : Location) (time : Int) : FileSystem :=
  { fs with tree := fs.tree.stamp l time }

/-- Puts a node under a new name into a directory. -/
def enter (fs : FileSystem) (l : Location) (n : Node) (now : Int) : FileSystem :=
  (fs.stamp l.dropLast now).put l n

/-- Takes a name out of its directory. -/
def discard (fs : FileSystem) (l : Location) (now : Int) : FileSystem :=
  (fs.stamp l.dropLast now).erase l

/-- The place of a path's last name in its directory; a link there is not followed. -/
def entryPlace (fs : FileSystem) (p : Path) : Except FileError Location :=
  match p.parts.getLast? with
  | none => .ok []
  | some name =>
    match fs.find p.parent with
    | .ok (l, .directory ..) => .ok (l ++ [name])
    | .ok _ => .error .notDirectory
    | .error o => .error (Obstacle.toError o)

/-- Writes a file where its directory is there. A new file changes its directory too. -/
def write (fs : FileSystem) (p : Path) (content : List UInt8) (time : Int) (now : Int := time) :
    Except FileError FileSystem :=
  match fs.locate p with
  | .error o => .error (Obstacle.toError o)
  | .ok l =>
    match fs.get? l with
    | some (.directory ..) => .error .isDirectory
    | none => .ok (fs.enter l (.file content time) now)
    | some _ => .ok (fs.put l (.file content time))

/-- Makes one directory. Every directory has the name `..` already. -/
def makeDirectory (fs : FileSystem) (p : Path) (now : Int := 0) : Except FileError FileSystem := do
  let l ← fs.entryPlace p
  if p.name = ".." then .error .alreadyThere
  else
    match fs.get? l with
    | some _ => .error .alreadyThere
    | none => .ok (fs.enter l (.directory [] now) now)

/-- Makes one directory, or keeps the one that is there. -/
def keepDirectory (fs : FileSystem) (p : Path) (now : Int := 0) : Except FileError FileSystem :=
  match fs.makeDirectory p now with
  | .ok fs' => .ok fs'
  | .error e => if fs.isDirectory p then .ok fs else .error e

/-- Makes a directory, and those above it that are not there; `names` are the path's in reverse. -/
def makeDirectoriesFrom (fs : FileSystem) (anchor : Anchor) (now : Int) :
    List String → Except FileError FileSystem
  | [] => fs.keepDirectory ⟨anchor, []⟩ now
  | name :: above =>
    let p : Path := ⟨anchor, (name :: above).reverse⟩
    match fs.makeDirectory p now with
    | .error .notFound => do
      let fs' ← makeDirectoriesFrom fs anchor now above
      fs'.keepDirectory p now
    -- nothing above it is missing
    | _ => fs.keepDirectory p now

def makeDirectories (fs : FileSystem) (p : Path) (now : Int := 0) : Except FileError FileSystem :=
  makeDirectoriesFrom fs p.anchor now p.parts.reverse

/-- Removes a file or a link. -/
def remove (fs : FileSystem) (p : Path) (now : Int := 0) : Except FileError FileSystem := do
  let l ← fs.entryPlace p
  if p.name = ".." then .error .isDirectory
  else
    match fs.get? l with
    | none => .error .notFound
    | some (.directory ..) => .error .isDirectory
    | some _ => .ok (fs.discard l now)

/-- Removes a file, a link or a directory with all it holds. -/
def removeTree (fs : FileSystem) (p : Path) (now : Int := 0) : Except FileError FileSystem := do
  let l ← fs.entryPlace p
  match fs.get? l with
  | none => .error .notFound
  | some _ => .ok (fs.discard l now)

/-- What stands at the target of a move has to give way to what is moved. -/
def givesWay (moved : Node) : Option Node → Except FileError Unit
  | none => .ok ()
  | some (.directory entries _) =>
    if !moved.isDirectory then .error .isDirectory
    else if entries.isEmpty then .ok () else .error .notEmpty
  | some _ => if moved.isDirectory then .error .notDirectory else .ok ()

/-- Moves something to a new path in one step. Nothing is moved from or to the name `..`. -/
def move (fs : FileSystem) (source target : Path) (now : Int := 0) : Except FileError FileSystem := do
  let from' ← fs.entryPlace source
  let to' ← fs.entryPlace target
  if source.name = ".." ∨ target.name = ".." then .error .intoItself
  else
    match fs.get? from' with
    | none => .error .notFound
    | some n =>
      if from' = to' then .ok fs
      else if from'.isPrefixOf to' then .error .intoItself
      else
        givesWay n (fs.get? to')
        .ok ((fs.discard from' now).enter to' n now)

def makeLink (fs : FileSystem) (p : Path) (target : String) (now : Int := 0) :
    Except FileError FileSystem := do
  let l ← fs.entryPlace p
  if p.name = ".." then .error .alreadyThere
  else
    match fs.get? l with
    | some _ => .error .alreadyThere
    | none => .ok (fs.enter l (.link target) now)

/-- Sets the time of the last change. -/
def touch (fs : FileSystem) (p : Path) (time : Int) : Except FileError FileSystem :=
  match fs.find p with
  | .ok (l, .file content _) => .ok (fs.put l (.file content time))
  | .ok (l, _) => .ok (fs.stamp l time)
  | .error o => .error (Obstacle.toError o)

end FileSystem

end EndpointIndex
