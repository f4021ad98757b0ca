import EndpointIndex.CommandLine.Run

/-!
# The program

Loads what a command looks at into a tree, runs the command on that tree, prints, and writes the
artifact of the cache back to the disk. Everything that is decided is decided by the command.
-/

namespace EndpointIndex.Program

open CommandLine

def nanoseconds (t : IO.FS.SystemTime) : Int := t.sec * 1000000000 + t.nsec.toNat

/-- The time in milliseconds, taken from the stamp of a file made for it. -/
def currentTime : IO Int := do
  let (_, path) ← IO.FS.createTempFile
  let time := (← path.metadata).modified
  IO.FS.removeFile path
  return nanoseconds time / 1000000

/-- The variables that settings and paths depend on. -/
def environment : IO (List (String × String)) := do
  let names := "HOME" :: Settings.fieldNames.map fun f => (Settings.variableStart ++ f).toUpper
  names.filterMapM fun name => do
    return (← IO.getEnv name).map fun value => (name, value)

/-- The path without links, if something is there. -/
def realPlace? (path : String) : IO (Option Location) := do
  try
    return some (Path.ofString (← IO.FS.realPath path).toString).parts
  catch _ => return none

/-- What stands at a place. Directories without sources are left empty, and only wanted files are
read. -/
partial def loadNode (wanted : Location → Bool) (place : Location) : IO (Option Node) := do
  let path ← IO.FS.realPath place.toString
  let info ← path.metadata
  match info.type with
  | .file =>
    let content ← if wanted place then IO.FS.readBinFile path else pure .empty
    return some (.file content.toList (nanoseconds info.modified))
  | .dir =>
    let mut entries := []
    for e in ← path.readDir do
      let there := place ++ [e.fileName]
      match (← e.path.symlinkMetadata).type with
      | .symlink =>
        let target := ((← realPlace? there.toString).getD there).toString
        entries := (e.fileName, Node.link target) :: entries
      | .dir =>
        if Scan.ignoredNames.contains e.fileName then
          let since := nanoseconds (← e.path.metadata).modified
          entries := (e.fileName, Node.directory [] since) :: entries
        else if let some n ← loadNode wanted there then entries := (e.fileName, n) :: entries
      | _ =>
        if let some n ← loadNode wanted there then entries := (e.fileName, n) :: entries
    return some (.directory entries (nanoseconds info.modified))
  | _ => return none

/-- Puts a node at a place and makes the directories above it. -/
def install (fs : FileSystem) (place : Location) (n : Node) : FileSystem :=
  match fs.makeDirectories (FileSystem.ofLocation place.dropLast) with
  | .ok fs => fs.put place n
  | .error _ => fs

/-- Adds what stands at a path to the tree. A path that leads through links becomes one link. -/
def addPath (wanted : Location → Bool) (fs : FileSystem) (p : Path) : IO FileSystem := do
  let named := FileSystem.collapse (FileSystem.startOf fs.workDir p ++ p.parts)
  match ← realPlace? named.toString with
  | none => return fs
  | some place =>
    match ← loadNode wanted place with
    | none => return fs
    | some n =>
      let fs := install fs place n
      return if named = place then fs else install fs named (.link place.toString)

/-- The artifact that a command may change, for a command on a directory. -/
def artifactPath? (env : Surroundings) (fs : FileSystem) (c : Command) : Option Path :=
  match (repoPlace env c.target).run.run ⟨fs, ""⟩, (loadSettings env).run.run ⟨fs, ""⟩ with
  | (.ok root, _), (.ok settings, _) => some (settings.cachePath (FileSystem.ofLocation root))
  | _, _ => none

/-- The tree that a command works on, and the artifact in it. -/
def loadFor (env : Surroundings) (workDir : Location) (c : Command) :
    IO (FileSystem × Option Path) := do
  let fs ← addPath (fun _ => true) ⟨.directory [] 0, workDir⟩ (.ofString envFileName)
  let selection := match (loadSettings env).run.run ⟨fs, ""⟩ with
    | (.ok settings, _) => settings.selection
    | _ => Settings.defaults.selection
  match (Path.ofString c.target).expandHome? env.home with
  | none => return (fs, none)
  | some target =>
    let root := FileSystem.collapse (FileSystem.startOf workDir target ++ target.parts)
    let wanted (l : Location) : Bool :=
      l.length ≤ root.length || selection.admits (String.intercalate "/" (l.drop root.length))
    let fs ← addPath wanted fs target
    match artifactPath? env fs c with
    | none => return (fs, none)
    | some path => return (← addPath (fun _ => true) fs path, some path)

/-- Brings the artifact on the disk in line with the one in the tree. -/
def saveArtifact (before after : FileSystem) (path : Path) : IO Unit := do
  match before.read path, after.read path with
  | .ok old, .ok new => if old ≠ new then IO.FS.writeBinFile path.toString (ByteArray.mk new.toArray)
  | .error _, .ok new =>
    IO.FS.createDirAll path.parent.toString
    IO.FS.writeBinFile path.toString (ByteArray.mk new.toArray)
  | .ok _, .error _ => IO.FS.removeFile path.toString
  | .error _, .error _ => return ()

/-- The exit code of a command line that cannot be understood. -/
def misused : UInt32 := 2

/-- Reports a failure. -/
def report : CommandError → IO UInt32
  | .usage e => do
    IO.eprintln e.message
    return misused
  | .rejected message => do
    IO.eprintln message
    return misused
  | .settings _ => fail "The settings are not valid."
  | .markup e => fail e.message
  | .index (.build root cause) => fail (IndexFailure.buildMessage root cause)
  | .index (.parse cause) => fail cause
  | .index (.loop e) => fail e.message
  | .index (.files _) => fail "A file or directory is in the way, or missing."
  | .noHome => fail PathLoop.tilde.message
where
  fail (message : String) : IO UInt32 := do
    IO.eprintln message
    return 1

end EndpointIndex.Program

open EndpointIndex EndpointIndex.CommandLine EndpointIndex.Program in
def main (words : List String) : IO UInt32 := do
  let workDir := (Path.ofString (← IO.currentDir).toString).parts
  let env : Surroundings := ⟨← environment, ← currentTime⟩
  let (files, artifact) ← match Request.ofWords words with
    | .ok (.run c) => loadFor env workDir c
    | _ => pure (⟨.directory [] 0, workDir⟩, none)
  let (outcome, terminal) := execute env files words
  IO.print terminal.output
  if let some path := artifact then saveArtifact files terminal.files path
  match outcome with
  | .ok code => return code.toUInt32
  | .error e => Program.report e
