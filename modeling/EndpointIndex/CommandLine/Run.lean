import EndpointIndex.CommandLine.Command
import EndpointIndex.Index.Update

/-!
# Running commands

A command reads settings, works on an index over a file system and prints. What it has printed and
changed before it fails stays.
-/

namespace EndpointIndex.CommandLine

inductive CommandError where
  | usage (e : UsageError)
  /-- A parameter that does not fit what is there. -/
  | rejected (message : String)
  | settings (e : SettingsError)
  | markup (e : Console.MarkupError)
  | index (e : IndexFailure)
  /-- A path starts at a home directory that is not known. -/
  | noHome

/-- What a command finds around it. -/
structure Surroundings where
  environment : List (String × String)
  /-- The time, in milliseconds. -/
  now : Int

/-- What a command changes. -/
structure Terminal where
  files : FileSystem
  output : String

abbrev CommandM := ExceptT CommandError (StateM Terminal)

/-- How many cells a line of the output has. -/
def lineWidth : Nat := 400

def printLines (ls : List (List Char)) : CommandM Unit :=
  modify fun t => { t with output := t.output ++ String.ofList (Console.endLines ls) }

/-- Prints marked-up text and ends the line. -/
def print (markup : String) : CommandM Unit :=
  match Console.Markup.lay ⟨lineWidth, true, .fold, false⟩ markup with
  | .error e => throw (.markup e)
  | .ok ls => printLines ls

/-- Prints text as it is and ends the line. -/
def printPlain (text : String) : CommandM Unit :=
  modify fun t => { t with output := t.output ++ text ++ "\n" }

def printTable (table : Console.Table) : CommandM Unit :=
  match table.render lineWidth with
  | .error e => throw (.markup e)
  | .ok ls => printLines ls

/-! ## Paths and settings -/

/-- The home directory as a path, unless its name begins with a tilde itself. -/
def homePath? (home : String) : Option Path :=
  match home.toList with
  | '~' :: _ => none
  | name => some (.ofString (if name.all (· = '/') then "/" else home))

/-- The home directory that is known to a command. -/
def Surroundings.home (env : Surroundings) : Option Path :=
  (env.environment.lookup "HOME").bind homePath?

/-- The place that a word of the command line names. -/
def placeOf (env : Surroundings) (word : String) : CommandM Location := do
  match (Path.ofString word).expandHome? env.home with
  | none => throw .noHome
  | some p =>
    match (← get).files.resolve p with
    | .ok l => return l
    | .error e => throw (.index (.loop (.links e)))

/-- The directory that is to be indexed. -/
def repoPlace (env : Surroundings) (repo : String) : CommandM Location := do
  let l ← placeOf env repo
  let fs := (← get).files
  if !fs.exists? (FileSystem.ofLocation l) then
    throw (.rejected ("Repo path does not exist: " ++ l.toString))
  if !fs.isDirectory (FileSystem.ofLocation l) then
    throw (.rejected ("Repo path is not a directory: " ++ l.toString))
  return l

/-- The file of variables in the working directory. -/
def envFileName : String := ".env"

def loadSettings (env : Surroundings) : CommandM Settings := do
  let fs := (← get).files
  let envFile := (fs.read (.ofString envFileName)).toOption.map Text.Utf8.decodeLossy
  match Settings.load ⟨[], env.environment, envFile⟩ with
  | .ok s => return s
  | .error e => throw (.settings e)

/-! ## Indexes -/

/-- An operation on an index, which may change files. -/
def onSession {α : Type} (s : Session) (op : Session → Except IndexFailure α × Session) :
    CommandM (Except IndexFailure α × Session) := do
  let (r, s) := op { s with files := (← get).files }
  modify fun t => { t with files := s.files }
  return (r, s)

def openIndex (env : Surroundings) (c : IndexConfig) : CommandM Session := do
  return .start c (← get).files env.home

/-- Builds the index. A build that fails is reported, and there is no result. -/
def runBuild (env : Surroundings) (c : IndexConfig) (s : Session) (rebuild : Bool) :
    CommandM (Option (BuildReport × Session)) := do
  let (r, s) ← onSession s fun s =>
    if rebuild then s.rebuild c .none env.now else s.build c .none env.now none
  match r with
  | .ok report => return some (report, s)
  | .error (.build root cause) =>
    print ("[bold red]Index build failed:[/bold red] " ++ IndexFailure.buildMessage root cause)
    return none
  | .error e => throw (.index e)

/-! ## Printing endpoints -/

def formatMessage : String := "format must be one of: table, json"

def printEndpoints (root : Location) (endpoints : List Endpoint) (format : String) (limit : Int) :
    CommandM Unit := do
  let rows := Listing.cut limit endpoints
  match Listing.Format.ofText? format with
  | none => throw (.rejected formatMessage)
  | some .json => printPlain (Listing.json rows).pretty
  | some .table =>
    printTable (Listing.table (FileSystem.ofLocation root) rows)
    if limit < endpoints.length then
      print ("  … and " ++ toString ((endpoints.length : Int) - limit) ++ " more")

/-- Whether a heading goes before the table. -/
def isTable (format : String) : Bool := Listing.Format.ofText? format == some .table

/-! ## The commands -/

/-- The exit code of a command that did its work. -/
def success : Nat := 0

/-- The exit code after a build that failed. -/
def buildFailed : Nat := 1

def runIndex (env : Surroundings) (repo : String) (rebuild noCache : Bool) : CommandM Nat := do
  let root ← repoPlace env repo
  let settings ← loadSettings env
  let settings := if noCache then { settings with enableCache := false } else settings
  let c := IndexConfig.standard root settings
  match ← runBuild env c (← openIndex env c) rebuild with
  | none => return buildFailed
  | some (r, _) =>
    print ("[bold green]routefinder[/bold green] index: " ++ root.toString)
    print ("Java files scanned: " ++ toString r.filesTotal)
    print ("Parsed: " ++ toString r.tally.parsed ++ "  Cached: " ++ toString r.tally.cached
      ++ "  Removed: " ++ toString r.tally.removed)
    print ("Endpoints found: [bold]" ++ toString r.totalEndpoints ++ "[/bold] in "
      ++ toString r.indexedFiles ++ " files")
    if settings.enableCache then print ("Cache: " ++ c.cachePath.toString)
    print ""
    print "Tip: run [bold]routefinder search <repo> <query>[/bold] to find an endpoint."
    return success

def runSearch (env : Surroundings) (repo query : String) (limit : Int) (format : String) :
    CommandM Nat := do
  let root ← repoPlace env repo
  let c := IndexConfig.standard root (← loadSettings env)
  match ← runBuild env c (← openIndex env c) false with
  | none => return buildFailed
  | some (_, s) =>
    let found := s.search query
    if found.isEmpty then print ("No endpoints match [bold]" ++ query ++ "[/bold]")
    else printEndpoints root found format limit
    return success

/-- Prints the endpoints of an index that a filter admits. -/
def printIndex (root : Location) (filter : Listing.Filter) (limit : Int) (format : String)
    (s : Session) : CommandM Nat := do
  let rows := Listing.select filter s.allEndpoints
  if isTable format then
    print ("[bold]Endpoints:[/bold] " ++ toString rows.length ++ " (showing up to "
      ++ toString limit ++ ")")
  printEndpoints root rows format limit
  return success

def runList (env : Surroundings) (repo : String) (filter : Listing.Filter) (limit : Int)
    (format : String) : CommandM Nat := do
  let root ← repoPlace env repo
  let c := IndexConfig.standard root (← loadSettings env)
  match ← runBuild env c (← openIndex env c) false with
  | none => return buildFailed
  | some (_, s) => printIndex root filter limit format s

def runScanFile (env : Surroundings) (file format : String) : CommandM Nat := do
  let place ← placeOf env file
  if !(← get).files.isFile (FileSystem.ofLocation place) then
    throw (.rejected ("Not a file: " ++ place.toString))
  let settings ← loadSettings env
  let root := place.dropLast
  let c := IndexConfig.standard root { settings with enableCache := false }
  let (r, s) ← onSession (← openIndex env c) fun s => s.update c .none place.toString
  match r with
  | .error e => throw (.index e)
  | .ok count =>
    match s.endpointsOf place.toString with
    | .error e => throw (.index e)
    | .ok found =>
      let endpoints := found.getD []
      if isTable format then
        print ("[bold]" ++ place.getLast?.getD "" ++ ":[/bold] " ++ toString (count.getD 0)
          ++ " endpoints")
      printEndpoints root endpoints format (max 1 endpoints.length)
      return success

def runClearCache (env : Surroundings) (repo : String) : CommandM Nat := do
  let root ← repoPlace env repo
  let settings ← loadSettings env
  let path := settings.cachePath (FileSystem.ofLocation root)
  let fs := (← get).files
  match (Cache.new (some path)).deleteArtifact fs env.now with
  | .error e => throw (.index (.files e))
  | .ok fs' =>
    modify fun t => { t with files := fs' }
    if fs.exists? path then print ("[bold green]Deleted[/bold green] " ++ path.toString)
    else print ("No cache at " ++ path.toString)
    return success

def Command.run (env : Surroundings) : Command → CommandM Nat
  | .index repo rebuild noCache => runIndex env repo rebuild noCache
  | .search repo query limit format => runSearch env repo query limit format
  | .list repo filter limit format => runList env repo filter limit format
  | .scanFile file format => runScanFile env file format
  | .clearCache repo => runClearCache env repo

/-- The commands and their arguments. -/
def usageText : String :=
  String.intercalate "\n" ("Usage: routefinder [--verbose] COMMAND" ::
    commandSpecs.map fun s => "  " ++ String.intercalate " " (s.name :: s.arguments))

/-- Does what the words of a command line ask for, and gives the exit code. -/
def runWords (env : Surroundings) (words : List String) : CommandM Nat :=
  match Request.ofWords words with
  | .error e => throw (.usage e)
  | .ok .help => do
    printPlain usageText
    return success
  | .ok (.run command) => command.run env

/-- The outcome of a command line over a file system, what it printed and the changed files. -/
def execute (env : Surroundings) (files : FileSystem) (words : List String) :
    Except CommandError Nat × Terminal :=
  (runWords env words).run ⟨files, ""⟩

end EndpointIndex.CommandLine
