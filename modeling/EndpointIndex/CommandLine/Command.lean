import EndpointIndex.CommandLine.Options
import EndpointIndex.Listing
import EndpointIndex.Text.Category
import EndpointIndex.Text.Numeral

/-!
# Commands

What the program can be asked to do, and how that is written on a command line.
-/

namespace EndpointIndex.CommandLine

inductive Command where
  | index (repo : String) (rebuild noCache : Bool)
  | search (repo query : String) (limit : Int) (format : String)
  | list (repo : String) (filter : Listing.Filter) (limit : Int) (format : String)
  | scanFile (file format : String)
  | clearCache (repo : String)
  deriving DecidableEq, Repr

/-- The directory or file that a command is about. -/
def Command.target : Command → String
  | index repo _ _ => repo
  | search repo _ _ _ => repo
  | list repo _ _ _ => repo
  | scanFile file _ => file
  | clearCache repo => repo

/-- A command line asks for a command or for help. -/
inductive Request where
  | help
  | run (command : Command)
  deriving DecidableEq, Repr

def helpName : String := "--help"

def helpSpec : OptionSpec := .flag helpName none

/-- The options before the command. -/
def commonSpecs : List OptionSpec := [.flag "--verbose" (some 'v'), helpSpec]

/-- The integer that an option gives. -/
def intValue (w : Words) (name : String) (default : Int) : Except UsageError Int :=
  match w.value? name with
  | none => .ok default
  | some text =>
    match Text.ofField text.toList with
    | .ok i => .ok i
    | .error _ => .error (.notInteger name)

/-- The arguments with the given names. Missing ones are noticed before surplus ones. -/
def takeArguments : List String → List String → Except UsageError (List String)
  | [], [] => .ok []
  | [], surplus => .error (.surplus surplus)
  | name :: _, [] => .error (.missingArgument name)
  | _ :: names, a :: rest => (takeArguments names rest).map (a :: ·)

def formatValue (w : Words) : String := (w.value? "--format").getD "table"

/-- One command's way of being written. -/
structure CommandSpec where
  name : String
  options : List OptionSpec
  arguments : List String
  /-- Reads the options and says what the arguments make of them. -/
  read : Words → Except UsageError (List String → Option Command)

def indexSpec : CommandSpec where
  name := "index"
  options := [.flag "--rebuild" none, .flag "--no-cache" none, helpSpec]
  arguments := ["REPO"]
  read w := .ok fun
    | [repo] => some (.index repo (w.has "--rebuild") (w.has "--no-cache"))
    | _ => none

def searchSpec : CommandSpec where
  name := "search"
  options := [.valued "--limit", .valued "--format", helpSpec]
  arguments := ["REPO", "QUERY"]
  read w := do
    let limit ← intValue w "--limit" 50
    return fun
      | [repo, query] => some (.search repo query limit (formatValue w))
      | _ => none

def listSpec : CommandSpec where
  name := "list"
  options := [.valued "--method", .valued "--path-contains", .valued "--class-contains",
    .valued "--limit", .valued "--format", helpSpec]
  arguments := ["REPO"]
  read w := do
    let limit ← intValue w "--limit" 200
    let filter : Listing.Filter :=
      ⟨w.value? "--method", w.value? "--path-contains", w.value? "--class-contains"⟩
    return fun
      | [repo] => some (.list repo filter limit (formatValue w))
      | _ => none

def scanFileSpec : CommandSpec where
  name := "scan-file"
  options := [.valued "--format", helpSpec]
  arguments := ["FILE"]
  read w := .ok fun
    | [file] => some (.scanFile file (formatValue w))
    | _ => none

def clearCacheSpec : CommandSpec where
  name := "clear-cache"
  options := [helpSpec]
  arguments := ["REPO"]
  read _ := .ok fun
    | [repo] => some (.clearCache repo)
    | _ => none

def commandSpecs : List CommandSpec :=
  [indexSpec, searchSpec, listSpec, scanFileSpec, clearCacheSpec]

/-- Reads the words after a command's name. -/
def CommandSpec.request (spec : CommandSpec) (words : List String) : Except UsageError Request := do
  let w ← sortWords spec.options true words
  if w.has helpName then return .help
  let make ← spec.read w
  let arguments ← takeArguments spec.arguments w.arguments
  match make arguments with
  | some command => return .run command
  | none => throw (.surplus arguments)

/-- A name that does not start like a word is taken for an option once more. -/
def unknownName (name : String) (words : List String) : UsageError :=
  match name.toList with
  | c :: _ =>
    if Text.isWord c && c ≠ '_' then .unknownCommand name
    else
      match sortWords commonSpecs false words with
      | .error e => e
      | .ok _ => .unknownCommand name
  | [] => .unknownCommand name

/-- What a command line asks for. -/
def Request.ofWords (words : List String) : Except UsageError Request := do
  if words.isEmpty then throw .noArguments
  let w ← sortWords commonSpecs false words
  if w.has helpName then return .help
  match w.arguments with
  | [] => throw .missingCommand
  | name :: rest =>
    match commandSpecs.find? (·.name == name) with
    | some spec => spec.request rest
    | none => throw (unknownName name (name :: rest))

end EndpointIndex.CommandLine
