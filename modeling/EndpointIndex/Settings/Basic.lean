import EndpointIndex.Json.Checked
import EndpointIndex.Json.Reader
import EndpointIndex.Path
import EndpointIndex.Scan
import EndpointIndex.Settings.EnvFile
import EndpointIndex.Text.Case

/-!
# Settings

What can be configured, and where it comes from: given values win over the variables of the
environment, and those over a file of variables. Lists are written there as JSON.
-/

namespace EndpointIndex

structure Settings where
  includeGlobs : List String
  excludeGlobs : List String
  concurrencyLimit : Nat
  concurrencyMultiplier : Nat
  maxConcurrency : Nat
  enableCache : Bool
  usePrefilter : Bool
  cacheDir : Option Path
  cacheFileName : String
  deriving DecidableEq, Repr

inductive SettingsError where
  /-- A list that is no JSON. -/
  | unreadable (field : String)
  | faulty (faults : List Fault)
  deriving DecidableEq, Repr

namespace Settings

def defaults : Settings where
  includeGlobs := ["**/*.java"]
  excludeGlobs := ["**/node_modules/**", "**/target/**", "**/build/**"]
  concurrencyLimit := 20
  concurrencyMultiplier := 3
  maxConcurrency := 100
  enableCache := true
  usePrefilter := true
  cacheDir := none
  cacheFileName := "endpoints-cache.json"

/-- How many files are examined between two looks at a request to stop. -/
def batchSize (s : Settings) : Nat :=
  max 1 (min (s.concurrencyLimit * s.concurrencyMultiplier) s.maxConcurrency)

theorem batchSize_pos (s : Settings) : 0 < s.batchSize := by
  simp only [batchSize]
  omega

/-- The directory of the cache below a root. -/
def cacheDirName : String := ".routefinder"

def cachePath (s : Settings) (root : Path) : Path :=
  (s.cacheDir.getD (root.join (.ofString cacheDirName))).join (.ofString s.cacheFileName)

def selection (s : Settings) : Scan.Selection := ⟨s.includeGlobs, s.excludeGlobs⟩

/-! ## Kinds of values -/

/-- The words for a truth value, in lower case. -/
def truthWords : List (String × Bool) :=
  [("0", false), ("off", false), ("f", false), ("false", false), ("n", false), ("no", false),
   ("1", true), ("on", true), ("t", true), ("true", true), ("y", true), ("yes", true)]

def asciiLower (s : String) : String := String.ofList (s.toList.map Char.toLower)

def checkWholeBool (i : Int) : Checked Bool :=
  if i = 0 then .ok false else if i = 1 then .ok true else .misfit .unreadableBool

/-- A number that is not whole, or too large for one, is no truth value at all. -/
def checkBool : Json → Checked Bool
  | .bool b => .ok b
  | .int i =>
    if -Json.wholeBound ≤ i && i < Json.wholeBound then checkWholeBool i else .misfit .notBool
  | .double x =>
    match x.toInt? with
    | some i =>
      if -Json.wholeBound < i && i < Json.wholeBound then checkWholeBool i else .misfit .notBool
    | none => .misfit .notBool
  | .string s =>
    match truthWords.find? (·.1 == asciiLower s) with
    | some (_, b) => .ok b
    | none => .misfit .unreadableBool
  | _ => .misfit .notBool

/-- An integer from one upwards. -/
def checkPositive (v : Json) : Checked Nat :=
  match v.checkInt with
  | .ok i => if 1 ≤ i then .ok i.toNat else .misfit .tooSmall
  | .faulty fs => .faulty fs

def checkPath : Json → Checked (Option Path)
  | .null => .ok none
  | .string s => .ok (some (.ofString s))
  | _ => .misfit .notPath

def checkGlobs : Json → Checked (List String) := Json.checkList Json.checkString

/-- The fields in the order of their declaration. -/
def fields (r : Json) : Checked Settings :=
  let field {α : Type} (name : String) (default : α) (check : Json → Checked α) : Checked α :=
    Json.withDefault ⟨name, name⟩ default check r
  Settings.mk
    <$> field "include_globs" defaults.includeGlobs checkGlobs
    <*> field "exclude_globs" defaults.excludeGlobs checkGlobs
    <*> field "concurrency_limit" defaults.concurrencyLimit checkPositive
    <*> field "concurrency_multiplier" defaults.concurrencyMultiplier checkPositive
    <*> field "max_concurrency" defaults.maxConcurrency checkPositive
    <*> field "enable_cache" defaults.enableCache checkBool
    <*> field "use_prefilter" defaults.usePrefilter checkBool
    <*> field "cache_dir" defaults.cacheDir checkPath
    <*> field "cache_file_name" defaults.cacheFileName Json.checkString

/-! ## Variables -/

/-- The fields that are written as JSON in a variable. -/
def listFields : List String := ["include_globs", "exclude_globs"]

def plainFields : List String :=
  ["concurrency_limit", "concurrency_multiplier", "max_concurrency", "enable_cache", "use_prefilter",
   "cache_dir", "cache_file_name"]

def fieldNames : List String := listFields ++ plainFields

/-- What the name of every variable starts with, in lower case. -/
def variableStart : String := "routefinder_"

/-- The value of a field's variable; the case of its name does not matter, and the last one counts. -/
def setting? (bindings : List EnvFile.Binding) (field : String) : Option String :=
  ((bindings.reverse.find? fun p => Text.lower p.1 == variableStart ++ field).bind Prod.snd)

/-- The members that variables set. A list that reads as null is not set. -/
def ofVariables (bindings : List EnvFile.Binding) :
    List String → Except SettingsError (List (String × Json))
  | [] => .ok []
  | field :: rest => do
    let others ← ofVariables bindings rest
    match setting? bindings field with
    | none => return others
    | some text =>
      if listFields.contains field then
        match Json.parse? text with
        | none => throw (.unreadable field)
        | some .null => return others
        | some v => return (field, v) :: others
      else return (field, .string text) :: others

/-- Where settings come from. -/
structure Sources where
  given : List (String × Json)
  environment : List (String × String)
  /-- The text of the file of variables, if there is one. -/
  envFile : Option (List Char)

/-- The settings that the sources yield. Of two members with one name the first counts. -/
def load (s : Sources) : Except SettingsError Settings := do
  let outer ← ofVariables (s.environment.map fun p => (p.1, some p.2)) fieldNames
  let inner ← ofVariables (EnvFile.resolved s.environment (s.envFile.getD [])) fieldNames
  match fields (.object (s.given ++ outer ++ inner)) with
  | .ok settings => return settings
  | .faulty faults => throw (.faulty faults)

end Settings

end EndpointIndex
