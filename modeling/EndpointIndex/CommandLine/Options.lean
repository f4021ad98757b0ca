/-!
# Options

How words of a command line divide into options and arguments. An option is a word that starts with
a hyphen; its value follows after an equals sign or as the next word, whatever that looks like. Two
hyphens alone end the options.
-/

namespace EndpointIndex.CommandLine

structure OptionSpec where
  /-- The long name, with its hyphens. -/
  name : String
  /-- The letter of a flag's short name. -/
  letter : Option Char
  takesValue : Bool
  deriving DecidableEq, Repr

def OptionSpec.flag (name : String) (letter : Option Char) : OptionSpec := ⟨name, letter, false⟩

def OptionSpec.valued (name : String) : OptionSpec := ⟨name, none, true⟩

/-- What is wrong with a command line. -/
inductive UsageError where
  | noArguments
  | missingCommand
  | unknownCommand (name : String)
  | unknownOption (name : String)
  | missingValue (option : String)
  | unexpectedValue (option : String)
  | missingArgument (name : String)
  | notInteger (option : String)
  | surplus (arguments : List String)
  deriving DecidableEq, Repr

namespace UsageError

def message : UsageError → String
  | noArguments => "Missing command."
  | missingCommand => "Missing command."
  | unknownCommand name => "No such command: " ++ name
  | unknownOption name => "No such option: " ++ name
  | missingValue option => "Option " ++ option ++ " requires an argument."
  | unexpectedValue option => "Option " ++ option ++ " does not take a value."
  | missingArgument name => "Missing argument: " ++ name
  | notInteger option => "Not a valid integer for " ++ option
  | surplus arguments => "Got unexpected extra arguments: " ++ String.intercalate " " arguments

end UsageError

/-- An option as it was given; a flag has no value. -/
structure Given where
  name : String
  value : Option String
  deriving DecidableEq, Repr

/-- The words of a command line, sorted out. -/
structure Words where
  options : List Given
  arguments : List String
  deriving DecidableEq, Repr

namespace Words

def addOptions (gs : List Given) (w : Words) : Words := { w with options := gs ++ w.options }

def addArgument (a : String) (w : Words) : Words := { w with arguments := a :: w.arguments }

def has (w : Words) (name : String) : Bool := w.options.any (·.name == name)

/-- The value of an option; the last one given counts. -/
def value? (w : Words) (name : String) : Option String :=
  (w.options.reverse.find? (·.name == name)).bind Given.value

end Words

/-- A single hyphen is no option. -/
def isOption (word : String) : Bool :=
  match word.toList with
  | '-' :: _ :: _ => true
  | _ => false

/-- A word up to its first equals sign, and what follows that. -/
def splitValue (word : String) : String × Option String :=
  let name := word.toList.takeWhile (· ≠ '=')
  match word.toList.drop name.length with
  | [] => (word, none)
  | _ :: value => (String.ofList name, some (String.ofList value))

/-- What a word that is an option comes to. -/
inductive Reading where
  | complete (options : List Given)
  | needsValue (name : String)

/-- The flags that letters stand for. -/
def readLetters (specs : List OptionSpec) : List Char → Except UsageError (List Given)
  | [] => .ok []
  | c :: rest =>
    match specs.find? (·.letter == some c) with
    | none => .error (.unknownOption (String.ofList ['-', c]))
    | some spec => (readLetters specs rest).map (⟨spec.name, none⟩ :: ·)

def readOption (specs : List OptionSpec) (word : String) : Except UsageError Reading :=
  let (name, value) := splitValue word
  match specs.find? (·.name == name) with
  | some spec =>
    match spec.takesValue, value with
    | true, some v => .ok (.complete [⟨name, some v⟩])
    | true, none => .ok (.needsValue name)
    | false, some _ => .error (.unexpectedValue name)
    | false, none => .ok (.complete [⟨name, none⟩])
  | none =>
    match word.toList with
    | '-' :: '-' :: _ => .error (.unknownOption name)
    | letters => (readLetters specs (letters.drop 1)).map .complete

/-- Sorts out the words of a command line. Unless options may stand between arguments, the first
argument ends them. -/
def sortWords (specs : List OptionSpec) (mixed : Bool) : List String → Except UsageError Words
  | [] => .ok ⟨[], []⟩
  | word :: rest =>
    if word = "--" then .ok ⟨[], rest⟩
    else if isOption word then
      match readOption specs word with
      | .error e => .error e
      | .ok (.complete options) => (sortWords specs mixed rest).map (Words.addOptions options)
      | .ok (.needsValue name) =>
        match rest with
        | [] => .error (.missingValue name)
        | value :: rest =>
          (sortWords specs mixed rest).map (Words.addOptions [⟨name, some value⟩])
    else if mixed then (sortWords specs mixed rest).map (Words.addArgument word)
    else .ok ⟨[], word :: rest⟩

/-- Words without a hyphen are arguments. -/
theorem sortWords_of_no_option {specs : List OptionSpec} {words : List String}
    (h : ∀ w ∈ words, isOption w = false ∧ w ≠ "--") :
    sortWords specs true words = .ok ⟨[], words⟩ := by
  induction words with
  | nil => rfl
  | cons w rest ih =>
    obtain ⟨ho, hd⟩ := h w (by simp)
    rw [sortWords, if_neg hd, if_neg (by simp [ho]), if_pos rfl,
      ih fun v hv => h v (List.mem_cons_of_mem _ hv)]
    rfl

end EndpointIndex.CommandLine
