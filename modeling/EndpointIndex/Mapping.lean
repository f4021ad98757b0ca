import EndpointIndex.Declaration.Values
import EndpointIndex.Text.Blank
import EndpointIndex.Text.Case
import EndpointIndex.Text.Occurs

/-!
# Mapping annotations

The annotations that make a type expose endpoints and a method answer requests, the path they carry
and the verb they imply. Names are compared without regard to case.
-/

namespace EndpointIndex

/-- The HTTP method of an endpoint; `any` stands for all of them. -/
inductive Verb where
  | get | post | put | patch | delete | options | head | trace | any
  deriving DecidableEq, Repr

namespace Verb

def name : Verb → String
  | get => "GET"
  | post => "POST"
  | put => "PUT"
  | patch => "PATCH"
  | delete => "DELETE"
  | options => "OPTIONS"
  | head => "HEAD"
  | trace => "TRACE"
  | any => "ANY"

def all : List Verb := [get, post, put, patch, delete, options, head, trace, any]

/-- The verb with exactly this name. -/
def ofName? (s : String) : Option Verb := all.find? (·.name == s)

/-- The verb, other than `any`, that a token spells in any case and with blanks around it. -/
def ofToken? (token : String) : Option Verb :=
  (ofName? (Text.upper (Text.strip token))).filter (· ≠ any)

theorem ofName?_name (v : Verb) : ofName? v.name = some v := by
  cases v <;> decide

end Verb

/-- What an annotation means for the index. -/
inductive MappingKind where
  | controller
  | client
  | requestMapping
  | verbMapping (verb : Verb)
  | other
  deriving DecidableEq, Repr

/-- Texts one of which a source that declares endpoints contains. -/
def mappingKeywords : List String :=
  ["@Controller", "@RestController", "@RequestMapping", "@GetMapping", "@PostMapping",
   "@PutMapping", "@DeleteMapping", "@PatchMapping", "@FeignClient"]

/-- The verbs of the annotations that name theirs. -/
def shorthandVerb? : String → Option Verb
  | "getmapping" => some .get
  | "postmapping" => some .post
  | "putmapping" => some .put
  | "deletemapping" => some .delete
  | "patchmapping" => some .patch
  | _ => none

/-- The meaning of an annotation with the given simple name in lower case. -/
def MappingKind.ofLowerName (name : String) : MappingKind :=
  match shorthandVerb? name with
  | some verb => .verbMapping verb
  | none =>
    match name with
    | "controller" => .controller
    | "restcontroller" => .controller
    | "feignclient" => .client
    | "requestmapping" => .requestMapping
    | _ => .other

namespace Annotation

/-- The part of the name after its last dot, trimmed. -/
def simpleName (a : Annotation) : String :=
  let tail := (a.name.toList.reverse.takeWhile (· ≠ '.')).reverse
  String.ofList (Text.trim tail)

def kind (a : Annotation) : MappingKind := .ofLowerName (Text.lower a.simpleName)

def isMapping (a : Annotation) : Bool :=
  match a.kind with
  | .requestMapping => true
  | .verbMapping _ => true
  | _ => false

/-- The path an annotation carries: its unnamed literal, or else its first `value` or `path`
argument that is a literal. -/
def path? (a : Annotation) : Option String :=
  match a.positional with
  | some (.literal text) => some text
  -- an unnamed value that is no literal does not stand in the way
  | _ => a.named.findSome? fun
    | ("value", .literal text) => some text
    | ("path", .literal text) => some text
    | _ => none

/-- The verb that a single value spells. -/
def valueVerb? : Value → Option Verb
  -- whatever the member is selected from
  | .reference _ member => Verb.ofToken? member
  | .literal text => Verb.ofToken? text
  | _ => none

/-- The verb of a `method` argument: that of the first value in source order that spells one. -/
def argumentVerb? : String × Value → Option Verb
  | ("method", value) =>
    (value.findFirst? (fun v => (valueVerb? v).isSome) Value.searchDepth).bind valueVerb?
  | _ => none

/-- The verb of a mapping: the one its name implies, else the first that a `method` argument
spells, else any. -/
def verb (a : Annotation) : Verb :=
  match shorthandVerb? (Text.lower a.simpleName) with
  | some v => v
  | none => (a.named.findSome? argumentVerb?).getD .any

end Annotation

end EndpointIndex
