import EndpointIndex.Endpoint.Extract
import EndpointIndex.Reader.Pattern
import EndpointIndex.Reader.Structural
import EndpointIndex.Text.Utf8

/-!
# Reading the endpoints of a file

The pattern reader runs first, and its endpoints are the answer when it finds any. Otherwise the
grammar is tried. A text without any mapping keyword may be passed over at once. Main facts: a text
that is no candidate has no endpoints (`endpoints_of_not_candidate`), and the default readers never
fail (`endpoints_standard`).
-/

namespace EndpointIndex

inductive ReadError where
  /-- The text is not what the reader reads. -/
  | malformed
  /-- The reader itself broke down. -/
  | broken (cause : String)
  deriving DecidableEq, Repr

/-- Turns a source text into the types it declares. -/
abbrev Reader := List Char → Except ReadError (List Declaration)

namespace Reader

def pattern : Reader := fun text => .ok (Pattern.readTypes text)

def structural : Reader := fun text =>
  match Structural.readTypes? text with
  | some types => .ok types
  | none => .error .malformed

end Reader

/-- How endpoints are read from a text. -/
structure ReadingPlan where
  prefilter : Bool
  primary : Reader
  fallback : Reader

namespace ReadingPlan

def standard (prefilter : Bool) : ReadingPlan := ⟨prefilter, Reader.pattern, Reader.structural⟩

def isCandidate (plan : ReadingPlan) (text : List Char) : Bool :=
  !plan.prefilter || mappingKeywords.any fun k => Text.occursIn k.toList text

/-- The endpoints that the first reader finds; a failure counts as finding none. -/
def primaryEndpoints (plan : ReadingPlan) (file : String) (text : List Char) : List Endpoint :=
  match plan.primary text with
  | .ok types => extractEndpoints file types
  | .error _ => []

/-- The endpoints that the second reader finds. A text that it cannot read has none. -/
def fallbackEndpoints (plan : ReadingPlan) (file : String) (text : List Char) :
    Except ReadError (List Endpoint) :=
  match plan.fallback text with
  | .ok types => .ok (extractEndpoints file types)
  | .error .malformed => .ok []
  | .error (.broken cause) => .error (.broken cause)

def endpoints (plan : ReadingPlan) (file : String) (text : List Char) :
    Except ReadError (List Endpoint) :=
  if plan.isCandidate text then
    match plan.primaryEndpoints file text with
    -- the first reader has found none, or has failed
    | [] => plan.fallbackEndpoints file text
    | found => .ok found
  else .ok []

/-- The endpoints of a file with the given contents; bytes that are no UTF-8 are left out. -/
def endpointsOfBytes (plan : ReadingPlan) (file : String) (bytes : List UInt8) :
    Except ReadError (List Endpoint) :=
  plan.endpoints file (Text.Utf8.decodeLossy bytes)

theorem endpoints_of_not_candidate {plan : ReadingPlan} {file : String} {text : List Char}
    (h : plan.isCandidate text = false) : plan.endpoints file text = .ok [] := by
  simp [endpoints, h]

theorem endpoints_standard (prefilter : Bool) (file : String) (text : List Char) :
    ∃ found, (standard prefilter).endpoints file text = .ok found := by
  unfold endpoints
  split
  · split
    · unfold fallbackEndpoints
      simp only [standard, Reader.structural]
      cases Structural.readTypes? text <;> exact ⟨_, rfl⟩
    · exact ⟨_, rfl⟩
  · exact ⟨_, rfl⟩

end ReadingPlan

end EndpointIndex
