import EndpointIndex.Proofs.Endpoint.Place
import EndpointIndex.Proofs.Offset.Locate
import EndpointIndex.Proofs.Offset.Members

/-!
# Endpoints by offset

Both readers put together, with every text read by offset. Main fact: the default plan returns the
endpoints of any text, and so does the plan that stops at the first access outside a text and at the
first search for the partner of what is no bracket (`standard_safe`).
-/

namespace EndpointIndex

open Source

namespace ByOffset

/-- The declarations of a tree, located in the text that it was read from. -/
def located (text : List Char) (nodes : List Java.Node) : Except BracketError (List Declaration) := do
  let src := glyphsFrom 0 text (← maskFrom text text 0)
  let (declarations, _) ← declareAll src (.ofText text) 0 nodes
  return declarations

/-- The endpoints of a text. A text that is no Java has none. -/
def endpoints (prefilter : Bool) (file : String) (text : List Char) : Except BracketError (List Endpoint) :=
  if (ReadingPlan.standard prefilter).isCandidate text then do
    match extractEndpoints file (← readTypes text) with
    | [] =>
      match Java.parse? text with
      | some nodes => return extractEndpoints file (← located text nodes)
      | none => return []
    | found => return found
  else return []

theorem located_eq (text : List Char) (nodes : List Java.Node) :
    located text nodes = .ok (Structural.declareAll (.ofText text) (.start text) nodes).1 := by
  obtain ⟨ds, j, hds, -, hplace⟩ := declareAll_eq text (Nat.zero_le _) nodes
  rw [located, maskFrom_zero, ok_bind, start_eq, hplace]
  show declareAll (glyphs text) (.ofText text) 0 nodes >>= _ = _
  rw [hds]
  rfl

/-- What the second reader comes to: a text that is no Java has no endpoints. -/
theorem fallbackEndpoints_eq (prefilter : Bool) (file : String) (text : List Char) :
    (ReadingPlan.standard prefilter).fallbackEndpoints file text =
      .ok (((Java.parse? text).map fun nodes =>
        extractEndpoints file (Structural.declareAll (.ofText text) (.start text) nodes).1).getD []) := by
  unfold ReadingPlan.fallbackEndpoints
  simp only [ReadingPlan.standard, Reader.structural, Structural.readTypes?]
  cases Java.parse? text <;> rfl

/-- The two plans agree. -/
theorem endpoints_eq {prefilter : Bool} {file : String} {text : List Char} {found : List Endpoint}
    (h : (ReadingPlan.standard prefilter).endpoints file text = .ok found) :
    endpoints prefilter file text = .ok found := by
  unfold ReadingPlan.endpoints at h
  unfold endpoints
  split at h
  · rename_i hcandidate
    have hprimary : (ReadingPlan.standard prefilter).primaryEndpoints file text =
        extractEndpoints file (Pattern.readTypes text) := rfl
    rw [hprimary] at h
    rw [if_pos hcandidate, readTypes_eq, ok_bind]
    cases hfound : extractEndpoints file (Pattern.readTypes text) with
    | cons e es =>
      rw [hfound] at h
      cases h
      rfl
    | nil =>
      -- nothing was found, so the second reader is asked
      rw [hfound] at h
      dsimp only at h
      rw [fallbackEndpoints_eq] at h
      dsimp only
      cases hparse : Java.parse? text with
      | none =>
        rw [hparse] at h
        cases h
        rfl
      | some nodes =>
        rw [hparse] at h
        cases h
        dsimp only
        rw [located_eq]
        rfl
  · rename_i hcandidate
    cases h
    rw [if_neg hcandidate]
    rfl

end ByOffset

/-- However malformed a text is, the default plan returns its endpoints, each with one of the nine verbs.
Reading by offset comes to the same: neither the pattern reader nor the search for the places of a tree,
whichever it is, reads outside the text or asks for the partner of what is no bracket or stands at its
limit, and every place has a line. The one way for the second reader to fail is that the text is not what
it reads, and then there are no endpoints. -/
theorem ReadingPlan.standard_safe (prefilter : Bool) (file : String) (text : List Char) :
    ∃ found, (standard prefilter).endpoints file text = .ok found ∧
      ByOffset.endpoints prefilter file text = .ok found ∧
      (∀ e ∈ found,
        e.verb.name ∈ ["GET", "POST", "PUT", "PATCH", "DELETE", "OPTIONS", "HEAD", "TRACE", "ANY"]) ∧
      ByOffset.readTypes text = .ok (Pattern.readTypes text) ∧
      (∀ nodes, ByOffset.located text nodes =
        .ok (Structural.declareAll (.ofText text) (.start text) nodes).1) ∧
      (∀ offset, ∃ start,
        (LineTable.ofText text).starts[((LineTable.ofText text).position offset).line - 1]? = some start) ∧
      ∀ error, Reader.structural text = .error error →
        error = .malformed ∧ (standard prefilter).fallbackEndpoints file text = .ok [] := by
  obtain ⟨found, hfound⟩ := endpoints_standard prefilter file text
  refine ⟨found, hfound, ByOffset.endpoints_eq hfound, fun e _ => e.verb.name_mem, ByOffset.readTypes_eq text,
    ByOffset.located_eq text, LineTable.exists_line_start text, ?_⟩
  intro error herror
  unfold Reader.structural Structural.readTypes? at herror
  rw [ByOffset.fallbackEndpoints_eq]
  cases hparse : Java.parse? text with
  | none =>
    rw [hparse] at herror
    cases herror
    exact ⟨rfl, rfl⟩
  | some nodes =>
    rw [hparse] at herror
    cases herror

end EndpointIndex
