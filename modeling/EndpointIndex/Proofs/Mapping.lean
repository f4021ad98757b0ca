import EndpointIndex.Mapping
import EndpointIndex.Proofs.Declaration.Values

/-!
# The verb of a mapping

The verb of an annotation without a verb in its name is the first one that is spelled within its `method`
arguments, in the order of the source and down to the depth of a search (`verb_sourceOrder`).
-/

namespace EndpointIndex

/-- The verbs that can be asked for. -/
def verbNames : List String := ["GET", "POST", "PUT", "DELETE", "PATCH", "HEAD", "OPTIONS", "TRACE"]

theorem Verb.ofToken?_name (token : String) :
    (ofToken? token).map name =
      if Text.upper (Text.strip token) ∈ verbNames then some (Text.upper (Text.strip token)) else none := by
  rw [ofToken?]
  generalize Text.upper (Text.strip token) = s
  split
  · rename_i hs
    simp only [verbNames, List.mem_cons, List.not_mem_nil, or_false] at hs
    rcases hs with rfl | rfl | rfl | rfl | rfl | rfl | rfl | rfl <;> decide
  · rename_i hs
    rw [Option.map_eq_none_iff, Option.filter_eq_none_iff]
    intro v hv
    have hname : v.name = s := by simpa using List.find?_some hv
    cases v <;> first | exact absurd (hname ▸ by decide) hs | simp

namespace Annotation

/-! ## Spelling -/

/-- The text of a value that may spell a verb: what a literal holds, or the last name of a reference. -/
def token? : Value → Option String
  | .literal text => some text
  | .reference _ member => some member
  | _ => none

/-- The name of the verb that a value spells, in any case and with blanks around it. -/
def spelled? (v : Value) : Option String :=
  ((token? v).map fun t => Text.upper (Text.strip t)).filter (· ∈ verbNames)

theorem valueVerb?_name (v : Value) : (valueVerb? v).map Verb.name = spelled? v := by
  have htoken (t : String) : (Verb.ofToken? t).map Verb.name =
      (some (Text.upper (Text.strip t))).filter (· ∈ verbNames) := by
    rw [Verb.ofToken?_name, Option.filter_some]
    simp only [decide_eq_true_eq]
  cases v with
  | literal text => exact htoken text
  | reference qualifier member => exact htoken member
  | _ => rfl

/-! ## The `method` arguments -/

theorem find?_bind_valueVerb? (vs : List Value) :
    (vs.find? fun v => (valueVerb? v).isSome).bind valueVerb? = vs.findSome? valueVerb? := by
  induction vs with
  | nil => rfl
  | cons v vs ih =>
    rw [List.find?_cons, List.findSome?_cons]
    cases hverb : valueVerb? v with
    | none => exact ih
    | some verb => exact hverb

theorem argumentVerb?_method (v : Value) :
    argumentVerb? ("method", v) = (Value.visit Value.searchDepth [(v, 0)]).findSome? valueVerb? :=
  find?_bind_valueVerb? _

theorem argumentVerb?_of_ne {key : String} (h : key ≠ "method") (v : Value) : argumentVerb? (key, v) = none := by
  unfold argumentVerb?
  split
  · rename_i heq
    cases heq
    exact absurd rfl h
  · rfl

/-- The values of the arguments that are named `method`, in the order of the source. -/
def methodArguments (a : Annotation) : List Value :=
  (a.named.filter fun p => p.1 = "method").map Prod.snd

/-- All values of the `method` arguments that a search comes to, in the order of the source. -/
def methodValues (a : Annotation) : List Value := a.methodArguments.flatMap (Value.within Value.searchDepth)

theorem findSome?_argumentVerb? (a : Annotation) :
    a.named.findSome? argumentVerb? = a.methodValues.findSome? valueVerb? := by
  rw [methodValues, methodArguments]
  induction a.named with
  | nil => rfl
  | cons p named ih =>
    obtain ⟨key, v⟩ := p
    by_cases hkey : key = "method"
    · subst hkey
      have hfound : argumentVerb? ("method", v) = (v.within Value.searchDepth).findSome? valueVerb? := by
        rw [← Value.upTo_eq_within (by decide)]
        exact argumentVerb?_method v
      rw [List.findSome?_cons, hfound, ih, List.filter_cons_of_pos (by simp), List.map_cons,
        List.flatMap_cons, List.findSome?_append]
      cases (v.within Value.searchDepth).findSome? valueVerb? <;> rfl
    · rw [List.findSome?_cons, argumentVerb?_of_ne hkey, List.filter_cons_of_neg (by simpa using hkey)]
      exact ih

theorem verb_name_of_not_shorthand {a : Annotation} (h : shorthandVerb? (Text.lower a.simpleName) = none) :
    a.verb.name = (a.methodValues.findSome? spelled?).getD "ANY" := by
  have hspelled : spelled? = Option.map Verb.name ∘ valueVerb? := by
    funext v
    exact (valueVerb?_name v).symm
  have hverb : a.verb = (a.methodValues.findSome? valueVerb?).getD .any := by
    unfold verb
    rw [h, findSome?_argumentVerb?]
  rw [hverb, hspelled, ← List.map_findSome?]
  cases a.methodValues.findSome? valueVerb? with
  | none => rfl
  | some found => rfl

/-- Down to any depth, the values nested in a value are visited once for each place, in the order of places.
A mapping whose name implies a verb has that one, whatever its arguments are; every other has the first
verb that is spelled within its `method` arguments, or else any. -/
theorem verb_sourceOrder (a : Annotation) :
    (∀ (bound : Int) (v : Value), 0 ≤ bound → Value.upTo bound v = v.within bound ∧
        (∀ place w, (place, w) ∈ v.nodes ↔ v.at? place = some w) ∧ v.nodes.Pairwise Value.Earlier) ∧
      (shorthandVerb? (Text.lower a.simpleName) = none →
        a.verb.name = (a.methodValues.findSome? spelled?).getD "ANY") ∧
      ∀ implied, shorthandVerb? (Text.lower a.simpleName) = some implied → ∀ positional named,
        verb { a with positional := positional, named := named } = implied := by
  refine ⟨fun bound v hbound => ?_, verb_name_of_not_shorthand, fun implied himplied positional named => ?_⟩
  · exact ⟨Value.upTo_eq_within hbound v, v.mem_nodes_iff, v.pairwise_nodes⟩
  · have hname : simpleName { a with positional := positional, named := named } = a.simpleName := rfl
    rw [verb, hname, himplied]

/-- An array whose first verb stands deeper than the next one. -/
def nestedVerbs : Value :=
  .array [.unresolved "f()", .array [.literal " post "], .reference (some "RequestMethod") "GET"]

/-- A mapping with `path` and `method` arguments. -/
def nestedMapping : Annotation :=
  ⟨"web.RequestMapping", none, [("path", .literal "PUT"), ("method", nestedVerbs)], none⟩

def shorthandMapping : Annotation := ⟨"DeleteMapping", none, [], none⟩

theorem verb_sourceOrder_nested :
    (shorthandVerb? (Text.lower nestedMapping.simpleName) = none ∧ nestedMapping.verb.name = "POST") ∧
      (0 ≤ (1 : Int) ∧ Value.upTo 1 nestedVerbs =
        [nestedVerbs, .unresolved "f()", .array [.literal " post "], .reference (some "RequestMethod") "GET"]) ∧
      shorthandVerb? (Text.lower shorthandMapping.simpleName) = some .delete ∧
        verb { shorthandMapping with positional := none, named := nestedMapping.named } = .delete := by
  have hnested : shorthandVerb? (Text.lower nestedMapping.simpleName) = none := by decide +kernel
  have hshorthand : shorthandVerb? (Text.lower shorthandMapping.simpleName) = some .delete := by decide +kernel
  have hspelled : (nestedMapping.methodValues.findSome? spelled?).getD "ANY" = "POST" := by decide +kernel
  have hwithin : nestedVerbs.within 1 =
      [nestedVerbs, .unresolved "f()", .array [.literal " post "], .reference (some "RequestMethod") "GET"] := rfl
  obtain ⟨hvalues, hverb, -⟩ := verb_sourceOrder nestedMapping
  refine ⟨⟨hnested, (hverb hnested).trans hspelled⟩, ⟨by decide, ?_⟩, hshorthand, ?_⟩
  · exact (hvalues 1 nestedVerbs (by decide)).1.trans hwithin
  · exact (verb_sourceOrder shorthandMapping).2.2 .delete hshorthand none nestedMapping.named

end Annotation

end EndpointIndex
