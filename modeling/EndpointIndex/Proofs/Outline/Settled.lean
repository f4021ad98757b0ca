import EndpointIndex.Proofs.Endpoint.Unplaced
import EndpointIndex.Proofs.Mapping
import EndpointIndex.Proofs.Outline.Elements
import EndpointIndex.Reader.Structural

/-!
# Values as the grammar reports them

The grammar reports braces around nothing as no value, where they stand alone, and as an unknown value
elsewhere. Everything else is reported as it was meant (`annotation_mark`), and for endpoints the
difference means nothing (`Annotation.Faithful.settled`).
-/

namespace EndpointIndex

open Source

/-! ## Empty braces -/

mutual

/-- A value as the grammar reports it. -/
def Value.settled : Value → Value
  | .literal text => .literal text
  | .reference qualifier member => .reference qualifier member
  | .array [] => .unresolved Structural.emptyArrayText
  | .array (v :: vs) => .array (v.settled :: settledAll vs)
  | .unresolved text => .unresolved text

def Value.settledAll : List Value → List Value
  | [] => []
  | v :: vs => v.settled :: settledAll vs

end

namespace Value

theorem settledAll_eq_map (vs : List Value) : settledAll vs = vs.map settled := by
  induction vs with
  | nil => rfl
  | cons v vs ih => rw [settledAll, ih, List.map_cons]

/-- An unnamed argument as the grammar reports it. -/
def settledAlone : Value → Option Value
  | .array [] => none
  | v => some v.settled

theorem valueVerb?_settled (v : Value) : Annotation.valueVerb? v.settled = Annotation.valueVerb? v := by
  cases v with
  | array items => cases items <;> rw [settled] <;> rfl
  | _ => rw [settled]

theorem opened_settled (bound : Int) (v : Value) (depth : Int) :
    opened bound (v.settled, depth) = (opened bound (v, depth)).map fun p => (p.1.settled, p.2) := by
  cases v with
  | array items =>
    cases items with
    | nil =>
      rw [settled, opened]
      split <;> rfl
    | cons v vs =>
      rw [settled, settledAll_eq_map, ← List.map_cons, opened, opened]
      split
      · rw [List.map_map, List.map_map]
        rfl
      · rfl
  | _ =>
    rw [settled]
    rfl

/-- The same verb is found first. -/
theorem findSome?_visit_settled (bound : Int) (agenda : Agenda) :
    (visit bound (agenda.map fun p => (p.1.settled, p.2))).findSome? Annotation.valueVerb? =
      (visit bound agenda).findSome? Annotation.valueVerb? := by
  fun_induction visit bound agenda with
  | case1 => rw [List.map_nil, visit]
  | case2 p rest ih =>
    rw [List.map_append] at ih
    rw [List.map_cons, visit, opened_settled, List.findSome?_cons, List.findSome?_cons, valueVerb?_settled, ih]

end Value

namespace Annotation

/-- An annotation as the grammar reports it, without its place. -/
def settled (a : Annotation) : Annotation where
  name := a.name
  positional := a.positional.bind Value.settledAlone
  named := a.named.map fun p => (p.1, p.2.settled)
  span := none

theorem argumentVerb?_settled (key : String) (v : Value) :
    argumentVerb? (key, v.settled) = argumentVerb? (key, v) := by
  by_cases hkey : key = "method"
  · rw [hkey, argumentVerb?_method, argumentVerb?_method]
    exact Value.findSome?_visit_settled Value.searchDepth [(v, 0)]
  · rw [argumentVerb?_of_ne hkey, argumentVerb?_of_ne hkey]

theorem verb_settled (a : Annotation) : a.settled.verb = a.verb := by
  have hnamed : a.settled.named.findSome? argumentVerb? = a.named.findSome? argumentVerb? := by
    rw [settled, List.findSome?_map]
    congr 1
    funext p
    exact argumentVerb?_settled p.1 p.2
  have hname : a.settled.simpleName = a.simpleName := rfl
  rw [verb, verb, hnamed, hname]

/-- The path that a named argument carries. -/
def argumentPath? : String × Value → Option String
  | ("value", .literal text) => some text
  | ("path", .literal text) => some text
  | _ => none

theorem argumentPath?_settled (key : String) (v : Value) :
    argumentPath? (key, v.settled) = argumentPath? (key, v) := by
  cases v with
  | array items => cases items <;> rw [Value.settled] <;> simp [argumentPath?]
  | _ => rw [Value.settled]

theorem path?_settled (a : Annotation) : a.settled.path? = a.path? := by
  have hnamed : a.settled.named.findSome? argumentPath? = a.named.findSome? argumentPath? := by
    rw [settled, List.findSome?_map]
    congr 1
    funext p
    exact argumentPath?_settled p.1 p.2
  obtain ⟨name, positional, named, span⟩ := a
  -- only a literal decides, and a literal stays as it is
  cases positional with
  | none => exact hnamed
  | some v =>
    cases v with
    | literal text => rfl
    | array items => cases items <;> exact hnamed
    | _ => exact hnamed

theorem Faithful.settled : Faithful Annotation.settled where
  name _ := rfl
  path? := path?_settled
  verb := verb_settled

end Annotation

/-! ## What the grammar reports -/

theorem literalValue_of_isSimple {contents : String} (h : (Lexeme.literal contents).isSimple = true) :
    Structural.literalValue (String.ofList ('"' :: contents.toList ++ ['"'])) = .literal contents := by
  have hbody : Structural.stringBody? (String.ofList ('"' :: contents.toList ++ ['"'])) =
      some contents.toList := by
    rw [Structural.stringBody?, String.toList_ofList, List.cons_append]
    change (if (contents.toList ++ ['"']).getLast? = some '"' then
      some (contents.toList ++ ['"']).dropLast else none) = _
    rw [List.getLast?_concat, if_pos rfl, List.dropLast_concat]
  have hwritten := unescape_writeContents contents
  rw [(writeContents_of_isSimple h).1] at hwritten
  rw [Structural.literalValue, hbody]
  dsimp only
  rw [hwritten]

theorem nameValue_dottedName (n : DottedName) :
    Structural.nameValue (n.qualifiers.map Name.text) n.simple.text = (Term.reference n).value := by
  have hempty := DottedName.isEmpty_qualifierText n
  rw [DottedName.qualifierText] at hempty
  rw [Structural.nameValue, Term.value, DottedName.qualifierText]
  by_cases hq : n.qualifiers = []
  · rw [if_pos (hempty.2 hq), if_pos hq]
  · rw [if_neg (fun h => hq (hempty.1 h)), if_neg hq]

mutual

theorem elementValue_element (t : Term) (ht : t.isJava = true) :
    Structural.elementValue t.element = t.value.settled := by
  cases t with
  | literal contents =>
    rw [Term.element, Structural.elementValue, literalValue_of_isSimple ht, Term.value, Value.settled]
  | reference name =>
    rw [Term.element, Structural.elementValue, nameValue_dottedName, Term.value, Value.settled]
  | array items =>
    cases items with
    | nil => rw [Term.element, Structural.elementValue, Term.value, Term.valuesOfAll, Value.settled]
    | cons t ts =>
      have hitems := elementValues_elements (t :: ts) ht
      rw [Term.elements, Term.valuesOfAll, Value.settledAll] at hitems
      rw [Term.element, Structural.elementValue, hitems, Term.value, Term.valuesOfAll, Value.settled]

theorem elementValues_elements (ts : List Term) (hts : Term.isJavaAll ts = true) :
    Structural.elementValues (Term.elements ts) = Value.settledAll (Term.valuesOfAll ts) := by
  cases ts with
  | nil => rfl
  | cons t ts =>
    rw [Term.isJavaAll, Bool.and_eq_true] at hts
    rw [Term.elements, Structural.elementValues, Term.valuesOfAll, Value.settledAll,
      elementValue_element t hts.1, elementValues_elements ts hts.2]

end

/-- The annotation that the grammar reports for a mark, without its place. -/
def Java.Mark.annotation (m : Java.Mark) : Annotation where
  name := m.name
  positional := (Structural.argumentValues m.arguments).1
  named := (Structural.argumentValues m.arguments).2
  span := none

theorem argumentValues_single {t : Term} (ht : t.isJava = true) :
    Structural.argumentValues (some (.single t.element)) = (t.value.settledAlone, []) := by
  have hvalue := elementValue_element t ht
  cases t with
  | literal contents =>
    change (some (Structural.elementValue (Term.literal contents).element), _) = _
    rw [hvalue]
    rfl
  | reference name =>
    change (some (Structural.elementValue (Term.reference name).element), _) = _
    rw [hvalue]
    rfl
  | array items =>
    cases items with
    | nil => rfl
    | cons t ts =>
      change (some (Structural.elementValue (Term.array (t :: ts)).element), _) = _
      rw [hvalue]
      rfl

theorem argumentValues_pairs {named : List NamedTerm} (h : ∀ x ∈ named, x.isJava = true) :
    Structural.argumentValues (some (.pairs (named.map NamedTerm.pair))) =
      (none, named.map fun x => (x.value.1, x.value.2.settled)) := by
  have hpairs : (named.map NamedTerm.pair).map (fun p => (p.1, Structural.elementValue p.2)) =
      named.map fun x => (x.value.1, x.value.2.settled) := by
    rw [List.map_map]
    apply List.map_congr_left
    intro x hx
    have hterm := (Bool.and_eq_true_iff.1 (h x hx)).2
    rw [Function.comp_apply, NamedTerm.pair, NamedTerm.value, elementValue_element x.term hterm]
  rw [← hpairs]
  rfl

theorem argumentValues_list {a : ArgumentList} (ha : a.isJava = true) :
    Structural.argumentValues a.arguments? =
      ((a.unnamed.map Term.value).bind Value.settledAlone,
        a.named.map fun x => (x.value.1, x.value.2.settled)) := by
  rw [ArgumentList.isJava] at ha
  rw [ArgumentList.arguments?]
  cases hunnamed : a.unnamed with
  | none =>
    rw [hunnamed] at ha
    cases hnamed : a.named with
    | nil => rfl
    | cons x xs =>
      rw [hnamed] at ha
      exact argumentValues_pairs (List.all_eq_true.1 ha)
  | some t =>
    rw [hunnamed, Bool.and_eq_true] at ha
    rw [List.isEmpty_iff.1 ha.1]
    exact argumentValues_single ha.2

/-- The grammar reports what was meant, up to empty braces. -/
theorem annotation_mark {n : Note} (hn : n.isJava = true) : n.mark.annotation = n.annotation.settled := by
  obtain ⟨name, nameable, arguments⟩ := n
  rw [Note.isJava, Bool.and_eq_true] at hn
  cases arguments with
  | none => rfl
  | some a =>
    have hvalues := argumentValues_list (show a.isJava = true from hn.2)
    simp [Java.Mark.annotation, Note.mark, Note.annotation, Annotation.settled, hvalues]

end EndpointIndex
