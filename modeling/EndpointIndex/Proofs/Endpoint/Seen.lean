import EndpointIndex.Proofs.Endpoint.Scoping
import EndpointIndex.Proofs.Endpoint.Unplaced
import EndpointIndex.Proofs.Mapping
import EndpointIndex.Proofs.Reader.Texts

/-!
# Endpoints of declarations as they are seen

Whoever sees the names of annotations and the spans of declarations knows which endpoints there are and
where they stand, whatever else is hidden (`View.locus_extractEndpoints`). Whoever sees the texts of
literals too knows the endpoints (`View.extractEndpoints_readable`).
-/

namespace EndpointIndex

open Source (Span)

/-- Whose endpoint it is and where it stands. -/
def Endpoint.locus (e : Endpoint) : String × String × Span := (e.typeName, e.methodName, e.place)

namespace View

section

variable (view : View)

@[simp] theorem annotation_name (a : Annotation) : (view.annotation a).name = a.name := rfl

@[simp] theorem annotation_span (a : Annotation) : (view.annotation a).span = a.span.map view.span := rfl

theorem annotation_kind (a : Annotation) : (view.annotation a).kind = a.kind := by
  unfold Annotation.kind Annotation.simpleName
  rw [annotation_name]

def owner (o : Owner) : Owner := { o with annotations := o.annotations.map view.annotation }

def site (s : Site) : Site :=
  ⟨view.owner s.owner, s.name, s.annotations.map view.annotation, s.span.map view.span⟩

mutual

theorem sitesIn_declaration (owner : Option Owner) (address : List Nat) (d : Declaration) :
    (view.declaration d).sitesIn (owner.map view.owner) address =
      (d.sitesIn owner address).map view.site := by
  cases d with
  | method name annotations span =>
    rw [declaration, Declaration.sitesIn, Declaration.sitesIn]
    cases owner <;> rfl
  | type kind name annotations members span =>
    rw [declaration, Declaration.sitesIn, Declaration.sitesIn]
    exact sitesFrom_declarations (some ⟨address, name, annotations⟩) address 0 members

theorem sitesFrom_declarations (owner : Option Owner) (address : List Nat) (k : Nat)
    (ds : List Declaration) :
    sitesFrom (owner.map view.owner) address k (view.declarations ds) =
      (sitesFrom owner address k ds).map view.site := by
  cases ds with
  | nil => rw [declarations, sitesFrom, sitesFrom, List.map_nil]
  | cons d ds =>
    rw [declarations, sitesFrom, sitesFrom, List.map_append, sitesIn_declaration owner (address ++ [k]) d,
      sitesFrom_declarations owner address (k + 1) ds]

end

theorem sites_declarations (ds : List Declaration) :
    sites (view.declarations ds) = (sites ds).map view.site :=
  sitesFrom_declarations view none [] 0 ds

theorem filter_isType (ds : List Declaration) :
    view.declarations (ds.filter Declaration.isType) = (view.declarations ds).filter Declaration.isType := by
  have hkind (d : Declaration) : (view.declaration d).isType = d.isType := by
    cases d with
    | method name annotations span => rw [declaration, Declaration.isType, Declaration.isType]
    | type kind name annotations members span => rw [declaration, Declaration.isType, Declaration.isType]
  rw [declarations_eq_map, declarations_eq_map, List.filter_map]
  simp only [Function.comp_def, hkind]

end

section

variable {view : View} (hspan : ∀ span, view.span span = span)

include hspan

theorem map_span (span : Option Span) : span.map view.span = span := by
  cases span with
  | none => rfl
  | some span => rw [Option.map_some, hspan]

theorem locus_endpoints (file : String) (s : Site) :
    ((view.site s).endpoints file).map Endpoint.locus = (s.endpoints file).map Endpoint.locus := by
  have hexposes : (scopeOf (some (view.owner s.owner))).exposes = (scopeOf (some s.owner)).exposes := by
    rw [scopeOf, scopeOf, exposes_ofAnnotations, exposes_ofAnnotations, owner, List.any_map]
    simp only [Function.comp_def, annotation_kind]
  have hname (o : Owner) : (scopeOf (some o)).name = o.name := by rw [scopeOf, ofAnnotations_eq]
  have hmapping (a : Annotation) : (view.annotation a).isMapping = a.isMapping := by
    unfold Annotation.isMapping
    rw [annotation_kind]
  rw [Site.endpoints, Site.endpoints, site, methodEndpoints, methodEndpoints, lastMapping?_map hmapping, hexposes]
  by_cases hexposed : (scopeOf (some s.owner)).exposes = true
  · rw [if_pos hexposed, if_pos hexposed]
    cases lastMapping? s.annotations with
    | none => rfl
    | some mapping =>
      simp only [Option.map_some, Scope.paths, List.map_cons, List.map_nil, Endpoint.locus, Endpoint.place,
        makeEndpoint, hname, owner, annotation_span, map_span hspan]
  · rw [if_neg hexposed, if_neg hexposed]

/-- The endpoints that one sees are at the places where there are endpoints. -/
theorem locus_extractEndpoints (file : String) (ds : List Declaration) :
    (extractEndpoints file (view.declarations ds)).map Endpoint.locus =
      (extractEndpoints file ds).map Endpoint.locus := by
  rw [extractEndpoints_eq, extractEndpoints_eq, sites_declarations, List.flatMap_map, List.map_flatMap,
    List.map_flatMap]
  exact List.flatMap_congr fun s _ => locus_endpoints hspan file s

variable (hfaithful : Annotation.Faithful view.annotation)

include hfaithful

theorem endpoints_site (file : String) (s : Site) : (view.site s).endpoints file = s.endpoints file := by
  have hscope : scopeOf (some (view.owner s.owner)) = scopeOf (some s.owner) :=
    hfaithful.ofAnnotations s.owner.name s.owner.annotations
  rw [Site.endpoints, Site.endpoints, site, methodEndpoints, methodEndpoints, hscope, hfaithful.lastMapping?]
  by_cases hexposed : (scopeOf (some s.owner)).exposes = true
  · rw [if_pos hexposed, if_pos hexposed]
    cases lastMapping? s.annotations with
    | none => rfl
    | some mapping =>
      simp only [Option.map_some, makeEndpoint, annotation_span, map_span hspan, hfaithful.path?,
        hfaithful.verb]
  · rw [if_neg hexposed, if_neg hexposed]

/-- Whoever sees everything that counts for endpoints sees the endpoints. -/
theorem extractEndpoints_declarations (file : String) (ds : List Declaration) :
    extractEndpoints file (view.declarations ds) = extractEndpoints file ds := by
  rw [extractEndpoints_eq, extractEndpoints_eq, sites_declarations, List.flatMap_map]
  exact List.flatMap_congr fun s _ => endpoints_site hspan hfaithful file s

end

/-! ## Hidden texts -/

/-- Sees texts of values only as far as `onLiteral` and `onOther` tell. -/
def texts (onLiteral onOther : String → String) : View := ⟨Value.mapTexts onLiteral onOther, id⟩

/-- Sees everything but the texts of values. -/
def shape : View := texts (fun _ => "") fun _ => ""

end View

namespace Value

variable (onOther : String → String)

theorem visit_mapTexts (bound : Int) (agenda : Agenda) :
    visit bound (agenda.map fun p => (p.1.mapTexts id onOther, p.2)) =
      (visit bound agenda).map (mapTexts id onOther) := by
  fun_induction visit bound agenda with
  | case1 => rw [List.map_nil, visit, List.map_nil]
  | case2 p rest ih =>
    have hopened : opened bound (p.1.mapTexts id onOther, p.2) =
        (opened bound p).map fun p => (p.1.mapTexts id onOther, p.2) := by
      obtain ⟨v, depth⟩ := p
      cases v with
      | array items =>
        rw [mapTexts, mapTextsAll_eq_map, opened, opened]
        split
        · rw [List.map_map, List.map_map]
          rfl
        · rfl
      | _ => rfl
    rw [List.map_cons, visit, hopened, ← List.map_append, ih, List.map_cons]

/-- Texts of unresolved expressions do not spell verbs. -/
theorem valueVerb?_mapTexts (v : Value) :
    Annotation.valueVerb? (v.mapTexts id onOther) = Annotation.valueVerb? v := by
  cases v with
  | _ => rfl

open Annotation in
theorem findFirst?_mapTexts (bound : Int) (v : Value) :
    ((v.mapTexts id onOther).findFirst? (fun v => (valueVerb? v).isSome) bound).bind valueVerb? =
      (v.findFirst? (fun v => (valueVerb? v).isSome) bound).bind valueVerb? := by
  have hvisit := visit_mapTexts onOther bound [(v, 0)]
  rw [List.map_singleton] at hvisit
  rw [findFirst?, findFirst?, upTo, upTo, hvisit, List.find?_map, Option.bind_map]
  simp only [Function.comp_def, valueVerb?_mapTexts]

end Value

open Annotation in
theorem argumentVerb?_mapTexts (onOther : String → String) (p : String × Value) :
    Annotation.argumentVerb? (p.1, p.2.mapTexts id onOther) = Annotation.argumentVerb? p := by
  obtain ⟨key, v⟩ := p
  by_cases hkey : key = "method"
  · subst hkey
    exact Value.findFirst?_mapTexts onOther Value.searchDepth v
  · rw [argumentVerb?_of_ne hkey, argumentVerb?_of_ne hkey]

/-- Only the texts of literals count for endpoints. -/
theorem View.faithful_texts (onOther : String → String) :
    Annotation.Faithful (View.annotation (View.texts id onOther)) where
  name _ := rfl
  path? a := by
    obtain ⟨name, positional, named, span⟩ := a
    have hnamed :
        Annotation.path? ⟨name, none, named.map (fun p => (p.1, p.2.mapTexts id onOther)), span⟩ =
          Annotation.path? ⟨name, none, named, span⟩ := by
      unfold Annotation.path?
      dsimp only
      rw [List.findSome?_map]
      congr 1
      funext p
      obtain ⟨key, v⟩ := p
      cases v with
      | literal text => rfl
      | reference qualifier member => rfl
      | _ =>
        -- no text, on either side
        rw [Function.comp_apply, Value.mapTexts]
        split <;> split <;> simp_all
    cases positional with
    | none => exact hnamed
    | some v =>
      cases v with
      | literal text => rfl
      | _ => exact hnamed
  verb a := by
    unfold Annotation.verb Annotation.simpleName
    rw [View.annotation_name]
    split
    · rfl
    · rw [View.annotation, View.arguments]
      dsimp only
      rw [List.findSome?_map]
      simp only [Function.comp_def, View.texts, argumentVerb?_mapTexts]

end EndpointIndex
