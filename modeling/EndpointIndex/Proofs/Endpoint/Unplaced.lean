import EndpointIndex.Endpoint.Extract
import EndpointIndex.Proofs.Outline.Members

/-!
# Endpoints up to their places

Of an annotation only its name, its path and its verb count for endpoints. A change of annotations that
keeps these is faithful, and up to places it changes no endpoints (`Annotation.Faithful.memberEndpoints`).
Main fact: a laid-out source has the endpoints of its unit (`extractEndpoints_layout`).
-/

namespace EndpointIndex

/-- An endpoint without the place at which it stands. -/
def Endpoint.unplaced (e : Endpoint) : Endpoint :=
  { e with startLine := 1, startColumn := 1, endLine := 1, endColumn := 1 }

/-- A change of annotations that means nothing for endpoints. -/
structure Annotation.Faithful (f : Annotation → Annotation) : Prop where
  name : ∀ a, (f a).name = a.name
  path? : ∀ a, (f a).path? = a.path?
  verb : ∀ a, (f a).verb = a.verb

theorem lastMapping?_map {f : Annotation → Annotation} (hf : ∀ a, (f a).isMapping = a.isMapping)
    (annotations : List Annotation) : lastMapping? (annotations.map f) = (lastMapping? annotations).map f := by
  have hmapping : Annotation.isMapping ∘ f = Annotation.isMapping := by
    funext a
    rw [Function.comp_apply, hf]
  simp only [lastMapping?, ← List.map_reverse, List.find?_map, hmapping]

namespace Declaration

mutual

/-- A declaration with other annotations and without places. -/
def recast (f : Annotation → Annotation) : Declaration → Declaration
  | method name annotations _ => method name (annotations.map f) none
  | type kind name annotations members _ =>
    type kind name (annotations.map f) (recastAll f members) none

def recastAll (f : Annotation → Annotation) : List Declaration → List Declaration
  | [] => []
  | d :: ds => d.recast f :: recastAll f ds

end

mutual

theorem recast_bare (d : Declaration) : d.recast Annotation.bare = d.bare := by
  cases d with
  | method name annotations span => rw [recast, bare]
  | type kind name annotations members span => rw [recast, bare, recastAll_bare members]

theorem recastAll_bare (ds : List Declaration) : recastAll Annotation.bare ds = bareAll ds := by
  cases ds with
  | nil => rfl
  | cons d ds => rw [recastAll, bareAll, recast_bare d, recastAll_bare ds]

end

end Declaration

namespace Annotation.Faithful

variable {f : Annotation → Annotation}

theorem bare : Faithful Annotation.bare where
  name _ := rfl
  path? _ := rfl
  verb a := by
    unfold Annotation.verb
    rw [simpleName, simpleName, Annotation.bare]

theorem kind (hf : Faithful f) (a : Annotation) : (f a).kind = a.kind := by
  unfold Annotation.kind
  rw [simpleName, simpleName, hf.name]

theorem isMapping (hf : Faithful f) (a : Annotation) : (f a).isMapping = a.isMapping := by
  unfold Annotation.isMapping
  rw [hf.kind]

theorem note (hf : Faithful f) (s : Scope) (a : Annotation) : s.note (f a) = s.note a := by
  rw [Scope.note, Scope.note, hf.kind, hf.path?]

theorem ofAnnotations (hf : Faithful f) (name : String) (annotations : List Annotation) :
    Scope.ofAnnotations name (annotations.map f) = Scope.ofAnnotations name annotations := by
  rw [Scope.ofAnnotations, List.foldl_map]
  simp only [hf.note]
  rfl

theorem lastMapping? (hf : Faithful f) (annotations : List Annotation) :
    EndpointIndex.lastMapping? (annotations.map f) = (EndpointIndex.lastMapping? annotations).map f :=
  lastMapping?_map hf.isMapping annotations

theorem methodEndpoints (hf : Faithful f) (file : String) (scope : Scope) (name : String)
    (annotations : List Annotation) (span span' : Option Source.Span) :
    (EndpointIndex.methodEndpoints file scope name (annotations.map f) span').map Endpoint.unplaced =
      (EndpointIndex.methodEndpoints file scope name annotations span).map Endpoint.unplaced := by
  rw [EndpointIndex.methodEndpoints, EndpointIndex.methodEndpoints, hf.lastMapping?]
  by_cases hexposes : scope.exposes = true
  · rw [if_pos hexposes, if_pos hexposes]
    cases EndpointIndex.lastMapping? annotations with
    | none => rfl
    | some mapping =>
      simp only [Option.map_some, List.map_map]
      apply List.map_congr_left
      intro path _
      simp only [Function.comp_apply, makeEndpoint, Endpoint.unplaced, hf.path?, hf.verb]
  · rw [if_neg hexposes, if_neg hexposes]

mutual

theorem endpointsIn (hf : Faithful f) (file : String) (scope : Scope) (d : Declaration) :
    ((d.recast f).endpointsIn file scope).map Endpoint.unplaced =
      (d.endpointsIn file scope).map Endpoint.unplaced := by
  cases d with
  | method name annotations span => exact hf.methodEndpoints file scope name annotations span none
  | type kind name annotations members span =>
    rw [Declaration.recast, Declaration.endpointsIn, Declaration.endpointsIn, hf.ofAnnotations]
    exact memberEndpoints hf file _ members

theorem memberEndpoints (hf : Faithful f) (file : String) (scope : Scope) (ds : List Declaration) :
    (EndpointIndex.memberEndpoints file scope (Declaration.recastAll f ds)).map Endpoint.unplaced =
      (EndpointIndex.memberEndpoints file scope ds).map Endpoint.unplaced := by
  cases ds with
  | nil => rfl
  | cons d ds =>
    rw [Declaration.recastAll, EndpointIndex.memberEndpoints, EndpointIndex.memberEndpoints,
      List.map_append, List.map_append, endpointsIn hf file scope d, memberEndpoints hf file scope ds]

end

end Annotation.Faithful

/-! ## Laid-out sources -/

theorem memberEndpoints_bare (file : String) (scope : Scope) (ds : List Declaration) :
    (memberEndpoints file scope (ds.map Declaration.bare)).map Endpoint.unplaced =
      (memberEndpoints file scope ds).map Endpoint.unplaced := by
  rw [← Declaration.bareAll_eq_map, ← Declaration.recastAll_bare]
  exact Annotation.Faithful.bare.memberEndpoints file scope ds

/-- Where nothing is exposed, only types contribute. -/
theorem memberEndpoints_filter_isType (file : String) {scope : Scope} (h : scope.exposes = false)
    (ds : List Declaration) :
    memberEndpoints file scope (ds.filter Declaration.isType) = memberEndpoints file scope ds := by
  induction ds with
  | nil => rfl
  | cons d ds ih =>
    cases d with
    | method name annotations span =>
      rw [List.filter_cons_of_neg (by simp [Declaration.isType]), ih, memberEndpoints,
        Declaration.endpointsIn, methodEndpoints_of_not_exposes h, List.nil_append]
    | type kind name annotations members span =>
      rw [List.filter_cons_of_pos rfl, memberEndpoints, memberEndpoints, ih]

/-- A source has the endpoints of the unit that it lays out. -/
theorem extractEndpoints_layout (file : String) (unit : List Outline)
    (layout : Source.Layout (Outline.lexemesOfAll unit)) :
    (extractEndpoints file (Pattern.readTypes layout.text)).map Endpoint.unplaced =
      (extractEndpoints file (unit.map Outline.declared)).map Endpoint.unplaced := by
  rw [← Source.members_layout unit layout]
  rw [extractEndpoints, extractEndpoints, memberEndpoints_bare, Pattern.readTypes,
    memberEndpoints_filter_isType file rfl]

end EndpointIndex
