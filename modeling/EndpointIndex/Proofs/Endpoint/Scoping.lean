import EndpointIndex.Proofs.Endpoint.Place
import Mathlib.Data.List.Forall2
import Mathlib.Data.List.Induction
import Mathlib.Data.List.Perm.Basic

/-!
# Endpoints by the type around a method

The methods of a tree of declarations, in source order, each with the type that immediately encloses it
(`sites`). What a method yields is said by that type's annotations and its own and by nothing else of the
tree (`Site.Yields`). Main facts: a tree has one endpoint for each method that is exposed, in the order of
the methods; other annotations elsewhere leave a type's own endpoints as they are; and the order of a
type's annotations does not matter, as long as at most one of them carries a path
(`extractEndpoints_scoped`).
-/

namespace EndpointIndex

open Source (Span)

/-! ## Methods and their types -/

/-- A type as its methods see it. -/
structure Owner where
  /-- The way to the type, from the top: which of the declarations side by side to enter. -/
  address : List Nat
  name : String
  annotations : List Annotation

/-- A method and the type that immediately encloses it. -/
structure Site where
  owner : Owner
  name : String
  annotations : List Annotation
  span : Option Span

mutual

/-- The methods of a declaration at an address. A method outside of all types has no owner and does not
count. -/
def Declaration.sitesIn (owner : Option Owner) (address : List Nat) : Declaration → List Site
  | .method name annotations span => owner.toList.map fun o => ⟨o, name, annotations, span⟩
  | .type _ name annotations members _ => sitesFrom (some ⟨address, name, annotations⟩) address 0 members

/-- The methods of declarations side by side, the first of which is number `k` below an address. -/
def sitesFrom (owner : Option Owner) (address : List Nat) (k : Nat) : List Declaration → List Site
  | [] => []
  | d :: ds => d.sitesIn owner (address ++ [k]) ++ sitesFrom owner address (k + 1) ds

end

/-- The methods of a tree in source order. Those of a nested type stand where the type stands. -/
def sites (ds : List Declaration) : List Site := sitesFrom none [] 0 ds

mutual

/-- A declaration with the annotations of every type in it changed, by its address. -/
def Declaration.reannotateAt (f : List Nat → List Annotation → List Annotation) (address : List Nat) :
    Declaration → Declaration
  | .method name annotations span => .method name annotations span
  | .type kind name annotations members span =>
    .type kind name (f address annotations) (reannotateFrom f address 0 members) span

def reannotateFrom (f : List Nat → List Annotation → List Annotation) (address : List Nat) (k : Nat) :
    List Declaration → List Declaration
  | [] => []
  | d :: ds => d.reannotateAt f (address ++ [k]) :: reannotateFrom f address (k + 1) ds

end

def reannotate (f : List Nat → List Annotation → List Annotation) (ds : List Declaration) :
    List Declaration :=
  reannotateFrom f [] 0 ds

/-! ## What a method yields -/

/-- The path that an annotation gives to the type it stands at. -/
def Annotation.typePath? (a : Annotation) : Option String :=
  if a.kind = .requestMapping then a.path? else none

/-- The last entry of a list with a property. -/
def IsLast {α : Type} (p : α → Prop) (l : List α) (a : α) : Prop :=
  ∃ before after, l = before ++ a :: after ∧ p a ∧ ∀ b ∈ after, ¬ p b

namespace Site

/-- The method is mapped, and its type is a controller or a client. -/
def isExposed (s : Site) : Bool :=
  s.annotations.any Annotation.isMapping &&
    s.owner.annotations.any fun a => a.kind = .controller || a.kind = .client

/-- An endpoint is what a method declares in its type. -/
structure Yields (file : String) (s : Site) (e : Endpoint) : Prop where
  file_eq : e.file = file
  typeName_eq : e.typeName = s.owner.name
  methodName_eq : e.methodName = s.name
  typePath :
    (∃ a, IsLast (fun a => a.typePath? ≠ none) s.owner.annotations a ∧ a.typePath? = some e.typePath) ∨
      (∀ a ∈ s.owner.annotations, a.typePath? = none) ∧ e.typePath = ""
  mapping : ∃ a, IsLast (fun a => a.isMapping = true) s.annotations a ∧ e.verb = a.verb ∧
    e.methodPath = a.path?.getD "" ∧ e.place = (a.span.or s.span).getD ⟨1, 1, 1, 1⟩
  fullPath : e.fullPath = Route.join [some e.typePath, some e.methodPath]
  rawPath : e.rawPath = Route.raw e.typePath e.methodPath

end Site

/-- The endpoints of a tree that are declared by the own methods of the type at an address. -/
def ownEndpoints (file : String) (ds : List Declaration) (address : List Nat) : List Endpoint :=
  ((((sites ds).filter Site.isExposed).zip (extractEndpoints file ds)).filter
    fun p => p.1.owner.address = address).map Prod.snd

/-! ## Scopes -/

theorem ofAnnotations_concat (name : String) (annotations : List Annotation) (a : Annotation) :
    Scope.ofAnnotations name (annotations ++ [a]) = (Scope.ofAnnotations name annotations).note a := by
  simp only [Scope.ofAnnotations, List.foldl_append, List.foldl_cons, List.foldl_nil]

/-- What the annotations of a type come to. -/
theorem ofAnnotations_eq (name : String) (annotations : List Annotation) :
    Scope.ofAnnotations name annotations =
      ⟨name, (annotations.filterMap Annotation.typePath?).getLast?,
        annotations.any fun a => a.kind = .controller, annotations.any fun a => a.kind = .client⟩ := by
  induction annotations using List.reverseRecOn with
  | nil => rfl
  | append_singleton annotations a ih =>
    rw [ofAnnotations_concat, ih, Scope.note, List.filterMap_append, List.any_append, List.any_append,
      List.getLast?_append]
    cases hkind : a.kind with
    | requestMapping =>
      cases hpath : a.path? <;> simp [hkind, hpath, Annotation.typePath?]
    | _ => simp [hkind, Annotation.typePath?]

theorem exposes_ofAnnotations (name : String) (annotations : List Annotation) :
    (Scope.ofAnnotations name annotations).exposes =
      annotations.any fun a => a.kind = .controller || a.kind = .client := by
  rw [ofAnnotations_eq, Scope.exposes, Bool.eq_iff_iff]
  simp only [Bool.or_eq_true, List.any_eq_true, and_or_left, exists_or]

/-- The order of annotations does not matter when at most one of them carries a path. -/
theorem ofAnnotations_perm (name : String) {annotations annotations' : List Annotation}
    (hperm : annotations'.Perm annotations)
    (hone : (annotations.filterMap Annotation.typePath?).length ≤ 1) :
    Scope.ofAnnotations name annotations' = Scope.ofAnnotations name annotations := by
  -- a list of at most one path has no other order
  have hpaths : annotations'.filterMap Annotation.typePath? = annotations.filterMap Annotation.typePath? := by
    have hpaths := hperm.filterMap Annotation.typePath?
    cases hfound : annotations.filterMap Annotation.typePath? with
    | nil =>
      rw [hfound] at hpaths
      exact hpaths.eq_nil
    | cons path rest =>
      rw [hfound] at hpaths hone
      obtain rfl : rest = [] := List.eq_nil_of_length_eq_zero (by simpa using hone)
      exact hpaths.eq_singleton
  rw [ofAnnotations_eq, ofAnnotations_eq, hpaths, hperm.any_eq, hperm.any_eq]

/-! ## Sites -/

/-- The scope in which the methods of an owner stand. -/
def scopeOf : Option Owner → Scope
  | none => topLevel
  | some o => .ofAnnotations o.name o.annotations

/-- The endpoints of one method. -/
def Site.endpoints (file : String) (s : Site) : List Endpoint :=
  methodEndpoints file (scopeOf (some s.owner)) s.name s.annotations s.span

mutual

theorem endpointsIn_eq (file : String) (owner : Option Owner) (address : List Nat) (d : Declaration) :
    d.endpointsIn file (scopeOf owner) = (d.sitesIn owner address).flatMap (Site.endpoints file) := by
  cases d with
  | method name annotations span =>
    rw [Declaration.endpointsIn, Declaration.sitesIn]
    cases owner with
    | none => exact methodEndpoints_of_not_exposes rfl
    | some o => exact (List.append_nil _).symm
  | type kind name annotations members span =>
    rw [Declaration.endpointsIn, Declaration.sitesIn]
    exact memberEndpoints_eq file (some ⟨address, name, annotations⟩) address 0 members

/-- The endpoints of a tree are those of its methods, one after the other. -/
theorem memberEndpoints_eq (file : String) (owner : Option Owner) (address : List Nat) (k : Nat)
    (ds : List Declaration) :
    memberEndpoints file (scopeOf owner) ds =
      (sitesFrom owner address k ds).flatMap (Site.endpoints file) := by
  cases ds with
  | nil => rw [memberEndpoints, sitesFrom, List.flatMap_nil]
  | cons d ds =>
    rw [memberEndpoints, sitesFrom, List.flatMap_append, ← endpointsIn_eq file owner (address ++ [k]) d,
      ← memberEndpoints_eq file owner address (k + 1) ds]

end

theorem extractEndpoints_eq (file : String) (ds : List Declaration) :
    extractEndpoints file ds = (sites ds).flatMap (Site.endpoints file) :=
  memberEndpoints_eq file none [] 0 ds

section

variable (f : List Nat → List Annotation → List Annotation)

def Owner.reannotate (o : Owner) : Owner := { o with annotations := f o.address o.annotations }

def Site.reannotate (s : Site) : Site := { s with owner := s.owner.reannotate f }

mutual

theorem sitesIn_reannotateAt (owner : Option Owner) (address : List Nat) (d : Declaration) :
    (d.reannotateAt f address).sitesIn (owner.map (Owner.reannotate f)) address =
      (d.sitesIn owner address).map (Site.reannotate f) := by
  cases d with
  | method name annotations span =>
    rw [Declaration.reannotateAt, Declaration.sitesIn, Declaration.sitesIn]
    cases owner <;> rfl
  | type kind name annotations members span =>
    rw [Declaration.reannotateAt, Declaration.sitesIn, Declaration.sitesIn]
    exact sitesFrom_reannotateFrom (some ⟨address, name, annotations⟩) address 0 members

theorem sitesFrom_reannotateFrom (owner : Option Owner) (address : List Nat) (k : Nat)
    (ds : List Declaration) :
    sitesFrom (owner.map (Owner.reannotate f)) address k (reannotateFrom f address k ds) =
      (sitesFrom owner address k ds).map (Site.reannotate f) := by
  cases ds with
  | nil => rw [reannotateFrom, sitesFrom, sitesFrom, List.map_nil]
  | cons d ds =>
    rw [reannotateFrom, sitesFrom, sitesFrom, List.map_append,
      sitesIn_reannotateAt owner (address ++ [k]) d, sitesFrom_reannotateFrom owner address (k + 1) ds]

end

/-- The methods are the same, but for the annotations of their types. -/
theorem sites_reannotate (ds : List Declaration) :
    sites (reannotate f ds) = (sites ds).map (Site.reannotate f) :=
  sitesFrom_reannotateFrom f none [] 0 ds

end

/-! ## The endpoint of a method -/

section

variable {α β : Type}

theorem isLast_of_find? {p : α → Bool} {l : List α} {a : α} (h : l.reverse.find? p = some a) :
    IsLast (fun a => p a = true) l a := by
  obtain ⟨hp, before, after, hsplit, hnone⟩ := List.find?_eq_some_iff_append.1 h
  refine ⟨after.reverse, before.reverse, ?_, hp, fun b hb => ?_⟩
  · rw [← List.reverse_reverse l, hsplit]
    simp
  · have hb := hnone b (List.mem_reverse.1 hb)
    simpa using hb

/-- The last value found comes from the last entry that has one. -/
theorem isLast_of_getLast?_filterMap {f : α → Option β} {l : List α} {b : β}
    (h : (l.filterMap f).getLast? = some b) : ∃ a, IsLast (fun a => f a ≠ none) l a ∧ f a = some b := by
  rw [← List.head?_reverse, ← List.filterMap_reverse, List.head?_filterMap] at h
  obtain ⟨before, a, after, hsplit, ha, hnone⟩ := List.findSome?_eq_some_iff.1 h
  refine ⟨a, ⟨after.reverse, before.reverse, ?_, ?_, fun b hb => ?_⟩, ha⟩
  · rw [← List.reverse_reverse l, hsplit]
    simp
  · exact fun hnone => Option.some_ne_none b (ha.symm.trans hnone)
  · exact not_not_intro (hnone b (List.mem_reverse.1 hb))

end

theorem lastMapping?_eq_none_iff {annotations : List Annotation} :
    lastMapping? annotations = none ↔ annotations.any Annotation.isMapping = false := by
  rw [lastMapping?, List.find?_eq_none, List.any_eq_false]
  simp only [List.mem_reverse]

namespace Site

variable {file : String} {s : Site}

theorem endpoints_of_not_exposed (h : s.isExposed = false) : s.endpoints file = [] := by
  rw [isExposed, ← exposes_ofAnnotations s.owner.name, Bool.and_eq_false_iff] at h
  rw [endpoints, methodEndpoints]
  rcases h with h | h
  · rw [lastMapping?_eq_none_iff.2 h]
    split <;> rfl
  · exact if_neg (by rw [scopeOf, h]; exact Bool.false_ne_true)

theorem typePath_of_ofAnnotations (o : Owner) :
    let path := (scopeOf (some o)).path.getD ""
    (∃ a, IsLast (fun a => a.typePath? ≠ none) o.annotations a ∧ a.typePath? = some path) ∨
      (∀ a ∈ o.annotations, a.typePath? = none) ∧ path = "" := by
  dsimp only
  rw [scopeOf, ofAnnotations_eq]
  cases hlast : (o.annotations.filterMap Annotation.typePath?).getLast? with
  | none =>
    rw [List.getLast?_eq_none_iff, List.filterMap_eq_nil_iff] at hlast
    exact .inr ⟨hlast, rfl⟩
  | some path => exact .inl (isLast_of_getLast?_filterMap hlast)

theorem yields_makeEndpoint {path : String} {mapping : Annotation}
    (hpath : (∃ a, IsLast (fun a => a.typePath? ≠ none) s.owner.annotations a ∧ a.typePath? = some path) ∨
      (∀ a ∈ s.owner.annotations, a.typePath? = none) ∧ path = "")
    (hlast : lastMapping? s.annotations = some mapping) :
    s.Yields file (makeEndpoint file s.owner.name path s.name mapping
      ((mapping.span.or s.span).getD defaultSpan)) where
  file_eq := rfl
  typeName_eq := rfl
  methodName_eq := rfl
  typePath := hpath
  mapping := ⟨mapping, isLast_of_find? hlast, by rw [makeEndpoint], by rw [makeEndpoint], by rw [makeEndpoint]; rfl⟩
  fullPath := rfl
  rawPath := rfl

theorem endpoints_of_exposed (h : s.isExposed = true) :
    ∃ e, s.endpoints file = [e] ∧ s.Yields file e := by
  rw [isExposed, ← exposes_ofAnnotations s.owner.name, Bool.and_eq_true] at h
  obtain ⟨hmapped, hexposes⟩ := h
  cases hlast : lastMapping? s.annotations with
  | none =>
    rw [lastMapping?_eq_none_iff.1 hlast] at hmapped
    cases hmapped
  | some mapping =>
    have hpath := typePath_of_ofAnnotations s.owner
    have hname : (scopeOf (some s.owner)).name = s.owner.name := by rw [scopeOf, ofAnnotations_eq]
    rw [endpoints, methodEndpoints, if_pos (show (scopeOf (some s.owner)).exposes = true from hexposes), hlast]
    dsimp only at hpath ⊢
    rw [Scope.paths, List.map_singleton, hname]
    exact ⟨_, rfl, yields_makeEndpoint hpath hlast⟩

end Site

/-- One endpoint for each exposed method, in the order of the methods. -/
theorem forall₂_yields (file : String) (ss : List Site) :
    List.Forall₂ (Site.Yields file) (ss.filter Site.isExposed) (ss.flatMap (Site.endpoints file)) := by
  induction ss with
  | nil => exact .nil
  | cons s ss ih =>
    rw [List.flatMap_cons]
    cases hs : s.isExposed with
    | false =>
      rw [List.filter_cons_of_neg (by simp [hs]), Site.endpoints_of_not_exposed hs]
      exact ih
    | true =>
      obtain ⟨e, he, hyields⟩ : ∃ e, s.endpoints file = [e] ∧ s.Yields file e := Site.endpoints_of_exposed hs
      rw [List.filter_cons_of_pos hs, he]
      exact .cons hyields ih

/-- The exposed methods, each with its endpoint. -/
theorem zip_endpoints (file : String) (ss : List Site) :
    (ss.filter Site.isExposed).zip (ss.flatMap (Site.endpoints file)) =
      ss.flatMap fun s => (s.endpoints file).map fun e => (s, e) := by
  induction ss with
  | nil => rfl
  | cons s ss ih =>
    rw [List.flatMap_cons, List.flatMap_cons, ← ih]
    cases hs : s.isExposed with
    | false =>
      rw [List.filter_cons_of_neg (by simp [hs]), Site.endpoints_of_not_exposed hs]
      rfl
    | true =>
      obtain ⟨e, he, -⟩ : ∃ e, s.endpoints file = [e] ∧ s.Yields file e := Site.endpoints_of_exposed hs
      rw [List.filter_cons_of_pos hs, he]
      rfl

theorem ownEndpoints_eq (file : String) (ds : List Declaration) (address : List Nat) :
    ownEndpoints file ds address =
      ((sites ds).filter fun s => s.owner.address = address).flatMap (Site.endpoints file) := by
  rw [ownEndpoints, extractEndpoints_eq, zip_endpoints]
  induction sites ds with
  | nil => rfl
  | cons s ss ih =>
    rw [List.flatMap_cons, List.filter_append, List.map_append, ih]
    by_cases hs : s.owner.address = address
    · rw [List.filter_cons_of_pos (by simpa using hs), List.flatMap_cons]
      congr 1
      simp [List.filter_map, Function.comp_def, hs]
    · rw [List.filter_cons_of_neg (by simpa using hs)]
      simp [List.filter_map, Function.comp_def, hs]

theorem ownEndpoints_reannotate (file : String) (ds : List Declaration)
    {f : List Nat → List Annotation → List Annotation} {address : List Nat}
    (h : ∀ annotations, f address annotations = annotations) :
    ownEndpoints file (reannotate f ds) address = ownEndpoints file ds address := by
  have haddress : ((fun s : Site => decide (s.owner.address = address)) ∘ Site.reannotate f) =
      fun s => decide (s.owner.address = address) := rfl
  rw [ownEndpoints_eq, ownEndpoints_eq, sites_reannotate, List.filter_map, haddress, List.flatMap_map]
  apply List.flatMap_congr
  intro s hs
  obtain rfl : s.owner.address = address := by simpa using (List.mem_filter.1 hs).2
  rw [Site.reannotate, Owner.reannotate, h]

theorem extractEndpoints_reannotate (file : String) (ds : List Declaration)
    {f : List Nat → List Annotation → List Annotation}
    (h : ∀ address annotations, (f address annotations).Perm annotations ∧
      (f address annotations = annotations ∨
        (annotations.filterMap Annotation.typePath?).length ≤ 1)) :
    extractEndpoints file (reannotate f ds) = extractEndpoints file ds := by
  rw [extractEndpoints_eq, extractEndpoints_eq, sites_reannotate, List.flatMap_map]
  apply List.flatMap_congr
  intro s _
  have hscope : scopeOf (some (s.owner.reannotate f)) = scopeOf (some s.owner) := by
    obtain ⟨hperm, hsame | hone⟩ := h s.owner.address s.owner.annotations
    · rw [Owner.reannotate, hsame]
    · exact ofAnnotations_perm s.owner.name hperm hone
  rw [Site.endpoints, Site.reannotate, hscope]
  rfl

/-- Of every tree, each method that is mapped and whose own type is a controller or a client yields one
endpoint, in source order, and nothing else does; what it yields is said by the annotations of the two.
So other annotations of other types do not change the endpoints of a type's own methods, and another
order of annotations changes no endpoints, where at most one of them carries a path. -/
theorem extractEndpoints_scoped (file : String) (ds : List Declaration) :
    List.Forall₂ (Site.Yields file) ((sites ds).filter Site.isExposed) (extractEndpoints file ds) ∧
      (∀ (f : List Nat → List Annotation → List Annotation) (address : List Nat),
        (∀ annotations, f address annotations = annotations) →
          ownEndpoints file (reannotate f ds) address = ownEndpoints file ds address) ∧
      ∀ f : List Nat → List Annotation → List Annotation,
        (∀ address annotations, (f address annotations).Perm annotations ∧
          (f address annotations = annotations ∨
            (annotations.filterMap Annotation.typePath?).length ≤ 1)) →
          extractEndpoints file (reannotate f ds) = extractEndpoints file ds := by
  refine ⟨?_, fun f address h => ownEndpoints_reannotate file ds h,
    fun f h => extractEndpoints_reannotate file ds h⟩
  rw [extractEndpoints_eq]
  exact forall₂_yields file (sites ds)

/-- A controller that maps a method, and in it a type that is no controller and maps one too. -/
def sampleNested : List Declaration :=
  [.type .classType "A" [⟨"RestController", none, [], none⟩, ⟨"RequestMapping", some (.literal "/a"), [], none⟩]
    [.type .classType "B" [] [.method "hidden" [⟨"PostMapping", none, [], none⟩] none] none,
      .method "list" [⟨"GetMapping", none, [], none⟩] none] none]

/-- Turns the annotations of a type around, if at most one of them carries a path. -/
def turnAround (annotations : List Annotation) : List Annotation :=
  if (annotations.filterMap Annotation.typePath?).length ≤ 1 then annotations.reverse else annotations

/-- Makes every type a controller, but for the type at an address. -/
def promote (address place : List Nat) (annotations : List Annotation) : List Annotation :=
  if place = address then annotations else ⟨"RestController", none, [], none⟩ :: annotations

theorem extractEndpoints_scoped_sample :
    ((sites sampleNested).filter Site.isExposed).map Site.name = ["list"] ∧
      (extractEndpoints "A.java" sampleNested).length = 1 ∧
      ownEndpoints "A.java" (reannotate (promote [0]) sampleNested) [0] =
        ownEndpoints "A.java" sampleNested [0] ∧
      extractEndpoints "A.java" (reannotate (fun _ => turnAround) sampleNested) =
        extractEndpoints "A.java" sampleNested := by
  obtain ⟨hyields, hother, horder⟩ := extractEndpoints_scoped "A.java" sampleNested
  have hexposed : ((sites sampleNested).filter Site.isExposed).map Site.name = ["list"] := by decide +kernel
  have hone : ((sites sampleNested).filter Site.isExposed).length = 1 := by
    rw [← List.length_map, hexposed]
    rfl
  refine ⟨hexposed, hyields.length_eq ▸ hone, hother _ [0] fun _ => if_pos rfl, horder _ fun _ annotations => ?_⟩
  unfold turnAround
  split
  · rename_i h
    exact ⟨List.reverse_perm annotations, .inr h⟩
  · exact ⟨.refl _, .inl rfl⟩

end EndpointIndex
