import EndpointIndex.Proofs.Outline.Nodes

/-!
# Two readers

A unit that is Java is read by the grammar as well as by patterns. The declarations that the two find
differ in their places and in empty braces, and so the endpoints of a source do not depend on which
reader finds them (`readTypes?_endpoints`).
-/

namespace EndpointIndex.Structural

open Source Java

/-! ## Places -/

theorem locateMarks_bare (lines : LineTable) (limit : Option Nat) (c : Cursor) (marks : List Java.Mark) :
    (locateMarks lines limit c marks).map Annotation.bare = marks.map Java.Mark.annotation := by
  induction marks generalizing c with
  | nil => rfl
  | cons m marks ih =>
    rw [locateMarks]
    dsimp only
    split
    · rw [List.map_cons, List.map_cons, ih]
      rfl
    · rw [List.map_cons, List.map_cons, ih]
      rfl

theorem locate_bare (lines : LineTable) (marks : List Java.Mark) (found : Option Found) (c : Cursor) :
    (locate lines marks found c).1.map Annotation.bare = marks.map Java.Mark.annotation := by
  cases found with
  | none => exact locateMarks_bare lines none c marks
  | some f => exact locateMarks_bare lines (some f.start) c marks

mutual

/-- Where a declaration is found does not change what it declares. -/
theorem declare_bare (lines : LineTable) (c : Cursor) (n : Java.Node) :
    (declare lines c n).1.bare = n.declared := by
  cases n with
  | method name line marks =>
    rw [declare, Node.declared]
    dsimp only
    rw [Declaration.bare, locate_bare]
  | type kind name line marks members =>
    rw [declare, Node.declared]
    dsimp only
    rw [Declaration.bare, locate_bare, declareAll_bare]

theorem declareAll_bare (lines : LineTable) (c : Cursor) (ns : List Java.Node) :
    Declaration.bareAll (declareAll lines c ns).1 = Node.declaredAll ns := by
  cases ns with
  | nil => rfl
  | cons n ns =>
    rw [declareAll, Node.declaredAll]
    dsimp only
    rw [Declaration.bareAll, declare_bare, declareAll_bare]

end

/-! ## Sources -/

/-- The grammar reads a source without comments, and finds the declarations of its unit. -/
theorem readTypes?_layout {unit : List Outline} (htypes : unit.all Outline.isType = true)
    (hunit : Outline.isJavaAll unit = true) (layout : Layout (Outline.lexemesOfAll unit))
    (hlayout : layout.isUncommented = true) :
    ∃ types, readTypes? layout.text = some types ∧
      Declaration.bareAll types = Declaration.recastAll Annotation.settled (Outline.declaredAll unit) := by
  obtain ⟨ts, hts, htokens⟩ := tokens?_layout layout hlayout (Outline.isSimple_lexemesOfAll unit hunit)
    (isChain_mayPrecede (Outline.parameterlessAll_of_isJavaAll unit hunit))
  obtain ⟨nodes, hread, hnodes⟩ := compilationUnit_unit htypes hunit hts
    (show ts.length + 3 ≤ rulesPerToken * (ts.length + 1) by rw [rulesPerToken]; omega)
  refine ⟨(declareAll (.ofText layout.text) (.start layout.text) nodes).1, ?_, ?_⟩
  · rw [readTypes?, parse?, htokens]
    dsimp only
    rw [hread]
    rfl
  · rw [declareAll_bare, hnodes]

/-- The grammar reads a source, and finds the same endpoints in it as patterns do. -/
theorem readTypes?_endpoints (file : String) {unit : List Outline} (htypes : unit.all Outline.isType = true)
    (hunit : Outline.isJavaAll unit = true) (layout : Layout (Outline.lexemesOfAll unit))
    (hlayout : layout.isUncommented = true) :
    ∃ types, readTypes? layout.text = some types ∧
      (extractEndpoints file types).map Endpoint.unplaced =
        (extractEndpoints file (Pattern.readTypes layout.text)).map Endpoint.unplaced := by
  obtain ⟨types, hread, htypes⟩ := readTypes?_layout htypes hunit layout hlayout
  refine ⟨types, hread, ?_⟩
  calc (extractEndpoints file types).map Endpoint.unplaced
      = (extractEndpoints file (Declaration.bareAll types)).map Endpoint.unplaced := by
        rw [Declaration.bareAll_eq_map, extractEndpoints, extractEndpoints, memberEndpoints_bare]
    _ = (extractEndpoints file (Outline.declaredAll unit)).map Endpoint.unplaced := by
        rw [htypes, extractEndpoints, extractEndpoints, Annotation.Faithful.settled.memberEndpoints]
    _ = (extractEndpoints file (Pattern.readTypes layout.text)).map Endpoint.unplaced := by
        rw [Outline.declaredAll_eq_map, extractEndpoints_layout]

/-- `@RestController class Shop{@RequestMapping(path="/list",method={{},RequestMethod.PUT})public void list(){}
@RestController interface Part{@GetMapping("/part")void part();}}` -/
def shopUnit : List Outline :=
  [.type [⟨⟨[], ⟨"RestController", by decide⟩⟩, by decide, none⟩] [] .classType ⟨"Shop", by decide⟩
    [.method
      [⟨⟨[], ⟨"RequestMapping", by decide⟩⟩, by decide,
        some ⟨[⟨⟨"path", by decide⟩, .literal "/list"⟩,
          ⟨⟨"method", by decide⟩,
            .array [.array [], .reference ⟨[⟨"RequestMethod", by decide⟩], ⟨"PUT", by decide⟩⟩]⟩],
          none, []⟩⟩]
      [⟨"public", by decide⟩] ⟨⟨"list", by decide⟩, by decide⟩ [] (some .empty),
    .type [⟨⟨[], ⟨"RestController", by decide⟩⟩, by decide, none⟩] [] .interfaceType ⟨"Part", by decide⟩
      [.method
        [⟨⟨[], ⟨"GetMapping", by decide⟩⟩, by decide, some ⟨[], some (.literal "/part"), []⟩⟩]
        [] ⟨⟨"part", by decide⟩, by decide⟩ [] none]]]

theorem readTypes?_endpoints_shop :
    shopUnit.all Outline.isType = true ∧ Outline.isJavaAll shopUnit = true ∧
      (Layout.tight (Outline.lexemesOfAll shopUnit)).isUncommented = true ∧
      (extractEndpoints "Shop.java" (shopUnit.map Outline.declared)).map Endpoint.fullPath =
        ["/list", "/part"] ∧
      ∃ types, readTypes? (Layout.tight (Outline.lexemesOfAll shopUnit)).text = some types ∧
        (extractEndpoints "Shop.java" types).map Endpoint.unplaced =
          (extractEndpoints "Shop.java"
            (Pattern.readTypes (Layout.tight (Outline.lexemesOfAll shopUnit)).text)).map Endpoint.unplaced := by
  have htypes : shopUnit.all Outline.isType = true := by decide
  have hunit : Outline.isJavaAll shopUnit = true := by decide +kernel
  have hlayout : (Layout.tight (Outline.lexemesOfAll shopUnit)).isUncommented = true := by decide +kernel
  have hpaths : (extractEndpoints "Shop.java" (shopUnit.map Outline.declared)).map Endpoint.fullPath =
      ["/list", "/part"] := by decide +kernel
  exact ⟨htypes, hunit, hlayout, hpaths, readTypes?_endpoints "Shop.java" htypes hunit _ hlayout⟩

end EndpointIndex.Structural
