import EndpointIndex.Proofs.Sorting
import EndpointIndex.Search
import Mathlib.Data.List.Basic
import Mathlib.Data.List.Nodup
import Mathlib.Data.List.TakeWhile

/-!
# The ranking of search results

What a search should find is said without sorting: of every route with a positive score its best
endpoint, and of equally good ones the first, in the order of scores and, among equal scores, of places
(`Ranking`). Sorting keeps the order of equal scores (`filter_ranked`) and of a route the first endpoint
is kept, so a search finds exactly that (`search_eq_iff`).
-/

namespace EndpointIndex.Search

/-- Comes first in a ranking: with a higher score, or with the same score and an earlier place among the
endpoints. -/
def Before (query : String) (endpoints : List Endpoint) (a b : Endpoint) : Prop :=
  score query b < score query a ∨
    score query a = score query b ∧ endpoints.idxOf a < endpoints.idxOf b

/-- The best matches of a query, one for each route. -/
structure Ranking (query : String) (endpoints results : List Endpoint) : Prop where
  positive : ∀ e ∈ results, e ∈ endpoints ∧ 0 < score query e
  distinct : (results.map route).Nodup
  best : ∀ e ∈ endpoints, 0 < score query e →
    ∃ r ∈ results, route r = route e ∧
      ∀ x ∈ endpoints, route x = route e → x = r ∨ Before query endpoints r x
  ordered : results.Pairwise (Before query endpoints)

instance (query : String) (endpoints : List Endpoint) (a b : Endpoint) :
    Decidable (Before query endpoints a b) :=
  inferInstanceAs (Decidable (_ ∨ _ ∧ _))

section

variable {query : String} {endpoints results : List Endpoint} {a b : Endpoint}

theorem ranking_iff : Ranking query endpoints results ↔
    (∀ e ∈ results, e ∈ endpoints ∧ 0 < score query e) ∧ (results.map route).Nodup ∧
      (∀ e ∈ endpoints, 0 < score query e → ∃ r ∈ results, route r = route e ∧
        ∀ x ∈ endpoints, route x = route e → x = r ∨ Before query endpoints r x) ∧
      results.Pairwise (Before query endpoints) :=
  ⟨fun ⟨h₁, h₂, h₃, h₄⟩ => ⟨h₁, h₂, h₃, h₄⟩, fun ⟨h₁, h₂, h₃, h₄⟩ => ⟨h₁, h₂, h₃, h₄⟩⟩

instance : Decidable (Ranking query endpoints results) := decidable_of_iff' _ ranking_iff

theorem Before.asymm (h : Before query endpoints a b) : ¬ Before query endpoints b a := by
  unfold Before at *
  omega

theorem Before.score_le (h : Before query endpoints a b) : score query b ≤ score query a := by
  unfold Before at h
  omega

/-! ## One ranking -/

namespace Ranking

theorem eq_of_route (h : Ranking query endpoints results) (ha : a ∈ results) (hb : b ∈ results)
    (hroute : route a = route b) : a = b :=
  List.inj_on_of_nodup_map h.distinct ha hb hroute

/-- A result is the best of its route. -/
theorem eq_or_before (h : Ranking query endpoints results) (ha : a ∈ results) (hb : b ∈ endpoints)
    (hroute : route b = route a) : b = a ∨ Before query endpoints a b := by
  obtain ⟨hmem, hpositive⟩ := h.positive a ha
  obtain ⟨r, hr, hsame, hbest⟩ := h.best a hmem hpositive
  obtain rfl := h.eq_of_route hr ha hsame
  exact hbest b hb hroute

theorem mem_of_mem {results' : List Endpoint} (h : Ranking query endpoints results)
    (h' : Ranking query endpoints results') (ha : a ∈ results) : a ∈ results' := by
  obtain ⟨hmem, hpositive⟩ := h.positive a ha
  obtain ⟨r, hr, hroute, hbest⟩ := h'.best a hmem hpositive
  rcases h.eq_or_before ha (h'.positive r hr).1 hroute with rfl | hbefore
  · exact hr
  · rcases hbest a hmem rfl with rfl | hafter
    · exact hr
    · exact absurd hafter hbefore.asymm

theorem nodup (h : Ranking query endpoints results) : results.Nodup := h.distinct.of_map route

theorem unique {results' : List Endpoint} (h : Ranking query endpoints results)
    (h' : Ranking query endpoints results') : results = results' := by
  have hperm : results.Perm results' :=
    (List.perm_ext_iff_of_nodup h.nodup h'.nodup).2 fun a => ⟨h.mem_of_mem h', h'.mem_of_mem h⟩
  exact hperm.eq_of_pairwise (fun a b _ _ hab hba => absurd hba hab.asymm) h.ordered h'.ordered

end Ranking

/-! ## Other orders of the endpoints -/

section

variable {others results' : List Endpoint}

theorem Ranking.score_le (h : Ranking query endpoints results) (ha : a ∈ results) (hb : b ∈ endpoints)
    (hroute : route b = route a) : score query b ≤ score query a := by
  rcases h.eq_or_before ha hb hroute with rfl | hbefore
  · exact Nat.le_refl _
  · exact hbefore.score_le

/-- A route that is found is found with the same score, whatever the order of the endpoints. -/
theorem Ranking.exists_of_perm (h : Ranking query endpoints results) (h' : Ranking query others results')
    (hperm : others.Perm endpoints) (ha : a ∈ results) :
    ∃ r ∈ results', route r = route a ∧ score query r = score query a := by
  obtain ⟨hmem, hpositive⟩ := h.positive a ha
  have hmem' := hperm.mem_iff.2 hmem
  obtain ⟨r, hr, hroute, -⟩ := h'.best a hmem' hpositive
  have hle := h'.score_le hr hmem' hroute.symm
  have hge := h.score_le ha (hperm.mem_iff.1 (h'.positive r hr).1) hroute
  exact ⟨r, hr, hroute, Nat.le_antisymm hge hle⟩

/-- What a ranking says of a result, apart from which of several endpoints it is. -/
def report (query : String) (e : Endpoint) : Route × Nat := (route e, score query e)

theorem Ranking.nodup_report (h : Ranking query endpoints results) :
    (results.map (report query)).Nodup := by
  refine List.Nodup.of_map Prod.fst ?_
  rw [List.map_map]
  exact h.distinct

theorem Ranking.report_subset (h : Ranking query endpoints results) (h' : Ranking query others results')
    (hperm : others.Perm endpoints) : results.map (report query) ⊆ results'.map (report query) := by
  intro p hp
  obtain ⟨a, ha, rfl⟩ := List.mem_map.1 hp
  obtain ⟨r, hr, hroute, hscore⟩ := h.exists_of_perm h' hperm ha
  exact List.mem_map.2 ⟨r, hr, Prod.ext hroute hscore⟩

theorem Ranking.perm_report (h : Ranking query endpoints results) (h' : Ranking query others results')
    (hperm : others.Perm endpoints) : (results'.map (report query)).Perm (results.map (report query)) :=
  (List.perm_ext_iff_of_nodup h'.nodup_report h.nodup_report).2 fun _ =>
    ⟨fun hp => h'.report_subset h hperm.symm hp, fun hp => h.report_subset h' hperm hp⟩

theorem Ranking.pairwise_scores (h : Ranking query endpoints results) :
    (results.map (score query)).Pairwise (fun x y => y ≤ x) :=
  List.pairwise_map.2 (h.ordered.imp fun hbefore => hbefore.score_le)

theorem Ranking.scores_eq (h : Ranking query endpoints results) (h' : Ranking query others results')
    (hperm : others.Perm endpoints) : results'.map (score query) = results.map (score query) := by
  have hreports := (h.perm_report h' hperm).map Prod.snd
  rw [List.map_map, List.map_map] at hreports
  exact hreports.eq_of_pairwise (fun x y _ _ hxy hyx => Nat.le_antisymm hyx hxy) h'.pairwise_scores
    h.pairwise_scores

end

/-! ## Sorting by score -/

/-- Whether the first of two endpoints may stand before the second in the order of scores. -/
def mayPrecede (query : String) (a b : Endpoint) : Bool := score query b ≤ score query a

theorem ranked_eq (query : String) (endpoints : List Endpoint) :
    ranked query endpoints =
      (endpoints.filter fun e => 0 < score query e).mergeSort (mayPrecede query) := by
  have hsame : (endpoints.map fun e => (score query e, e)).filter (fun p => decide (0 < p.1)) =
      (endpoints.filter fun e => 0 < score query e).map fun e => (score query e, e) := by
    simp only [List.filter_map, Function.comp_def]
  have hsort := List.map_mergeSort (r := mayPrecede query)
    (s := fun a b : Nat × Endpoint => decide (b.1 ≤ a.1)) (f := fun e => (score query e, e))
    (l := endpoints.filter fun e => 0 < score query e) fun _ _ _ _ => rfl
  rw [ranked, hsame, ← hsort, List.map_map]
  exact List.map_id' _

theorem mem_ranked : a ∈ ranked query endpoints ↔ a ∈ endpoints ∧ 0 < score query a := by
  rw [ranked_eq, List.mem_mergeSort, List.mem_filter, decide_eq_true_eq]

theorem mayPrecede_eq (query : String) :
    mayPrecede query = Sorting.byKey fun e => OrderDual.toDual (score query e) := by
  funext a b
  exact decide_eq_decide.2 OrderDual.toDual_le_toDual.symm

theorem pairwise_ranked (query : String) (endpoints : List Endpoint) :
    (ranked query endpoints).Pairwise fun a b => score query b ≤ score query a := by
  rw [ranked_eq, mayPrecede_eq]
  exact (Sorting.pairwise_mergeSort (fun e => OrderDual.toDual (score query e)) _).imp
    OrderDual.toDual_le_toDual.1

/-- Endpoints with the same score keep their order. -/
theorem filter_ranked {n : Nat} (hn : 0 < n) :
    (ranked query endpoints).filter (fun e => score query e = n) =
      endpoints.filter fun e => score query e = n := by
  have hpositive : (endpoints.filter fun e => 0 < score query e).filter (fun e => score query e = n) =
      endpoints.filter fun e => score query e = n := by
    rw [List.filter_filter]
    apply List.filter_congr
    intro e _
    by_cases he : score query e = n <;> simp [he, hn]
  have hsorted := Sorting.filter_mergeSort (fun e => OrderDual.toDual (score query e))
    (endpoints.filter fun e => 0 < score query e) (OrderDual.toDual n)
  simp only [OrderDual.toDual_inj] at hsorted
  rw [ranked_eq, mayPrecede_eq, hsorted, hpositive]

/-! ## Places -/

theorem idxOf_cons_lt_iff {e : Endpoint} {l : List Endpoint} (ha : e ≠ a) (hb : e ≠ b) :
    (e :: l).idxOf a < (e :: l).idxOf b ↔ l.idxOf a < l.idxOf b := by
  rw [List.idxOf_cons_ne _ ha, List.idxOf_cons_ne _ hb]
  exact Nat.add_lt_add_iff_right

theorem idxOf_filter_lt_iff {p : Endpoint → Bool} (hpa : p a = true) (hpb : p b = true)
    (l : List Endpoint) : (l.filter p).idxOf a < (l.filter p).idxOf b ↔ l.idxOf a < l.idxOf b := by
  induction l with
  | nil => rfl
  | cons e l ih =>
    by_cases he : p e = true
    · rw [List.filter_cons_of_pos he]
      simp only [List.idxOf_cons]
      cases e == a <;> cases e == b <;> simp [ih]
    · have hne (x : Endpoint) (hx : p x = true) : e ≠ x := fun h => he (h ▸ hx)
      rw [List.filter_cons_of_neg he, ih, idxOf_cons_lt_iff (hne a hpa) (hne b hpb)]

/-- Of two endpoints with a positive score, the one that is ranked first comes before the other. -/
theorem before_of_idxOf_ranked (ha : a ∈ ranked query endpoints) (hb : b ∈ ranked query endpoints)
    (h : (ranked query endpoints).idxOf a < (ranked query endpoints).idxOf b) :
    Before query endpoints a b := by
  have hle : score query b ≤ score query a := by
    have hla := List.idxOf_lt_length_of_mem ha
    have hlb := List.idxOf_lt_length_of_mem hb
    have hscores := List.pairwise_iff_getElem.1 (pairwise_ranked query endpoints) _ _ hla hlb h
    rwa [List.getElem_idxOf, List.getElem_idxOf] at hscores
  rcases Nat.lt_or_eq_of_le hle with hlt | heq
  · exact .inl hlt
  · -- among equal scores, places are compared within the level that sorting keeps
    have hfilter : (ranked query endpoints).filter (fun e => score query e = score query a) =
        endpoints.filter fun e => score query e = score query a := filter_ranked (mem_ranked.1 ha).2
    have hplace (l : List Endpoint) := idxOf_filter_lt_iff (p := fun e => score query e = score query a)
      (decide_eq_true rfl) (decide_eq_true heq) l
    have hlevel := (hplace (ranked query endpoints)).2 h
    rw [hfilter] at hlevel
    exact .inr ⟨heq.symm, (hplace endpoints).1 hlevel⟩

/-! ## The first of each route -/

section

variable {seen : List Route} {l : List Endpoint}

theorem firsts_sublist (seen : List Route) (l : List Endpoint) : (firsts seen l).Sublist l := by
  fun_induction firsts seen l with
  | case1 => exact List.Sublist.slnil
  | case2 seen e l hseen ih => exact ih.cons e
  | case3 seen e l hnew ih => exact ih.cons_cons e

theorem notMem_seen_of_mem_firsts (h : a ∈ firsts seen l) : route a ∉ seen := by
  fun_induction firsts seen l with
  | case1 => cases h
  | case2 seen e l hseen ih => exact ih h
  | case3 seen e l hnew ih =>
    rcases List.mem_cons.1 h with rfl | h
    · exact hnew
    · exact fun hmem => ih h (List.mem_cons_of_mem _ hmem)

theorem nodup_route_firsts (seen : List Route) (l : List Endpoint) :
    ((firsts seen l).map route).Nodup := by
  fun_induction firsts seen l with
  | case1 => exact List.nodup_nil
  | case2 seen e l hseen ih => exact ih
  | case3 seen e l hnew ih =>
    refine List.nodup_cons.2 ⟨fun hmem => ?_, ih⟩
    obtain ⟨b, hb, hroute⟩ := List.mem_map.1 hmem
    exact notMem_seen_of_mem_firsts hb (hroute ▸ List.mem_cons_self)

/-- The endpoints that are kept stand in the order of their first places. -/
theorem pairwise_idxOf_firsts (seen : List Route) (l : List Endpoint) :
    (firsts seen l).Pairwise fun a b => l.idxOf a < l.idxOf b := by
  fun_induction firsts seen l with
  | case1 => exact List.Pairwise.nil
  | case2 seen e l hseen ih =>
    have hne (x : Endpoint) (hx : x ∈ firsts seen l) : e ≠ x := by
      rintro rfl
      exact notMem_seen_of_mem_firsts hx hseen
    exact ih.imp_of_mem fun {a b} ha hb hab => (idxOf_cons_lt_iff (hne a ha) (hne b hb)).2 hab
  | case3 seen e l hnew ih =>
    have hne (x : Endpoint) (hx : x ∈ firsts (route e :: seen) l) : e ≠ x := by
      rintro rfl
      exact notMem_seen_of_mem_firsts hx List.mem_cons_self
    have hrest := ih.imp_of_mem fun {a b} ha hb hab => (idxOf_cons_lt_iff (hne a ha) (hne b hb)).2 hab
    refine List.pairwise_cons.2 ⟨fun b hb => ?_, hrest⟩
    rw [List.idxOf_cons_self, List.idxOf_cons_ne _ (hne b hb)]
    exact Nat.succ_pos _

/-- An endpoint of another route in front does not change which is the first of a route. -/
theorem first_cons {e r : Endpoint} (he : route e ≠ route a) (hr : route r = route a)
    (h : ∀ x ∈ l, route x = route a → x = r ∨ l.idxOf r < l.idxOf x) :
    ∀ x ∈ e :: l, route x = route a → x = r ∨ (e :: l).idxOf r < (e :: l).idxOf x := by
  have hne (x : Endpoint) (hx : route x = route a) : e ≠ x := by
    rintro rfl
    exact he hx
  intro x hx hroute
  have hmem : x ∈ l := (List.mem_cons.1 hx).resolve_left (hne x hroute).symm
  exact (h x hmem hroute).imp_right (idxOf_cons_lt_iff (hne r hr) (hne x hroute)).2

/-- Every route that has not been seen before is kept with its first endpoint. -/
theorem exists_mem_firsts (ha : a ∈ l) (hseen : route a ∉ seen) :
    ∃ r ∈ firsts seen l, route r = route a ∧
      ∀ x ∈ l, route x = route a → x = r ∨ l.idxOf r < l.idxOf x := by
  fun_induction firsts seen l with
  | case1 => cases ha
  | case2 seen e l he ih =>
    have hother : route e ≠ route a := fun hsame => hseen (hsame ▸ he)
    have hmem : a ∈ l := (List.mem_cons.1 ha).resolve_left fun hsame => hother (congrArg route hsame.symm)
    obtain ⟨r, hr, hroute, hfirst⟩ := ih hmem hseen
    exact ⟨r, hr, hroute, first_cons hother hroute hfirst⟩
  | case3 seen e l he ih =>
    by_cases hroute : route e = route a
    · -- nothing comes before the endpoint that is kept here
      refine ⟨e, List.mem_cons_self, hroute, fun x _ _ => ?_⟩
      by_cases hx : e = x
      · exact .inl hx.symm
      · rw [List.idxOf_cons_self, List.idxOf_cons_ne _ hx]
        exact .inr (Nat.succ_pos _)
    · have hmem : a ∈ l := (List.mem_cons.1 ha).resolve_left fun hsame => hroute (congrArg route hsame.symm)
      have hunseen : route a ∉ route e :: seen := by
        rw [List.mem_cons, not_or]
        exact ⟨Ne.symm hroute, hseen⟩
      obtain ⟨r, hr, hsame, hfirst⟩ := ih hmem hunseen
      exact ⟨r, List.mem_cons_of_mem e hr, hsame, first_cons hroute hsame hfirst⟩

end

/-- The first endpoints of the routes, in the order of scores, are a ranking. -/
theorem ranking_firsts (query : String) (endpoints : List Endpoint) :
    Ranking query endpoints (firsts [] (ranked query endpoints)) where
  positive e he := mem_ranked.1 ((firsts_sublist _ _).subset he)
  distinct := nodup_route_firsts [] _
  best e he hpositive := by
    have hranked := mem_ranked.2 ⟨he, hpositive⟩
    obtain ⟨r, hr, hroute, hfirst⟩ := exists_mem_firsts hranked List.not_mem_nil
    have hr' := (firsts_sublist _ _).subset hr
    refine ⟨r, hr, hroute, fun x hx hsame => ?_⟩
    by_cases hscore : 0 < score query x
    · have hx' := mem_ranked.2 ⟨hx, hscore⟩
      exact (hfirst x hx' hsame).imp_right (before_of_idxOf_ranked hr' hx')
    · have hbest := (mem_ranked.1 hr').2
      exact .inr (.inl (by omega))
  ordered := by
    have hsub := (firsts_sublist [] (ranked query endpoints)).subset
    exact (pairwise_idxOf_firsts [] _).imp_of_mem fun ha hb hab =>
      before_of_idxOf_ranked (hsub ha) (hsub hb) hab

end

/-! ## Queries -/

theorem lowerChar_ne_nil (c : Char) : Text.lowerChar c ≠ [] := by
  have hsequences : ∀ p ∈ Text.lowerSequences.toList, p.2 ≠ [] := by decide
  unfold Text.lowerChar
  split
  · exact List.cons_ne_nil _ _
  · unfold Text.counterpart
    split
    · rename_i n seq hfound
      have hmem := Array.mem_toList_iff.2 (Array.mem_of_find?_eq_some hfound)
      exact fun hnil => hsequences _ hmem (List.map_eq_nil_iff.1 hnil)
    · split <;> exact List.cons_ne_nil _ _

theorem lowerChars_ne_nil {s : List Char} (h : s ≠ []) : Text.lowerChars s ≠ [] := by
  cases s with
  | nil => exact absurd rfl h
  | cons c r =>
    unfold Text.lowerChars Text.lowerAfter
    dsimp only
    intro hnil
    have himage := (List.append_eq_nil_iff.1 hnil).1
    split at himage
    · split at himage <;> cases himage
    · exact lowerChar_ne_nil c himage

theorem trim_ne_nil {s : List Char} {c : Char} (hc : c ∈ s) (hvisible : Text.isBlank c = false) :
    Text.trim s ≠ [] := by
  intro hnil
  rw [Text.trim, Text.trimRight, List.reverse_eq_nil_iff, List.dropWhile_eq_nil_iff] at hnil
  have hleft : Text.trimLeft s = [] := by
    cases hs : Text.trimLeft s with
    | nil => rfl
    | cons d r =>
      have hd := Text.isBlank_head_trimLeft hs
      rw [hnil d (by rw [hs]; simp)] at hd
      cases hd
  rw [Text.trimLeft, List.dropWhile_eq_nil_iff] at hleft
  rw [hleft c hc] at hvisible
  cases hvisible

theorem search_of_visible {query : String} (h : ∃ c ∈ query.toList, Text.isBlank c = false)
    (endpoints : List Endpoint) :
    search query endpoints = firsts [] (ranked (normalize query) endpoints) := by
  obtain ⟨c, hc, hvisible⟩ := h
  have hne : (normalize query).isEmpty = false := by
    rw [← Bool.not_eq_true, String.isEmpty_iff, normalize, Text.lower, String.ofList_eq_empty_iff,
      Text.strip, String.toList_ofList]
    exact lowerChars_ne_nil (trim_ne_nil hc hvisible)
  rw [search, hne]
  rfl

/-- The results of a query that is not blank are its ranking, and there is no other. In whatever order
the endpoints come, the same routes are found with the same scores, and at every place of the results
stands the same score. -/
theorem search_eq_iff {query : String} (hquery : ∃ c ∈ query.toList, Text.isBlank c = false)
    (endpoints : List Endpoint) :
    (∀ results, search query endpoints = results ↔ Ranking (normalize query) endpoints results) ∧
      ∀ others : List Endpoint, others.Perm endpoints →
        ((search query others).map (report (normalize query))).Perm
            ((search query endpoints).map (report (normalize query))) ∧
          (search query others).map (score (normalize query)) =
            (search query endpoints).map (score (normalize query)) := by
  have hranking := ranking_firsts (normalize query)
  refine ⟨fun results => ?_, fun others hperm => ?_⟩
  · rw [search_of_visible hquery]
    exact ⟨fun h => h ▸ hranking endpoints, fun h => (hranking endpoints).unique h⟩
  · rw [search_of_visible hquery, search_of_visible hquery]
    have here := hranking endpoints
    have there := hranking others
    exact ⟨here.perm_report there hperm, here.scores_eq there hperm⟩

/-- `GET /users` as a method of a type in a file. -/
def sampleEndpoint (typeName methodName file : String) : Endpoint where
  fullPath := "/users"
  rawPath := "/users"
  typePath := ""
  methodPath := "/users"
  verb := .get
  typeName := typeName
  methodName := methodName
  file := file
  startLine := 1
  startColumn := 1
  endLine := 1
  endColumn := 1

/-- A route whose better endpoint comes last, and two routes that are equally good. -/
def sampleEndpoints : List Endpoint :=
  [sampleEndpoint "A" "list" "A.java", sampleEndpoint "B" "users" "B.java",
    sampleEndpoint "C" "find" "C.java", sampleEndpoint "A" "users" "Z.java"]

theorem search_eq_iff_sample :
    (∃ c ∈ " Users ".toList, Text.isBlank c = false) ∧
      search " Users " sampleEndpoints =
        [sampleEndpoint "B" "users" "B.java", sampleEndpoint "A" "users" "Z.java",
          sampleEndpoint "C" "find" "C.java"] ∧
      (search " Users " sampleEndpoints.reverse).map (score (normalize " Users ")) =
        (search " Users " sampleEndpoints).map (score (normalize " Users ")) := by
  have hquery : ∃ c ∈ " Users ".toList, Text.isBlank c = false := ⟨'U', by decide +kernel, by decide +kernel⟩
  have hranking : Ranking (normalize " Users ") sampleEndpoints
      [sampleEndpoint "B" "users" "B.java", sampleEndpoint "A" "users" "Z.java",
        sampleEndpoint "C" "find" "C.java"] := by decide +kernel
  obtain ⟨hresults, hothers⟩ := search_eq_iff hquery sampleEndpoints
  exact ⟨hquery, (hresults _).2 hranking, (hothers _ sampleEndpoints.reverse_perm).2⟩

end EndpointIndex.Search
