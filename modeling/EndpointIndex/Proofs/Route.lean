import EndpointIndex.Route.Path
import Mathlib.Data.List.Basic
import Mathlib.Data.List.Chain

/-!
# Joined routes

Joining moves slashes at the seams and nothing else: the components of a route are those of its
segments, in their order (`components_join`). Joining a route again only trims it, so it changes a
route exactly when a blank has come to its end (`join_join_iff`); such a blank stood before the slashes
at the end of a segment, where trimming does not reach it.
-/

namespace EndpointIndex.Route

/-! ## Slashes at the ends -/

section

variable {s t : List Char}

theorem startsWithSlash_iff : startsWithSlash s = true ↔ ∃ r, s = '/' :: r := by
  rw [startsWithSlash, beq_iff_eq, List.head?_eq_some_iff]

theorem endsWithSlash_iff : endsWithSlash s = true ↔ ∃ r, s = r ++ ['/'] := by
  rw [endsWithSlash, beq_iff_eq, List.getLast?_eq_some_iff]

theorem dropLeadingSlash_cases (s : List Char) :
    s = '/' :: dropLeadingSlash s ∨ startsWithSlash s = false ∧ dropLeadingSlash s = s := by
  fun_cases dropLeadingSlash s with
  | case1 r => exact .inl rfl
  | case2 s hs =>
    refine .inr ⟨?_, rfl⟩
    rw [Bool.eq_false_iff, ne_eq, startsWithSlash_iff]
    rintro ⟨r, rfl⟩
    exact hs r rfl

theorem dropTrailingSlash_cases (s : List Char) :
    (s = dropTrailingSlash s ++ ['/'] ∧ dropTrailingSlash s ≠ []) ∨ dropTrailingSlash s = s := by
  by_cases h : (endsWithSlash s && decide (1 < s.length)) = true
  · left
    rw [dropTrailingSlash, if_pos h]
    rw [Bool.and_eq_true, endsWithSlash_iff, decide_eq_true_eq] at h
    obtain ⟨⟨r, rfl⟩, hlength⟩ := h
    rw [List.dropLast_concat]
    refine ⟨rfl, ?_⟩
    rintro rfl
    exact absurd hlength (by simp)
  · right
    rw [dropTrailingSlash, if_neg h]

/-- What an extension puts between the trimmed sides of a seam. -/
theorem extend_cases (joined segment : List Char) :
    (extend joined segment =
        dropTrailingSlash joined ++ '/' :: dropTrailingSlash (dropLeadingSlash segment) ∧
      endsWithSlash (dropTrailingSlash joined) = false ∧
      startsWithSlash (dropTrailingSlash (dropLeadingSlash segment)) = false) ∨
    (extend joined segment =
        dropTrailingSlash joined ++ dropTrailingSlash (dropLeadingSlash segment) ∧
      (dropTrailingSlash joined = [] ∨ dropTrailingSlash (dropLeadingSlash segment) = [] ∨
        endsWithSlash (dropTrailingSlash joined) = true ∨
        startsWithSlash (dropTrailingSlash (dropLeadingSlash segment)) = true)) := by
  unfold extend
  dsimp only
  generalize dropTrailingSlash joined = left
  generalize dropTrailingSlash (dropLeadingSlash segment) = right
  split
  · rename_i h
    simp only [Bool.and_eq_true, Bool.not_eq_true'] at h
    exact .inl ⟨rfl, h.1.2, h.2⟩
  · rename_i h
    simp only [Bool.and_eq_true, Bool.not_eq_true', not_and_or, Bool.not_eq_false,
      List.isEmpty_iff] at h
    exact .inr ⟨rfl, by tauto⟩

/-! ## Components -/

theorem components_append_slash (s t : List Char) :
    components (s ++ '/' :: t) = components s ++ components t := by
  rw [components, List.splitOn_append_cons_self, List.filter_append]
  rfl

theorem components_nil : components [] = [] := rfl

theorem components_slash (s : List Char) : components ('/' :: s) = components s :=
  components_append_slash [] s

theorem components_concat_slash (s : List Char) : components (s ++ ['/']) = components s := by
  rw [components_append_slash, components_nil, List.append_nil]

/-- Where a slash stands at a seam, or nothing at one side of it, the seam cuts no component. -/
theorem components_append
    (h : s = [] ∨ t = [] ∨ endsWithSlash s = true ∨ startsWithSlash t = true) :
    components (s ++ t) = components s ++ components t := by
  rcases h with rfl | rfl | hs | ht
  · rfl
  · rw [List.append_nil, components_nil, List.append_nil]
  · obtain ⟨r, rfl⟩ := endsWithSlash_iff.1 hs
    rw [List.append_assoc, List.singleton_append, components_append_slash, components_concat_slash]
  · obtain ⟨r, rfl⟩ := startsWithSlash_iff.1 ht
    rw [components_append_slash, components_slash]

theorem components_dropLeadingSlash (s : List Char) :
    components (dropLeadingSlash s) = components s := by
  rcases dropLeadingSlash_cases s with h | ⟨-, h⟩
  · conv_rhs => rw [h, components_slash]
  · rw [h]

theorem components_dropTrailingSlash (s : List Char) :
    components (dropTrailingSlash s) = components s := by
  rcases dropTrailingSlash_cases s with ⟨h, -⟩ | h
  · conv_rhs => rw [h, components_concat_slash]
  · rw [h]

theorem components_withLeadingSlash (s : List Char) :
    components (withLeadingSlash s) = components s := by
  unfold withLeadingSlash
  split
  · rfl
  · exact components_slash s

theorem components_extend (joined segment : List Char) :
    components (extend joined segment) = components joined ++ components segment := by
  have hleft := components_dropTrailingSlash joined
  have hright : components (dropTrailingSlash (dropLeadingSlash segment)) = components segment := by
    rw [components_dropTrailingSlash, components_dropLeadingSlash]
  rcases extend_cases joined segment with ⟨h, -⟩ | ⟨h, hseam⟩
  · rw [h, components_append_slash, hleft, hright]
  · rw [h, components_append hseam, hleft, hright]

theorem components_foldl_extend (joined : List Char) (ps : List (List Char)) :
    components (ps.foldl extend joined) = components joined ++ ps.flatMap components := by
  induction ps generalizing joined with
  | nil => rw [List.foldl_nil, List.flatMap_nil, List.append_nil]
  | cons p ps ih =>
    rw [List.foldl_cons, ih, components_extend, List.flatMap_cons, List.append_assoc]

theorem components_joinParts (ps : List (List Char)) :
    components (joinParts ps) = ps.flatMap components := by
  cases ps with
  | nil => rfl
  | cons p ps =>
    rw [joinParts, components_withLeadingSlash, components_foldl_extend, List.flatMap_cons]

/-- Segments that are empty after trimming have no components. -/
theorem flatMap_components_parts (segments : List (Option String)) :
    (parts segments).flatMap components =
      segments.flatMap fun s => components (Text.trim (s.getD "").toList) := by
  induction segments with
  | nil => rfl
  | cons s segments ih =>
    rw [List.flatMap_cons, ← ih, parts, List.map_cons, List.filter_cons]
    split
    · rw [List.flatMap_cons]
      rfl
    · rename_i h
      rw [Bool.not_eq_true', Bool.not_eq_false, List.isEmpty_iff] at h
      rw [h, components_nil, List.nil_append]
      rfl

theorem components_joinChars (segments : List (Option String)) :
    components (joinChars segments) =
      segments.flatMap fun s => components (Text.trim (s.getD "").toList) := by
  rw [joinChars, components_joinParts, flatMap_components_parts]

/-! ## Empty routes -/

theorem joinChars_eq_nil_iff (segments : List (Option String)) :
    joinChars segments = [] ↔
      ∀ text, some text ∈ segments → ∀ c ∈ text.toList, Text.isBlank c = true := by
  have hparts : parts segments = [] ↔ ∀ s ∈ segments, Text.trim (s.getD "").toList = [] := by
    simp [parts, List.filter_eq_nil_iff]
  rw [joinChars, joinParts_eq_nil_iff, hparts]
  constructor
  · intro h text htext
    have htrim : Text.trim text.toList = [] := h (some text) htext
    exact Text.trim_eq_nil_iff.1 htrim
  · intro h s hs
    rw [Text.trim_eq_nil_iff]
    cases s with
    | none => simp
    | some text => exact h text hs

theorem head?_joinChars {segments : List (Option String)} (h : joinChars segments ≠ []) :
    (joinChars segments).head? = some '/' := by
  unfold joinChars at h ⊢
  cases hparts : parts segments with
  | nil =>
    rw [hparts] at h
    exact absurd rfl h
  | cons p ps => exact eq_of_beq (startsWithSlash_withLeadingSlash _)

/-! ## Slashes next to each other -/

/-- No two slashes stand next to each other. -/
def Spaced (s : List Char) : Prop := s.IsChain fun a b => ¬ (a = '/' ∧ b = '/')

theorem spaced_iff : Spaced s ↔ ¬ ['/', '/'] <:+: s := by
  rw [Spaced, List.isChain_iff_forall_rel_of_append_cons_cons]
  constructor
  · rintro h ⟨front, back, rfl⟩
    exact @h '/' '/' front back (by simp) ⟨rfl, rfl⟩
  · rintro h a b front back rfl ⟨rfl, rfl⟩
    exact h ⟨front, back, by simp⟩

theorem spaced_append : Spaced (s ++ t) ↔
    Spaced s ∧ Spaced t ∧ ¬ (endsWithSlash s = true ∧ startsWithSlash t = true) := by
  simp only [Spaced, List.isChain_append, endsWithSlash, startsWithSlash, beq_iff_eq, Option.mem_def]
  constructor
  · rintro ⟨hs, ht, hseam⟩
    refine ⟨hs, ht, ?_⟩
    rintro ⟨hlast, hhead⟩
    exact hseam '/' hlast '/' hhead ⟨rfl, rfl⟩
  · rintro ⟨hs, ht, hseam⟩
    refine ⟨hs, ht, ?_⟩
    rintro a ha b hb ⟨rfl, rfl⟩
    exact hseam ⟨ha, hb⟩

theorem spaced_slash (h : Spaced s) (hs : startsWithSlash s = false) : Spaced ('/' :: s) := by
  refine spaced_append.2 ⟨List.isChain_singleton '/', h, ?_⟩
  rw [hs]
  simp

theorem Spaced.dropTrailingSlash (h : Spaced s) : Spaced (dropTrailingSlash s) := by
  rcases dropTrailingSlash_cases s with ⟨hs, -⟩ | hs
  · rw [hs] at h
    exact (spaced_append.1 h).1
  · rwa [hs]

/-- Trimming the end leaves the start. -/
theorem startsWithSlash_dropTrailingSlash (s : List Char) :
    startsWithSlash (dropTrailingSlash s) = startsWithSlash s := by
  rcases dropTrailingSlash_cases s with ⟨hs, hne⟩ | hs
  · obtain ⟨c, r, hcons⟩ := List.exists_cons_of_ne_nil hne
    rw [hcons] at hs ⊢
    rw [hs]
    rfl
  · rw [hs]

theorem Spaced.dropLeadingSlash (h : Spaced s) :
    Spaced (dropLeadingSlash s) ∧ startsWithSlash (dropLeadingSlash s) = false := by
  rcases dropLeadingSlash_cases s with hs | ⟨hstart, hs⟩
  · rw [hs, ← List.singleton_append] at h
    obtain ⟨-, hrest, hseam⟩ := spaced_append.1 h
    refine ⟨hrest, Bool.eq_false_iff.2 fun hstart => hseam ⟨rfl, hstart⟩⟩
  · rw [hs]
    exact ⟨h, hstart⟩

/-- A spaced segment is left without a slash at the seam. -/
theorem Spaced.extend {joined segment : List Char} (h : Spaced joined) (hsegment : Spaced segment) :
    Spaced (extend joined segment) := by
  obtain ⟨hdropped, hstart⟩ := hsegment.dropLeadingSlash
  have hright := hdropped.dropTrailingSlash
  rw [← startsWithSlash_dropTrailingSlash] at hstart
  rcases extend_cases joined segment with ⟨heq, hend, -⟩ | ⟨heq, -⟩
  · rw [heq]
    refine spaced_append.2 ⟨h.dropTrailingSlash, spaced_slash hright hstart, ?_⟩
    rw [hend]
    simp
  · rw [heq]
    refine spaced_append.2 ⟨h.dropTrailingSlash, hright, ?_⟩
    rw [hstart]
    simp

theorem Spaced.foldl_extend {joined : List Char} (h : Spaced joined) {ps : List (List Char)}
    (hps : ∀ p ∈ ps, Spaced p) : Spaced (ps.foldl Route.extend joined) := by
  induction ps generalizing joined with
  | nil => exact h
  | cons p ps ih =>
    obtain ⟨hp, hps⟩ := List.forall_mem_cons.1 hps
    exact ih (h.extend hp) hps

theorem Spaced.withLeadingSlash (h : Spaced s) : Spaced (withLeadingSlash s) := by
  unfold Route.withLeadingSlash
  split
  · exact h
  · rename_i hs
    exact spaced_slash h (Bool.eq_false_iff.2 hs)

theorem spaced_joinParts {ps : List (List Char)} (h : ∀ p ∈ ps, Spaced p) : Spaced (joinParts ps) := by
  cases ps with
  | nil => exact List.isChain_nil
  | cons p ps =>
    obtain ⟨hp, hps⟩ := List.forall_mem_cons.1 h
    exact (hp.foldl_extend hps).withLeadingSlash

theorem spaced_joinChars {segments : List (Option String)}
    (h : ∀ text, some text ∈ segments → Spaced text.toList) : Spaced (joinChars segments) := by
  apply spaced_joinParts
  intro p hp
  obtain ⟨s, hs, rfl⟩ := List.mem_map.1 (List.mem_filter.1 hp).1
  cases s with
  | none => exact List.isChain_nil
  | some text =>
    exact spaced_iff.2 fun hdouble =>
      spaced_iff.1 (h text hs) (hdouble.trans (Text.trim_isInfix text.toList))

end

/-- A route has the components of its segments, in their order. It is empty when all segments are
missing or blank and starts with a slash otherwise, and it has slashes next to each other only where a
segment has them. -/
theorem components_join (segments : List (Option String)) :
    components (join segments).toList =
        segments.flatMap (fun s => components (Text.strip (s.getD "")).toList) ∧
      (join segments = "" ↔
        ∀ text, some text ∈ segments → ∀ c ∈ text.toList, Text.isBlank c = true) ∧
      (join segments ≠ "" → (join segments).toList.head? = some '/') ∧
      ((∀ text, some text ∈ segments → ¬ ['/', '/'] <:+: text.toList) →
        ¬ ['/', '/'] <:+: (join segments).toList) := by
  have hchars : (join segments).toList = joinChars segments := String.toList_ofList
  have hempty : join segments = "" ↔ joinChars segments = [] := by
    rw [← hchars, String.toList_eq_nil_iff]
  rw [ne_eq, hchars, hempty]
  refine ⟨?_, joinChars_eq_nil_iff segments, fun h => head?_joinChars h, ?_⟩
  · simp only [Text.strip, String.toList_ofList]
    exact components_joinChars segments
  · intro h
    rw [← spaced_iff]
    exact spaced_joinChars fun text htext => spaced_iff.2 (h text htext)

theorem components_join_sample :
    join [some " /api/ ", none, some "{id}/ "] ≠ "" ∧
      (∀ text, some text ∈ [some " /api/ ", none, some "{id}/ "] → ¬ ['/', '/'] <:+: text.toList) ∧
      (join [some " /api/ ", none, some "{id}/ "]).toList.head? = some '/' ∧
      ¬ ['/', '/'] <:+: (join [some " /api/ ", none, some "{id}/ "]).toList := by
  have hne : join [some " /api/ ", none, some "{id}/ "] ≠ "" := by decide
  have hspaced : ∀ text, some text ∈ [some " /api/ ", none, some "{id}/ "] →
      ¬ ['/', '/'] <:+: text.toList := by
    simp only [List.mem_cons, Option.some.injEq, reduceCtorEq, List.not_mem_nil, or_false, false_or]
    rintro text (rfl | rfl) <;> simp [List.infix_cons_iff]
  obtain ⟨-, -, hhead, hjoin⟩ := components_join [some " /api/ ", none, some "{id}/ "]
  exact ⟨hne, hspaced, hhead hne, hjoin hspaced⟩

/-! ## Joining again -/

/-- Whether the last character of a trimmed segment, its closing slashes apart, is a blank. The slashes
keep it from being trimmed. -/
def hidesBlank (s : List Char) : Bool := ((Text.trim s).reverse.find? (· ≠ '/')).any Text.isBlank

theorem join_concat_empty (segments : List (Option String)) :
    join (segments ++ [some ""]) = join segments := by
  simp [join, joinChars, parts, Text.trim, Text.trimLeft, Text.trimRight]

/-- Joining one segment trims it and puts a slash before it. -/
theorem joinChars_singleton (text : String) :
    joinChars [some text] =
      if Text.trim text.toList = [] then [] else withLeadingSlash (Text.trim text.toList) := by
  simp only [joinChars, parts, List.map_cons, List.map_nil, Option.getD_some, List.filter_cons,
    List.filter_nil]
  split
  · rename_i h
    rw [Bool.not_eq_true', List.isEmpty_eq_false_iff] at h
    rw [if_neg h]
    rfl
  · rename_i h
    rw [Bool.not_eq_true', Bool.not_eq_false, List.isEmpty_iff] at h
    rw [if_pos h]
    rfl

/-- What starts with a slash does so after trimming. -/
theorem trim_slash (s : List Char) : ∃ r, Text.trim ('/' :: s) = '/' :: r := by
  have hleft : Text.trimLeft ('/' :: s) = '/' :: s :=
    Text.trimLeft_eq_self fun c r h => by
      obtain ⟨rfl, -⟩ := List.cons.inj h
      rfl
  obtain ⟨back, hback⟩ := Text.trimRight_isPrefix ('/' :: s)
  rw [Text.trim, hleft]
  cases htrim : Text.trimRight ('/' :: s) with
  | nil => exact absurd (Text.trimRight_eq_nil_iff.1 htrim '/' List.mem_cons_self) (by decide)
  | cons c r =>
    rw [htrim, List.cons_append] at hback
    obtain ⟨rfl, -⟩ := List.cons.inj hback
    exact ⟨r, rfl⟩

/-- Joining again trims and does nothing else. -/
theorem joinChars_join (segments : List (Option String)) :
    joinChars [some (join segments)] = Text.trim (joinChars segments) := by
  rw [joinChars_singleton, join, String.toList_ofList]
  by_cases hnil : joinChars segments = []
  · rw [hnil, if_pos (by decide)]
    rfl
  · obtain ⟨s, hs⟩ := List.head?_eq_some_iff.1 (head?_joinChars hnil)
    obtain ⟨r, hr⟩ := trim_slash s
    rw [hs, hr, if_neg (by simp)]
    rfl

/-- The components of a text are all of it but the slashes. -/
theorem flatten_components (s : List Char) : (components s).flatten = s.filter (· ≠ '/') := by
  rw [components, List.flatten_filter_not_isEmpty]
  induction s with
  | nil => rfl
  | cons c s ih =>
    rw [List.splitOn, List.splitOnP_cons_eq_if_modifyHead, ← List.splitOn, List.filter_cons, ← ih]
    by_cases hc : c = '/'
    · simp [hc]
    · obtain ⟨piece, pieces, hpieces⟩ :=
        List.exists_cons_of_ne_nil (List.splitOnP_ne_nil (fun x => x == '/') s)
      rw [← List.splitOn] at hpieces
      simp [hc, hpieces]

theorem filter_joinChars (segments : List (Option String)) :
    (joinChars segments).filter (· ≠ '/') =
      segments.flatMap fun s => (Text.trim (s.getD "").toList).filter (· ≠ '/') := by
  rw [← flatten_components, components_joinChars]
  induction segments with
  | nil => rfl
  | cons s segments ih =>
    rw [List.flatMap_cons, List.flatten_append, ih, flatten_components, List.flatMap_cons]

/-- A blank at the end of a route was hidden at the end of a segment. -/
theorem exists_hidesBlank {segments : List (Option String)} {c : Char}
    (hlast : (joinChars segments).getLast? = some c) (hc : Text.isBlank c = true) :
    ∃ text, some text ∈ segments ∧ hidesBlank text.toList = true := by
  have hslash : c ≠ '/' := by
    rintro rfl
    cases hc
  -- its slashes apart, a route is the segments in a row, and `c` ends the last that has anything else
  have hfilter : ((joinChars segments).filter (· ≠ '/')).getLast? = some c := by
    obtain ⟨front, hfront⟩ := List.getLast?_eq_some_iff.1 hlast
    rw [hfront, List.filter_append, List.filter_singleton]
    simp [hslash]
  rw [filter_joinChars, List.getLast?_flatMap] at hfilter
  obtain ⟨s, hs, hfound⟩ := List.exists_of_findSome?_eq_some hfilter
  rw [List.getLast?_filter] at hfound
  cases s with
  | none => exact absurd hfound (by simp [Text.trim, Text.trimLeft, Text.trimRight])
  | some text =>
    refine ⟨text, List.mem_reverse.1 hs, ?_⟩
    rw [Option.getD_some] at hfound
    rw [hidesBlank, hfound, Option.any_some]
    exact hc

theorem trimLeft_joinChars (segments : List (Option String)) :
    Text.trimLeft (joinChars segments) = joinChars segments := by
  apply Text.trimLeft_eq_self
  intro c r h
  have hhead := head?_joinChars (h ▸ List.cons_ne_nil c r)
  rw [h, List.head?_cons, Option.some.injEq] at hhead
  rw [hhead]
  rfl

theorem strip_join_eq_self_iff (segments : List (Option String)) :
    Text.strip (join segments) = join segments ↔
      ∀ c, (join segments).toList.getLast? = some c → Text.isBlank c = false := by
  rw [Text.strip, ← String.toList_inj, String.toList_ofList, join, String.toList_ofList, Text.trim,
    trimLeft_joinChars, Text.trimRight_eq_self_iff]

/-- Joining a route again, alone or with an empty segment, trims it, and so keeps it exactly when it does
not end with a blank. It does not where no segment hides a blank. -/
theorem join_join_iff (segments : List (Option String)) :
    join [some (join segments)] = Text.strip (join segments) ∧
      join [some (join segments), some ""] = Text.strip (join segments) ∧
      ((join [some (join segments)] = join segments ∧
          join [some (join segments), some ""] = join segments) ↔
        ∀ c, (join segments).toList.getLast? = some c → Text.isBlank c = false) ∧
      ((∀ text, some text ∈ segments → hidesBlank text.toList = false) →
        ∀ c, (join segments).toList.getLast? = some c → Text.isBlank c = false) := by
  have honce : join [some (join segments)] = Text.strip (join segments) := by
    rw [Text.strip, join, joinChars_join, join, String.toList_ofList]
  have hagain : join [some (join segments), some ""] = Text.strip (join segments) :=
    (join_concat_empty [some (join segments)]).trans honce
  refine ⟨honce, hagain, ?_, ?_⟩
  · rw [honce, hagain, and_self, strip_join_eq_self_iff]
  · intro h c hlast
    rw [join, String.toList_ofList] at hlast
    rw [Bool.eq_false_iff]
    intro hblank
    obtain ⟨text, htext, hhides⟩ := exists_hidesBlank hlast hblank
    rw [h text htext] at hhides
    cases hhides

theorem join_join_iff_sample :
    (∀ text, some text ∈ [some " /api/ ", none, some "orders/"] → hidesBlank text.toList = false) ∧
      ∀ c, (join [some " /api/ ", none, some "orders/"]).toList.getLast? = some c →
        Text.isBlank c = false := by
  have hshown : ∀ text, some text ∈ [some " /api/ ", none, some "orders/"] →
      hidesBlank text.toList = false := by
    simp only [List.mem_cons, Option.some.injEq, reduceCtorEq, List.not_mem_nil, or_false, false_or]
    rintro text (rfl | rfl) <;> decide
  exact ⟨hshown, (join_join_iff [some " /api/ ", none, some "orders/"]).2.2.2 hshown⟩

/-- The slash is trimmed at the seam, and the blank before it comes to the end. -/
theorem not_join_join : ¬ ∀ segments : List (Option String),
    join [some (join segments)] = join segments ∧
      join [some (join segments), some ""] = join segments := by
  intro h
  have hjoin : join [some "a", some "b /"] = "/a/b " := by decide
  have hagain : join [some "/a/b "] = "/a/b" := by decide
  have heq := (h [some "a", some "b /"]).1
  rw [hjoin, hagain] at heq
  exact absurd heq (by decide)

end EndpointIndex.Route
