import EndpointIndex.Proofs.FileSystem.Tidy
import EndpointIndex.Scan
import Mathlib.Data.List.Basic
import Mathlib.Data.List.Nodup

/-!
# The walk through a tree

What a walk through a tree without links lists, and in which order, said without the walk: the files
that no ignored directory holds (`mem_walk`), those of a directory before those of its subdirectories
and else by their names (`pairwise_walk`).
-/

namespace EndpointIndex

namespace Scan

/-! ## One directory -/

section

variable {leadsToDirectory : Location → Bool} {here l : Location} {entries : List (String × Node)} {since : Int}

/-- Whether the walk goes into an entry. -/
def isEntered (e : String × Node) : Bool := e.2.isDirectory && !ignoredNames.contains e.1

theorem fileNames_eq (h : Node.tidyEntries entries = true) :
    fileNames leadsToDirectory here entries = (entries.filter fun e => e.2.isFile).map Prod.fst := by
  induction entries with
  | nil => rfl
  | cons p rest ih =>
    obtain ⟨x, n⟩ := p
    obtain ⟨-, hn, hrest⟩ := Node.tidyEntries_cons.1 h
    cases n with
    | file content time =>
      rw [fileNames, ih hrest]
      rfl
    | directory es since =>
      rw [fileNames, ih hrest]
      rfl
    | link target => cases hn

theorem walkEntries_eq :
    walkEntries leadsToDirectory here entries =
      (entries.filter isEntered).map fun e => (e.1, walk leadsToDirectory (here ++ [e.1]) e.2) := by
  induction entries with
  | nil => rfl
  | cons p rest ih =>
    obtain ⟨x, n⟩ := p
    rw [walkEntries, ih, List.filter_cons]
    split
    · rename_i h
      rw [if_pos (show isEntered (x, n) = true from h)]
      rfl
    · rename_i h
      rw [if_neg (show ¬ isEntered (x, n) = true from h)]

/-- What a directory adds to what is in its subdirectories. -/
theorem mem_walk_directory (h : Node.tidyEntries entries = true) :
    l ∈ walk leadsToDirectory here (.directory entries since) ↔
      (∃ e ∈ entries, e.2.isFile = true ∧ l = here ++ [e.1]) ∨
        ∃ e ∈ entries, isEntered e = true ∧ l ∈ walk leadsToDirectory (here ++ [e.1]) e.2 := by
  rw [walk, List.mem_append, fileNames_eq h, walkEntries_eq]
  apply or_congr
  · simp only [List.mem_map, List.mem_mergeSort, List.mem_filter]
    constructor
    · rintro ⟨x, ⟨e, ⟨he, hfile⟩, rfl⟩, rfl⟩
      exact ⟨e, he, hfile, rfl⟩
    · rintro ⟨e, he, hfile, rfl⟩
      exact ⟨e.1, ⟨e, ⟨he, hfile⟩, rfl⟩, rfl⟩
  · simp only [List.mem_flatMap, List.mem_mergeSort, List.mem_map, List.mem_filter]
    constructor
    · rintro ⟨p, ⟨e, ⟨he, hentered⟩, rfl⟩, hl⟩
      exact ⟨e, he, hentered, hl⟩
    · rintro ⟨e, he, hentered, hl⟩
      exact ⟨_, ⟨e, ⟨he, hentered⟩, rfl⟩, hl⟩

end

/-! ## What is listed -/

/-- A file stands below a node, and no directory between the two is an ignored one. -/
def Reaches (n : Node) (below : Location) : Prop :=
  below ≠ [] ∧ (∃ content time, n.get? below = some (.file content time)) ∧
    ∀ name ∈ below.dropLast, name ∉ ignoredNames

theorem isEntered_iff {e : String × Node} :
    isEntered e = true ↔ (∃ es since, e.2 = .directory es since) ∧ e.1 ∉ ignoredNames := by
  obtain ⟨x, n⟩ := e
  cases n <;> simp [isEntered, Node.isDirectory]

theorem reaches_directory_iff {entries : List (String × Node)} {since : Int}
    (h : Node.tidyEntries entries = true) {below : Location} :
    Reaches (.directory entries since) below ↔
      (∃ e ∈ entries, e.2.isFile = true ∧ below = [e.1]) ∨
        ∃ e ∈ entries, isEntered e = true ∧ ∃ rest, Reaches e.2 rest ∧ below = e.1 :: rest := by
  constructor
  · rintro ⟨hne, ⟨content, time, hfile⟩, hignored⟩
    cases below with
    | nil => exact absurd rfl hne
    | cons x rest =>
      obtain ⟨m, hm, hget⟩ := Option.bind_eq_some_iff.1 hfile
      have hmem := (Node.child?_eq_some_iff h).1 hm
      -- one name leads to a file, more names lead through a directory
      cases rest with
      | nil =>
        left
        refine ⟨_, hmem, ?_, rfl⟩
        rw [Node.get?.eq_def, Option.some.injEq] at hget
        rw [hget]
        rfl
      | cons y rest =>
        right
        rw [List.dropLast_cons_cons, List.forall_mem_cons] at hignored
        refine ⟨_, hmem, isEntered_iff.2 ⟨?_, hignored.1⟩, y :: rest, ⟨by simp, ?_, hignored.2⟩, rfl⟩
        · cases m with
          | directory es since => exact ⟨es, since, rfl⟩
          | file => cases hget
          | link => cases hget
        · exact ⟨content, time, hget⟩
  · rintro (⟨e, he, hfile, rfl⟩ | ⟨e, he, hentered, rest, ⟨hne, ⟨content, time, hget⟩, hignored⟩, rfl⟩)
    · obtain ⟨x, n⟩ := e
      cases n with
      | file content time =>
        refine ⟨by simp, ⟨content, time, ?_⟩, by simp⟩
        rw [Node.get?, (Node.child?_eq_some_iff h).2 he]
        rfl
      | directory es since => cases hfile
      | link target => cases hfile
    · obtain ⟨-, hname⟩ := isEntered_iff.1 hentered
      refine ⟨by simp, ⟨content, time, ?_⟩, ?_⟩
      · rw [Node.get?, (Node.child?_eq_some_iff h).2 he]
        exact hget
      · obtain ⟨y, rest, rfl⟩ := List.exists_cons_of_ne_nil hne
        rw [List.dropLast_cons_cons, List.forall_mem_cons]
        exact ⟨hname, hignored⟩

/-- The walk lists the files that no ignored directory holds. -/
theorem mem_walk {leadsToDirectory : Location → Bool} {n : Node} (h : n.tidy = true)
    {here l : Location} :
    l ∈ walk leadsToDirectory here n ↔ ∃ below, Reaches n below ∧ l = here ++ below := by
  induction n using Node.induction_entries generalizing here l with
  | file content time =>
    simp only [walk, List.not_mem_nil, false_iff]
    rintro ⟨below, ⟨hne, ⟨_, _, hget⟩, -⟩, -⟩
    obtain ⟨x, rest, rfl⟩ := List.exists_cons_of_ne_nil hne
    cases hget
  | link target => cases h
  | directory entries since ih =>
    have hentries : Node.tidyEntries entries = true := h
    rw [mem_walk_directory hentries]
    simp only [reaches_directory_iff hentries]
    constructor
    · rintro (⟨e, he, hfile, rfl⟩ | ⟨e, he, hentered, hl⟩)
      · exact ⟨_, .inl ⟨e, he, hfile, rfl⟩, rfl⟩
      · obtain ⟨rest, hrest, rfl⟩ := (ih e he (Node.tidy_of_mem hentries he)).1 hl
        exact ⟨_, .inr ⟨e, he, hentered, rest, hrest, rfl⟩, by simp⟩
    · rintro ⟨below, ⟨e, he, hfile, rfl⟩ | ⟨e, he, hentered, rest, hrest, rfl⟩, rfl⟩
      · exact .inl ⟨e, he, hfile, rfl⟩
      · refine .inr ⟨e, he, hentered, (ih e he (Node.tidy_of_mem hentries he)).2 ⟨rest, hrest, ?_⟩⟩
        simp

/-! ## The order -/

/-- Which of two files is listed first: of two in one directory the one whose name comes first, of two
in different subdirectories of one the one whose subdirectory's name comes first, and a file of a
directory before those of its subdirectories. -/
def Precedes : Location → Location → Prop
  | [x], [y] => x < y
  | [_], _ :: _ :: _ => True
  | x :: x' :: l, y :: y' :: l' => x < y ∨ x = y ∧ Precedes (x' :: l) (y' :: l')
  | _, _ => False

theorem precedes_cons {x : String} {l l' : Location} (hl : l ≠ []) (hl' : l' ≠ []) :
    Precedes (x :: l) (x :: l') ↔ Precedes l l' := by
  obtain ⟨y, l, rfl⟩ := List.exists_cons_of_ne_nil hl
  obtain ⟨y', l', rfl⟩ := List.exists_cons_of_ne_nil hl'
  constructor
  · rintro (hlt | ⟨-, h⟩)
    · exact absurd hlt (String.lt_irrefl x)
    · exact h
  · exact fun h => .inr ⟨rfl, h⟩

theorem precedes_of_lt {x y : String} (h : x < y) {l l' : Location} (hl : l ≠ []) (hl' : l' ≠ []) :
    Precedes (x :: l) (y :: l') := by
  obtain ⟨x', l, rfl⟩ := List.exists_cons_of_ne_nil hl
  obtain ⟨y', l', rfl⟩ := List.exists_cons_of_ne_nil hl'
  exact .inl h

theorem precedes_file (x y : String) {l : Location} (hl : l ≠ []) : Precedes [x] (y :: l) := by
  obtain ⟨y', l, rfl⟩ := List.exists_cons_of_ne_nil hl
  exact trivial

/-- The order is the same seen from a directory that is above both files. -/
theorem precedes_append (here : Location) {l l' : Location} (hl : l ≠ []) (hl' : l' ≠ []) :
    Precedes (here ++ l) (here ++ l') ↔ Precedes l l' := by
  induction here with
  | nil => rfl
  | cons x here ih =>
    rw [List.cons_append, List.cons_append, precedes_cons (by simp [hl]) (by simp [hl']), ih]

theorem Precedes.asymm {l l' : Location} (h : Precedes l l') : ¬ Precedes l' l := by
  fun_induction Precedes l l' with
  | case1 x y => exact String.lt_asymm h
  | case2 => simp [Precedes]
  | case3 x x' l y y' l' ih =>
    rcases h with hxy | ⟨rfl, h⟩
    · rintro (hyx | ⟨rfl, -⟩)
      · exact String.lt_asymm hxy hyx
      · exact String.lt_irrefl _ hxy
    · rintro (hyx | ⟨-, h'⟩)
      · exact String.lt_irrefl _ hyx
      · exact ih h h'
  | case4 => exact h.elim

theorem Precedes.irrefl (l : Location) : ¬ Precedes l l := fun h => h.asymm h

/-- What is listed in order is listed once. -/
theorem nodup_of_pairwise_precedes {ls : List Location} (h : ls.Pairwise Precedes) : ls.Nodup := by
  refine h.imp ?_
  rintro l l' hll' rfl
  exact Precedes.irrefl l hll'

/-- Sorting distinct names puts them in strict order. -/
theorem pairwise_lt_mergeSort {names : List String} (h : names.Nodup) :
    (names.mergeSort fun a b => !(b < a)).Pairwise (· < ·) := by
  have hsorted : (names.mergeSort fun a b => !(b < a)).Pairwise fun a b => (!(decide (b < a))) = true := by
    apply List.pairwise_mergeSort
    · intro a b c hab hbc
      simp only [Bool.not_eq_true', decide_eq_false_iff_not, String.not_lt] at *
      exact String.le_trans hab hbc
    · intro a b
      simp only [Bool.or_eq_true, Bool.not_eq_true', decide_eq_false_iff_not, String.not_lt]
      exact String.le_total a b
  refine List.Pairwise.imp₂ ?_ hsorted ((List.mergeSort_perm names _).nodup_iff.2 h)
  intro a b hle hne
  rw [Bool.not_eq_true', decide_eq_false_iff_not] at hle
  exact (Std.lt_trichotomy a b).resolve_right (not_or.2 ⟨hne, hle⟩)

theorem pairwise_byName {α : Type} {entries : List (String × α)} (h : (entries.map Prod.fst).Nodup) :
    (entries.mergeSort byName).Pairwise fun a b => a.1 < b.1 := by
  have hmap := List.map_mergeSort (r := byName) (s := fun a b : String => !(decide (b < a)))
    (f := Prod.fst) (l := entries) fun _ _ _ _ => rfl
  have hsorted := pairwise_lt_mergeSort h
  rw [← hmap, List.pairwise_map] at hsorted
  exact hsorted

/-- What a subdirectory adds to the walk is below its name. -/
theorem exists_of_mem_walkEntries {leadsToDirectory : Location → Bool} {here l : Location}
    {entries : List (String × Node)} (h : Node.tidyEntries entries = true) {p : String × List Location}
    (hp : p ∈ walkEntries leadsToDirectory here entries) (hl : l ∈ p.2) :
    ∃ rest, rest ≠ [] ∧ l = here ++ p.1 :: rest := by
  rw [walkEntries_eq, List.mem_map] at hp
  obtain ⟨e, he, rfl⟩ := hp
  obtain ⟨rest, hrest, rfl⟩ := (mem_walk (Node.tidy_of_mem h (List.mem_filter.1 he).1)).1 hl
  exact ⟨rest, hrest.1, by simp⟩

/-- The walk lists files in their order. -/
theorem pairwise_walk {leadsToDirectory : Location → Bool} {n : Node} (h : n.tidy = true)
    (here : Location) : (walk leadsToDirectory here n).Pairwise Precedes := by
  induction n using Node.induction_entries generalizing here with
  | file content time => exact List.Pairwise.nil
  | link target => cases h
  | directory entries since ih =>
    have hentries : Node.tidyEntries entries = true := h
    have hnames := Node.nodup_names hentries
    have hentered : ((walkEntries leadsToDirectory here entries).map Prod.fst).Nodup := by
      rw [walkEntries_eq, List.map_map]
      exact hnames.sublist (List.filter_sublist.map _)
    rw [walk, List.pairwise_append, List.pairwise_map, List.pairwise_flatMap]
    -- the files of the directory itself, those of each subdirectory, and how these parts follow each other
    refine ⟨?files, ⟨fun p hp => ?within, ?between⟩, fun l hl l' hl' => ?across⟩
    case files =>
      rw [fileNames_eq hentries]
      refine (pairwise_lt_mergeSort (hnames.sublist (List.filter_sublist.map _))).imp ?_
      intro x y hxy
      exact (precedes_append here (by simp) (by simp)).2 hxy
    case within =>
      rw [List.mem_mergeSort, walkEntries_eq, List.mem_map] at hp
      obtain ⟨e, he, rfl⟩ := hp
      have hmem := (List.mem_filter.1 he).1
      exact ih e hmem (Node.tidy_of_mem hentries hmem) _
    case between =>
      refine (pairwise_byName hentered).imp_of_mem ?_
      intro p q hp hq hpq l hl l' hl'
      obtain ⟨rest, hne, rfl⟩ := exists_of_mem_walkEntries hentries (List.mem_mergeSort.1 hp) hl
      obtain ⟨rest', hne', rfl⟩ := exists_of_mem_walkEntries hentries (List.mem_mergeSort.1 hq) hl'
      exact (precedes_append here (by simp) (by simp)).2 (precedes_of_lt hpq hne hne')
    case across =>
      obtain ⟨x, -, rfl⟩ := List.mem_map.1 hl
      obtain ⟨p, hp, hl'⟩ := List.mem_flatMap.1 hl'
      obtain ⟨rest, hne, rfl⟩ := exists_of_mem_walkEntries hentries (List.mem_mergeSort.1 hp) hl'
      exact (precedes_append here (by simp) (by simp)).2 (precedes_file x p.1 hne)

end Scan

end EndpointIndex
