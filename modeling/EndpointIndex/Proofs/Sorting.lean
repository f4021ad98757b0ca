import Mathlib.Data.List.Sort

/-!
# Stable sorting

Sorting by a key leaves entries with the same key in the order they had (`filter_mergeSort`). What sorting
comes to is therefore settled by the entries of each key, in their order, however those of different keys
are mixed (`mergeSort_eq_of_filter`).
-/

namespace EndpointIndex.Sorting

variable {α β : Type} [LinearOrder β]

/-- Whether one entry may stand before another in the order of keys. -/
def byKey (key : α → β) (a b : α) : Bool := key a ≤ key b

section

variable {key : α → β} {l l' : List α}

theorem byKey_trans (a b c : α) (hab : byKey key a b = true) (hbc : byKey key b c = true) :
    byKey key a c = true :=
  decide_eq_true (le_trans (of_decide_eq_true hab) (of_decide_eq_true hbc))

theorem byKey_total (a b : α) : (byKey key a b || byKey key b a) = true := by
  rw [Bool.or_eq_true]
  exact (le_total (key a) (key b)).imp decide_eq_true decide_eq_true

theorem pairwise_mergeSort (key : α → β) (l : List α) :
    (l.mergeSort (byKey key)).Pairwise fun a b => key a ≤ key b :=
  (List.pairwise_mergeSort byKey_trans byKey_total l).imp of_decide_eq_true

/-- Entries with the same key keep their order. -/
theorem filter_mergeSort (key : α → β) (l : List α) (k : β) :
    (l.mergeSort (byKey key)).filter (fun a => key a = k) = l.filter fun a => key a = k := by
  have hlevel : (l.filter fun a => key a = k).Pairwise fun a b => byKey key a b = true := by
    rw [List.pairwise_iff_forall_sublist]
    intro a b hab
    have ha := of_decide_eq_true (List.mem_filter.1 (hab.subset List.mem_cons_self)).2
    have hb := of_decide_eq_true (List.mem_filter.1 (hab.subset (List.mem_cons_of_mem a List.mem_cons_self))).2
    exact decide_eq_true (le_of_eq (ha.trans hb.symm))
  -- a stable sort keeps what is in order already, and it has as many entries of the key as there were
  have hsublist := List.sublist_mergeSort byKey_trans byKey_total hlevel List.filter_sublist
  have hfiltered := hsublist.filter fun a => decide (key a = k)
  rw [List.filter_filter] at hfiltered
  simp only [Bool.and_self] at hfiltered
  refine (hfiltered.eq_of_length ?_).symm
  exact (((List.mergeSort_perm l (byKey key)).filter fun a => decide (key a = k)).length_eq).symm

/-- Of two lists in the order of keys, the heads have the same key when each key has the same entries. -/
theorem key_head_le {a b : α} (h : (a :: l).Pairwise fun a b => key a ≤ key b)
    (hkeys : ∀ k, (a :: l).filter (fun a => key a = k) = (b :: l').filter fun a => key a = k) :
    key a ≤ key b := by
  have hb : b ∈ (b :: l').filter fun a => key a = key b :=
    List.mem_filter.2 ⟨List.mem_cons_self, decide_eq_true rfl⟩
  rw [← hkeys] at hb
  rcases List.mem_cons.1 (List.mem_filter.1 hb).1 with rfl | hmem
  · exact le_refl _
  · exact List.rel_of_pairwise_cons h hmem

theorem eq_of_filter (h : l.Pairwise fun a b => key a ≤ key b) (h' : l'.Pairwise fun a b => key a ≤ key b)
    (hkeys : ∀ k, l.filter (fun a => key a = k) = l'.filter fun a => key a = k) : l = l' := by
  induction l generalizing l' with
  | nil =>
    cases l' with
    | nil => rfl
    | cons b l' => simpa using hkeys (key b)
  | cons a l ih =>
    cases l' with
    | nil => simpa using hkeys (key a)
    | cons b l' =>
      have hkey : key a = key b :=
        le_antisymm (key_head_le h hkeys) (key_head_le h' fun k => (hkeys k).symm)
      have hheads := hkeys (key a)
      rw [List.filter_cons_of_pos (by simp), List.filter_cons_of_pos (by simp [hkey])] at hheads
      obtain ⟨rfl, hrest⟩ := List.cons.inj hheads
      have htails (k : β) : l.filter (fun a => key a = k) = l'.filter fun a => key a = k := by
        by_cases hk : key a = k
        · rw [← hk]
          exact hrest
        · have hall := hkeys k
          rwa [List.filter_cons_of_neg (by simpa using hk), List.filter_cons_of_neg (by simpa using hk)] at hall
      rw [ih h.of_cons h'.of_cons htails]

theorem mergeSort_eq_of_filter (hkeys : ∀ k, l.filter (fun a => key a = k) = l'.filter fun a => key a = k) :
    l.mergeSort (byKey key) = l'.mergeSort (byKey key) := by
  refine eq_of_filter (pairwise_mergeSort key l) (pairwise_mergeSort key l') fun k => ?_
  rw [filter_mergeSort, filter_mergeSort, hkeys]

end

end EndpointIndex.Sorting
