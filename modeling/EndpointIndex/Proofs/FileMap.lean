import EndpointIndex.FileMap

/-!
# Parts of maps from files

A map is its list of entries. Erasing files one after another leaves the part of the map that lies
outside them, in the order it had (`foldl_erase`), and putting the entries of a map one after another
gives the map back (`ofList_entries`).
-/

namespace EndpointIndex.FileMap

variable {α : Type}

theorem eq_of_entries {m n : FileMap α} (h : m.entries = n.entries) : m = n := by
  obtain ⟨entries, hm⟩ := m
  obtain ⟨entries', hn⟩ := n
  cases h
  rfl

theorem mem_files_iff (m : FileMap α) (file : String) : file ∈ m.files ↔ (m.get? file).isSome := by
  rw [files, List.mem_map, Option.isSome_iff_exists]
  constructor
  · rintro ⟨⟨f, a⟩, hmem, rfl⟩
    exact ⟨a, (m.get?_eq_some_iff f a).2 hmem⟩
  · rintro ⟨a, ha⟩
    exact ⟨(file, a), (m.get?_eq_some_iff file a).1 ha, rfl⟩

/-- The part of a map whose files pass a test, in the order of the map. -/
def restrict (m : FileMap α) (test : String → Bool) : FileMap α where
  entries := m.entries.filter fun p => test p.1
  nodup := m.nodup.sublist (List.filter_sublist.map Prod.fst)

theorem get?_restrict (m : FileMap α) (test : String → Bool) (file : String) :
    (m.restrict test).get? file = if test file then m.get? file else none := by
  simp only [get?, restrict, List.find?_filter]
  by_cases h : test file
  · rw [if_pos h]
    congr 2
    funext p
    by_cases hp : p.1 = file
    · simp [hp, h]
    · simp [hp]
  · rw [if_neg h, Option.map_eq_none_iff, List.find?_eq_none]
    intro p _ hp
    have hp' := of_decide_eq_true hp
    exact h (eq_of_beq hp'.2 ▸ hp'.1)

theorem foldl_erase (m : FileMap α) (gone : List String) :
    gone.foldl erase m = m.restrict fun f => !gone.contains f := by
  induction gone generalizing m with
  | nil =>
    apply eq_of_entries
    exact (List.filter_eq_self.2 fun _ _ => rfl).symm
  | cons g gone ih =>
    rw [List.foldl_cons, ih]
    apply eq_of_entries
    simp only [restrict, erase, List.filter_filter, List.contains_cons]
    -- two filters one after another are one, and the order of the tests does not matter
    congr 1
    funext p
    rw [Bool.not_or, Bool.and_comm]
    rfl

/-- A path that is not there is put behind all others. -/
theorem entries_put_of_not_mem {m : FileMap α} {file : String} (a : α) (h : file ∉ m.files) :
    (m.put file a).entries = m.entries ++ [(file, a)] := by
  obtain ⟨entries, hm⟩ := m
  simp only [files] at h
  simp only [put]
  clear hm
  induction entries with
  | nil => rfl
  | cons p r ih =>
    obtain ⟨f, b⟩ := p
    simp only [List.map_cons, List.mem_cons, not_or] at h
    rw [putEntry, if_neg (Ne.symm h.1), ih h.2, List.cons_append]

theorem entries_foldl_put (m : FileMap α) (pairs : List (String × α))
    (h : (m.files ++ pairs.map Prod.fst).Nodup) :
    (pairs.foldl (fun m p => m.put p.1 p.2) m).entries = m.entries ++ pairs := by
  induction pairs generalizing m with
  | nil => simp
  | cons p pairs ih =>
    -- the pairs have different files, so each is put behind those before it
    have hp : p.1 ∉ m.files := by
      intro hmem
      exact (List.nodup_append.1 h).2.2 _ hmem _ (by simp) rfl
    have hput := entries_put_of_not_mem p.2 hp
    rw [List.foldl_cons, ih, hput, List.append_assoc, List.singleton_append]
    rw [files, hput, List.map_append, List.append_assoc]
    exact h

theorem ofList_entries (m : FileMap α) : ofList m.entries = m := by
  apply eq_of_entries
  rw [ofList, entries_foldl_put empty m.entries (by simpa [files, empty] using m.nodup)]
  rfl

end EndpointIndex.FileMap
