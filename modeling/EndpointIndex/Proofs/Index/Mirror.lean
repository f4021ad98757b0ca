import Mathlib.Data.List.Permutation
import EndpointIndex.Proofs.Index.Invariant

/-!
# The store mirrors the cache

The store shows exactly the files that the cache holds with endpoints, and shows those endpoints
(`Index.Mirrors`). Every operation keeps this, whatever happens to the files, to the request to stop
and to the operation itself, and also when other operations run inside it (`Leads.mirrors`).
-/

namespace EndpointIndex

/-- What an entry contributes to the store: a file without endpoints is not shown. -/
def CacheEntry.shown (e : CacheEntry) : Option (List Endpoint) :=
  if e.endpoints = [] then none else some e.endpoints

namespace Index

def Mirrors (i : Index) : Prop :=
  ∀ file, i.store.get? file = (i.cache.get? file).bind CacheEntry.shown

theorem Mirrors.congr {i j : Index} (h : i.Mirrors) (hstore : j.store = i.store)
    (hentries : j.cache.entries = i.cache.entries) : j.Mirrors := by
  intro file
  rw [hstore, Cache.get?, hentries]
  exact h file

/-- A finding keeps store and cache in step if it agrees with the cache where it was taken from it. -/
theorem Mirrors.commit {i : Index} (h : i.Mirrors) {file : String} {f : Finding}
    (hf : ∀ es, f = .cached es → ∃ e, i.cache.get? file = some e ∧ e.endpoints = es) :
    (i.commit file f).Mirrors := by
  intro g
  -- either map changes at `file` only
  cases f with
  | missing =>
    change (i.store.remove file).get? g = ((i.cache.remove file).get? g).bind _
    rw [Store.get?_remove, Cache.get?_remove]
    split
    · rfl
    · exact h g
  | cached es =>
    obtain ⟨e, he, rfl⟩ := hf es rfl
    change (i.store.set file e.endpoints).get? g = (i.cache.get? g).bind _
    rw [Store.get?_set]
    split
    · rename_i hg
      rw [hg, he]
      rfl
    · exact h g
  | parsed time es =>
    change (i.store.set file es).get? g = ((i.cache.put file ⟨time, es⟩).get? g).bind _
    rw [Store.get?_set, Cache.get?_put]
    split
    · rfl
    · exact h g

theorem mirrors_of_empty {i : Index} (hstore : i.store = .empty) (hentries : i.cache.entries = .empty) :
    i.Mirrors := by
  intro file
  rw [hstore, Cache.get?, hentries]
  rfl

/-- Filling a store from entries of different files sets each of them as the entry shows it. -/
theorem get?_foldl_set (entries : List (String × CacheEntry)) (hdiffer : (entries.map Prod.fst).Nodup)
    (s : Store) (file : String) :
    (entries.foldl (fun s p => s.set p.1 p.2.endpoints) s).get? file =
      match entries.find? (·.1 == file) with
      | some p => p.2.shown
      | none => s.get? file := by
  induction entries generalizing s with
  | nil => rfl
  | cons p entries ih =>
    simp only [List.map_cons, List.nodup_cons] at hdiffer
    rw [List.foldl_cons, ih hdiffer.2, Store.get?_set]
    by_cases hp : p.1 = file
    · -- no later entry is about this file again
      have hnone : entries.find? (·.1 == file) = none := by
        rw [List.find?_eq_none]
        intro q hq heq
        rw [hp, ← eq_of_beq heq] at hdiffer
        exact hdiffer.1 (List.mem_map_of_mem hq)
      rw [hnone, List.find?_cons_of_pos (by simpa using hp), if_pos hp.symm]
      rfl
    · rw [List.find?_cons_of_neg (by simpa using hp), if_neg (Ne.symm hp)]

theorem mirrors_restore {i : Index} (hstore : i.store = .empty) : i.restore.Mirrors := by
  intro file
  change (i.cache.entries.entries.foldl (fun s p => s.set p.1 p.2.endpoints) i.store).get? file = _
  rw [get?_foldl_set _ i.cache.entries.nodup, hstore]
  change _ = ((i.cache.entries.entries.find? (·.1 == file)).map Prod.snd).bind CacheEntry.shown
  cases i.cache.entries.entries.find? (·.1 == file) with
  | none => rfl
  | some p => rfl

theorem invariant_mirrors : Invariant (fun _ => True) Mirrors where
  gate _ h := h.congr rfl rfl
  listeners _ h := h.congr rfl rfl
  saved _ h := h.congr rfl rfl
  cleared _ := mirrors_of_empty rfl rfl
  commit h hrests := by
    apply h.commit
    rintro es rfl
    exact hrests

/-- A new index starts in step, whatever its artifact holds. -/
theorem mirrors_new (c : IndexConfig) (fs : FileSystem) : (new c fs).Mirrors := by
  unfold new
  split
  · exact mirrors_restore rfl
  · exact mirrors_of_empty rfl rfl

end Index

namespace Session

theorem Leads.mirrors {s t : Session} (h : Leads s t) (hs : s.index.Mirrors) : t.index.Mirrors :=
  h.invariant Index.invariant_mirrors hs

/-- After any operations on a new index, the store has a file with certain endpoints if and only if
there are some and the cache has the file with the same ones. -/
theorem store_get?_iff_cache_get? {c : IndexConfig} {fs : FileSystem} {t : Session}
    (h : Leads (start c fs) t) (file : String) (es : List Endpoint) :
    t.index.store.get? file = some es ↔
      es ≠ [] ∧ ∃ e, t.index.cache.get? file = some e ∧ e.endpoints = es := by
  rw [h.mirrors (Index.mirrors_new c fs) file, Option.bind_eq_some_iff]
  constructor
  · rintro ⟨e, he, hshown⟩
    unfold CacheEntry.shown at hshown
    split at hshown
    · cases hshown
    · rename_i hne
      cases hshown
      exact ⟨hne, e, he, rfl⟩
  · rintro ⟨hne, e, he, rfl⟩
    exact ⟨e, he, if_neg hne⟩

/-! ## A sample -/

def sampleEndpoint : Endpoint := ⟨"/a", "", "", "", .get, "A", "f", "/r/A.java", 1, 1, 1, 1⟩

/-- Two files, looked at one at a time; whatever is read has the same endpoint. -/
def sampleConfig : IndexConfig where
  root := ["r"]
  settings :=
    { Settings.defaults with concurrencyLimit := 1, concurrencyMultiplier := 1, enableCache := false }
  parse := fun _ _ => .endpoints [sampleEndpoint]
  provide := fun _ => .ok ["/r/A.java", "/r/B.java"]

def sampleFiles : FileSystem :=
  ⟨.directory [("r", .directory [("A.java", .file [] 5), ("B.java", .file [] 5)] 0)] 0, []⟩

/-- Inside the update of one file another one is updated. -/
def sampleHook : Hook := fun _ u => (u.update sampleConfig Hook.none "/r/B.java").2

theorem leads_sampleHook (file : String) (u : Session) : Leads u (sampleHook file u) :=
  .update (.refl u) sampleConfig Hook.none (fun _ v => .refl v) Reactions.none leads_reactionsNone "/r/B.java"

theorem store_get?_iff_cache_get?_inside :
    ((start sampleConfig sampleFiles).update sampleConfig sampleHook "/r/A.java").2.index.cache.get?
        "/r/B.java" = some ⟨5, [sampleEndpoint]⟩ ∧
      (((start sampleConfig sampleFiles).update sampleConfig sampleHook "/r/A.java").2.index.store.get?
          "/r/B.java" = some [sampleEndpoint] ↔
        [sampleEndpoint] ≠ [] ∧ ∃ e,
          ((start sampleConfig sampleFiles).update sampleConfig sampleHook
            "/r/A.java").2.index.cache.get? "/r/B.java" = some e ∧ e.endpoints = [sampleEndpoint]) :=
  ⟨by cbv, store_get?_iff_cache_get?
    (.update (.refl _) sampleConfig sampleHook leads_sampleHook Reactions.none leads_reactionsNone "/r/A.java") _ _⟩

end Session

end EndpointIndex
