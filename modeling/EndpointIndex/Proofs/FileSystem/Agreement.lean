import EndpointIndex.Proofs.FileSystem.Tidy

/-!
# Listing entries in another order

Two file systems that hold the same at every place differ at most in the order in which their
directories list what they hold (`Agree`). Paths lead to the same places in both
(`Agree.find_cases`).
-/

namespace EndpointIndex.FileSystem

/-- The same files, links and directories at the same places. -/
structure Agree (fs fs' : FileSystem) : Prop where
  workDir : fs'.workDir = fs.workDir
  kinds : ∀ l, SameKind (fs'.get? l) (fs.get? l)

/-- A directory may list its entries in any order. -/
theorem agree_of_perm {entries entries' : List (String × Node)} (h : Node.tidyEntries entries = true)
    (h' : Node.tidyEntries entries' = true) (hperm : entries'.Perm entries) (since : Int)
    (workDir : Location) :
    Agree ⟨.directory entries since, workDir⟩ ⟨.directory entries' since, workDir⟩ where
  workDir := rfl
  kinds l := by
    cases l with
    | nil => exact .inr ⟨entries', entries, since, since, rfl, rfl⟩
    | cons x l =>
      have hchild : Node.child? x entries' = Node.child? x entries := by
        ext n
        rw [Node.child?_eq_some_iff h', Node.child?_eq_some_iff h, hperm.mem_iff]
      left
      rw [get?, get?, Node.get?, Node.get?, hchild]

namespace Agree

variable {fs fs' : FileSystem} (h : Agree fs fs')

include h

theorem directory {l : Location} (hl : ∃ es since, fs.get? l = some (.directory es since)) :
    ∃ es since, fs'.get? l = some (.directory es since) :=
  (h.kinds l).directory.2 hl

/-- What is no directory is the same in both. -/
theorem get?_eq {l : Location} (hl : ∀ es since, fs.get? l ≠ some (.directory es since)) :
    fs'.get? l = fs.get? l := by
  rcases h.kinds l with hsame | ⟨_, es, _, since, -, hes⟩
  · exact hsame
  · exact absurd hes (hl es since)

theorem locateNames_eq (links : Nat) (here : Location) (names : List String) :
    locateNames fs' links here names = locateNames fs links here names := by
  -- of a directory both walks ask only that it is one; elsewhere they see the same nodes
  fun_induction locateNames fs links here names with
  | case1 links here => exact locateNames_nil fs' links here
  | case2 links here rest es since hes ih => rw [locateNames_up (h.directory ⟨es, since, hes⟩), ih]
  | case3 links here name es since hes hname hn =>
    have hn' := (h.get?_eq (by simp [hn])).trans hn
    rw [locateNames_new (h.directory ⟨es, since, hes⟩) hname hn', if_pos rfl]
  | case4 links here name rest es since hes hname hn hrest =>
    have hn' := (h.get?_eq (by simp [hn])).trans hn
    rw [locateNames_new (h.directory ⟨es, since, hes⟩) hname hn', if_neg hrest]
  | case5 here name rest es since hes hname target hn =>
    have hn' := (h.get?_eq (by simp [hn])).trans hn
    rw [locateNames_link (h.directory ⟨es, since, hes⟩) hname hn']
  | case6 here name rest es since hes hname target hn m path ih =>
    have hn' := (h.get?_eq (by simp [hn])).trans hn
    rw [locateNames_link (h.directory ⟨es, since, hes⟩) hname hn']
    exact ih
  | case7 links here name rest es since hes hname n hlink hn ih =>
    have hnext : ∃ n', fs'.get? (here ++ [name]) = some n' ∧ ∀ target, n' ≠ .link target := by
      rcases h.kinds (here ++ [name]) with hsame | ⟨es', _, since', _, hes', -⟩
      · exact ⟨n, hsame.trans hn, hlink⟩
      · exact ⟨_, hes', by simp⟩
    obtain ⟨n', hn', hlink'⟩ := hnext
    rw [locateNames_down (h.directory ⟨es, since, hes⟩) hname hn' hlink', ih]
  | case8 links here name rest n hn hhere =>
    have hhere' := h.get?_eq (l := here) fun es since hes =>
      hn es since (Option.some.inj (hhere.symm.trans hes))
    rw [locateNames, hhere', hhere]
    cases n with
    | directory es since => exact absurd rfl (hn es since)
    | file => rfl
    | link => rfl
  | case9 links here name rest hhere =>
    rw [locateNames, h.get?_eq (by simp [hhere]), hhere]

theorem locate_eq (p : Path) : fs'.locate p = fs.locate p := by
  rw [locate, locate, h.workDir, h.locateNames_eq]

/-- A path leads nowhere in both, or to one place. -/
theorem find_cases (p : Path) :
    (∃ o, fs.find p = .error o ∧ fs'.find p = .error o) ∨
      ∃ l n n', fs.find p = .ok (l, n) ∧ fs'.find p = .ok (l, n') := by
  rw [find, find, h.locate_eq]
  cases hlocate : fs.locate p with
  | error o => exact .inl ⟨o, rfl, rfl⟩
  | ok l =>
    dsimp only
    rcases h.kinds l with hsame | ⟨es, es', since, since', hes', hes⟩
    · rw [hsame]
      cases fs.get? l with
      | none => exact .inl ⟨.missing, rfl, rfl⟩
      | some n => exact .inr ⟨l, n, n, rfl, rfl⟩
    · rw [hes, hes']
      exact .inr ⟨l, _, _, rfl, rfl⟩

end Agree

end EndpointIndex.FileSystem
