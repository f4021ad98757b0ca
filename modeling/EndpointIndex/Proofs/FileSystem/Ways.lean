import EndpointIndex.Proofs.FileSystem.Tree

/-!
# Ways

A path leads to its place through directories and links only. Changes that keep these (`KeepsWays`)
keep the way, whatever becomes of the files beside it, unless it goes through a link that is lost with
them (`KeepsWays.locateNames_or`). Where something is found, the directories on the way to it need not
be made (`makeDirectories_of_find`).
-/

namespace EndpointIndex.FileSystem

/-- Directories are still directories, and links lead where they led, but for those that are lost. -/
structure KeepsWays (fs fs' : FileSystem) (lost : Location → Prop := fun _ => False) : Prop where
  workDir : fs'.workDir = fs.workDir
  directory : ∀ q, (∃ es since, fs.get? q = some (.directory es since)) →
    ∃ es since, fs'.get? q = some (.directory es since)
  link : ∀ q target, fs.get? q = some (.link target) → fs'.get? q = some (.link target) ∨ lost q

/-- A walk to a place, through no more than the given number of links, meets a link that is lost. -/
def Loses (fs : FileSystem) (lost : Location → Prop) (links : Nat) (p : Location) : Prop :=
  ∃ m ≤ links, ∃ here name rest, lost (here ++ [name]) ∧
    (∃ target, fs.get? (here ++ [name]) = some (.link target)) ∧
    locateNames fs m here (name :: rest) = .ok p

section

variable {fs fs' : FileSystem} {lost : Location → Prop}

/-! ## Changes that keep ways -/

namespace KeepsWays

theorem refl (fs : FileSystem) : KeepsWays fs fs lost := ⟨rfl, fun _ => id, fun _ _ => .inl⟩

/-- A link that is not there cannot be lost. -/
theorem mono {lost' : Location → Prop} (h : KeepsWays fs fs' lost)
    (hlost : ∀ q target, lost q → fs.get? q = some (.link target) → lost' q) :
    KeepsWays fs fs' lost' where
  workDir := h.workDir
  directory := h.directory
  link q target hlink := (h.link q target hlink).imp_right fun hq => hlost q target hq hlink

theorem trans {fs'' : FileSystem} (h : KeepsWays fs fs' lost) (h' : KeepsWays fs' fs'' lost) :
    KeepsWays fs fs'' lost where
  workDir := h'.workDir.trans h.workDir
  directory q hq := h'.directory q (h.directory q hq)
  link q target hlink := by
    rcases h.link q target hlink with hkept | hlost
    · exact h'.link q target hkept
    · exact .inr hlost

/-- Where only one place is changed, and that was no directory, only a link there can be lost. -/
theorem of_sameKind {l : Location} (hdir : fs'.workDir = fs.workDir)
    (hl : ∀ es since, fs.get? l ≠ some (.directory es since))
    (hsame : ∀ q, q ≠ l → SameKind (fs'.get? q) (fs.get? q)) : KeepsWays fs fs' (· = l) where
  workDir := hdir
  directory q hq := by
    refine (hsame q ?_).directory.2 hq
    rintro rfl
    obtain ⟨es, since, hes⟩ := hq
    exact hl es since hes
  link q target hlink := by
    by_cases hq : q = l
    · exact .inr hq
    · exact .inl ((hsame q hq).link.2 hlink)

end KeepsWays

theorem Rewrites.keepsWays {l : Location} {content : List UInt8} {time : Int}
    (h : Rewrites fs fs' l content time) : KeepsWays fs fs' lost where
  workDir := h.workDir
  directory q := (h.directory_iff q).2
  link q target hlink := .inl ((h.link_iff q target).2 hlink)

/-! ## Walks -/

/-- More links may be followed than are. -/
theorem locateNames_mono {links links' : Nat} {here p : Location} {names : List String}
    (h : locateNames fs links here names = .ok p) (hle : links ≤ links') :
    locateNames fs links' here names = .ok p := by
  obtain ⟨more, rfl⟩ := Nat.exists_eq_add_of_le hle
  clear hle
  fun_induction locateNames fs links here names with
  | case1 links here => rw [locateNames_nil, h]
  | case2 links here rest es since hes ih =>
    rw [locateNames_up ⟨es, since, hes⟩]
    exact ih h
  | case3 links here name es since hes hname hn =>
    rw [locateNames_new ⟨es, since, hes⟩ hname hn, if_pos rfl, h]
  | case4 => cases h
  | case5 => cases h
  | case6 here name rest es since hes hname target hn m path ih =>
    rw [locateNames_link ⟨es, since, hes⟩ hname hn, Nat.succ_add]
    exact ih h
  | case7 links here name rest es since hes hname n hlink hn ih =>
    rw [locateNames_down ⟨es, since, hes⟩ hname hn hlink]
    exact ih h
  | case8 => cases h
  | case9 => cases h

/-- A walk ends at one place only, however many links it may follow. -/
theorem eq_of_locateNames {links links' : Nat} {here p p' : Location} {names : List String}
    (h : locateNames fs links here names = .ok p) (h' : locateNames fs links' here names = .ok p') :
    p = p' := by
  have hp := locateNames_mono h (Nat.le_max_left links links')
  have hp' := locateNames_mono h' (Nat.le_max_right links links')
  rw [hp] at hp'
  exact Except.ok.inj hp'

/-- What leads on leads to a directory first. -/
theorem directory_of_locateNames_append {links : Nat} {here l : Location} (names : List String)
    {rest : List String}
    (h : locateNames fs links here (names ++ rest) = .ok l)
    (hrest : rest ≠ [] ∨ ∃ es since, fs.get? l = some (.directory es since)) :
    ∃ d, locateNames fs links here names = .ok d ∧ ∃ es since, fs.get? d = some (.directory es since) := by
  fun_induction locateNames fs links here names with
  | case1 links here =>
    refine ⟨here, rfl, ?_⟩
    cases rest with
    | nil =>
      rw [List.append_nil, locateNames_nil] at h
      cases h
      exact hrest.resolve_left (by simp)
    | cons x rest => exact directory_of_locateNames h
  | case2 links here names es since hes ih =>
    rw [List.cons_append, locateNames_up ⟨es, since, hes⟩] at h
    exact ih h
  | case3 links here name es since hes hname hn =>
    -- only the last name may be absent, and a directory is not
    rw [List.cons_append, locateNames_new ⟨es, since, hes⟩ hname hn] at h
    split at h
    · rename_i hnil
      cases h
      obtain ⟨es', since', hes'⟩ := hrest.resolve_left (by simpa using hnil)
      rw [hn] at hes'
      cases hes'
    · cases h
  | case4 links here name names es since hes hname hn hnames =>
    rw [List.cons_append, locateNames_new ⟨es, since, hes⟩ hname hn, if_neg (by simp [hnames])] at h
    cases h
  | case5 here name names es since hes hname target hn =>
    rw [List.cons_append, locateNames_link ⟨es, since, hes⟩ hname hn] at h
    cases h
  | case6 here name names es since hes hname target hn m path ih =>
    rw [List.cons_append, locateNames_link ⟨es, since, hes⟩ hname hn] at h
    dsimp only at h
    rw [← List.append_assoc] at h
    exact ih h
  | case7 links here name names es since hes hname n hlink hn ih =>
    rw [List.cons_append, locateNames_down ⟨es, since, hes⟩ hname hn hlink] at h
    exact ih h
  | case8 links here name names n hn hnot =>
    obtain ⟨es, since, hes⟩ := directory_of_locateNames h
    rw [hes] at hnot
    exact absurd (Option.some.inj hnot).symm (hn es since)
  | case9 links here name names hnone =>
    obtain ⟨es, since, hes⟩ := directory_of_locateNames h
    rw [hes] at hnone
    cases hnone

namespace KeepsWays

/-- A walk that ends at no link is still there, unless it meets a link that is lost. -/
theorem locateNames_or (h : KeepsWays fs fs' lost) {links : Nat} {here p : Location}
    {names : List String} (hlocate : locateNames fs links here names = .ok p)
    (hp : ∀ target, fs'.get? p ≠ some (.link target)) :
    locateNames fs' links here names = .ok p ∨ Loses fs lost links p := by
  fun_induction FileSystem.locateNames fs links here names with
  | case1 links here =>
    rw [locateNames_nil]
    exact .inl hlocate
  | case2 links here rest es since hes ih =>
    rw [locateNames_up (h.directory here ⟨es, since, hes⟩)]
    exact ih hlocate
  | case3 links here name es since hes hname hn =>
    cases hlocate
    have hdir := h.directory here ⟨es, since, hes⟩
    left
    cases hn' : fs'.get? (here ++ [name]) with
    | none => rw [locateNames_new hdir hname hn', if_pos rfl]
    | some n =>
      rw [locateNames_down hdir hname hn', locateNames_nil]
      rintro target rfl
      exact hp target hn'
  | case4 => cases hlocate
  | case5 => cases hlocate
  | case6 here name rest es since hes hname target hn m path ih =>
    rcases h.link _ _ hn with hkept | hlost
    · rw [locateNames_link (h.directory here ⟨es, since, hes⟩) hname hkept]
      refine (ih hlocate).imp_right ?_
      rintro ⟨k, hk, hmeets⟩
      exact ⟨k, Nat.le_succ_of_le hk, hmeets⟩
    · refine .inr ⟨m + 1, Nat.le_refl _, here, name, rest, hlost, ⟨target, hn⟩, ?_⟩
      rw [locateNames_link ⟨es, since, hes⟩ hname hn]
      exact hlocate
  | case7 links here name rest es since hes hname n hlink hn ih =>
    have hdir := h.directory here ⟨es, since, hes⟩
    cases rest with
    | nil =>
      -- the walk ends here, whatever is here now
      rw [locateNames_nil] at hlocate
      cases hlocate
      left
      cases hn' : fs'.get? (here ++ [name]) with
      | none => rw [locateNames_new hdir hname hn', if_pos rfl]
      | some n' =>
        rw [locateNames_down hdir hname hn', locateNames_nil]
        rintro target rfl
        exact hp target hn'
    | cons x rest =>
      obtain ⟨es', since', hes'⟩ := h.directory _ (directory_of_locateNames hlocate)
      rw [locateNames_down hdir hname hes' (by simp)]
      exact ih hlocate
  | case8 => cases hlocate
  | case9 => cases hlocate

/-- A way to a directory can be gone on in the same manner after the change, unless it meets a link that
is lost. -/
theorem locateNames_append_or (h : KeepsWays fs fs' lost) {links : Nat} {here d : Location}
    {names : List String} (hlocate : locateNames fs links here names = .ok d)
    (hd : ∃ es since, fs.get? d = some (.directory es since)) :
    (∃ m, ∀ rest, locateNames fs links here (names ++ rest) = locateNames fs m d rest ∧
        locateNames fs' links here (names ++ rest) = locateNames fs' m d rest) ∨
      Loses fs lost links d := by
  fun_induction FileSystem.locateNames fs links here names with
  | case1 links here =>
    cases hlocate
    exact .inl ⟨links, fun rest => ⟨rfl, rfl⟩⟩
  | case2 links here names es since hes ih =>
    refine (ih hlocate).imp_left ?_
    rintro ⟨m, hm⟩
    refine ⟨m, fun rest => ?_⟩
    rw [List.cons_append, locateNames_up ⟨es, since, hes⟩,
      locateNames_up (h.directory here ⟨es, since, hes⟩)]
    exact hm rest
  | case3 links here name es since hes hname hn =>
    -- the way ends where nothing is
    cases hlocate
    obtain ⟨es', since', hes'⟩ := hd
    rw [hn] at hes'
    cases hes'
  | case4 => cases hlocate
  | case5 => cases hlocate
  | case6 here name names es since hes hname target hn m path ih =>
    rcases h.link _ _ hn with hkept | hlost
    · refine (ih hlocate).imp ?_ ?_
      · rintro ⟨k, hk⟩
        refine ⟨k, fun rest => ?_⟩
        rw [List.cons_append, locateNames_link ⟨es, since, hes⟩ hname hn,
          locateNames_link (h.directory here ⟨es, since, hes⟩) hname hkept]
        dsimp only
        rw [← List.append_assoc]
        exact hk rest
      · rintro ⟨k, hk, hmeets⟩
        exact ⟨k, Nat.le_succ_of_le hk, hmeets⟩
    · refine .inr ⟨m + 1, Nat.le_refl _, here, name, names, hlost, ⟨target, hn⟩, ?_⟩
      rw [locateNames_link ⟨es, since, hes⟩ hname hn]
      exact hlocate
  | case7 links here name names es since hes hname n hlink hn ih =>
    have hnext : ∃ es since, fs.get? (here ++ [name]) = some (.directory es since) := by
      cases names with
      | nil =>
        rw [locateNames_nil, Except.ok.injEq] at hlocate
        rwa [hlocate]
      | cons x names => exact directory_of_locateNames hlocate
    obtain ⟨es', since', hes'⟩ := h.directory _ hnext
    refine (ih hlocate).imp_left ?_
    rintro ⟨m, hm⟩
    refine ⟨m, fun rest => ?_⟩
    rw [List.cons_append, locateNames_down ⟨es, since, hes⟩ hname hn hlink,
      locateNames_down (h.directory here ⟨es, since, hes⟩) hname hes' (by simp)]
    exact hm rest
  | case8 => cases hlocate
  | case9 => cases hlocate

end KeepsWays

theorem not_loses {links : Nat} {p : Location} : ¬ Loses fs (fun _ => False) links p := by
  rintro ⟨m, -, here, name, rest, hfalse, -⟩
  exact hfalse

/-- A way to a directory is still there. -/
theorem KeepsWays.locate (h : KeepsWays fs fs') {p : Path} {d : Location}
    (hlocate : fs.locate p = .ok d) (hd : ∃ es since, fs.get? d = some (.directory es since)) :
    fs'.locate p = .ok d := by
  rw [FileSystem.locate] at hlocate ⊢
  rw [h.workDir]
  obtain ⟨es, since, hes⟩ := h.directory d hd
  exact (h.locateNames_or hlocate (by simp [hes])).resolve_right not_loses

theorem startOf_parent (here : Location) (p : Path) : startOf here p.parent = startOf here p := rfl

/-- One more name on the way. -/
theorem locate_of_parent {p : Path} {d : Location} {x : String} (hx : p.parts.getLast? = some x)
    (hlocate : fs.locate p.parent = .ok d) (hd : ∃ es since, fs.get? d = some (.directory es since))
    (hname : x ≠ "..") (hlink : ∀ target, fs.get? (d ++ [x]) ≠ some (.link target)) :
    fs.locate p = .ok (d ++ [x]) := by
  obtain ⟨init, hinit⟩ := List.getLast?_eq_some_iff.1 hx
  have hparent : p.parent.parts = init := by
    rw [Path.parent, hinit, List.dropLast_concat]
  rw [FileSystem.locate, hparent, startOf_parent] at hlocate
  rw [FileSystem.locate, hinit]
  obtain ⟨m, hm⟩ := ((KeepsWays.refl fs).locateNames_append_or hlocate hd).resolve_right not_loses
  rw [(hm [x]).1]
  cases hn : fs.get? (d ++ [x]) with
  | none => rw [locateNames_new hd hname hn, if_pos rfl]
  | some n =>
    rw [locateNames_down hd hname hn, locateNames_nil]
    rintro target rfl
    exact hlink target hn

/-! ## Places of last names -/

theorem locate_of_find {p : Path} {l : Location} {n : Node} (h : fs.find p = .ok (l, n)) :
    fs.locate p = .ok l ∧ fs.get? l = some n := by
  rw [find] at h
  split at h
  · cases h
  · rename_i l' hlocate
    split at h
    · rename_i n' hget
      cases h
      exact ⟨hlocate, hget⟩
    · cases h

/-- The place of a path's last name is a name in the directory that its parent leads to. -/
theorem entryPlace_cases {p : Path} {x : String} (hx : p.parts.getLast? = some x) {l : Location}
    (h : fs.entryPlace p = .ok l) :
    ∃ d, l = d ++ [x] ∧ fs.locate p.parent = .ok d ∧ ∃ es since, fs.get? d = some (.directory es since) := by
  rw [entryPlace, hx] at h
  dsimp only at h
  split at h
  · rename_i d es since hfind
    cases h
    obtain ⟨hlocate, hget⟩ := locate_of_find hfind
    exact ⟨d, rfl, hlocate, es, since, hget⟩
  · cases h
  · cases h

theorem entryPlace_of_locate {p : Path} {x : String} (hx : p.parts.getLast? = some x) {d : Location}
    (hlocate : fs.locate p.parent = .ok d) (hd : ∃ es since, fs.get? d = some (.directory es since)) :
    fs.entryPlace p = .ok (d ++ [x]) := by
  obtain ⟨es, since, hes⟩ := hd
  rw [entryPlace, hx]
  dsimp only
  rw [find, hlocate]
  dsimp only
  rw [hes]

/-! ## Directories that are there -/

theorem find_parent_of_find {p : Path} (hp : p.parts ≠ []) {l : Location} {n : Node}
    (h : fs.find p = .ok (l, n)) : ∃ d es since, fs.find p.parent = .ok (d, .directory es since) := by
  have hlocate := (locate_of_find h).1
  rw [FileSystem.locate, ← List.dropLast_concat_getLast hp] at hlocate
  obtain ⟨d, hd, es, since, hes⟩ := directory_of_locateNames_append _ hlocate (.inl (by simp))
  have hparent : fs.locate p.parent = .ok d := hd
  refine ⟨d, es, since, ?_⟩
  rw [find, hparent]
  dsimp only
  rw [hes]

/-- Nothing has to be made where a directory is already. -/
theorem makeDirectories_of_find {p : Path} {d : Location} {es : List (String × Node)} {since : Int}
    (h : fs.find p = .ok (d, .directory es since)) (now : Int) :
    ∃ fs', fs.makeDirectories p now = .ok fs' := by
  have hkeep : ∃ fs', fs.keepDirectory p now = .ok fs' := by
    unfold keepDirectory
    split
    · exact ⟨_, rfl⟩
    · rw [if_pos (by rw [isDirectory, h]; rfl)]
      exact ⟨_, rfl⟩
  -- the directory above it is there as well, so the making of this one is what is tried
  have hfound : fs.makeDirectory p now ≠ .error .notFound := by
    by_cases hp : p.parts = []
    · simp only [makeDirectory, entryPlace, hp, List.getLast?_nil, bind, Except.bind]
      split
      · simp
      · split <;> simp
    · obtain ⟨d', es', since', hparent⟩ := find_parent_of_find hp h
      have hlast := List.getLast?_eq_some_getLast hp
      simp only [makeDirectory, entryPlace, hlast, hparent, bind, Except.bind]
      split
      · simp
      · split <;> simp
  rw [makeDirectories]
  cases hreverse : p.parts.reverse with
  | nil =>
    have hpath : (⟨p.anchor, []⟩ : Path) = p := by
      rw [← List.reverse_eq_nil_iff.1 hreverse]
    rw [makeDirectoriesFrom, hpath]
    exact hkeep
  | cons name above =>
    have hpath : (⟨p.anchor, (name :: above).reverse⟩ : Path) = p := by
      rw [← hreverse, List.reverse_reverse]
    rw [makeDirectoriesFrom, hpath]
    split
    · rename_i hnotFound
      exact absurd hnotFound hfound
    · exact hkeep

end

end EndpointIndex.FileSystem
