import EndpointIndex.Proofs.FileSystem.Tidy

/-!
# Changes at some places

What an operation on files can do in a tree without links (`Changes`): directories stay, files stay
unless they are at one of the places it works on, and no file has a content that it had not before or
that the operation did not write. Hence a path that leads to a file at another place still leads to
the same file (`Changes.fileAt_eq`).
-/

namespace EndpointIndex

namespace FileSystem

/-- Whether a place holds a file with the given content. -/
def Holds (fs : FileSystem) (l : Location) (content : List UInt8) : Prop :=
  ∃ time, fs.get? l = some (.file content time)

structure Changes (fs fs' : FileSystem) (places : List Location) (written : List UInt8 → Prop) :
    Prop where
  tidy : fs'.Tidy
  workDir : fs'.workDir = fs.workDir
  directories : ∀ q, (∃ es since, fs.get? q = some (.directory es since)) →
    ∃ es since, fs'.get? q = some (.directory es since)
  files : ∀ q, q ∉ places → ∀ content time, fs.get? q = some (.file content time) →
    fs'.get? q = some (.file content time)
  holds : ∀ q content, fs'.Holds q content → fs.Holds q content ∨ written content

variable {fs fs' fs'' : FileSystem} {places : List Location} {written : List UInt8 → Prop}

theorem Tidy.changes_self (h : fs.Tidy) : Changes fs fs places written :=
  ⟨h, rfl, fun _ => id, fun _ _ _ _ => id, fun _ _ => .inl⟩

namespace Changes

theorem trans (h : Changes fs fs' places written) (h' : Changes fs' fs'' places written) :
    Changes fs fs'' places written where
  tidy := h'.tidy
  workDir := h'.workDir.trans h.workDir
  directories q hq := h'.directories q (h.directories q hq)
  files q hq content time hfile := h'.files q hq content time (h.files q hq content time hfile)
  holds q content hq := (h'.holds q content hq).elim (h.holds q content) .inr

theorem mono {places' : List Location} {written' : List UInt8 → Prop}
    (h : Changes fs fs' places written) (hplaces : places ⊆ places')
    (hwritten : ∀ content, written content → written' content) : Changes fs fs' places' written' :=
  ⟨h.tidy, h.workDir, h.directories, fun q hq => h.files q fun hmem => hq (hplaces hmem),
    fun q content hq => (h.holds q content hq).imp id (hwritten content)⟩

theorem spelled_eq (h : Changes fs fs' places written) (p : Path) : fs'.spelled p = fs.spelled p := by
  rw [spelled, spelled, h.workDir]

/-- A path that leads to a file which is still there still leads to it. -/
theorem locateNames_eq (h : Changes fs fs' places written) (hfs : fs.Tidy) {links : Nat}
    {here l : Location} {names : List String} (hlocate : locateNames fs links here names = .ok l)
    (hl : l ∉ places) {content : List UInt8} {time : Int} (hfile : fs.get? l = some (.file content time)) :
    locateNames fs' links here names = .ok l := by
  fun_induction locateNames fs links here names with
  | case1 links here => rw [locateNames_nil, hlocate]
  | case2 links here rest es since hes ih =>
    rw [locateNames_up (h.directories here ⟨es, since, hes⟩)]
    exact ih hlocate
  | case3 links here name es since hes hname hn =>
    cases hlocate
    rw [hn] at hfile
    cases hfile
  | case4 => cases hlocate
  | case5 => cases hlocate
  | case6 here name rest es since hes hname target hn => exact absurd hn (hfs.get?_ne_link _ _)
  | case7 links here name rest es since hes hname n hlink hn ih =>
    have hdir := h.directories here ⟨es, since, hes⟩
    cases n with
    | link target => exact absurd rfl (hlink target)
    | directory es' since' =>
      obtain ⟨es'', since'', hes''⟩ := h.directories _ ⟨es', since', hn⟩
      rw [locateNames_down hdir hname hes'' (by simp)]
      exact ih hlocate
    | file content' time' =>
      -- nothing is below a file, so the path ends here
      cases rest with
      | cons x rest =>
        obtain ⟨es', since', hes'⟩ := directory_of_locateNames hlocate
        rw [hn] at hes'
        cases hes'
      | nil =>
        rw [locateNames_nil] at hlocate
        cases hlocate
        rw [locateNames_down hdir hname (h.files _ hl _ _ hn) (by simp), locateNames_nil]
  | case8 => cases hlocate
  | case9 => cases hlocate

/-- A file at another place is what it was. -/
theorem fileAt_eq (h : Changes fs fs' places written) (hfs : fs.Tidy) {file : String}
    (hfile : (fs.fileAt file).isSome) (hplace : fs.spelled (.ofString file) ∉ places) :
    fs'.fileAt file = fs.fileAt file := by
  obtain ⟨⟨content, time⟩, hat⟩ := Option.isSome_iff_exists.1 hfile
  obtain ⟨l, hfind⟩ := find_of_fileAt hat
  obtain ⟨rfl, hget⟩ := hfs.find_eq_spelled hfind
  have hlocate : fs.locate (.ofString file) = .ok (fs.spelled (.ofString file)) := by
    cases hlocate : fs.locate (.ofString file) with
    | error o =>
      rw [find, hlocate] at hfind
      cases hfind
    | ok l => rw [hfs.locate_eq_spelled hlocate]
  have hlocate' : fs'.locate (.ofString file) = .ok (fs.spelled (.ofString file)) := by
    rw [locate, h.workDir]
    exact h.locateNames_eq hfs hlocate hplace hget
  rw [fileAt_of_locate hlocate', fileAt_of_locate hlocate, hget, h.files _ hplace _ _ hget]

end Changes

/-! ## Operations -/

theorem not_below {l r : Location} {n : Node} (hl : ∀ es since, fs.get? l ≠ some (.directory es since))
    (hn : fs.get? (l ++ r) = some n) : r = [] := by
  cases r with
  | nil => rfl
  | cons x r =>
    have hnone := Node.get?_below_of_not_directory hl x r
    rw [FileSystem.get?, hnone] at hn
    cases hn

/-- A change at a place that is no directory: nothing was below it, and nothing else is changed. -/
theorem changes_of_cases {l : Location} (htidy : fs'.Tidy) (hdir : fs'.workDir = fs.workDir)
    (hl : ∀ es since, fs.get? l ≠ some (.directory es since)) (hplace : fs.get? l = none ∨ l ∈ places)
    (hcases : ∀ q, SameKind (fs'.get? q) (fs.get? q) ∨ (∃ r, q = l ++ r) ∧
      ∀ content time, fs'.get? q = some (.file content time) → written content) :
    Changes fs fs' places written := by
  refine ⟨htidy, hdir, ?_, ?_, ?_⟩
  · rintro q ⟨es, since, hes⟩
    rcases hcases q with hsame | ⟨⟨r, rfl⟩, -⟩
    · exact hsame.directory.2 ⟨es, since, hes⟩
    · -- nothing is below the place, and the place itself is no directory
      obtain rfl := not_below hl hes
      rw [List.append_nil] at hes
      exact absurd hes (hl es since)
  · intro q hq content time hfile
    rcases hcases q with hsame | ⟨⟨r, rfl⟩, -⟩
    · exact hsame.eq_file.2 hfile
    · obtain rfl := not_below hl hfile
      rw [List.append_nil] at hfile hq
      rcases hplace with hnone | hmem
      · rw [hnone] at hfile
        cases hfile
      · exact absurd hmem hq
  · rintro q content ⟨time, htime⟩
    rcases hcases q with hsame | ⟨-, hwritten⟩
    · exact .inl ⟨time, hsame.eq_file.1 htime⟩
    · exact .inr (hwritten content time htime)

theorem Tidy.changes_put (h : fs.Tidy) {l : Location} {m : Node} (hm : m.tidy = true)
    (hl : ∀ es since, fs.get? l ≠ some (.directory es since)) (hplace : fs.get? l = none ∨ l ∈ places)
    (hwritten : ∀ r content time, m.get? r = some (.file content time) → written content) :
    Changes fs (fs.put l m) places written := by
  refine changes_of_cases (h.put hm l) rfl hl hplace ?_
  intro q
  rcases h.get?_put_cases l m q with hsame | ⟨r, hr, hget⟩
  · exact .inl hsame
  · exact .inr ⟨⟨r, hr⟩, fun content time hfile => hwritten r content time (hget ▸ hfile)⟩

theorem Tidy.changes_enter (h : fs.Tidy) {l : Location} {m : Node} (hm : m.tidy = true)
    (hl : ∀ es since, fs.get? l ≠ some (.directory es since)) (hplace : fs.get? l = none ∨ l ∈ places)
    (hwritten : ∀ r content time, m.get? r = some (.file content time) → written content) (now : Int) :
    Changes fs (fs.enter l m now) places written := by
  refine changes_of_cases (h.enter hm l now) rfl hl hplace ?_
  intro q
  rcases h.get?_enter_cases l m now q with hsame | ⟨r, hr, hget⟩
  · exact .inl hsame
  · exact .inr ⟨⟨r, hr⟩, fun content time hfile => hwritten r content time (hget ▸ hfile)⟩

theorem Tidy.changes_discard (h : fs.Tidy) {l : Location}
    (hl : ∀ es since, fs.get? l ≠ some (.directory es since)) (hplace : l ∈ places) (now : Int) :
    Changes fs (fs.discard l now) places written := by
  refine changes_of_cases (h.discard l now) rfl hl (.inr hplace) ?_
  intro q
  rcases h.get?_discard_cases l now q with hsame | ⟨r, hr, hnone⟩
  · exact .inl hsame
  · refine .inr ⟨⟨r, hr⟩, ?_⟩
    intro content time hfile
    rw [hnone] at hfile
    cases hfile

theorem Tidy.changes_makeDirectory (h : fs.Tidy) {p : Path} {now : Int} (hmake : fs.makeDirectory p now = .ok fs') :
    Changes fs fs' places written := by
  unfold makeDirectory at hmake
  cases hplace : fs.entryPlace p with
  | error e =>
    rw [hplace] at hmake
    cases hmake
  | ok l =>
    simp only [hplace, bind, Except.bind] at hmake
    split at hmake
    · cases hmake
    · split at hmake
      · cases hmake
      · rename_i hnone
        cases hmake
        refine h.changes_enter rfl (by simp [hnone]) (.inl hnone) ?_ now
        intro r content time hget
        cases r <;> cases hget

theorem Tidy.changes_keepDirectory (h : fs.Tidy) {p : Path} {now : Int} (hkeep : fs.keepDirectory p now = .ok fs') :
    Changes fs fs' places written := by
  unfold keepDirectory at hkeep
  split at hkeep
  · rename_i hmake
    cases hkeep
    exact h.changes_makeDirectory hmake
  · split at hkeep
    · cases hkeep
      exact h.changes_self
    · cases hkeep

/-- Making directories changes no file. -/
theorem Tidy.changes_makeDirectories (h : fs.Tidy) {p : Path} {now : Int}
    (hmake : fs.makeDirectories p now = .ok fs') : Changes fs fs' places written := by
  unfold makeDirectories at hmake
  generalize p.parts.reverse = names at hmake
  induction names generalizing fs' with
  | nil => exact h.changes_keepDirectory hmake
  | cons name above ih =>
    rw [makeDirectoriesFrom] at hmake
    split at hmake
    · -- the directory above has to be made first
      cases habove : makeDirectoriesFrom fs p.anchor now above with
      | error e =>
        rw [habove] at hmake
        cases hmake
      | ok between =>
        rw [habove] at hmake
        have hbetween := ih habove
        exact hbetween.trans (hbetween.tidy.changes_keepDirectory hmake)
    · exact h.changes_keepDirectory hmake

theorem eq_of_get?_file {content content' : List UInt8} {time time' : Int} {r : Location}
    (h : Node.get? (.file content time) r = some (.file content' time')) : content' = content := by
  cases r with
  | nil =>
    cases h
    rfl
  | cons x r => cases h

theorem Tidy.changes_write (h : fs.Tidy) {p : Path} {content : List UInt8} {time now : Int}
    (hwrite : fs.write p content time now = .ok fs') (hplace : fs.spelled p ∈ places)
    (hwritten : written content) : Changes fs fs' places written := by
  have hcontent : ∀ r content' time', Node.get? (.file content time) r = some (.file content' time') →
      written content' := by
    intro r content' time' hget
    rw [eq_of_get?_file hget]
    exact hwritten
  unfold FileSystem.write at hwrite
  split at hwrite
  · cases hwrite
  · rename_i l hlocate
    obtain rfl := h.locate_eq_spelled hlocate
    split at hwrite
    · cases hwrite
    · rename_i hnone
      cases hwrite
      exact h.changes_enter rfl (by simp [hnone]) (.inr hplace) hcontent now
    · rename_i n hnot hn
      cases hwrite
      refine h.changes_put rfl ?_ (.inr hplace) hcontent
      intro es since hes
      rw [hn] at hes
      exact hnot es since (Option.some.inj hes)

theorem Tidy.get?_write (h : fs.Tidy) {p : Path} (hp : p.parts ≠ []) {content : List UInt8}
    {time now : Int} (hwrite : fs.write p content time now = .ok fs') :
    fs'.get? (fs.spelled p) = some (.file content time) := by
  obtain ⟨l, hlocate, hrewrites⟩ := rewrites_write hp hwrite
  rw [← h.locate_eq_spelled hlocate]
  exact hrewrites.after

theorem Tidy.changes_stamp (h : fs.Tidy) (l : Location) (now : Int) :
    Changes fs (fs.stamp l now) places written where
  tidy := h.stamp l now
  workDir := rfl
  directories q := (sameKind_stamp fs l now q).directory.2
  files q _ content time := (sameKind_stamp fs l now q).eq_file.2
  holds q content hq := by
    obtain ⟨time, htime⟩ := hq
    exact .inl ⟨time, (sameKind_stamp fs l now q).eq_file.1 htime⟩

/-- What is at the top cannot be removed. -/
theorem Tidy.changes_remove (h : fs.Tidy) {p : Path} {now : Int} (hremove : fs.remove p now = .ok fs')
    (hplace : ∀ l, fs.entryPlace p = .ok l → l = [] ∨ l ∈ places) : Changes fs fs' places written := by
  unfold FileSystem.remove at hremove
  cases hl : fs.entryPlace p with
  | error e =>
    rw [hl] at hremove
    cases hremove
  | ok l =>
    simp only [hl, bind, Except.bind] at hremove
    split at hremove
    · cases hremove
    · split at hremove
      · cases hremove
      · cases hremove
      · rename_i hnot hn
        cases hremove
        rcases hplace l hl with rfl | hmem
        · -- only its time is changed
          exact h.changes_stamp [] now
        · refine h.changes_discard ?_ hmem now
          intro es since hes
          rw [hn] at hes
          exact hnot es since (Option.some.inj hes)

/-- A file that is moved leaves its place and takes that of the target. -/
theorem Tidy.changes_move (h : fs.Tidy) {source target : Path} {now : Int} {l : Location}
    {content : List UInt8} {time : Int} (hsource : fs.entryPlace source = .ok l)
    (hfile : fs.get? l = some (.file content time)) (hmove : fs.move source target now = .ok fs')
    (hl : l ∈ places) (htarget : ∀ l', fs.entryPlace target = .ok l' → l' ∈ places)
    (hwritten : written content) : Changes fs fs' places written := by
  unfold FileSystem.move at hmove
  cases hl' : fs.entryPlace target with
  | error e =>
    rw [hsource, hl'] at hmove
    cases hmove
  | ok l' =>
    simp only [hsource, hl', hfile, bind, Except.bind] at hmove
    split at hmove
    · cases hmove
    · split at hmove
      · cases hmove
        exact h.changes_self
      · split at hmove
        · cases hmove
        · split at hmove
          · cases hmove
          · rename_i hway
            cases hmove
            have hdiscard : Changes fs (fs.discard l now) places written :=
              h.changes_discard (by simp [hfile]) hl now
            -- a file does not take the place of a directory
            have hnot : ∀ es since, (fs.discard l now).get? l' ≠ some (.directory es since) := by
              intro es since hes
              rcases h.get?_discard_cases l now l' with hsame | ⟨r, -, hnone⟩
              · obtain ⟨es', since', hes'⟩ := hsame.directory.1 ⟨es, since, hes⟩
                rw [hes'] at hway
                cases hway
              · rw [hnone] at hes
                cases hes
            refine hdiscard.trans (hdiscard.tidy.changes_enter rfl hnot (.inr (htarget l' hl')) ?_ now)
            intro r content' time' hget
            rw [eq_of_get?_file hget]
            exact hwritten

end FileSystem

end EndpointIndex
