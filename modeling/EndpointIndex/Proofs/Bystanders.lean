import EndpointIndex.Proofs.Artifact
import EndpointIndex.Proofs.FileSystem.Renaming

/-!
# What saving a cache leaves alone

Saving makes directories, writes the draft and moves it to the artifact's name. A place that is neither
at nor below these two names, to which the draft does not lead and where no directory is, holds
afterwards what it held before (`Cache.Beside.get?_writeArtifact`). A file whose path leads straight to
such a place is dated and read as before (`Cache.PassedBy.find_eq`).
-/

namespace EndpointIndex

namespace FileSystem

variable {fs fs' : FileSystem}

/-! ## Straight paths -/

/-- The names of a path are those of its place: none of them leads up, and on the way there is no link. -/
structure Straight (fs : FileSystem) (p : Path) : Prop where
  up : ".." ∉ p.parts
  link : ∀ q, q <+: fs.spelled p → ∀ target, fs.get? q ≠ some (.link target)

theorem walk_of_not_mem {names : List String} (h : ".." ∉ names) (here : Location) :
    walk here names = here ++ names := by
  induction names generalizing here with
  | nil => exact (List.append_nil _).symm
  | cons name names ih =>
    obtain ⟨hname, hnames⟩ := List.ne_and_not_mem_of_not_mem_cons h
    have hstep : walk here (name :: names) = walk (here ++ [name]) names := by
      rw [walk, List.foldl_cons, if_neg (Ne.symm hname)]
      rfl
    rw [hstep, ih hnames, List.append_assoc, List.singleton_append]

/-- A straight walk comes to its end, or there is nothing at its end. -/
theorem locateNames_of_straight (links : Nat) {here : Location} {names : List String}
    (hup : ".." ∉ names) (hlink : ∀ q, q <+: here ++ names → ∀ target, fs.get? q ≠ some (.link target)) :
    locateNames fs links here names = .ok (here ++ names) ∨
      (∃ o, locateNames fs links here names = .error o) ∧ fs.get? (here ++ names) = none := by
  induction names generalizing here with
  | nil =>
    rw [locateNames_nil, List.append_nil]
    exact .inl rfl
  | cons name names ih =>
    obtain ⟨hname, hnames⟩ := List.ne_and_not_mem_of_not_mem_cons hup
    have happend : here ++ name :: names = here ++ [name] ++ names := by simp
    by_cases hhere : ∃ es since, fs.get? here = some (.directory es since)
    · cases hn : fs.get? (here ++ [name]) with
      | none =>
        rw [locateNames_new hhere (Ne.symm hname) hn]
        cases names with
        | nil => exact .inl rfl
        | cons x names =>
          have hnone : fs.get? (here ++ [name] ++ x :: names) = none :=
            Node.get?_below_of_not_directory (by rw [← get?, hn]; simp) x names
          exact .inr ⟨⟨.missing, rfl⟩, happend ▸ hnone⟩
      | some n =>
        have hplain := hlink (here ++ [name]) (happend ▸ List.prefix_append _ _)
        rw [locateNames_down hhere (Ne.symm hname) hn (fun target ht => hplain target (ht ▸ hn)), happend]
        exact ih hnames (happend ▸ hlink)
    · -- nothing is below what is no directory
      have hnot : ∀ es since, fs.get? here ≠ some (.directory es since) :=
        fun es since hes => hhere ⟨es, since, hes⟩
      refine .inr ⟨?_, Node.get?_below_of_not_directory hnot name names⟩
      cases hlocate : locateNames fs links here (name :: names) with
      | ok l => exact absurd (directory_of_locateNames hlocate) hhere
      | error o => exact ⟨o, rfl⟩

/-- What a straight path finds is what stands at the place that it spells. -/
theorem Straight.toOption_find {p : Path} (h : fs.Straight p) :
    (fs.find p).toOption = (fs.get? (fs.spelled p)).map fun n => (fs.spelled p, n) := by
  have hspelled : fs.spelled p = startOf fs.workDir p ++ p.parts := walk_of_not_mem h.up _
  have hwalk := locateNames_of_straight maxLinks h.up (hspelled ▸ h.link)
  rw [← hspelled] at hwalk
  rw [find, locate]
  rcases hwalk with hlocate | ⟨⟨o, hlocate⟩, hnone⟩
  · rw [hlocate]
    dsimp only
    cases fs.get? (fs.spelled p) <;> rfl
  · rw [hlocate, hnone]
    rfl

theorem Straight.find_eq {p : Path} (h : fs.Straight p) (hdir : fs'.workDir = fs.workDir)
    (hlink : ∀ q, q <+: fs.spelled p → ∀ target, fs'.get? q ≠ some (.link target))
    (hget : fs'.get? (fs.spelled p) = fs.get? (fs.spelled p)) :
    (fs'.find p).toOption = (fs.find p).toOption := by
  have hspelled : fs'.spelled p = fs.spelled p := by rw [spelled, spelled, hdir]
  have h' : fs'.Straight p := ⟨h.up, hspelled ▸ hlink⟩
  rw [h'.toOption_find, h.toOption_find, hspelled, hget]

/-- Results with the same value are the same, or both are errors, which may differ. -/
theorem eq_or_errors_of_toOption {ε α : Type} {r r' : Except ε α} (h : r'.toOption = r.toOption) :
    r' = r ∨ (∃ e', r' = .error e') ∧ ∃ e, r = .error e := by
  cases r' with
  | error e' =>
    cases r with
    | error e => exact .inr ⟨⟨e', rfl⟩, e, rfl⟩
    | ok a => cases h
  | ok a' =>
    cases r with
    | error e => cases h
    | ok a =>
      cases h
      exact .inl rfl

theorem toOption_modified_congr {p : Path} (h : (fs'.find p).toOption = (fs.find p).toOption) :
    (fs'.modified p).toOption = (fs.modified p).toOption := by
  unfold modified
  rcases eq_or_errors_of_toOption h with hsame | ⟨⟨o', ho'⟩, o, ho⟩
  · rw [hsame]
  · rw [ho', ho]
    rfl

theorem toOption_read_congr {p : Path} (h : (fs'.find p).toOption = (fs.find p).toOption) :
    (fs'.read p).toOption = (fs.read p).toOption := by
  unfold read
  rcases eq_or_errors_of_toOption h with hsame | ⟨⟨o', ho'⟩, o, ho⟩
  · rw [hsame]
  · rw [ho', ho]
    rfl

/-! ## Making directories -/

/-- Only directories are new. -/
structure AddsDirectories (fs fs' : FileSystem) : Prop where
  workDir : fs'.workDir = fs.workDir
  elsewhere : ∀ q, fs'.get? q = fs.get? q ∨ ∃ es since, fs'.get? q = some (.directory es since)

namespace AddsDirectories

theorem refl (fs : FileSystem) : AddsDirectories fs fs := ⟨rfl, fun _ => .inl rfl⟩

theorem trans {fs'' : FileSystem} (h : AddsDirectories fs fs') (h' : AddsDirectories fs' fs'') :
    AddsDirectories fs fs'' where
  workDir := h'.workDir.trans h.workDir
  elsewhere q := by
    rcases h'.elsewhere q with hsame | hdirectory
    · rw [hsame]
      exact h.elsewhere q
    · exact .inr hdirectory

theorem get?_eq (h : AddsDirectories fs fs') {q : Location}
    (hq : ∀ es since, fs'.get? q ≠ some (.directory es since)) : fs'.get? q = fs.get? q := by
  refine (h.elsewhere q).resolve_right ?_
  rintro ⟨es, since, hes⟩
  exact hq es since hes

end AddsDirectories

/-- A new directory, entered where nothing was, is the only thing that is new. -/
theorem addsDirectories_enter {d : Location} {x : String} {now : Int}
    (hd : ∃ es since, fs.get? d = some (.directory es since)) (hnone : fs.get? (d ++ [x]) = none) :
    AddsDirectories fs (fs.enter (d ++ [x]) (.directory [] now) now) := by
  refine ⟨rfl, fun q => ?_⟩
  have hentered : (fs.enter (d ++ [x]) (.directory [] now) now).get? (d ++ [x]) =
      some (.directory [] now) := get?_enter hd _
  by_cases hstart : d ++ [x] <+: q
  · obtain ⟨r, rfl⟩ := hstart
    cases r with
    | nil =>
      rw [List.append_nil]
      exact .inr ⟨[], now, hentered⟩
    | cons y r =>
      -- nothing was below the name, and the new directory is empty
      have hbefore : fs.get? (d ++ [x] ++ y :: r) = none :=
        Node.get?_below_of_not_directory (by rw [← get?, hnone]; simp) y r
      have hafter : (fs.enter (d ++ [x]) (.directory [] now) now).get? (d ++ [x] ++ y :: r) = none := by
        rw [get?, Node.get?_append, ← get?, hentered]
        rfl
      exact .inl (hafter.trans hbefore.symm)
  · rcases sameKind_enter hd (.directory [] now) hstart with hsame | ⟨es, -, since, -, hes, -⟩
    · exact .inl hsame
    · exact .inr ⟨es, since, hes⟩

theorem addsDirectories_makeDirectory {p : Path} {now : Int} (h : fs.makeDirectory p now = .ok fs') :
    AddsDirectories fs fs' := by
  unfold makeDirectory at h
  cases hplace : fs.entryPlace p with
  | error e =>
    rw [hplace] at h
    cases h
  | ok l =>
    simp only [hplace, bind, Except.bind] at h
    split at h
    · cases h
    · split at h
      · cases h
      · rename_i hnone
        cases h
        cases hx : p.parts.getLast? with
        | none =>
          -- the top is there already
          rw [entryPlace, hx] at hplace
          cases hplace
          cases hnone
        | some x =>
          obtain ⟨d, rfl, -, hd⟩ := entryPlace_cases hx hplace
          exact addsDirectories_enter hd hnone

theorem addsDirectories_keepDirectory {p : Path} {now : Int} (h : fs.keepDirectory p now = .ok fs') :
    AddsDirectories fs fs' := by
  unfold keepDirectory at h
  split at h
  · rename_i made hmake
    cases h
    exact addsDirectories_makeDirectory hmake
  · split at h
    · cases h
      exact .refl fs
    · cases h

theorem addsDirectories_makeDirectories {p : Path} {now : Int} (h : fs.makeDirectories p now = .ok fs') :
    AddsDirectories fs fs' := by
  unfold makeDirectories at h
  generalize p.parts.reverse = names at h
  induction names generalizing fs' with
  | nil => exact addsDirectories_keepDirectory h
  | cons name above ih =>
    unfold makeDirectoriesFrom at h
    dsimp only at h
    split at h
    · cases hmake : makeDirectoriesFrom fs p.anchor now above with
      | error e =>
        rw [hmake] at h
        cases h
      | ok made =>
        rw [hmake] at h
        exact (ih hmake).trans (addsDirectories_keepDirectory h)
    · exact addsDirectories_keepDirectory h

end FileSystem

/-! ## Saving -/

namespace Cache

open FileSystem

/-- A place beside those that saving a cache at a path works on, once there is a directory for it: no
directory stands there, it is neither at nor below the artifact's name or that of the draft, and the
draft is no link that leads there. -/
structure Beside (made : FileSystem) (path : Path) (q : Location) : Prop where
  plain : ∀ es since, made.get? q ≠ some (.directory es since)
  artifact : ∀ l, made.entryPlace path = .ok l → ¬ l <+: q
  draft : ∀ l, made.entryPlace (draftPath path) = .ok l → ¬ l <+: q
  written : made.locate (draftPath path) ≠ .ok q

/-- Neither the artifact nor its draft: a file whose path leads straight to a place beside theirs. -/
structure PassedBy (fs : FileSystem) (path : Path) (now : Int) (file : String) : Prop where
  straight : fs.Straight (.ofString file)
  beside : ∀ made, fs.makeDirectories path.parent (now * 1000000) = .ok made →
    Beside made path (fs.spelled (.ofString file))

variable {c : Cache} {fs fs' made : FileSystem} {path : Path}

/-- Writing and moving the draft changes its own name, the artifact's and the place to which the draft
leads; what stands there afterwards is a file. -/
theorem sameKind_writeArtifact (hwrite : c.writeArtifact fs path = .ok fs') :
    ∃ made, fs.makeDirectories path.parent (c.lastUpdate * 1000000) = .ok made ∧
      fs'.workDir = made.workDir ∧
      ∀ q, (∀ l, made.entryPlace path = .ok l → ¬ l <+: q) →
        (∀ l, made.entryPlace (draftPath path) = .ok l → ¬ l <+: q) →
        SameKind (fs'.get? q) (made.get? q) ∨
          made.locate (draftPath path) = .ok q ∧ ∃ content time, fs'.get? q = some (.file content time) := by
  obtain ⟨made, hmake, hnamed, hcases⟩ := writeArtifact_cases hwrite
  refine ⟨made, hmake, ?_⟩
  rcases hcases with rfl | ⟨drafted, hdrafted, hcases⟩
  · exact ⟨rfl, fun q _ _ => .inl (.inl rfl)⟩
  · obtain ⟨l, hlocate, hrewrites⟩ := rewrites_write (draftPath_ne_nil path) hdrafted
    -- what the write has done is kept by the move, if there is one
    suffices hmoved : fs'.workDir = drafted.workDir ∧
        ∀ q, (∀ l, made.entryPlace path = .ok l → ¬ l <+: q) →
          (∀ l, made.entryPlace (draftPath path) = .ok l → ¬ l <+: q) →
          SameKind (fs'.get? q) (drafted.get? q) by
      refine ⟨hmoved.1.trans hrewrites.workDir, fun q hartifact hdraft => ?_⟩
      have hkind := hmoved.2 q hartifact hdraft
      by_cases hq : q = l
      · subst hq
        exact .inr ⟨hlocate, _, _, hkind.eq_file.2 hrewrites.after⟩
      · exact .inl (hkind.trans (hrewrites.elsewhere q hq))
    rcases hcases with rfl | hmove
    · exact ⟨rfl, fun q _ _ => .inl rfl⟩
    · have hname := getLast?_of_named hnamed
      have hdraftName := draftPath_getLast? path
      obtain ⟨d, -, n, hd, hdir, -, -, hrenames, -⟩ := renames_of_write (draftPath_parent path)
        hdraftName hname (draftName_ne path.name) (draftName_ne_up path.name) hdrafted hmove
      have hplace := entryPlace_of_locate hname hd hdir
      have hdraftPlace := entryPlace_of_locate hdraftName ((draftPath_parent path).symm ▸ hd) hdir
      exact ⟨hrenames.workDir, fun q hartifact hdraft =>
        hrenames.apart q (hdraft _ hdraftPlace) (hartifact _ hplace)⟩

/-- A place beside those that are written holds what it held. -/
theorem Beside.get?_writeArtifact {q : Location} (hwrite : c.writeArtifact fs path = .ok fs')
    (h : ∀ made, fs.makeDirectories path.parent (c.lastUpdate * 1000000) = .ok made →
      Beside made path q) : fs'.get? q = fs.get? q := by
  obtain ⟨made, hmake, -, hkinds⟩ := sameKind_writeArtifact hwrite
  have hbeside := h made hmake
  have hkind := (hkinds q hbeside.artifact hbeside.draft).resolve_right fun hwritten =>
    hbeside.written hwritten.1
  rw [← (addsDirectories_makeDirectories hmake).get?_eq hbeside.plain]
  rcases hkind with hsame | ⟨_, es, _, since, _, hes⟩
  · exact hsame
  · exact absurd hes (hbeside.plain es since)

/-- Saving a cache passes such a file by: what is found at its path is what was found before. -/
theorem PassedBy.find_eq {file : String} (h : PassedBy fs path c.lastUpdate file)
    (hwrite : c.writeArtifact fs path = .ok fs') :
    (fs'.find (.ofString file)).toOption = (fs.find (.ofString file)).toOption := by
  obtain ⟨made, hmake, hdir, hkinds⟩ := sameKind_writeArtifact hwrite
  have hbeside := h.beside made hmake
  have hadds := addsDirectories_makeDirectories hmake
  refine h.straight.find_eq (hdir.trans hadds.workDir) ?_ (Beside.get?_writeArtifact hwrite h.beside)
  -- no link comes to stand on the way either
  intro q hq target hlink
  have hkind := hkinds q (fun l hl hstart => hbeside.artifact l hl (hstart.trans hq))
    fun l hl hstart => hbeside.draft l hl (hstart.trans hq)
  rcases hkind with hkind | ⟨-, content, time, hfile⟩
  · have hmade := hkind.link.1 hlink
    rw [hadds.get?_eq (by simp [hmade])] at hmade
    exact h.straight.link q hq target hmade
  · rw [hlink] at hfile
    cases hfile

end Cache

end EndpointIndex
