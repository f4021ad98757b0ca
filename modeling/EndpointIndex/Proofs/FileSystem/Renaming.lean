import EndpointIndex.Proofs.FileSystem.Ways

/-!
# Renaming

What is written beside a place and then moved there. A move within a directory takes one name out and
enters another (`Renames`), and everything else stays where it is. Main fact: a file that was written
beside its place and moved there is read at its place, also when the draft is a link (`read_of_move`).
-/

namespace EndpointIndex.FileSystem

section

variable {fs fs' : FileSystem}

/-! ## Entering and discarding names -/

section

variable {d : Location} {x : String} {now : Int}

/-- Nothing else is at a place that is at or below something that is no directory. -/
theorem eq_of_isPrefix {q : Location} {n : Node} (hstart : d ++ [x] <+: q)
    (hx : ∀ es since, fs.get? (d ++ [x]) ≠ some (.directory es since)) (hq : fs.get? q = some n) :
    q = d ++ [x] := by
  obtain ⟨r, rfl⟩ := hstart
  cases r with
  | nil => exact List.append_nil _
  | cons y r =>
    have hnone : fs.get? (d ++ [x] ++ y :: r) = none := Node.get?_below_of_not_directory hx y r
    rw [hnone] at hq
    cases hq

variable (hd : ∃ es since, fs.get? d = some (.directory es since))

include hd

theorem get?_enter (n : Node) : (fs.enter (d ++ [x]) n now).get? (d ++ [x]) = some n := by
  obtain ⟨es, since, hes⟩ := (sameKind_stamp fs d now d).directory.2 hd
  rw [enter, List.dropLast_concat]
  exact Node.get?_put hes

/-- A change at a name in a directory, and of the time of the directory, leaves alone what is neither
at the name nor below it. -/
theorem sameKind_stamp_alter (f : Option Node → Option Node) {q : Location} (hq : ¬ d ++ [x] <+: q) :
    SameKind (((Node.alter f (d ++ [x]) (some (fs.stamp d now).tree)).getD (fs.stamp d now).tree).get? q)
      (fs.get? q) := by
  have hkind := sameKind_stamp fs d now
  obtain ⟨es, since, hes⟩ := (hkind d).directory.2 hd
  refine SameKind.trans ?_ (hkind q)
  rcases Node.below_above_or_apart (d ++ [x]) q with ⟨r, rfl⟩ | ⟨y, r, habove⟩ | hapart
  · exact absurd (List.prefix_append _ _) hq
  · -- above the name a directory stays one, with other entries
    obtain ⟨es', since', hes'⟩ := Node.directory_of_above hes habove
    obtain ⟨k, es'', hk, hes''⟩ := Node.directory_of_alter f (x := y) (r := r) hes'
    rw [← habove] at hk
    rw [hk]
    exact .inr ⟨es'', es', since', since', hes'', hes'⟩
  · exact .inl (Node.get?_getD_alter_of_apart f hapart _)

theorem sameKind_enter (n : Node) {q : Location} (hq : ¬ d ++ [x] <+: q) :
    SameKind ((fs.enter (d ++ [x]) n now).get? q) (fs.get? q) := by
  rw [enter, List.dropLast_concat]
  exact sameKind_stamp_alter hd (fun _ => some n) hq

theorem sameKind_discard {q : Location} (hq : ¬ d ++ [x] <+: q) :
    SameKind ((fs.discard (d ++ [x]) now).get? q) (fs.get? q) := by
  rw [discard, List.dropLast_concat]
  exact sameKind_stamp_alter hd (fun _ => none) hq

end

theorem not_concat_isPrefix (d : Location) (x : String) : ¬ d ++ [x] <+: d := by
  intro hstart
  have hle := hstart.length_le
  rw [List.length_append, List.length_singleton] at hle
  omega

/-! ## Moving to another name -/

/-- Something that is no directory got another name in its directory, and nothing else was changed. -/
structure Renames (fs fs' : FileSystem) (d : Location) (x y : String) (n : Node) : Prop where
  workDir : fs'.workDir = fs.workDir
  before : ∀ es since, fs.get? (d ++ [x]) ≠ some (.directory es since)
  free : ∀ es since, fs.get? (d ++ [y]) ≠ some (.directory es since)
  after : fs'.get? (d ++ [y]) = some n
  apart : ∀ q, ¬ d ++ [x] <+: q → ¬ d ++ [y] <+: q → SameKind (fs'.get? q) (fs.get? q)

theorem Renames.elsewhere {d : Location} {x y : String} {n : Node} (h : Renames fs fs' d x y n)
    {q : Location} {m : Node} (hx : q ≠ d ++ [x]) (hy : q ≠ d ++ [y]) (hq : fs.get? q = some m) :
    SameKind (fs'.get? q) (some m) := by
  rw [← hq]
  exact h.apart q (fun hstart => hx (eq_of_isPrefix hstart h.before hq))
    fun hstart => hy (eq_of_isPrefix hstart h.free hq)

theorem Renames.keepsWays {d : Location} {x y : String} {n : Node} (h : Renames fs fs' d x y n) :
    KeepsWays fs fs' fun q => q = d ++ [x] ∨ q = d ++ [y] where
  workDir := h.workDir
  directory q hq := by
    obtain ⟨es, since, hes⟩ := hq
    refine (h.elsewhere ?_ ?_ hes).directory.2 ⟨es, since, rfl⟩
    · rintro rfl
      exact h.before es since hes
    · rintro rfl
      exact h.free es since hes
  link q target hlink := by
    by_cases hx : q = d ++ [x]
    · exact .inr (.inl hx)
    · by_cases hy : q = d ++ [y]
      · exact .inr (.inr hy)
      · exact .inl ((h.elsewhere hx hy hlink).link.2 rfl)

theorem renames_of_move {source target : Path} {d : Location} {x y : String} {n : Node} {now : Int}
    (hd : ∃ es since, fs.get? d = some (.directory es since))
    (hsource : fs.entryPlace source = .ok (d ++ [x])) (htarget : fs.entryPlace target = .ok (d ++ [y]))
    (hn : fs.get? (d ++ [x]) = some n) (hnot : n.isDirectory = false) (hxy : x ≠ y)
    (h : fs.move source target now = .ok fs') : Renames fs fs' d x y n := by
  have hne : d ++ [x] ≠ d ++ [y] := by simpa using hxy
  have hx : ∀ es since, fs.get? (d ++ [x]) ≠ some (.directory es since) := by
    intro es since hes
    rw [hn] at hes
    cases hes
    cases hnot
  simp only [move, hsource, htarget, hn, bind, Except.bind, if_neg hne] at h
  split at h
  · cases h
  · split at h
    · cases h
    · -- a directory does not give way
      cases hgives : givesWay n (fs.get? (d ++ [y])) with
      | error e =>
        rw [hgives] at h
        cases h
      | ok u =>
        rw [hgives] at h
        cases h
        have hy : ∀ es since, fs.get? (d ++ [y]) ≠ some (.directory es since) := by
          intro es since hes
          rw [hes, givesWay, hnot] at hgives
          cases hgives
        have hd' : ∃ es since, (fs.discard (d ++ [x]) now).get? d = some (.directory es since) :=
          (sameKind_discard hd (not_concat_isPrefix d x)).directory.2 hd
        exact ⟨rfl, hx, hy, get?_enter hd' n,
          fun q hqx hqy => (sameKind_enter hd' n hqy).trans (sameKind_discard hd hqx)⟩

section

variable {d l : Location} {x y target : String}

/-- A link that has led to something leads there also under another name: the way on from it does not
come back to it. -/
theorem locateNames_target (h : KeepsWays fs fs' (· = d ++ [x]))
    (hd : ∃ es since, fs.get? d = some (.directory es since)) (hx : x ≠ "..")
    (hlink : fs.get? (d ++ [x]) = some (.link target))
    (hl : ∀ es since, fs.get? l ≠ some (.directory es since))
    (hl' : ∀ target, fs'.get? l ≠ some (.link target)) {links : Nat}
    (hlocate : locateNames fs links d [x] = .ok l) :
    ∃ m < links,
      locateNames fs' m (startOf d (.ofString target)) (Path.ofString target).parts = .ok l := by
  induction links using Nat.strongRecOn with
  | _ links ih =>
    have hstep := hlocate
    rw [locateNames_link hd hx hlink, List.append_nil] at hstep
    cases links with
    | zero => cases hstep
    | succ m =>
      rcases h.locateNames_or hstep hl' with hkept | ⟨k, hk, here, name, rest, hplace, -, hagain⟩
      · exact ⟨m, Nat.lt_succ_self m, hkept⟩
      · -- the walk is at the link again, with fewer links left to be followed
        obtain ⟨rfl, hname⟩ := List.append_inj' hplace rfl
        obtain rfl := List.singleton_inj.1 hname
        cases rest with
        | nil =>
          obtain ⟨j, hj, hkept⟩ := ih k (Nat.lt_succ_of_le hk) hagain
          exact ⟨j, by omega, hkept⟩
        | cons z rest =>
          obtain ⟨e, he, es, since, hes⟩ :=
            directory_of_locateNames_append [name] hagain (.inl (by simp))
          obtain rfl := eq_of_locateNames he hlocate
          exact absurd hes (hl es since)

/-- A path leads through a link that was renamed to the place to which the old path has led. -/
theorem locate_renamed (h : KeepsWays fs fs' (· = d ++ [x])) {draft path : Path}
    (hparent : draft.parent = path.parent) (hdraft : draft.parts.getLast? = some x)
    (hpath : path.parts.getLast? = some y) (hx : x ≠ "..") (hy : y ≠ "..")
    (hlocate : fs.locate path.parent = .ok d)
    (hd : ∃ es since, fs.get? d = some (.directory es since))
    (hlink : fs.get? (d ++ [x]) = some (.link target)) (hdraftPlace : fs.locate draft = .ok l)
    (hl : ∀ es since, fs.get? l ≠ some (.directory es since))
    (hl' : ∀ target, fs'.get? l ≠ some (.link target))
    (hlink' : fs'.get? (d ++ [y]) = some (.link target)) : fs'.locate path = .ok l := by
  obtain ⟨init, hinit⟩ := List.getLast?_eq_some_iff.1 hdraft
  obtain ⟨init', hinit'⟩ := List.getLast?_eq_some_iff.1 hpath
  obtain ⟨hanchor, hinits⟩ : draft.anchor = path.anchor ∧ init = init' := by
    rw [Path.parent, Path.parent, hinit, hinit', List.dropLast_concat, List.dropLast_concat] at hparent
    exact Path.mk.inj hparent
  subst hinits
  have hstart : startOf fs.workDir draft = startOf fs.workDir path := by
    rw [startOf, startOf, hanchor]
  have hparts : path.parent.parts = init := by rw [Path.parent, hinit', List.dropLast_concat]
  rw [FileSystem.locate, hparts, startOf_parent] at hlocate
  rw [FileSystem.locate, hinit, hstart] at hdraftPlace
  -- the walk to the draft ends with the steps from the directory on
  obtain ⟨m, hm⟩ := ((KeepsWays.refl fs).locateNames_append_or hlocate hd).resolve_right not_loses
  have hlast : locateNames fs m d [x] = .ok l := (hm [x]).1.symm.trans hdraftPlace
  rcases h.locateNames_append_or hlocate hd with ⟨n, hn⟩ | ⟨k, -, here, name, rest, hplace, -, hmeets⟩
  · obtain ⟨j, hj, hkept⟩ := locateNames_target h hd hx hlink hl hl' ((hn [x]).1.symm.trans hdraftPlace)
    obtain ⟨n, rfl⟩ := Nat.exists_eq_add_of_lt (Nat.zero_lt_of_lt hj)
    rw [FileSystem.locate, hinit', h.workDir]
    refine ((hn [y]).2).trans ?_
    rw [locateNames_link (h.directory d hd) hy hlink', List.append_nil]
    exact locateNames_mono hkept (by omega)
  · -- on the way to the directory the link is not met, since it leads to no directory
    obtain ⟨rfl, hname⟩ := List.append_inj' hplace rfl
    obtain rfl := List.singleton_inj.1 hname
    obtain ⟨e, he, es, since, hes⟩ :=
      directory_of_locateNames_append [name] hmeets (.inr hd)
    obtain rfl := eq_of_locateNames he hlast
    exact absurd hes (hl es since)

end

/-! ## Writing beside a place -/

/-- Whether something can be written beside the place of a path and then moved there: a file in that
place is in the way neither of the path itself nor of the draft, and it is not where the draft leads. -/
structure Untangled (fs : FileSystem) (draft path : Path) : Prop where
  ofDirectory : ∀ l, fs.entryPlace path = .ok l →
    (fs.put l (.file [] 0)).locate path.parent = fs.locate path.parent
  ofDraft : ∀ l, fs.entryPlace path = .ok l →
    (fs.put l (.file [] 0)).locate draft = fs.locate draft
  apart : ∀ l, fs.entryPlace path = .ok l → fs.locate draft ≠ .ok l

section

variable {made drafted moved : FileSystem} {d l : Location} {x y : String} {n : Node}
  {content : List UInt8} {time : Int}

/-- What was written is read at a path that leads to its place. -/
theorem read_of_locate {path : Path} (hlocate : fs.locate path = .ok l)
    (hfile : fs.get? l = some (.file content time)) : fs.read path = .ok content := by
  rw [read, find, hlocate]
  dsimp only
  rw [hfile]

/-- Putting a file at a name where no directory is leaves what stands elsewhere. -/
theorem sameKind_put (hd : ∃ es since, fs.get? d = some (.directory es since))
    (hy : ∀ es since, fs.get? (d ++ [y]) ≠ some (.directory es since)) {q : Location}
    (hq : q ≠ d ++ [y]) :
    SameKind ((fs.put (d ++ [y]) (.file content time)).get? q) (fs.get? q) := by
  obtain ⟨es, since, hes⟩ := hd
  refine sameKind_of_change (f := fun _ => some (.file content time)) hes hy rfl ?_ q hq
  intro es' since' hes'
  have hfile := (Node.get?_put (m := .file content time) hes).symm.trans hes'
  cases hfile

/-- Without links at the two names, and without a directory at the target, nothing is in the way. -/
theorem untangled_of_not_link {draft path : Path} (hparent : draft.parent = path.parent)
    (hdraft : draft.parts.getLast? = some x) (hpath : path.parts.getLast? = some y) (hxy : x ≠ y)
    (hx : x ≠ "..") (hplain : ∀ l target, fs.entryPlace draft = .ok l → fs.get? l ≠ some (.link target))
    (hfree : ∀ l n, fs.entryPlace path = .ok l → fs.get? l = some n →
      ∃ content time, n = .file content time) : fs.Untangled draft path := by
  suffices h : ∀ l, fs.entryPlace path = .ok l → ∃ d, fs.locate path.parent = .ok d ∧
      fs.locate draft = .ok (d ++ [x]) ∧ l = d ++ [y] ∧ Rewrites fs (fs.put l (.file [] 0)) l [] 0 by
    -- a new file changes no way
    have hsame : ∀ {l}, Rewrites fs (fs.put l (.file [] 0)) l [] 0 → ∀ {p q}, fs.locate p = .ok q →
        (fs.put l (.file [] 0)).locate p = fs.locate p := by
      intro l hrewrites p q hq
      rw [hq]
      exact (hrewrites.locateNames_iff _ _ _ q).2 hq
    refine ⟨?_, ?_, ?_⟩
    · intro l hl
      obtain ⟨d, hd, -, -, hrewrites⟩ := h l hl
      exact hsame hrewrites hd
    · intro l hl
      obtain ⟨d, -, hd, -, hrewrites⟩ := h l hl
      exact hsame hrewrites hd
    · intro l hl hlocate
      obtain ⟨d, -, hd, rfl, -⟩ := h l hl
      exact hxy (by simpa using hd.symm.trans hlocate)
  intro l hl
  obtain ⟨d, rfl, hd, es, since, hes⟩ := entryPlace_cases hpath hl
  have hplace := entryPlace_of_locate hdraft (hparent ▸ hd) ⟨es, since, hes⟩
  exact ⟨d, hd, locate_of_parent hdraft (hparent ▸ hd) ⟨es, since, hes⟩ hx fun target =>
    hplain _ target hplace, rfl, rewrites_put hes (fun n => hfree _ n hl) [] 0⟩

theorem Rewrites.ne_directory (h : Rewrites fs fs' l content time) {q : Location}
    (hq : ∀ es since, fs'.get? q ≠ some (.directory es since)) (es : List (String × Node)) (since : Int) :
    fs.get? q ≠ some (.directory es since) := by
  intro hes
  obtain ⟨es', since', hes'⟩ := (h.directory_iff q).2 ⟨es, since, hes⟩
  exact hq es' since' hes'

/-- Ways on which a file at the target is no obstacle are kept when a draft is written and moved there,
unless they go through the draft. -/
theorem keepsWays_of_renames (hd : ∃ es since, made.get? d = some (.directory es since))
    (hwrites : Rewrites made drafted l content time) (hrenames : Renames drafted moved d x y n) :
    KeepsWays (made.put (d ++ [y]) (.file [] 0)) moved (· = d ++ [x]) := by
  have hy := hwrites.ne_directory hrenames.free
  have hfile : (made.put (d ++ [y]) (.file [] 0)).get? (d ++ [y]) = some (.file [] 0) := by
    obtain ⟨es, since, hes⟩ := hd
    exact Node.get?_put hes
  have hmade : KeepsWays (made.put (d ++ [y]) (.file [] 0)) made (· = d ++ [y]) := by
    refine KeepsWays.of_sameKind rfl (by simp [hfile]) ?_
    intro q hq
    exact (sameKind_put hd hy hq).symm
  refine (((hmade.mono fun _ _ hq _ => .inr hq).trans hwrites.keepsWays).trans hrenames.keepsWays).mono ?_
  rintro q target (hq | rfl) hlink
  · exact hq
  · rw [hfile] at hlink
    cases hlink

/-- A draft that is written and then moved to another name in its directory: either it is a file, and
this file is moved, or it is a link to what was written, and this link is moved. -/
theorem renames_of_write {draft path : Path} {now : Int} (hparent : draft.parent = path.parent)
    (hdraft : draft.parts.getLast? = some x) (hpath : path.parts.getLast? = some y) (hxy : x ≠ y)
    (hx : x ≠ "..") (hwrite : made.write draft content time now = .ok drafted)
    (hmove : drafted.move draft path now = .ok moved) :
    ∃ d l n, made.locate path.parent = .ok d ∧ (∃ es since, made.get? d = some (.directory es since)) ∧
      made.locate draft = .ok l ∧ Rewrites made drafted l content time ∧ Renames drafted moved d x y n ∧
      (l = d ++ [x] ∧ n = .file content time ∨
        l ≠ d ++ [x] ∧ ∃ target, n = .link target ∧ made.get? (d ++ [x]) = some (.link target)) := by
  have hparts : draft.parts ≠ [] := by
    intro hnil
    rw [hnil] at hdraft
    cases hdraft
  obtain ⟨l, hlocate, hwrites⟩ := rewrites_write hparts hwrite
  -- both names stand in one directory, before the draft is written and after
  obtain ⟨a, hsource⟩ := entryPlace_of_move hmove
  obtain ⟨d, rfl, hd, hdir⟩ := entryPlace_cases hdraft hsource
  have hmade : made.locate path.parent = .ok d := by
    rw [hparent, FileSystem.locate, hwrites.workDir] at hd
    exact (hwrites.locateNames_iff _ _ _ d).1 hd
  have hdir' := (hwrites.directory_iff d).1 hdir
  have htarget := entryPlace_of_locate hpath (hparent ▸ hd) hdir
  by_cases hl : l = d ++ [x]
  · subst hl
    exact ⟨d, _, _, hmade, hdir', hlocate, hwrites,
      renames_of_move hdir hsource htarget hwrites.after rfl hxy hmove, .inl ⟨rfl, rfl⟩⟩
  · obtain ⟨target, hlink⟩ : ∃ target, made.get? (d ++ [x]) = some (.link target) := by
      refine Classical.byContradiction fun hnone => ?_
      have hplain := locate_of_parent hdraft (hparent ▸ hmade) hdir' hx fun target hlink =>
        hnone ⟨target, hlink⟩
      exact hl (Except.ok.inj (hlocate.symm.trans hplain))
    exact ⟨d, l, _, hmade, hdir', hlocate, hwrites,
      renames_of_move hdir hsource htarget ((hwrites.link_iff _ _).2 hlink) rfl hxy hmove,
      .inr ⟨hl, target, rfl, hlink⟩⟩

/-- What is written beside a place and moved there is read at the place, also through a draft that is a
link. -/
theorem read_of_move {draft path : Path} {now : Int} (hparent : draft.parent = path.parent)
    (hdraft : draft.parts.getLast? = some x) (hpath : path.parts.getLast? = some y) (hxy : x ≠ y)
    (hx : x ≠ "..") (hy : y ≠ "..") (huntangled : made.Untangled draft path)
    (hwrite : made.write draft content time now = .ok drafted)
    (hmove : drafted.move draft path now = .ok moved) : moved.read path = .ok content := by
  obtain ⟨d, l, n, hmade, hdir, hlocate, hwrites, hrenames, hcases⟩ :=
    renames_of_write hparent hdraft hpath hxy hx hwrite hmove
  have hplace := entryPlace_of_locate hpath hmade hdir
  have hdirectory := (huntangled.ofDirectory _ hplace).trans hmade
  have hne : d ++ [x] ≠ d ++ [y] := by simpa using hxy
  have hkind (q : Location) (hq : q ≠ d ++ [y]) :
      SameKind ((made.put (d ++ [y]) (.file [] 0)).get? q) (made.get? q) :=
    sameKind_put hdir (hwrites.ne_directory hrenames.free) hq
  have hdir' := (hkind d (by simp)).directory.2 hdir
  rcases hcases with ⟨rfl, rfl⟩ | ⟨hl, target, rfl, hlink⟩
  · have hkeeps : KeepsWays (made.put (d ++ [y]) (.file [] 0)) moved := by
      refine (keepsWays_of_renames hdir hwrites hrenames).mono ?_
      rintro q target rfl hlink
      obtain ⟨_, _, hfile⟩ := hwrites.before _ ((hkind _ hne).link.1 hlink)
      cases hfile
    refine read_of_locate (locate_of_parent hpath (hkeeps.locate hdirectory hdir')
      (hkeeps.directory d hdir') hy ?_) hrenames.after
    rw [hrenames.after]
    simp
  · have hly : l ≠ d ++ [y] := by
      rintro rfl
      exact huntangled.apart _ hplace hlocate
    have hbefore : ∀ es since, (made.put (d ++ [y]) (.file [] 0)).get? l ≠ some (.directory es since) := by
      intro es since hes
      obtain ⟨es', since', hes'⟩ := (hkind l hly).directory.1 ⟨es, since, hes⟩
      obtain ⟨_, _, hfile⟩ := hwrites.before _ hes'
      cases hfile
    have hafter : moved.get? l = some (.file content time) :=
      (hrenames.elsewhere hl hly hwrites.after).eq_file.2 rfl
    exact read_of_locate (locate_renamed (keepsWays_of_renames hdir hwrites hrenames) hparent hdraft
      hpath hx hy hdirectory hdir' ((hkind _ hne).link.2 hlink)
      ((huntangled.ofDraft _ hplace).trans hlocate) hbefore (by simp [hafter]) hrenames.after) hafter

end

end

end EndpointIndex.FileSystem
