import Mathlib.Data.List.Induction
import EndpointIndex.Proofs.FileSystem.Changes
import EndpointIndex.Proofs.FileSystem.Renaming

/-!
# When a directory can be made

In a tree without links a directory can be made, with all those above it, exactly if no file stands
where the path passes (`Tidy.makeDirectories_iff`). The path may go up again on its way: what it has
passed is made as well.
-/

namespace EndpointIndex

namespace FileSystem

theorem walk_concat (here : Location) (names : List String) (name : String) :
    walk here (names ++ [name]) =
      if name = ".." then (walk here names).dropLast else walk here names ++ [name] := by
  rw [walk, List.foldl_append]
  rfl

/-- Whatever a path passes, its end included, is a directory. -/
def Paved (fs : FileSystem) (here : Location) (names : List String) : Prop :=
  ∀ front, front <+: names → ∃ es since, fs.get? (walk here front) = some (.directory es since)

/-- A file stands where a path passes. -/
def Blocked (fs : FileSystem) (here : Location) (names : List String) : Prop :=
  ∃ front, front <+: names ∧ ∃ content time, fs.get? (walk here front) = some (.file content time)

variable {fs fs' : FileSystem} {here : Location} {name : String} {names : List String} {now : Int}

theorem paved_nil : fs.Paved here [] ↔ ∃ es since, fs.get? here = some (.directory es since) := by
  constructor
  · exact fun h => h [] List.nil_prefix
  · intro hdir front hfront
    obtain rfl := List.prefix_nil.1 hfront
    exact hdir

theorem paved_cons : fs.Paved here (name :: names) ↔
    (∃ es since, fs.get? here = some (.directory es since)) ∧
      fs.Paved (if name = ".." then here.dropLast else here ++ [name]) names := by
  constructor
  · exact fun h => ⟨h [] List.nil_prefix, fun front hfront =>
      h (name :: front) (List.cons_prefix_cons.2 ⟨rfl, hfront⟩)⟩
  · rintro ⟨hdir, hrest⟩ front hfront
    cases front with
    | nil => exact hdir
    | cons x front =>
      obtain ⟨rfl, hprefix⟩ := List.cons_prefix_cons.1 hfront
      exact hrest front hprefix

theorem paved_concat : fs.Paved here (names ++ [name]) ↔
    fs.Paved here names ∧ ∃ es since, fs.get? (walk here (names ++ [name])) = some (.directory es since) := by
  constructor
  · exact fun h => ⟨fun front hfront => h front (hfront.trans (List.prefix_append _ _)),
      h _ List.prefix_rfl⟩
  · rintro ⟨hpaved, hend⟩ front hfront
    rcases List.prefix_concat_iff.1 hfront with rfl | hshorter
    · exact hend
    · exact hpaved front hshorter

/-- A file blocks the way as long as it is there. -/
theorem Paved.not_blocked (h : fs'.Paved here names) (hchanges : Changes fs fs' [] fun _ => False) :
    ¬ fs.Blocked here names := by
  rintro ⟨front, hfront, content, time, hfile⟩
  obtain ⟨es, since, hes⟩ := h front hfront
  rw [hchanges.files _ List.not_mem_nil content time hfile] at hes
  cases hes

theorem Paved.changes (h : fs.Paved here names) (hchanges : Changes fs fs' [] fun _ => False) :
    fs'.Paved here names :=
  fun front hfront => hchanges.directories _ (h front hfront)

/-- A paved way can be gone. -/
theorem Paved.locateNames (h : fs.Paved here names) (links : Nat) :
    locateNames fs links here names = .ok (walk here names) := by
  induction names generalizing here with
  | nil => exact locateNames_nil fs links here
  | cons name names ih =>
    obtain ⟨hdir, hrest⟩ := paved_cons.1 h
    have hwalk : walk here (name :: names) =
        walk (if name = ".." then here.dropLast else here ++ [name]) names := rfl
    rw [hwalk]
    by_cases hname : name = ".."
    · subst hname
      rw [if_pos rfl] at hrest ⊢
      rw [locateNames_up hdir, ih hrest]
    · rw [if_neg hname] at hrest ⊢
      obtain ⟨es, since, hes⟩ := hrest [] List.nil_prefix
      rw [locateNames_down hdir hname hes (by simp), ih hrest]

theorem Paved.find {anchor : Anchor} (h : fs.Paved (startOf fs.workDir ⟨anchor, names⟩) names) :
    ∃ es since, fs.find ⟨anchor, names⟩ =
      .ok (walk (startOf fs.workDir ⟨anchor, names⟩) names, .directory es since) := by
  obtain ⟨es, since, hes⟩ := h names List.prefix_rfl
  have hlocate : fs.locate ⟨anchor, names⟩ = .ok (walk (startOf fs.workDir ⟨anchor, names⟩) names) :=
    h.locateNames maxLinks
  refine ⟨es, since, ?_⟩
  rw [FileSystem.find, hlocate]
  dsimp only
  rw [hes]

/-- A paved way needs no making. -/
theorem Paved.keepDirectory {anchor : Anchor}
    (h : fs.Paved (startOf fs.workDir ⟨anchor, names⟩) names) :
    ∃ fs', fs.keepDirectory ⟨anchor, names⟩ now = .ok fs' := by
  obtain ⟨es, since, hfind⟩ := h.find
  unfold FileSystem.keepDirectory
  split
  · exact ⟨_, rfl⟩
  · rw [if_pos (by rw [isDirectory, hfind]; rfl)]
    exact ⟨_, rfl⟩

/-- The place of a last name, by what the names before it lead to. -/
theorem entryPlace_concat (fs : FileSystem) (anchor : Anchor) (names : List String) (name : String) :
    fs.entryPlace ⟨anchor, names ++ [name]⟩ =
      match fs.find ⟨anchor, names⟩ with
      | .ok (l, .directory ..) => .ok (l ++ [name])
      | .ok _ => .error .notDirectory
      | .error o => .error o.toError := by
  cases hfind : fs.find ⟨anchor, names⟩ with
  | error o => simp [entryPlace, Path.parent, hfind]
  | ok found =>
    obtain ⟨l, n⟩ := found
    cases n with
    | file content time => simp [entryPlace, Path.parent, hfind]
    | directory es since => simp [entryPlace, Path.parent, hfind]
    | link target => simp [entryPlace, Path.parent, hfind]

theorem makeDirectory_eq_ok {anchor : Anchor}
    (h : fs.makeDirectory ⟨anchor, names ++ [name]⟩ now = .ok fs') :
    name ≠ ".." ∧ ∃ l es since, fs.find ⟨anchor, names⟩ = .ok (l, .directory es since) ∧
      fs' = fs.enter (l ++ [name]) (.directory [] now) now := by
  have hlast : Path.name ⟨anchor, names ++ [name]⟩ = name := by simp [Path.name]
  unfold makeDirectory at h
  rw [entryPlace_concat, hlast] at h
  split at h
  · rename_i l es since hfind
    simp only [bind, Except.bind] at h
    split at h
    · cases h
    · rename_i hname
      split at h
      · cases h
      · cases h
        exact ⟨hname, l, es, since, hfind, rfl⟩
  · cases h
  · cases h

theorem makeDirectoriesFrom_concat (fs : FileSystem) (anchor : Anchor) (now : Int)
    (names : List String) (name : String) :
    makeDirectoriesFrom fs anchor now (names ++ [name]).reverse =
      match fs.makeDirectory ⟨anchor, names ++ [name]⟩ now with
      | .error .notFound =>
        (makeDirectoriesFrom fs anchor now names.reverse).bind (·.keepDirectory ⟨anchor, names ++ [name]⟩ now)
      | _ => fs.keepDirectory ⟨anchor, names ++ [name]⟩ now := by
  rw [List.reverse_append, List.reverse_singleton, List.singleton_append, makeDirectoriesFrom,
    List.reverse_cons, List.reverse_reverse]
  rfl

section Tidy

variable (htidy : fs.Tidy)

include htidy

/-- A path that leads to a directory has passed directories only. -/
theorem Tidy.paved_of_locateNames {links : Nat} {l : Location}
    (h : FileSystem.locateNames fs links here names = .ok l)
    (hl : ∃ es since, fs.get? l = some (.directory es since)) : fs.Paved here names := by
  fun_induction FileSystem.locateNames fs links here names with
  | case1 links here =>
    cases h
    exact paved_nil.2 hl
  | case2 links here rest es since hes ih =>
    rw [paved_cons, if_pos rfl]
    exact ⟨⟨es, since, hes⟩, ih h⟩
  | case3 links here name es since hes hname hn =>
    cases h
    rw [paved_cons, if_neg hname]
    exact ⟨⟨es, since, hes⟩, paved_nil.2 hl⟩
  | case4 => cases h
  | case5 => cases h
  | case6 here name rest es since hes hname target hn => exact absurd hn (htidy.get?_ne_link _ _)
  | case7 links here name rest es since hes hname n hlink hn ih =>
    rw [paved_cons, if_neg hname]
    exact ⟨⟨es, since, hes⟩, ih h⟩
  | case8 => cases h
  | case9 => cases h

/-- A way that no file blocks is paved, or ends where nothing is. -/
theorem Tidy.paved_or_missing (links : Nat) (hhere : ∃ es since, fs.get? here = some (.directory es since))
    (h : ¬ fs.Blocked here names) :
    fs.Paved here names ∨ FileSystem.locateNames fs links here names = .error .missing ∨
      ∃ l, FileSystem.locateNames fs links here names = .ok l ∧ fs.get? l = none := by
  induction names generalizing here with
  | nil => exact .inl (paved_nil.2 hhere)
  | cons name names ih =>
    have hrest : ¬ fs.Blocked (if name = ".." then here.dropLast else here ++ [name]) names := by
      rintro ⟨front, hfront, hfile⟩
      exact h ⟨name :: front, List.cons_prefix_cons.2 ⟨rfl, hfront⟩, hfile⟩
    rw [paved_cons]
    by_cases hname : name = ".."
    · subst hname
      rw [if_pos rfl] at hrest ⊢
      rw [locateNames_up hhere]
      have hup := directory_of_isPrefix (List.dropLast_prefix here) hhere
      exact (ih hup hrest).imp_left fun hpaved => ⟨hhere, hpaved⟩
    · rw [if_neg hname] at hrest ⊢
      cases hn : fs.get? (here ++ [name]) with
      | none =>
        rw [locateNames_new hhere hname hn]
        split
        · exact .inr (.inr ⟨_, rfl, hn⟩)
        · exact .inr (.inl rfl)
      | some n =>
        -- a file would block the way, and there are no links
        cases n with
        | link target => exact absurd hn (htidy.get?_ne_link _ _)
        | file content time => exact absurd ⟨[], List.nil_prefix, content, time, hn⟩ hrest
        | directory es since =>
          rw [locateNames_down hhere hname hn (by simp)]
          exact (ih ⟨es, since, hn⟩ hrest).imp_left fun hpaved => ⟨hhere, hpaved⟩

variable {anchor : Anchor}

theorem Tidy.paved_of_find {l : Location} {es : List (String × Node)} {since : Int}
    (h : fs.find ⟨anchor, names⟩ = .ok (l, .directory es since)) :
    fs.Paved (startOf fs.workDir ⟨anchor, names⟩) names :=
  htidy.paved_of_locateNames (locate_of_find h).1 ⟨es, since, get?_of_find h⟩

/-- A directory that was made or kept can be reached. -/
theorem Tidy.paved_of_keepDirectory (h : fs.keepDirectory ⟨anchor, names⟩ now = .ok fs') :
    fs'.Paved (startOf fs.workDir ⟨anchor, names⟩) names := by
  have hchanges : Changes fs fs' [] fun _ => False := htidy.changes_keepDirectory h
  unfold FileSystem.keepDirectory at h
  split at h
  · rename_i made hmake
    cases h
    cases names using List.reverseRecOn with
    | nil =>
      -- there is no making the place where a path starts
      simp only [makeDirectory, entryPlace, List.getLast?_nil, bind, Except.bind] at hmake
      split at hmake
      · cases hmake
      · cases hmake
    | append_singleton above name =>
      obtain ⟨hname, l, es, since, hfind, rfl⟩ := makeDirectory_eq_ok hmake
      have habove := htidy.paved_of_find hfind
      obtain ⟨es', since', hes'⟩ := habove.find
      obtain ⟨rfl, -⟩ := Prod.mk.inj (Except.ok.inj (hfind.symm.trans hes'))
      -- the new directory is what the last name leads to
      refine paved_concat.2 ⟨habove.changes hchanges, [], now, ?_⟩
      rw [walk_concat, if_neg hname]
      exact get?_enter ⟨es, since, get?_of_find hfind⟩ _
  · split at h
    · rename_i hdirectory
      cases h
      unfold isDirectory at hdirectory
      split at hdirectory
      · rename_i l n hfind
        cases n with
        | directory es since => exact htidy.paved_of_find hfind
        | file => cases hdirectory
        | link => cases hdirectory
      · cases hdirectory
    · cases h

/-- One more directory can be made at the end of a paved way, if no file is there. -/
theorem Tidy.keepDirectory_of_paved (h : fs.Paved (startOf fs.workDir ⟨anchor, names⟩) names)
    (hfree : ¬ fs.Blocked (startOf fs.workDir ⟨anchor, names⟩) (names ++ [name])) :
    ∃ fs', fs.keepDirectory ⟨anchor, names ++ [name]⟩ now = .ok fs' := by
  have hlast : Path.name ⟨anchor, names ++ [name]⟩ = name := by simp [Path.name]
  have hkept : (∃ es since, fs.get? (walk (startOf fs.workDir ⟨anchor, names⟩) (names ++ [name])) =
      some (.directory es since)) → ∃ fs', fs.keepDirectory ⟨anchor, names ++ [name]⟩ now = .ok fs' :=
    fun hdir => Paved.keepDirectory (paved_concat.2 ⟨h, hdir⟩)
  obtain ⟨es, since, hfind⟩ := h.find
  by_cases hname : name = ".."
  · -- the way goes up again, to a directory that it has passed or that is above its start
    apply hkept
    rw [walk_concat, if_pos hname]
    exact directory_of_isPrefix (List.dropLast_prefix _) ⟨es, since, get?_of_find hfind⟩
  · cases hn : fs.get? (walk (startOf fs.workDir ⟨anchor, names⟩) (names ++ [name])) with
    | none =>
      rw [walk_concat, if_neg hname] at hn
      have hmake : ∃ fs', fs.makeDirectory ⟨anchor, names ++ [name]⟩ now = .ok fs' := by
        rw [makeDirectory, entryPlace_concat, hfind, hlast]
        simp only [bind, Except.bind, if_neg hname, hn]
        exact ⟨_, rfl⟩
      obtain ⟨fs', hmake⟩ := hmake
      rw [FileSystem.keepDirectory, hmake]
      exact ⟨fs', rfl⟩
    | some n =>
      cases n with
      | directory es' since' => exact hkept ⟨es', since', hn⟩
      | file content time => exact absurd ⟨_, List.prefix_rfl, content, time, hn⟩ hfree
      | link target => exact absurd hn (htidy.get?_ne_link _ _)

theorem Tidy.paved_of_makeDirectoriesFrom
    (h : makeDirectoriesFrom fs anchor now names.reverse = .ok fs') :
    fs'.Paved (startOf fs.workDir ⟨anchor, names⟩) names := by
  cases names using List.reverseRecOn with
  | nil => exact htidy.paved_of_keepDirectory h
  | append_singleton above name =>
    rw [makeDirectoriesFrom_concat] at h
    split at h
    · -- what is above was missing and has been made
      cases hbetween : makeDirectoriesFrom fs anchor now above.reverse with
      | error e =>
        rw [hbetween] at h
        cases h
      | ok between =>
        rw [hbetween] at h
        have hchanges : Changes fs between [] fun _ => False :=
          htidy.changes_makeDirectories (p := ⟨anchor, above⟩) hbetween
        have hpaved := hchanges.tidy.paved_of_keepDirectory h
        rw [hchanges.workDir] at hpaved
        exact hpaved
    · exact htidy.paved_of_keepDirectory h

/-- Where no file blocks the way, all that is missing on it can be made. -/
theorem Tidy.makeDirectoriesFrom_of_not_blocked
    (hstart : ∃ es since, fs.get? (startOf fs.workDir ⟨anchor, names⟩) = some (.directory es since))
    (hfree : ¬ fs.Blocked (startOf fs.workDir ⟨anchor, names⟩) names) :
    ∃ fs', makeDirectoriesFrom fs anchor now names.reverse = .ok fs' := by
  induction names using List.reverseRecOn with
  | nil => exact Paved.keepDirectory (paved_nil.2 hstart)
  | append_singleton names name ih =>
    have habove : ¬ fs.Blocked (startOf fs.workDir ⟨anchor, names⟩) names := by
      rintro ⟨front, hfront, hfile⟩
      exact hfree ⟨front, hfront.trans (List.prefix_append _ _), hfile⟩
    rw [makeDirectoriesFrom_concat]
    split
    · -- what is above is made first, which puts no file on the way
      obtain ⟨between, hbetween⟩ := ih hstart habove
      have hchanges : Changes fs between [] fun _ => False :=
        htidy.changes_makeDirectories (p := ⟨anchor, names⟩) hbetween
      have hpaved := htidy.paved_of_makeDirectoriesFrom hbetween
      rw [hbetween]
      apply hchanges.tidy.keepDirectory_of_paved
      · rw [hchanges.workDir]
        exact hpaved
      · rw [hchanges.workDir]
        rintro ⟨front, hfront, content, time, hfile⟩
        obtain ⟨time', hfile'⟩ := (hchanges.holds _ _ ⟨time, hfile⟩).resolve_right id
        exact hfree ⟨front, hfront, content, time', hfile'⟩
    · rename_i hfound
      rcases htidy.paved_or_missing maxLinks hstart habove with hpaved | hmissing
      · exact htidy.keepDirectory_of_paved hpaved hfree
      · -- then the directory above would have been missing
        have hfind : fs.find ⟨anchor, names⟩ = .error .missing := by
          rw [FileSystem.find, locate]
          rcases hmissing with hmissing | ⟨l, hlocate, hnone⟩
          · rw [show locateNames fs maxLinks (startOf fs.workDir ⟨anchor, names⟩)
              (Path.parts ⟨anchor, names⟩) = _ from hmissing]
          · rw [show locateNames fs maxLinks (startOf fs.workDir ⟨anchor, names⟩)
              (Path.parts ⟨anchor, names⟩) = _ from hlocate]
            dsimp only
            rw [hnone]
        refine absurd ?_ hfound
        rw [makeDirectory, entryPlace_concat, hfind]
        rfl

/-- A directory can be made, with all that is missing above it, if and only if no file stands where
its path passes. -/
theorem Tidy.makeDirectories_iff {p : Path}
    (hstart : ∃ es since, fs.get? (startOf fs.workDir p) = some (.directory es since)) :
    (∃ fs', fs.makeDirectories p now = .ok fs') ↔ ¬ fs.Blocked (startOf fs.workDir p) p.parts := by
  constructor
  · rintro ⟨fs', hmake⟩
    exact (htidy.paved_of_makeDirectoriesFrom hmake).not_blocked (htidy.changes_makeDirectories hmake)
  · exact htidy.makeDirectoriesFrom_of_not_blocked hstart

end Tidy

end FileSystem

end EndpointIndex
