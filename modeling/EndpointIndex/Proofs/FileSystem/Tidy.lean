import EndpointIndex.Index.Basic
import EndpointIndex.Proofs.FileSystem.Tree

/-!
# Trees without links

In a tree without links, in which no directory has a name twice, a name stands for one entry
(`Node.child?_eq_some_iff`), a change has an exact effect (`Node.get?_alter_cases`), and paths mean what
their names spell: a path that leads anywhere leads to the place that `walk` gives, which does not depend
on the tree (`locateNames_eq_walk`, `resolve_eq_spelled`).
-/

namespace EndpointIndex

namespace Node

mutual

/-- No links, and no name twice in a directory. -/
def tidy : Node → Bool
  | file .. => true
  | link _ => false
  | directory entries _ => tidyEntries entries

def tidyEntries : List (String × Node) → Bool
  | [] => true
  | (x, n) :: rest => (child? x rest).isNone && tidy n && tidyEntries rest

end

theorem tidyEntries_cons {x : String} {n : Node} {rest : List (String × Node)} :
    tidyEntries ((x, n) :: rest) = true ↔
      child? x rest = none ∧ tidy n = true ∧ tidyEntries rest = true := by
  rw [tidyEntries, Bool.and_eq_true, Bool.and_eq_true, Option.isNone_iff_eq_none, and_assoc]

theorem tidy_of_child? {x : String} {entries : List (String × Node)} {n : Node}
    (hentries : tidyEntries entries = true) (h : child? x entries = some n) : tidy n = true := by
  induction entries with
  | nil => cases h
  | cons p rest ih =>
    obtain ⟨y, m⟩ := p
    obtain ⟨-, hm, hrest⟩ := tidyEntries_cons.1 hentries
    rw [child?] at h
    split at h
    · cases h
      exact hm
    · exact ih hrest h

theorem tidy_of_get? {n m : Node} {l : Location} (hn : tidy n = true) (h : get? n l = some m) :
    tidy m = true := by
  induction l generalizing n with
  | nil =>
    rw [get?.eq_def] at h
    cases h
    exact hn
  | cons x l ih =>
    cases n with
    | file => cases h
    | link => cases h
    | directory entries since =>
      obtain ⟨c, hc, hget⟩ := Option.bind_eq_some_iff.1 h
      exact ih (tidy_of_child? hn hc) hget

/-- What directories inherit from their entries holds of every tree. -/
@[elab_as_elim]
theorem induction_entries {motive : Node → Prop} (n : Node)
    (file : ∀ content time, motive (.file content time)) (link : ∀ target, motive (.link target))
    (directory : ∀ entries since, (∀ e ∈ entries, motive e.2) → motive (.directory entries since)) :
    motive n :=
  @Node.rec motive (fun entries => ∀ e ∈ entries, motive e.2) (fun e => motive e.2) file
    (fun entries since ih => directory entries since ih) link (by simp)
    (fun _ _ hhead htail => List.forall_mem_cons.2 ⟨hhead, htail⟩) (fun _ _ h => h) n

theorem child?_eq_none_iff {x : String} {entries : List (String × Node)} :
    child? x entries = none ↔ x ∉ entries.map Prod.fst := by
  induction entries with
  | nil => simp [child?]
  | cons p rest ih =>
    obtain ⟨y, m⟩ := p
    rw [child?, List.map_cons, List.mem_cons, not_or, ← ih]
    split
    · rename_i hyx
      simp [hyx]
    · rename_i hyx
      simp [Ne.symm hyx]

theorem nodup_names {entries : List (String × Node)} (h : tidyEntries entries = true) :
    (entries.map Prod.fst).Nodup := by
  induction entries with
  | nil => exact List.nodup_nil
  | cons p rest ih =>
    obtain ⟨x, n⟩ := p
    obtain ⟨hx, -, hrest⟩ := tidyEntries_cons.1 h
    exact List.nodup_cons.2 ⟨child?_eq_none_iff.1 hx, ih hrest⟩

/-- The entry of a name is the only one that has it. -/
theorem child?_eq_some_iff {x : String} {n : Node} {entries : List (String × Node)}
    (h : tidyEntries entries = true) : child? x entries = some n ↔ (x, n) ∈ entries := by
  induction entries with
  | nil => simp [child?]
  | cons p rest ih =>
    obtain ⟨y, m⟩ := p
    obtain ⟨hy, -, hrest⟩ := tidyEntries_cons.1 h
    rw [child?, List.mem_cons, Prod.mk.injEq]
    split
    · rename_i hyx
      subst hyx
      have hnot : (y, n) ∉ rest := fun hmem =>
        child?_eq_none_iff.1 hy (List.mem_map.2 ⟨_, hmem, rfl⟩)
      simp [hnot, eq_comm]
    · rename_i hyx
      rw [ih hrest]
      simp [Ne.symm hyx]

theorem tidy_of_mem {entries : List (String × Node)} (h : tidyEntries entries = true)
    {e : String × Node} (he : e ∈ entries) : tidy e.2 = true :=
  tidy_of_child? h ((child?_eq_some_iff h).2 he)

/-- Changing an entry changes that entry, and removing it leaves none of its name. -/
theorem child?_alterEntry_of_tidy (name : String) (f : Option Node → Option Node)
    {entries : List (String × Node)} (h : tidyEntries entries = true) :
    child? name (alterEntry name f entries) = f (child? name entries) := by
  induction entries with
  | nil =>
    simp only [alterEntry, child?]
    cases f none with
    | none => rfl
    | some m => simp [child?]
  | cons p rest ih =>
    obtain ⟨x, n⟩ := p
    obtain ⟨hx, -, hrest⟩ := tidyEntries_cons.1 h
    by_cases hxn : x = name
    · -- if the entry is removed, no second one of its name comes to light
      subst hxn
      simp only [alterEntry, child?, if_true]
      cases f (some n) with
      | none => exact hx
      | some m => simp [child?]
    · simp only [alterEntry, child?, hxn, if_false]
      exact ih hrest

theorem tidyEntries_alterEntry {name : String} {f : Option Node → Option Node}
    {entries : List (String × Node)} (h : tidyEntries entries = true)
    (hf : ∀ m, f (child? name entries) = some m → tidy m = true) :
    tidyEntries (alterEntry name f entries) = true := by
  induction entries with
  | nil =>
    simp only [alterEntry]
    cases hm : f none with
    | none => rfl
    | some m => exact tidyEntries_cons.2 ⟨rfl, hf m hm, rfl⟩
  | cons p rest ih =>
    obtain ⟨x, n⟩ := p
    obtain ⟨hx, hn, hrest⟩ := tidyEntries_cons.1 h
    by_cases hxn : x = name
    · subst hxn
      simp only [child?, if_true] at hf
      simp only [alterEntry, if_true]
      cases hm : f (some n) with
      | none => exact hrest
      | some m => exact tidyEntries_cons.2 ⟨hx, hf m hm, hrest⟩
    · simp only [child?, hxn, if_false] at hf
      simp only [alterEntry, hxn, if_false]
      refine tidyEntries_cons.2 ⟨?_, hn, ih hrest hf⟩
      rw [child?_alterEntry_of_ne f hxn, hx]

theorem tidy_alter {f : Option Node → Option Node}
    (hf : ∀ o, (∀ n, o = some n → tidy n = true) → ∀ m, f o = some m → tidy m = true)
    (l : Location) {o : Option Node} (ho : ∀ n, o = some n → tidy n = true) {k : Node}
    (h : alter f l o = some k) : tidy k = true := by
  induction l generalizing o k with
  | nil => exact hf o ho k h
  | cons x l ih =>
    cases o with
    | none => cases h
    | some n =>
      cases n with
      | file =>
        cases h
        rfl
      | link => exact absurd (ho _ rfl) (by simp [tidy])
      | directory entries since =>
        cases h
        -- of the entries only the one on the way changes
        apply tidyEntries_alterEntry (ho _ rfl)
        intro m hm
        exact ih (fun n hn => tidy_of_child? (ho _ rfl) hn) hm

theorem tidy_put {n m : Node} (hn : tidy n = true) (hm : tidy m = true) (l : Location) :
    tidy (put n l m) = true := by
  unfold put
  cases hk : alter (fun _ => some m) l (some n) with
  | none => exact hn
  | some k =>
    refine tidy_alter ?_ l ?_ hk
    · rintro o - m' ⟨⟩
      exact hm
    · rintro n' ⟨⟩
      exact hn

theorem tidy_erase {n : Node} (hn : tidy n = true) (l : Location) : tidy (erase n l) = true := by
  unfold erase
  cases hk : alter (fun _ => none) l (some n) with
  | none => exact hn
  | some k =>
    refine tidy_alter ?_ l ?_ hk
    · rintro o - m' ⟨⟩
    · rintro n' ⟨⟩
      exact hn

theorem tidy_changedAt {n : Node} (hn : tidy n = true) (time : Int) : tidy (n.changedAt time) = true := by
  cases n <;> exact hn

theorem tidy_stamp {n : Node} (hn : tidy n = true) (l : Location) (time : Int) :
    tidy (stamp n l time) = true := by
  unfold stamp
  cases hk : alter (changedAt? time) l (some n) with
  | none => exact hn
  | some k =>
    refine tidy_alter ?_ l ?_ hk
    · rintro (_ | n') ho m ⟨⟩
      exact tidy_changedAt (ho n' rfl) time
    · rintro n' ⟨⟩
      exact hn

theorem get?_nil (n : Node) : get? n [] = some n := by
  cases n <;> rfl

/-- After a change at `l`, a place that is not at or below `l` has what it had, or is a directory still,
and what is at or below it comes from the change. There may be nothing where `l` starts, so that the
induction on `l` can go on to an entry that is not there. -/
theorem get?_alter_bind_cases {f : Option Node → Option Node} {o : Option Node}
    (ho : ∀ n, o = some n → tidy n = true) (l q : Location) :
    FileSystem.SameKind ((alter f l o).bind fun m => get? m q) (o.bind fun m => get? m q) ∨
      ∃ r, q = l ++ r ∧
        ((alter f l o).bind fun m => get? m q) =
          (f (o.bind fun m => get? m l)).bind fun m => get? m r := by
  induction l generalizing o q with
  | nil =>
    right
    refine ⟨q, rfl, ?_⟩
    rw [alter, funext get?_nil, Option.bind_fun_some]
  | cons x l ih =>
    cases o with
    | none => exact .inl (.inl rfl)
    | some n =>
      cases n with
      | file => exact .inl (.inl rfl)
      | link => exact .inl (.inl rfl)
      | directory entries since =>
        cases q with
        | nil => exact .inl (.inr ⟨_, _, _, _, rfl, rfl⟩)
        | cons y q =>
          simp only [alter, Option.bind_some, get?]
          -- both ways go through the same entry, or they part here
          by_cases hyx : y = x
          · subst hyx
            rw [child?_alterEntry_of_tidy y (alter f l) (ho _ rfl)]
            rcases ih (fun n hn => tidy_of_child? (ho _ rfl) hn) q with hsame | ⟨r, rfl, hget⟩
            · exact .inl hsame
            · exact .inr ⟨r, rfl, hget⟩
          · left
            left
            rw [child?_alterEntry_of_ne _ hyx]

theorem get?_alter_cases {n k : Node} (hn : tidy n = true) {f : Option Node → Option Node}
    {l : Location} (h : alter f l (some n) = some k) (q : Location) :
    FileSystem.SameKind (get? k q) (get? n q) ∨
      ∃ r, q = l ++ r ∧ get? k q = (f (get? n l)).bind fun m => get? m r := by
  have hcases := get?_alter_bind_cases (f := f) (o := some n) (by rintro m ⟨⟩; exact hn) l q
  rw [h] at hcases
  exact hcases

end Node

/-- The place that names spell, seen from another one. -/
def FileSystem.walk (here : Location) (names : List String) : Location :=
  names.foldl (fun l name => if name = ".." then l.dropLast else l ++ [name]) here

namespace FileSystem

/-- A file system without links, in which no directory has a name twice. -/
def Tidy (fs : FileSystem) : Prop := fs.tree.tidy = true

/-- The place that a path spells. -/
def spelled (fs : FileSystem) (p : Path) : Location := walk (startOf fs.workDir p) p.parts

section Tidy

variable {fs : FileSystem} (h : fs.Tidy)

include h

theorem Tidy.get?_ne_link (l : Location) (target : String) : fs.get? l ≠ some (.link target) := by
  intro hlink
  have htidy := Node.tidy_of_get? h hlink
  cases htidy

theorem Tidy.put {m : Node} (hm : m.tidy = true) (l : Location) : (fs.put l m).Tidy :=
  Node.tidy_put h hm l

theorem Tidy.stamp (l : Location) (time : Int) : (fs.stamp l time).Tidy := Node.tidy_stamp h l time

theorem Tidy.enter {m : Node} (hm : m.tidy = true) (l : Location) (now : Int) :
    (fs.enter l m now).Tidy :=
  (h.stamp l.dropLast now).put hm l

theorem Tidy.discard (l : Location) (now : Int) : (fs.discard l now).Tidy :=
  Node.tidy_erase (h.stamp l.dropLast now) l

theorem Tidy.get?_put_cases (l : Location) (m : Node) (q : Location) :
    SameKind ((fs.put l m).get? q) (fs.get? q) ∨
      ∃ r, q = l ++ r ∧ (fs.put l m).get? q = m.get? r := by
  unfold FileSystem.put Node.put FileSystem.get?
  dsimp only
  cases hk : Node.alter (fun _ => some m) l (some fs.tree) with
  | none => exact .inl (.inl rfl)
  | some k => exact Node.get?_alter_cases h hk q

theorem Tidy.get?_enter_cases (l : Location) (m : Node) (now : Int) (q : Location) :
    SameKind ((fs.enter l m now).get? q) (fs.get? q) ∨
      ∃ r, q = l ++ r ∧ (fs.enter l m now).get? q = m.get? r := by
  refine ((h.stamp l.dropLast now).get?_put_cases l m q).imp_left ?_
  exact fun hkind => hkind.trans (sameKind_stamp fs l.dropLast now q)

theorem Tidy.get?_discard_cases (l : Location) (now : Int) (q : Location) :
    SameKind ((fs.discard l now).get? q) (fs.get? q) ∨
      ∃ r, q = l ++ r ∧ (fs.discard l now).get? q = none := by
  have hkind := sameKind_stamp fs l.dropLast now q
  unfold FileSystem.discard FileSystem.erase Node.erase
  cases hk : Node.alter (fun _ => none) l (some (fs.stamp l.dropLast now).tree) with
  | none => exact .inl hkind
  | some k =>
    refine (Node.get?_alter_cases (h.stamp l.dropLast now) hk q).imp_left ?_
    exact fun hsame => hsame.trans hkind

theorem Tidy.locateNames_eq_walk {links : Nat} {here l : Location} {names : List String}
    (hlocate : locateNames fs links here names = .ok l) : l = walk here names := by
  fun_induction locateNames fs links here names with
  | case1 links here =>
    cases hlocate
    rfl
  | case2 links here rest es since hes ih =>
    rw [ih hlocate, walk, walk, List.foldl_cons, if_pos rfl]
  | case3 links here name es since hes hname hn =>
    cases hlocate
    rw [walk, List.foldl_cons, if_neg hname]
    rfl
  | case4 => cases hlocate
  | case5 => cases hlocate
  | case6 here name rest es since hes hname target hn => exact absurd hn (h.get?_ne_link _ _)
  | case7 links here name rest es since hes hname n hlink hn ih =>
    rw [ih hlocate, walk, walk, List.foldl_cons, if_neg hname]
  | case8 => cases hlocate
  | case9 => cases hlocate

theorem Tidy.locate_eq_spelled {p : Path} {l : Location} (hlocate : fs.locate p = .ok l) :
    l = fs.spelled p :=
  h.locateNames_eq_walk hlocate

theorem Tidy.find_eq_spelled {p : Path} {l : Location} {n : Node} (hfind : fs.find p = .ok (l, n)) :
    l = fs.spelled p ∧ fs.get? l = some n := by
  refine ⟨?_, get?_of_find hfind⟩
  unfold find at hfind
  split at hfind
  · cases hfind
  · rename_i l' hlocate
    split at hfind
    · cases hfind
      exact h.locate_eq_spelled hlocate
    · cases hfind

/-- Every path stands for the place that its names spell. -/
theorem Tidy.resolve_eq_spelled (p : Path) : fs.resolve p = .ok (fs.spelled p) := by
  rw [resolve, resolveWithin, resolveNames_of_no_link h.get?_ne_link]
  rfl

theorem Tidy.normalize_eq_spelled {home : Option Path} {path : String} {p : Path}
    (hp : (Path.ofString path).expandHome? home = some p) :
    fs.normalize home path = .ok (fs.spelled p).toString := by
  rw [normalize, hp]
  dsimp only
  rw [h.resolve_eq_spelled]

/-- The place of a last name is in the directory that the rest of the path spells. -/
theorem Tidy.entryPlace_eq_spelled {p : Path} (hp : p.parts ≠ []) {l : Location}
    (hplace : fs.entryPlace p = .ok l) :
    l = fs.spelled p.parent ++ [p.name] ∧
      ∃ es since, fs.get? (fs.spelled p.parent) = some (.directory es since) := by
  have hname : p.parts.getLast? = some p.name := by
    rw [Path.name, List.getLast?_eq_some_getLast hp]
    rfl
  unfold entryPlace at hplace
  simp only [hname] at hplace
  split at hplace
  · rename_i q es since hfind
    cases hplace
    obtain ⟨rfl, hes⟩ := h.find_eq_spelled hfind
    exact ⟨rfl, es, since, hes⟩
  · cases hplace
  · cases hplace

end Tidy

end FileSystem

end EndpointIndex
