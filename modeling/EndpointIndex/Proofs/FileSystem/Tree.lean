import EndpointIndex.FileSystem.Basic

/-!
# Changes of a tree

What stands where after something was put at a place or removed from it. A place lies below the
changed one, above it, or apart from it. A file that is written changes what its own place holds and
nothing else that paths can lead to (`Rewrites`, `Rewrites.fileAt_cases`).
-/

namespace EndpointIndex

namespace Node

theorem get?_append (n : Node) (p r : Location) :
    get? n (p ++ r) = (get? n p).bind fun m => get? m r := by
  induction p generalizing n with
  | nil => cases n <;> rfl
  | cons x p ih =>
    cases n with
    | file => rfl
    | link => rfl
    | directory entries _ =>
      simp only [List.cons_append, get?, Option.bind_assoc]
      congr 1
      funext m
      exact ih m

/-- Only directories have something below them. -/
theorem directory_of_get? {n m : Node} {p r : Location} {x : String}
    (h : get? n (p ++ x :: r) = some m) : ∃ entries since, get? n p = some (directory entries since) := by
  rw [get?_append, Option.bind_eq_some_iff] at h
  obtain ⟨k, hk, hm⟩ := h
  cases k with
  | file => cases hm
  | link => cases hm
  | directory entries since => exact ⟨entries, since, hk⟩

theorem get?_below_of_not_directory {n : Node} {p : Location}
    (h : ∀ entries since, get? n p ≠ some (directory entries since)) (x : String) (r : Location) :
    get? n (p ++ x :: r) = none := by
  cases hm : get? n (p ++ x :: r) with
  | none => rfl
  | some m =>
    obtain ⟨entries, since, hp⟩ := directory_of_get? hm
    exact absurd hp (h entries since)

theorem child?_alterEntry (name : String) (f : Option Node → Option Node)
    {entries : List (String × Node)} {n : Node} (h : child? name entries = some n) {m : Node}
    (hf : f (some n) = some m) : child? name (alterEntry name f entries) = some m :=
  child?_alterEntry_self (by rw [h, hf])

theorem child?_alterEntry_none {name : String} {f : Option Node → Option Node}
    {entries : List (String × Node)} (h : child? name entries = none) (hf : f none = none) :
    child? name (alterEntry name f entries) = none := by
  induction entries with
  | nil => simp [alterEntry, hf, child?]
  | cons p rest ih =>
    obtain ⟨x, n⟩ := p
    rw [child?] at h
    split at h
    · cases h
    · rename_i hx
      simp only [alterEntry, hx, if_false, child?]
      exact ih h

/-- A directory above a change stays a directory. -/
theorem directory_of_alter (f : Option Node → Option Node) {n : Node} {p : Location} {x : String}
    {r : Location} {entries : List (String × Node)} {since : Int}
    (h : get? n p = some (directory entries since)) :
    ∃ k entries', alter f (p ++ x :: r) (some n) = some k ∧ get? k p = some (directory entries' since) := by
  induction p generalizing n with
  | nil =>
    cases h
    exact ⟨_, _, rfl, rfl⟩
  | cons y p ih =>
    cases n with
    | file => cases h
    | link => cases h
    | directory es _ =>
      obtain ⟨c, hc, hget⟩ := Option.bind_eq_some_iff.1 h
      obtain ⟨k, entries', hk, hdir⟩ := ih hget
      refine ⟨_, entries', rfl, ?_⟩
      change (child? y (alterEntry y (alter f (p ++ x :: r)) es)).bind _ = _
      rw [child?_alterEntry y _ hc hk]
      exact hdir

/-- Everything above a place in a directory is a directory. -/
theorem directory_of_above {n : Node} {p q r : Location} {x y : String}
    {entries : List (String × Node)} {since : Int} (hq : get? n q = some (directory entries since))
    (h : q ++ [x] = p ++ y :: r) : ∃ entries' since', get? n p = some (directory entries' since') := by
  -- either `p` is the directory itself, or it is above it
  rcases List.eq_nil_or_concat r with rfl | ⟨r', z, rfl⟩
  · obtain ⟨rfl, -⟩ := List.append_inj' h rfl
    exact ⟨entries, since, hq⟩
  · rw [List.concat_eq_append, ← List.cons_append, ← List.append_assoc] at h
    obtain ⟨rfl, -⟩ := List.append_inj' h rfl
    exact directory_of_get? hq

/-- What is changed somewhere else is unchanged here. -/
theorem get?_getD_alter_of_apart (f : Option Node → Option Node) {p q : Location} (h : Apart p q)
    (n : Node) : get? ((alter f p (some n)).getD n) q = get? n q := by
  have halter := get?_alter_of_apart f h n
  cases hk : alter f p (some n) with
  | none => rfl
  | some k =>
    rw [hk] at halter
    exact halter

/-- A place is below another one, above it, or apart from it. -/
theorem below_above_or_apart (p q : Location) :
    (∃ r, q = p ++ r) ∨ (∃ x r, p = q ++ x :: r) ∨ Apart p q := by
  by_cases hpq : p <+: q
  · obtain ⟨r, rfl⟩ := hpq
    exact .inl ⟨r, rfl⟩
  · by_cases hqp : q <+: p
    · obtain ⟨r, rfl⟩ := hqp
      cases r with
      | nil => exact absurd (by simp) hpq
      | cons x r => exact .inr (.inl ⟨x, r, rfl⟩)
    · exact .inr (.inr ⟨hpq, hqp⟩)

end Node

namespace FileSystem

/-- The same thing, or a directory and a directory: what is in a directory is another matter. -/
def SameKind (n m : Option Node) : Prop :=
  n = m ∨ ∃ entries entries' since since',
    n = some (.directory entries since) ∧ m = some (.directory entries' since')

theorem SameKind.eq_file {n m : Option Node} (h : SameKind n m) {content : List UInt8} {time : Int} :
    n = some (.file content time) ↔ m = some (.file content time) := by
  rcases h with rfl | ⟨es, es', since, since', rfl, rfl⟩
  · rfl
  · simp

theorem SameKind.directory {n m : Option Node} (h : SameKind n m) :
    (∃ es since, n = some (.directory es since)) ↔ ∃ es since, m = some (.directory es since) := by
  rcases h with rfl | ⟨es, es', since, since', rfl, rfl⟩
  · rfl
  · simp

theorem SameKind.link {n m : Option Node} (h : SameKind n m) {target : String} :
    n = some (.link target) ↔ m = some (.link target) := by
  rcases h with rfl | ⟨es, es', since, since', rfl, rfl⟩
  · rfl
  · simp

theorem SameKind.none {n m : Option Node} (h : SameKind n m) : n = none ↔ m = none := by
  rcases h with rfl | ⟨es, es', since, since', rfl, rfl⟩
  · rfl
  · simp

theorem SameKind.symm {n m : Option Node} (h : SameKind n m) : SameKind m n := by
  rcases h with rfl | ⟨es, es', since, since', rfl, rfl⟩
  · exact .inl rfl
  · exact .inr ⟨es', es, since', since, rfl, rfl⟩

theorem SameKind.trans {n m k : Option Node} (h : SameKind n m) (h' : SameKind m k) : SameKind n k := by
  rcases h with rfl | ⟨es, es', since, since', rfl, rfl⟩
  · exact h'
  · obtain ⟨es'', since'', rfl⟩ := h'.directory.1 ⟨es', since', rfl⟩
    exact .inr ⟨es, es'', since, since'', rfl, rfl⟩

/-! ## Times of directories -/

theorem alter_changedAt (n : Node) (l : Location) (time : Int) :
    Node.alter (Node.changedAt? time) l (some n) = some (n.stamp l time) := by
  cases l with
  | nil => rfl
  | cons x r => cases n <;> rfl

/-- Setting the time of a directory changes times of directories only, and what they hold. -/
theorem sameKind_stamp_tree (n : Node) (p q : Location) (time : Int) :
    SameKind ((n.stamp p time).get? q) (n.get? q) := by
  induction p generalizing n q with
  | nil =>
    cases q with
    | nil =>
      cases n with
      | directory entries since => exact .inr ⟨_, _, _, _, rfl, rfl⟩
      | file content time' => exact .inl rfl
      | link target => exact .inl rfl
    | cons y q => cases n <;> exact .inl rfl
  | cons x p ih =>
    cases n with
    | file content time' => exact .inl rfl
    | link target => exact .inl rfl
    | directory entries since =>
      cases q with
      | nil => exact .inr ⟨_, _, _, _, rfl, rfl⟩
      | cons y q =>
        have hstamp : Node.stamp (.directory entries since) (x :: p) time = .directory
            (Node.alterEntry x (Node.alter (Node.changedAt? time) p) entries) since := rfl
        rw [hstamp]
        simp only [Node.get?]
        by_cases hyx : y = x
        · subst hyx
          -- the way goes on through the same entry, if there is one
          cases hc : Node.child? y entries with
          | none =>
            have hnone : Node.alter (Node.changedAt? time) p none = none := by
              cases p <;> rfl
            rw [Node.child?_alterEntry_none hc hnone]
            exact .inl rfl
          | some c =>
            rw [Node.child?_alterEntry y _ hc (alter_changedAt c p time)]
            simp only [Option.bind_some]
            exact ih c q
        · rw [Node.child?_alterEntry_of_ne _ hyx]
          exact .inl rfl

theorem sameKind_stamp (fs : FileSystem) (p : Location) (time : Int) (q : Location) :
    SameKind ((fs.stamp p time).get? q) (fs.get? q) :=
  sameKind_stamp_tree fs.tree p q time

/-- One file was written and nothing else was changed. -/
structure Rewrites (fs fs' : FileSystem) (l : Location) (content : List UInt8) (time : Int) : Prop where
  workDir : fs'.workDir = fs.workDir
  before : ∀ n, fs.get? l = some n → ∃ content time, n = .file content time
  after : fs'.get? l = some (.file content time)
  elsewhere : ∀ q, q ≠ l → SameKind (fs'.get? q) (fs.get? q)

/-- A file or a link was removed and nothing else was changed. -/
structure Removes (fs fs' : FileSystem) (l : Location) : Prop where
  workDir : fs'.workDir = fs.workDir
  after : fs'.get? l = none
  elsewhere : ∀ q, q ≠ l → SameKind (fs'.get? q) (fs.get? q)

/-- A change at a name in a directory, before and after which nothing is below the name, leaves
everything else alone. -/
theorem sameKind_of_change {fs : FileSystem} {q : Location} {x : String}
    {entries : List (String × Node)} {since : Int} (hq : fs.get? q = some (.directory entries since))
    (hbefore : ∀ es since, fs.get? (q ++ [x]) ≠ some (.directory es since))
    {f : Option Node → Option Node} {tree : Node}
    (htree : (Node.alter f (q ++ [x]) (some fs.tree)).getD fs.tree = tree)
    (hafter : ∀ es since, tree.get? (q ++ [x]) ≠ some (.directory es since)) (p : Location)
    (hp : p ≠ q ++ [x]) :
    SameKind (tree.get? p) (fs.get? p) := by
  rcases Node.below_above_or_apart (q ++ [x]) p with ⟨r, rfl⟩ | ⟨y, r, habove⟩ | hapart
  · -- below the name there is nothing, neither before nor after
    cases r with
    | nil => exact absurd (List.append_nil _) hp
    | cons y r =>
      have hnone : fs.get? (q ++ [x] ++ y :: r) = none :=
        Node.get?_below_of_not_directory hbefore y r
      rw [hnone, Node.get?_below_of_not_directory hafter y r]
      exact .inl rfl
  · -- above it the directories have other entries
    right
    obtain ⟨es, since, hes⟩ := Node.directory_of_above hq habove
    obtain ⟨k, es', hk, hes'⟩ := Node.directory_of_alter f (x := y) (r := r) hes
    rw [← habove] at hk
    rw [hk] at htree
    exact ⟨es', es, since, since, by rw [← htree]; exact hes', hes⟩
  · rw [← htree]
    exact .inl (Node.get?_getD_alter_of_apart f hapart fs.tree)

/-- A file that is put into a directory rewrites its place. -/
theorem rewrites_put {fs : FileSystem} {q : Location} {x : String} {entries : List (String × Node)}
    {since : Int} (hq : fs.get? q = some (.directory entries since))
    (hbefore : ∀ n, fs.get? (q ++ [x]) = some n → ∃ content time, n = .file content time)
    (content : List UInt8) (time : Int) :
    Rewrites fs (fs.put (q ++ [x]) (.file content time)) (q ++ [x]) content time where
  workDir := rfl
  before := hbefore
  after := Node.get?_put hq
  elsewhere := by
    apply sameKind_of_change (f := fun _ => some (.file content time)) hq _ rfl
    · intro es since hes
      have hfile := (Node.get?_put (m := .file content time) hq).symm.trans hes
      cases hfile
    · intro es since hes
      obtain ⟨_, _, hfile⟩ := hbefore _ hes
      cases hfile

/-- It does not matter to a file that is written whether its directory changes its time. -/
theorem Rewrites.of_stamp {fs fs' : FileSystem} {p l : Location} {now : Int} {content : List UInt8}
    {time : Int} (h : Rewrites (fs.stamp p now) fs' l content time) : Rewrites fs fs' l content time where
  workDir := h.workDir
  before n hn := by
    cases n with
    | file content' time' => exact ⟨content', time', rfl⟩
    | directory entries since =>
      obtain ⟨_, _, hes⟩ := (sameKind_stamp fs p now l).directory.2 ⟨_, _, hn⟩
      obtain ⟨_, _, hfile⟩ := h.before _ hes
      cases hfile
    | link target =>
      obtain ⟨_, _, hfile⟩ := h.before _ ((sameKind_stamp fs p now l).link.2 hn)
      cases hfile
  after := h.after
  elsewhere q hq := (h.elsewhere q hq).trans (sameKind_stamp fs p now q)

theorem rewrites_enter {fs : FileSystem} {q : Location} {x : String} {entries : List (String × Node)}
    {since : Int} (hq : fs.get? q = some (.directory entries since)) (hx : fs.get? (q ++ [x]) = none)
    (content : List UInt8) (time now : Int) :
    Rewrites fs (fs.enter (q ++ [x]) (.file content time) now) (q ++ [x]) content time := by
  rw [enter, List.dropLast_concat]
  obtain ⟨entries', since', hq'⟩ := (sameKind_stamp fs q now q).directory.2 ⟨entries, since, hq⟩
  have hx' := (sameKind_stamp fs q now (q ++ [x])).none.2 hx
  exact (rewrites_put hq' (by simp [hx']) content time).of_stamp

/-- Where a directory has a name only once, removing it leaves the place empty. -/
theorem removes_discard {fs : FileSystem} {q : Location} {x : String} {entries : List (String × Node)}
    {since now : Int} (hq : fs.get? q = some (.directory entries since))
    (hbefore : ∀ es since, fs.get? (q ++ [x]) ≠ some (.directory es since))
    (hafter : (fs.discard (q ++ [x]) now).get? (q ++ [x]) = none) :
    Removes fs (fs.discard (q ++ [x]) now) (q ++ [x]) where
  workDir := rfl
  after := hafter
  elsewhere p hp := by
    rw [discard, List.dropLast_concat] at hafter ⊢
    have hkind := sameKind_stamp fs q now
    obtain ⟨entries', since', hq'⟩ := (hkind q).directory.2 ⟨entries, since, hq⟩
    refine SameKind.trans (sameKind_of_change (f := fun _ => none) hq' ?_ rfl ?_ p hp) (hkind p)
    · intro es since hes
      obtain ⟨es', since', hes'⟩ := (hkind _).directory.1 ⟨es, since, hes⟩
      exact hbefore es' since' hes'
    · intro es since hes
      have hnone := hafter.symm.trans hes
      cases hnone

namespace Rewrites

variable {fs fs' : FileSystem} {l : Location} {content : List UInt8} {time : Int}

theorem directory_iff (h : Rewrites fs fs' l content time) (q : Location) :
    (∃ es since, fs'.get? q = some (.directory es since)) ↔
      ∃ es since, fs.get? q = some (.directory es since) := by
  by_cases hq : q = l
  · subst hq
    constructor
    · rintro ⟨es, since, hes⟩
      rw [h.after] at hes
      cases hes
    · rintro ⟨es, since, hes⟩
      obtain ⟨_, _, hfile⟩ := h.before _ hes
      cases hfile
  · rcases h.elsewhere q hq with hsame | ⟨es, es', since, since', hes, hes'⟩
    · rw [hsame]
    · exact ⟨fun _ => ⟨es', since', hes'⟩, fun _ => ⟨es, since, hes⟩⟩

theorem link_iff (h : Rewrites fs fs' l content time) (q : Location) (target : String) :
    fs'.get? q = some (.link target) ↔ fs.get? q = some (.link target) := by
  by_cases hq : q = l
  · subst hq
    rw [h.after]
    constructor
    · rintro ⟨⟩
    · intro hlink
      obtain ⟨_, _, hfile⟩ := h.before _ hlink
      cases hfile
  · rcases h.elsewhere q hq with hsame | ⟨es, es', since, since', hes, hes'⟩
    · rw [hsame]
    · rw [hes, hes']
      simp

/-- A name that was there before is there, and a new one is a file. -/
theorem none_cases (h : Rewrites fs fs' l content time) {q : Location} (hq : fs.get? q = none) :
    fs'.get? q = none ∨ q = l := by
  by_cases hql : q = l
  · exact .inr hql
  · rcases h.elsewhere q hql with hsame | ⟨es, es', since, since', hes, hes'⟩
    · exact .inl (hsame.trans hq)
    · rw [hq] at hes'
      cases hes'

theorem some_cases (h : Rewrites fs fs' l content time) {q : Location} {n : Node}
    (hq : fs.get? q = some n) (hn : ∀ target, n ≠ .link target) :
    ∃ n', fs'.get? q = some n' ∧ ∀ target, n' ≠ .link target := by
  by_cases hql : q = l
  · exact ⟨_, hql ▸ h.after, by simp⟩
  · rcases h.elsewhere q hql with hsame | ⟨es, es', since, since', hes, hes'⟩
    · exact ⟨n, hsame.trans hq, hn⟩
    · exact ⟨_, hes, by simp⟩

end Rewrites

/-! ## Steps of a path -/

theorem locateNames_nil (fs : FileSystem) (links : Nat) (here : Location) :
    locateNames fs links here [] = .ok here := by
  rw [locateNames]

/-- A path goes on only through directories. -/
theorem directory_of_locateNames {fs : FileSystem} {links : Nat} {here p : Location} {name : String}
    {rest : List String} (h : locateNames fs links here (name :: rest) = .ok p) :
    ∃ es since, fs.get? here = some (.directory es since) := by
  rw [locateNames] at h
  split at h
  · rename_i es since hes
    exact ⟨es, since, hes⟩
  · cases h
  · cases h

theorem locateNames_up {fs : FileSystem} {links : Nat} {here : Location}
    (hdir : ∃ es since, fs.get? here = some (.directory es since)) (rest : List String) :
    locateNames fs links here (".." :: rest) = locateNames fs links here.dropLast rest := by
  obtain ⟨es, since, hes⟩ := hdir
  rw [locateNames, hes]
  simp

/-- A name that is there and is no link is taken as it is. -/
theorem locateNames_down {fs : FileSystem} {links : Nat} {here : Location} {name : String}
    (hdir : ∃ es since, fs.get? here = some (.directory es since)) (hname : name ≠ "..") {n : Node}
    (hn : fs.get? (here ++ [name]) = some n) (hlink : ∀ target, n ≠ .link target)
    (rest : List String) :
    locateNames fs links here (name :: rest) = locateNames fs links (here ++ [name]) rest := by
  obtain ⟨es, since, hes⟩ := hdir
  rw [locateNames, hes]
  simp only [hname, if_false, hn]

theorem locateNames_new {fs : FileSystem} {links : Nat} {here : Location} {name : String}
    (hdir : ∃ es since, fs.get? here = some (.directory es since)) (hname : name ≠ "..")
    (hn : fs.get? (here ++ [name]) = none) (rest : List String) :
    locateNames fs links here (name :: rest) =
      if rest = [] then .ok (here ++ [name]) else .error .missing := by
  obtain ⟨es, since, hes⟩ := hdir
  rw [locateNames, hes]
  simp only [hname, if_false, hn]

theorem locateNames_link {fs : FileSystem} {links : Nat} {here : Location} {name target : String}
    (hdir : ∃ es since, fs.get? here = some (.directory es since)) (hname : name ≠ "..")
    (hn : fs.get? (here ++ [name]) = some (.link target)) (rest : List String) :
    locateNames fs links here (name :: rest) =
      match links with
      | 0 => .error .tooManyLinks
      | m + 1 =>
        locateNames fs m (startOf here (.ofString target)) ((Path.ofString target).parts ++ rest) := by
  obtain ⟨es, since, hes⟩ := hdir
  cases links with
  | zero =>
    rw [locateNames, hes]
    simp only [hname, if_false, hn]
  | succ m =>
    rw [locateNames, hes]
    simp only [hname, if_false, hn]

/-- A place that is a directory, or a name in one that is no link. -/
def Enterable (fs : FileSystem) (l : Location) : Prop :=
  (∃ es since, fs.get? l = some (.directory es since)) ∨
    ∃ q x es since, l = q ++ [x] ∧ fs.get? q = some (.directory es since) ∧
      ∀ target, fs.get? l ≠ some (.link target)

theorem directory_of_isPrefix {fs : FileSystem} {p q : Location} (h : p <+: q)
    (hq : ∃ es since, fs.get? q = some (.directory es since)) :
    ∃ es since, fs.get? p = some (.directory es since) := by
  obtain ⟨r, rfl⟩ := h
  cases r with
  | nil => rwa [List.append_nil] at hq
  | cons x r =>
    obtain ⟨es, since, hes⟩ := hq
    exact Node.directory_of_get? hes

theorem directory_startOf {fs : FileSystem} {here : Location}
    (h : ∃ es since, fs.get? here = some (.directory es since)) (p : Path) :
    ∃ es since, fs.get? (startOf here p) = some (.directory es since) := by
  unfold startOf
  split
  · exact h
  · exact directory_of_isPrefix List.nil_prefix h

/-- A path leads on from a directory to something that can be opened. -/
theorem enterable_of_locateNames {fs : FileSystem} {links : Nat} {here l : Location}
    {names : List String} (h : locateNames fs links here names = .ok l)
    (hstart : names ≠ [] ∨ fs.Enterable here) : fs.Enterable l := by
  -- a walk goes from directory to directory, and ends at one or at a name in one that is no link
  fun_induction locateNames fs links here names with
  | case1 links here =>
    cases h
    exact hstart.resolve_left (by simp)
  | case2 links here rest es since hes ih =>
    exact ih h (.inr (.inl (directory_of_isPrefix (List.dropLast_prefix here) ⟨es, since, hes⟩)))
  | case3 links here name es since hes hname hn =>
    cases h
    exact .inr ⟨here, name, es, since, rfl, hes, by simp [hn]⟩
  | case4 => cases h
  | case5 => cases h
  | case6 here name rest es since hes hname target hn m path ih =>
    exact ih h (.inr (.inl (directory_startOf ⟨es, since, hes⟩ path)))
  | case7 links here name rest es since hes hname n hlink hn ih =>
    refine ih h (.inr (.inr ⟨here, name, es, since, rfl, hes, ?_⟩))
    intro target htarget
    rw [hn] at htarget
    exact hlink target (Option.some.inj htarget)
  | case8 => cases h
  | case9 => cases h

/-- Paths lead to the same places when a file has been written. -/
theorem Rewrites.locateNames_iff {fs fs' : FileSystem} {l : Location} {content : List UInt8} {time : Int}
    (h : Rewrites fs fs' l content time) (links : Nat) (here : Location) (names : List String)
    (p : Location) :
    locateNames fs' links here names = .ok p ↔ locateNames fs links here names = .ok p := by
  -- the walk after the change follows the one before it, name by name
  fun_induction locateNames fs links here names with
  | case1 links here => rw [locateNames_nil]
  | case2 links here rest es since hes ih => rw [locateNames_up ((h.directory_iff here).2 ⟨es, since, hes⟩), ih]
  | case3 links here name es since hes hname hn =>
    have hdir := (h.directory_iff here).2 ⟨es, since, hes⟩
    rcases h.none_cases hn with hn' | hl
    · rw [locateNames_new hdir hname hn', if_pos rfl]
    · rw [locateNames_down hdir hname (hl ▸ h.after) (by simp), locateNames_nil]
  | case4 links here name rest es since hes hname hn hrest =>
    have hdir := (h.directory_iff here).2 ⟨es, since, hes⟩
    rcases h.none_cases hn with hn' | hl
    · rw [locateNames_new hdir hname hn', if_neg hrest]
    · -- the new file is no directory, so there is still no way on from it
      rw [locateNames_down hdir hname (hl ▸ h.after) (by simp)]
      obtain ⟨x, rest, rfl⟩ := List.exists_cons_of_ne_nil hrest
      refine iff_of_false ?_ (by simp)
      intro hok
      obtain ⟨es', since', hes'⟩ := directory_of_locateNames hok
      rw [hl, h.after] at hes'
      cases hes'
  | case5 here name rest es since hes hname target hn =>
    have hdir := (h.directory_iff here).2 ⟨es, since, hes⟩
    rw [locateNames_link hdir hname ((h.link_iff _ _).2 hn)]
  | case6 here name rest es since hes hname target hn m path ih =>
    have hdir := (h.directory_iff here).2 ⟨es, since, hes⟩
    rw [locateNames_link hdir hname ((h.link_iff _ _).2 hn)]
    exact ih
  | case7 links here name rest es since hes hname n hlink hn ih =>
    have hdir := (h.directory_iff here).2 ⟨es, since, hes⟩
    obtain ⟨n', hn', hlink'⟩ := h.some_cases hn hlink
    rw [locateNames_down hdir hname hn' hlink', ih]
  | case8 links here name rest n hn hhere =>
    refine iff_of_false ?_ (by simp)
    intro hok
    obtain ⟨es, since, hes⟩ := (h.directory_iff here).1 (directory_of_locateNames hok)
    rw [hhere] at hes
    exact hn es since (Option.some.inj hes)
  | case9 links here name rest hhere =>
    refine iff_of_false ?_ (by simp)
    intro hok
    obtain ⟨es, since, hes⟩ := (h.directory_iff here).1 (directory_of_locateNames hok)
    rw [hhere] at hes
    cases hes

/-! ## Files -/

/-- The content and the time of a file. -/
def fileAt (fs : FileSystem) (file : String) : Option (List UInt8 × Int) :=
  match fs.find (.ofString file) with
  | .ok (_, .file content time) => some (content, time)
  | _ => none

theorem get?_of_find {fs : FileSystem} {p : Path} {l : Location} {n : Node}
    (h : fs.find p = .ok (l, n)) : fs.get? l = some n := by
  unfold find at h
  split at h
  · cases h
  · split at h
    · rename_i hn
      cases h
      exact hn
    · cases h

theorem find_of_fileAt {fs : FileSystem} {file : String} {content : List UInt8} {time : Int}
    (h : fs.fileAt file = some (content, time)) :
    ∃ l, fs.find (.ofString file) = .ok (l, .file content time) := by
  unfold fileAt at h
  split at h
  · rename_i l content' time' hfind
    cases h
    exact ⟨l, hfind⟩
  · cases h

theorem modified_of_fileAt {fs : FileSystem} {file : String} {content : List UInt8}
    {time : Int} (h : fs.fileAt file = some (content, time)) :
    fs.modified (.ofString file) = .ok time := by
  obtain ⟨l, hfind⟩ := find_of_fileAt h
  rw [modified, hfind]

theorem fileAt_of_locate {fs : FileSystem} {file : String} {l : Location}
    (h : fs.locate (.ofString file) = .ok l) :
    fs.fileAt file =
      match fs.get? l with
      | some (.file content time) => some (content, time)
      | _ => none := by
  simp only [fileAt, find, h]
  cases fs.get? l with
  | none => rfl
  | some n => cases n <;> rfl

theorem fileAt_of_locate_error {fs : FileSystem} {file : String} {o : Obstacle}
    (h : fs.locate (.ofString file) = .error o) : fs.fileAt file = none := by
  simp only [fileAt, find, h]

/-- Every path that leads to a file that was written leads to what was written; all others lead to
the files they led to before. -/
theorem Rewrites.fileAt_cases {fs fs' : FileSystem} {l : Location} {content : List UInt8} {time : Int}
    (h : Rewrites fs fs' l content time) (file : String) :
    (fs.locate (.ofString file) = .ok l ∧ fs'.fileAt file = some (content, time)) ∨
      (fs.locate (.ofString file) ≠ .ok l ∧ fs'.fileAt file = fs.fileAt file) := by
  have hiff : ∀ p, fs'.locate (.ofString file) = .ok p ↔ fs.locate (.ofString file) = .ok p := by
    intro p
    rw [locate, h.workDir]
    exact h.locateNames_iff maxLinks _ _ p
  -- the path leads nowhere, to the place that was written, or somewhere else
  cases hlocate : fs.locate (.ofString file) with
  | error o =>
    refine .inr ⟨by simp, ?_⟩
    rw [fileAt_of_locate_error hlocate]
    cases hlocate' : fs'.locate (.ofString file) with
    | error o' => exact fileAt_of_locate_error hlocate'
    | ok p =>
      rw [(hiff p).1 hlocate'] at hlocate
      cases hlocate
  | ok p =>
    rw [fileAt_of_locate ((hiff p).2 hlocate), fileAt_of_locate hlocate]
    by_cases hp : p = l
    · exact .inl ⟨by rw [hp], by rw [hp, h.after]⟩
    · refine .inr ⟨by simpa using hp, ?_⟩
      rcases h.elsewhere p hp with hsame | ⟨es, es', since, since', hes, hes'⟩
      · rw [hsame]
      · rw [hes, hes']

namespace Removes

variable {fs fs' : FileSystem} {l : Location} (h : Removes fs fs' l)

include h

/-- What is there after a removal was there before, but a directory may have had more in it. -/
theorem some_cases {q : Location} {n : Node} (hq : fs'.get? q = some n) :
    fs.get? q = some n ∨
      ∃ es es' since since', n = .directory es since ∧ fs.get? q = some (.directory es' since') := by
  have hne : q ≠ l := by
    rintro rfl
    rw [h.after] at hq
    cases hq
  rcases h.elsewhere q hne with hsame | ⟨es, es', since, since', hes, hes'⟩
  · exact .inl (hsame ▸ hq)
  · rw [hq] at hes
    exact .inr ⟨es, es', since, since', Option.some.inj hes, hes'⟩

/-- A removal makes no directories. -/
theorem directory {q : Location} (hq : ∃ es since, fs'.get? q = some (.directory es since)) :
    ∃ es since, fs.get? q = some (.directory es since) := by
  obtain ⟨es, since, hes⟩ := hq
  rcases h.some_cases hes with hsame | ⟨-, es', -, since', -, hes'⟩
  · exact ⟨es, since, hsame⟩
  · exact ⟨es', since', hes'⟩

/-- Whatever leads somewhere after a removal has led there before, unless it leads to the empty
place. -/
theorem locateNames_cases {links : Nat} {here p : Location} {names : List String}
    (hlocate : locateNames fs' links here names = .ok p) :
    p = l ∨ locateNames fs links here names = .ok p := by
  -- the walk before the removal follows the one after it, name by name
  fun_induction locateNames fs' links here names with
  | case1 links here =>
    rw [locateNames_nil]
    exact .inr hlocate
  | case2 links here rest es since hes ih =>
    rw [locateNames_up (h.directory ⟨es, since, hes⟩)]
    exact ih hlocate
  | case3 links here name es since hes hname hn =>
    cases hlocate
    by_cases hl : here ++ [name] = l
    · exact .inl hl
    · right
      rcases h.elsewhere _ hl with hsame | ⟨_, _, _, _, hes', _⟩
      · rw [locateNames_new (h.directory ⟨es, since, hes⟩) hname (hsame ▸ hn), if_pos rfl]
      · rw [hn] at hes'
        cases hes'
  | case4 => cases hlocate
  | case5 => cases hlocate
  | case6 here name rest es since hes hname target hn m path ih =>
    rcases h.some_cases hn with hsame | ⟨_, _, _, _, hnode, _⟩
    · rw [locateNames_link (h.directory ⟨es, since, hes⟩) hname hsame]
      exact ih hlocate
    · cases hnode
  | case7 links here name rest es since hes hname n hlink hn ih =>
    rcases h.some_cases hn with hsame | ⟨_, es', _, since', _, hes'⟩
    · rw [locateNames_down (h.directory ⟨es, since, hes⟩) hname hsame hlink]
      exact ih hlocate
    · rw [locateNames_down (h.directory ⟨es, since, hes⟩) hname hes' (by simp)]
      exact ih hlocate
  | case8 => cases hlocate
  | case9 => cases hlocate

end Removes

theorem Removes.fileAt_cases {fs fs' : FileSystem} {l : Location} (h : Removes fs fs' l)
    (file : String) : fs'.fileAt file = none ∨ fs'.fileAt file = fs.fileAt file := by
  cases hlocate : fs'.locate (.ofString file) with
  | error o => exact .inl (fileAt_of_locate_error hlocate)
  | ok p =>
    rw [fileAt_of_locate hlocate]
    by_cases hp : p = l
    · left
      rw [hp, h.after]
    · right
      rw [locate, h.workDir] at hlocate
      rw [fileAt_of_locate ((h.locateNames_cases hlocate).resolve_left hp)]
      rcases h.elsewhere p hp with hsame | ⟨es, es', since, since', hes, hes'⟩
      · rw [hsame]
      · rw [hes, hes']

theorem rewrites_write {fs fs' : FileSystem} {p : Path} {content : List UInt8} {time now : Int}
    (hp : p.parts ≠ []) (h : fs.write p content time now = .ok fs') :
    ∃ l, fs.locate p = .ok l ∧ Rewrites fs fs' l content time := by
  unfold write at h
  split at h
  · cases h
  · rename_i l hlocate
    refine ⟨l, hlocate, ?_⟩
    have henter : fs.Enterable l := enterable_of_locateNames hlocate (.inl hp)
    -- a directory is not written to, so the walk has ended at a name in one
    split at h
    · cases h
    · rename_i hnone
      cases h
      rcases henter with ⟨es, since, hes⟩ | ⟨q, x, es, since, rfl, hes, hlink⟩
      · rw [hnone] at hes
        cases hes
      · exact rewrites_enter hes hnone content time now
    · rename_i n hnot hn
      cases h
      rcases henter with ⟨es, since, hes⟩ | ⟨q, x, es, since, rfl, hes, hlink⟩
      · rw [hn] at hes
        exact (hnot es since (Option.some.inj hes)).elim
      · apply rewrites_put hes
        intro n' hn'
        obtain rfl := Option.some.inj (hn.symm.trans hn')
        cases n with
        | file content' time' => exact ⟨content', time', rfl⟩
        | directory es' since' => exact (hnot es' since' rfl).elim
        | link target => exact absurd hn (hlink target)

/-- Only what has a place can be moved. -/
theorem entryPlace_of_move {fs fs' : FileSystem} {source target : Path} {now : Int}
    (h : fs.move source target now = .ok fs') : ∃ l, fs.entryPlace source = .ok l := by
  cases hplace : fs.entryPlace source with
  | ok l => exact ⟨l, rfl⟩
  | error e =>
    rw [move, hplace] at h
    cases h

theorem removes_remove {fs fs' : FileSystem} {p : Path} {now : Int} (hp : p.parts ≠ [])
    (h : fs.remove p now = .ok fs') (hafter : ∀ l, fs.entryPlace p = .ok l → fs'.get? l = none) :
    ∃ l, Removes fs fs' l := by
  unfold remove at h
  cases hplace : fs.entryPlace p with
  | error e =>
    rw [hplace] at h
    cases h
  | ok l =>
    have hafter := hafter l hplace
    simp only [hplace, bind, Except.bind] at h
    obtain ⟨name, hname⟩ : ∃ name, p.parts.getLast? = some name :=
      ⟨_, List.getLast?_eq_some_getLast hp⟩
    unfold entryPlace at hplace
    simp only [hname] at hplace
    split at hplace
    · rename_i q es since hfind
      cases hplace
      have hes : fs.get? q = some (.directory es since) := get?_of_find hfind
      refine ⟨q ++ [name], ?_⟩
      split at h
      · cases h
      · split at h
        · cases h
        · cases h
        · rename_i hnot hn
          cases h
          apply removes_discard hes _ hafter
          intro es' since' hes'
          rw [hn] at hes'
          exact hnot es' since' (Option.some.inj hes')
    · cases hplace
    · cases hplace

end FileSystem

end EndpointIndex
