import EndpointIndex.Proofs.Index.Exclusion
import EndpointIndex.Proofs.Index.Switch

/-!
# Calls that are rejected

Any number of clients call an index at the same time. Each call goes through actions, and between two
actions of one call there may be any of the others. A call that is turned away at the gate has done
nothing before. The exception is a rebuild: it looks at the gate first, then forgets everything and
deletes the artifact, and then asks to begin, and at that time another call may have begun. Main facts: a
rejected call has changed nothing, unless it is a rebuild that was overtaken in this way
(`Traffic.spares_or_overtaken`), which can happen (`Traffic.not_spares`), though not to a rebuild that is
alone: that one goes on to build what it has forgotten (`Traffic.runs_rebuild_alone`,
`Session.rebuild_rejected_alone`).
-/

namespace EndpointIndex

/-- What a client asks for. Files go by their absolute paths. -/
inductive Task where
  | build (files : Option (List String))
  | rebuild
  | update (file : String)
  | removal (file : String)
  deriving DecidableEq, Repr

/-- How far a call has come. -/
inductive Standing where
  | asked
  /-- The gate was idle when a rebuild looked at it. -/
  | tested
  | cleared
  | deleted
  | admitted
  | rejected
  | over
  deriving DecidableEq, Repr

/-- What a call that was admitted does. -/
inductive Change where
  | commit (file : String) (f : Finding)
  | drop
  | prune (keep : List String)
  | save (now : Int)

inductive Action where
  | test
  | clear
  | delete (now : Int)
  | begin
  | change (x : Change)
  | finish

namespace Task

/-- What the gate is asked for. -/
def work : Task → Work
  | build _ => .build
  | rebuild => .build
  | update _ => .update
  | removal _ => .removal

/-- How far a call is when it asks to begin. -/
def ready : Task → Standing
  | rebuild => .deleted
  | _ => .asked

/-- The changes that belong to a task. Only a build of all listed files drops the others. -/
def change? (c : IndexConfig) (s : Session) : Task → Change → Option Session
  | build _, .commit file f => some (s.commit file f)
  | rebuild, .commit file f => some (s.commit file f)
  | update file, .commit g f => if g = file then some (s.commit file f) else none
  | removal file, .drop => some { s with index := s.index.drop file }
  | build none, .prune keep => some { s with index := s.index.prune keep }
  | rebuild, .prune keep => some { s with index := s.index.prune keep }
  | build _, .save now => some (s.saveCache c now).2
  | rebuild, .save now => some (s.saveCache c now).2
  | _, _ => none

end Task

structure Call where
  task : Task
  standing : Standing
  deriving DecidableEq, Repr

namespace Call

/-- What an action of a call comes to, if it is the turn of this action. -/
def act? (c : IndexConfig) (k : Call) (s : Session) : Action → Option (Call × Session)
  | .test =>
    if k.task = .rebuild ∧ k.standing = .asked then
      some ({ k with standing := if s.index.gate = .idle then .tested else .rejected }, s)
    else none
  | .clear =>
    if k.standing = .tested then
      some ({ k with standing := .cleared }, { s with index := s.index.clear })
    else none
  | .delete now =>
    if k.standing = .cleared then
      match s.index.cache.deleteArtifact s.files now with
      | .ok fs => some ({ k with standing := .deleted }, { s with files := fs })
      | .error _ => some ({ k with standing := .over }, s)
    else none
  | .begin =>
    if k.standing = k.task.ready then
      match Gate.ops.begin? k.task.work s.index.gate with
      | some g => some ({ k with standing := .admitted }, s.setGate g)
      | none => some ({ k with standing := .rejected }, s)
    else none
  | .change x => if k.standing = .admitted then (k.task.change? c s x).map fun s => (k, s) else none
  | .finish =>
    if k.standing = .admitted then
      some ({ k with standing := .over }, s.setGate (Gate.ops.finish k.task.work s.index.gate))
    else none

end Call

/-- An action that has been carried out. -/
structure Deed where
  client : Nat
  action : Action
  before : Session
  after : Session

/-- Clients that call an index. -/
structure Traffic where
  session : Session
  calls : List Call

namespace Traffic

/-- What the clients may have done, and what it has come to. The rest of the world may change whatever
is not in the index. -/
inductive Runs (c : IndexConfig) (start : Traffic) : List Deed → Traffic → Prop
  | start : Runs c start [] start
  | act {deeds : List Deed} {w : Traffic} (h : Runs c start deeds w) (i : Nat) (a : Action) {k k' : Call}
      {s : Session} (hk : w.calls[i]? = some k) (hact : k.act? c w.session a = some (k', s)) :
      Runs c start (deeds ++ [⟨i, a, w.session, s⟩]) ⟨s, w.calls.set i k'⟩
  | outside {deeds : List Deed} {w : Traffic} (h : Runs c start deeds w) {s : Session}
      (hindex : s.index = w.session.index) : Runs c start deeds { w with session := s }

end Traffic

/-! ## What a call has done so far -/

/-- A rebuild has found the gate idle and has gone through these actions since. -/
structure Went (actions : List Action) (deeds : List Deed) : Prop where
  actions : deeds.map Deed.action = actions
  tested : ∀ d ∈ deeds, d.action = .test → d.before.index.gate = .idle

theorem Went.more {actions : List Action} {deeds : List Deed} (h : Went actions deeds) (i : Nat) {a : Action}
    (ha : a ≠ .test) (s s' : Session) : Went (actions ++ [a]) (deeds ++ [⟨i, a, s, s'⟩]) where
  actions := by rw [List.map_append, h.actions, List.map_singleton]
  tested d hd htest := by
    rcases List.mem_append.1 hd with hd | hd
    · exact h.tested d hd htest
    · rw [List.mem_singleton.1 hd] at htest
      exact absurd htest ha

/-- The deeds of a rebuild that found the gate idle when it looked and not when it asked to begin. -/
structure Overtaken (now : Int) (deeds : List Deed) : Prop
    extends Went [.test, .clear, .delete now, .begin] deeds where
  begun : ∀ d ∈ deeds, d.action = .begin → d.before.index.gate ≠ .idle

/-- The deeds that have brought a call to where it stands, as far as it has not been admitted. -/
def Call.Past (k : Call) (deeds : List Deed) : Prop :=
  match k.standing with
  | .asked => deeds = []
  | .tested => k.task = .rebuild ∧ Went [.test] deeds
  | .cleared => k.task = .rebuild ∧ Went [.test, .clear] deeds
  | .deleted => k.task = .rebuild ∧ ∃ now, Went [.test, .clear, .delete now] deeds
  | .rejected => (∀ d ∈ deeds, d.after = d.before) ∨ k.task = .rebuild ∧ ∃ now, Overtaken now deeds
  | .admitted => True
  | .over => True

namespace Call

variable {c : IndexConfig} {k k' : Call} {s s' : Session} {deeds : List Deed}

theorem Past.test (h : k.Past deeds) (hact : k.act? c s .test = some (k', s')) (i : Nat) :
    k'.Past (deeds ++ [⟨i, .test, s, s'⟩]) := by
  obtain ⟨task, standing⟩ := k
  rw [act?] at hact
  split at hact
  · rename_i hturn
    obtain ⟨rfl, rfl⟩ := hturn
    cases hact
    obtain rfl : deeds = [] := h
    by_cases hidle : s.index.gate = .idle
    · rw [if_pos hidle]
      exact ⟨rfl, rfl, by simp [hidle]⟩
    · rw [if_neg hidle]
      exact .inl (by simp)
  · cases hact

theorem Past.clear (h : k.Past deeds) (hact : k.act? c s .clear = some (k', s')) (i : Nat) :
    k'.Past (deeds ++ [⟨i, .clear, s, s'⟩]) := by
  obtain ⟨task, standing⟩ := k
  rw [act?] at hact
  split at hact
  · rename_i hturn
    obtain rfl : standing = .tested := hturn
    cases hact
    exact ⟨h.1, h.2.more i (by simp) _ _⟩
  · cases hact

theorem Past.delete (h : k.Past deeds) {now : Int} (hact : k.act? c s (.delete now) = some (k', s'))
    (i : Nat) : k'.Past (deeds ++ [⟨i, .delete now, s, s'⟩]) := by
  obtain ⟨task, standing⟩ := k
  rw [act?] at hact
  split at hact
  · rename_i hturn
    obtain rfl : standing = .cleared := hturn
    split at hact
    · cases hact
      exact ⟨h.1, now, h.2.more i (by simp) _ _⟩
    · cases hact
      trivial
  · cases hact

/-- Who asks to begin has done nothing before, or is a rebuild. -/
theorem Past.of_ready (h : k.Past deeds) (hready : k.standing = k.task.ready) :
    deeds = [] ∨ k.task = .rebuild ∧ ∃ now, Went [.test, .clear, .delete now] deeds := by
  obtain ⟨task, standing⟩ := k
  obtain rfl : standing = task.ready := hready
  cases task with
  | rebuild => exact .inr h
  | _ => exact .inl h

theorem begin?_eq_none {k : Work} {g : Gate} (h : Gate.ops.begin? k g = none) : g ≠ .idle := by
  rintro rfl
  cases k <;> cases h

theorem Past.begin (h : k.Past deeds) (hact : k.act? c s .begin = some (k', s')) (i : Nat) :
    k'.Past (deeds ++ [⟨i, .begin, s, s'⟩]) := by
  rw [act?] at hact
  split at hact
  · rename_i hready
    split at hact
    · cases hact
      trivial
    · rename_i hbusy
      cases hact
      rcases h.of_ready hready with rfl | ⟨htask, now, hwent⟩
      · exact .inl (by simp)
      · refine .inr ⟨htask, now, hwent.more i (by simp) _ _, ?_⟩
        intro d hd hbegin
        rcases List.mem_append.1 hd with hd | hd
        · -- what was done before was no begin
          have hmem := List.mem_map_of_mem (f := Deed.action) hd
          rw [hwent.actions, hbegin] at hmem
          simp at hmem
        · rw [List.mem_singleton.1 hd]
          exact begin?_eq_none hbusy
  · cases hact

theorem Past.act {a : Action} (h : k.Past deeds) (hact : k.act? c s a = some (k', s')) (i : Nat) :
    k'.Past (deeds ++ [⟨i, a, s, s'⟩]) := by
  cases a with
  | test => exact h.test hact i
  | clear => exact h.clear hact i
  | delete now => exact h.delete hact i
  | begin => exact h.begin hact i
  | change x =>
    rw [act?] at hact
    split at hact
    · rename_i hadmitted
      obtain ⟨t, -, hpair⟩ := Option.map_eq_some_iff.1 hact
      cases hpair
      rw [Past, hadmitted]
      trivial
    · cases hact
  | finish =>
    rw [act?] at hact
    split at hact
    · cases hact
      trivial
    · cases hact

end Call

namespace Traffic

variable {c : IndexConfig} {start w : Traffic} {deeds : List Deed}

/-- Nobody has done anything yet. -/
def Fresh (w : Traffic) : Prop := ∀ k ∈ w.calls, k.standing = .asked

theorem Runs.past (hstart : start.Fresh) (h : Runs c start deeds w) {i : Nat} {k : Call}
    (hk : w.calls[i]? = some k) : k.Past (deeds.filter fun d => d.client = i) := by
  induction h generalizing k with
  | start =>
    have hasked := hstart k (List.mem_of_getElem? hk)
    rw [Call.Past, hasked]
    rfl
  | @act deeds w h j a l l' s hl hact ih =>
    rw [List.filter_append]
    -- a step of another call is no deed of this one and leaves its state as it is
    by_cases hij : j = i
    · subst hij
      have hlt := (List.getElem?_eq_some_iff.1 hl).1
      rw [List.getElem?_set_self hlt] at hk
      cases hk
      have hown : [(⟨j, a, w.session, s⟩ : Deed)].filter (fun d => d.client = j) = [⟨j, a, w.session, s⟩] := by
        simp
      rw [hown]
      exact (ih hl).act hact j
    · rw [List.getElem?_set_ne hij] at hk
      have hother : [(⟨j, a, w.session, s⟩ : Deed)].filter (fun d => d.client = i) = [] := by
        simp [hij]
      rw [hother, List.append_nil]
      exact ih hk
  | outside h hindex ih => exact ih hk

/-- A rejected call has changed nothing, neither in the index nor among the files, unless it is a rebuild
before which another call began after the rebuild had looked at the gate. -/
theorem spares_or_overtaken (hstart : start.Fresh) (h : Runs c start deeds w) {i : Nat} {k : Call}
    (hk : w.calls[i]? = some k) (hrejected : k.standing = .rejected) :
    (∀ d ∈ deeds, d.client = i → d.after = d.before) ∨
      k.task = .rebuild ∧ ∃ now, Overtaken now (deeds.filter fun d => d.client = i) := by
  have hpast := h.past hstart hk
  rw [Call.Past, hrejected] at hpast
  refine hpast.imp_left fun hspares d hd hclient => ?_
  exact hspares d (List.mem_filter.2 ⟨hd, decide_eq_true hclient⟩)

/-- An index that has read one file. -/
def sampleSession : Session :=
  (Session.start Session.sampleConfig Session.sampleFiles).commit "/r/A.java"
    (.parsed 5 [Session.sampleEndpoint])

/-- Two clients that have just called. -/
def between (first second : Task) : Traffic := ⟨sampleSession, [⟨first, .asked⟩, ⟨second, .asked⟩]⟩

theorem fresh_between (first second : Task) : (between first second).Fresh := by
  simp [Fresh, between]

/-- An update is turned away by a build. -/
theorem spares_or_overtaken_update :
    (between (.build none) (.update "/r/A.java")).Fresh ∧ ∃ deeds w,
      Runs Session.sampleConfig (between (.build none) (.update "/r/A.java")) deeds w ∧
        w.calls[1]? = some ⟨.update "/r/A.java", .rejected⟩ ∧
        ((∀ d ∈ deeds, d.client = 1 → d.after = d.before) ∨
          Task.update "/r/A.java" = .rebuild ∧ ∃ now, Overtaken now (deeds.filter fun d => d.client = 1)) := by
  have hfresh := fresh_between (.build none) (.update "/r/A.java")
  have hstart : Runs Session.sampleConfig _ [] (between (.build none) (.update "/r/A.java")) := .start
  have hruns := (hstart.act 0 .begin rfl rfl).act 1 .begin rfl rfl
  exact ⟨hfresh, _, _, hruns, rfl,
    spares_or_overtaken (i := 1) (k := ⟨.update "/r/A.java", .rejected⟩) hfresh hruns rfl rfl⟩

/-- Not every rejected call has left the index as it was: a build begins when a rebuild has looked at the
gate, and the rebuild is rejected when it has forgotten everything. -/
theorem not_spares :
    ¬ ∀ (c : IndexConfig) (start w : Traffic) (deeds : List Deed) (i : Nat) (k : Call), start.Fresh →
      Runs c start deeds w → w.calls[i]? = some k → k.standing = .rejected →
      ∀ d ∈ deeds, d.client = i → d.after.index.store = d.before.index.store ∧
        d.after.index.cache.entries = d.before.index.cache.entries ∧
        ∀ path, d.before.index.cache.path = some path → d.after.files.read path = d.before.files.read path := by
  intro h
  let s : Session := { sampleSession with index := (sampleSession.setGate .building).index.clear }
  have hdelete : Call.act? Session.sampleConfig ⟨.rebuild, .cleared⟩ s (.delete 0) =
      some (⟨.rebuild, .deleted⟩, s) := by
    rw [Call.act?, if_pos rfl]
    have hnone : s.index.cache.deleteArtifact s.files 0 = .ok s.files := by cbv
    rw [hnone]
  have hstart : Runs Session.sampleConfig _ [] (between .rebuild (.build none)) := .start
  have hovertaken := (hstart.act 0 .test rfl rfl).act 1 .begin rfl rfl
  have hruns := ((hovertaken.act 0 .clear rfl rfl).act 0 (.delete 0) rfl hdelete).act 0 .begin rfl rfl
  have hspares := h _ _ _ _ 0 ⟨.rebuild, .rejected⟩ (fresh_between _ _) hruns rfl rfl
  -- the third deed empties the store
  have hstore := (hspares _ (.tail _ (.tail _ (.head _))) rfl).1
  have hsize := congrArg Store.size hstore
  revert hsize
  decide

end Traffic

/-! ## Rebuilds that are alone -/

/-- Where nothing comes between its actions, a rebuild is admitted in the session that has forgotten
everything, which is the one in which it goes on to build. -/
theorem Traffic.runs_rebuild_alone (c : IndexConfig) (hook : Hook) (now : Int) {s : Session}
    (hidle : s.index.gate = .idle) {fs : FileSystem}
    (hdelete : s.index.cache.deleteArtifact s.files now = .ok fs) (reactions : Reactions) :
    (∃ deeds, Runs c ⟨s, [⟨.rebuild, .asked⟩]⟩ deeds
        ⟨(s.forgotten fs).setGate .building, [⟨.rebuild, .admitted⟩]⟩) ∧
      s.rebuild c hook now reactions = (s.forgotten fs).build c hook now none reactions := by
  have hsame : s.index.clear.cache.deleteArtifact s.files now = .ok fs := hdelete
  have hgate : (s.forgotten fs).index.gate = .idle := hidle
  have htest : Call.act? c ⟨.rebuild, .asked⟩ s .test = some (⟨.rebuild, .tested⟩, s) := by
    rw [Call.act?, if_pos ⟨rfl, rfl⟩, if_pos hidle]
  have hforgets : Call.act? c ⟨.rebuild, .cleared⟩ { s with index := s.index.clear } (.delete now) =
      some (⟨.rebuild, .deleted⟩, s.forgotten fs) := by
    simp only [Call.act?, if_true, hsame]
    rfl
  have hbegin : Call.act? c ⟨.rebuild, .deleted⟩ (s.forgotten fs) .begin =
      some (⟨.rebuild, .admitted⟩, (s.forgotten fs).setGate .building) := by
    simp only [Call.act?, Task.ready, Task.work, if_true, hgate]
    rfl
  -- with no other call in between, the four steps are all that happens
  refine ⟨⟨_, (((Runs.start.act 0 .test rfl htest).act 0 .clear rfl rfl).act 0 (.delete now) rfl
    hforgets).act 0 .begin rfl hbegin⟩, ?_⟩
  rw [Session.rebuild, if_pos hidle]
  dsimp only
  rw [hsame]
  rfl

namespace Session

variable {s t : Session} {c : IndexConfig} {hook : Hook} {reactions : Reactions} {now : Int}
  {report : BuildReport}

/-- A build that finds the gate idle is not rejected. -/
theorem skipped_of_build (hidle : s.index.gate = .idle) {files : Option (List String)}
    (h : s.build c hook now files reactions = (.ok report, t)) : report.skipped = false := by
  rw [build_of_idle hidle] at h
  dsimp only at h
  split at h
  · cases h
  · cases h
  · cases h
    rfl

/-- Where nothing comes between its actions, a rejected rebuild has changed nothing. -/
theorem rebuild_rejected_alone (h : s.rebuild c hook now reactions = (.ok report, t))
    (hskipped : report.skipped = true) : t = s := by
  by_cases hidle : s.index.gate = .idle
  · obtain ⟨fs, -, hbuild⟩ := rebuild_eq_ok hidle h
    rw [skipped_of_build (s := s.forgotten fs) hidle hbuild] at hskipped
    cases hskipped
  · rw [rebuild, if_neg hidle] at h
    cases h
    rfl

end Session

end EndpointIndex
