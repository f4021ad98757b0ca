import EndpointIndex.Proofs.Index.Batching

/-!
# Who is behind the gate

Any number of clients ask to begin a build, an update or a removal, and end what they were admitted
to, in any order (`Crowd.step`). At every moment the gate says exactly who is at work: nobody, one
build alone, or so many updates and removals (`Gate.Admits`, `admits_run`). The gate can be kept in two
cells, a phase and a counter that the end of a build leaves alone; that comes to the same, because
clients end only what they began (`run_cells`). Operations on an index are clients of this kind, also
those that run inside others or that fail, so the gate is open again after each of them
(`Crowd.exclusion`).
-/

namespace EndpointIndex

/-- What a client does behind the gate. -/
inductive Work where
  | build
  | update
  | removal
  deriving DecidableEq, Repr

/-- Whether others may do the like at the same time. -/
def Work.shares : Work → Bool
  | .build => false
  | _ => true

/-- How clients use a gate: they ask to begin and may be turned away, and they report the end of what
they began. -/
structure GateOps (G : Type) where
  idle : G
  begin? : Work → G → Option G
  finish : Work → G → G

def Gate.ops : GateOps Gate where
  idle := .idle
  begin?
    | .build, g => g.beginBuild?
    | _, g => g.beginUpdate?
  finish
    | .build, g => g.endBuild
    | _, g => g.endUpdate

/-! ## Two cells -/

inductive Phase where
  | idle
  | building
  | updating
  deriving DecidableEq, Repr

/-- A gate that keeps a phase and, apart from it, the number of updates. -/
structure Cells where
  phase : Phase
  updates : Int
  deriving DecidableEq, Repr

namespace Cells

def beginBuild? (c : Cells) : Option Cells :=
  if c.phase ≠ .idle then none else some { c with phase := .building }

def endBuild (c : Cells) : Cells := { c with phase := .idle }

def beginUpdate? (c : Cells) : Option Cells :=
  if c.phase = .building then none else some ⟨.updating, c.updates + 1⟩

/-- Only the last update opens the gate. -/
def endUpdate (c : Cells) : Cells :=
  ⟨if c.updates - 1 = 0 then .idle else c.phase, c.updates - 1⟩

def ops : GateOps Cells where
  idle := ⟨.idle, 0⟩
  begin?
    | .build, c => c.beginBuild?
    | _, c => c.beginUpdate?
  finish
    | .build, c => c.endBuild
    | _, c => c.endUpdate

end Cells

/-- The gate as it stands in the two cells. -/
def Gate.cells : Gate → Cells
  | .idle => ⟨.idle, 0⟩
  | .building => ⟨.building, 0⟩
  | .updating others => ⟨.updating, others + 1⟩

theorem Cells.begin?_cells (k : Work) (g : Gate) :
    Cells.ops.begin? k g.cells = (Gate.ops.begin? k g).map Gate.cells := by
  cases k <;> cases g <;> rfl

/-- The last update of several leaves the phase alone, the last one of all does not. -/
theorem Cells.endUpdate_cells (others : Nat) :
    (Gate.cells (.updating others)).endUpdate = (Gate.endUpdate (.updating others)).cells := by
  cases others with
  | zero => rfl
  | succ n =>
    have hmore : ((n + 1 : Nat) : Int) + 1 - 1 ≠ 0 := by omega
    have hcount : ((n + 1 : Nat) : Int) + 1 - 1 = n + 1 := by omega
    unfold Gate.cells Cells.endUpdate Gate.endUpdate
    rw [if_neg hmore, hcount]

/-! ## Crowds -/

/-- A gate and the work that is going on behind it. -/
structure Crowd (G : Type) where
  gate : G
  inside : List Work

/-- What clients do. -/
inductive Move where
  /-- Somebody asks to begin. -/
  | enter (k : Work)
  /-- One of those inside comes to an end, well or badly. -/
  | leave (i : Nat)

namespace Crowd

variable {G : Type}

/-- A client that is turned away does nothing, and nobody ends what did not begin. -/
def step (ops : GateOps G) (w : Crowd G) : Move → Crowd G
  | .enter k =>
    match ops.begin? k w.gate with
    | some g => ⟨g, k :: w.inside⟩
    | none => w
  | .leave i =>
    match w.inside[i]? with
    | some k => ⟨ops.finish k w.gate, w.inside.eraseIdx i⟩
    | none => w

def runFrom (ops : GateOps G) (w : Crowd G) (moves : List Move) : Crowd G := moves.foldl (step ops) w

def run (ops : GateOps G) (moves : List Move) : Crowd G := runFrom ops ⟨ops.idle, []⟩ moves

theorem runFrom_cons (ops : GateOps G) (w : Crowd G) (m : Move) (moves : List Move) :
    runFrom ops w (m :: moves) = runFrom ops (step ops w m) moves := rfl

theorem runFrom_append (ops : GateOps G) (w : Crowd G) (moves moves' : List Move) :
    runFrom ops w (moves ++ moves') = runFrom ops (runFrom ops w moves) moves' :=
  List.foldl_append

end Crowd

/-- Who is at work behind a gate in a certain state. -/
def Gate.Admits (inside : List Work) : Gate → Prop
  | .idle => inside = []
  | .building => inside = [.build]
  | .updating others => inside.length = others + 1 ∧ ∀ k ∈ inside, k.shares = true

namespace Crowd

/-- One that shares the gate goes in or out. -/
theorem admits_enter {inside : List Work} {g g' : Gate} {k : Work} (h : g.Admits inside)
    (hbegin : Gate.ops.begin? k g = some g') : g'.Admits (k :: inside) := by
  cases g with
  | idle =>
    obtain rfl : inside = [] := h
    cases k <;> cases hbegin
    · rfl
    · exact ⟨rfl, by simp [Work.shares]⟩
    · exact ⟨rfl, by simp [Work.shares]⟩
  | building => cases k <;> cases hbegin
  | updating others =>
    obtain ⟨hlength, hshares⟩ := h
    cases k <;> cases hbegin
    · exact ⟨by rw [List.length_cons, hlength], List.forall_mem_cons.2 ⟨rfl, hshares⟩⟩
    · exact ⟨by rw [List.length_cons, hlength], List.forall_mem_cons.2 ⟨rfl, hshares⟩⟩

/-- What the gate does when one of those inside ends: the only build opens it, and so does the last
update. -/
theorem admits_leave {inside : List Work} {g : Gate} {k : Work} {i : Nat} (h : g.Admits inside)
    (hk : inside[i]? = some k) :
    (Gate.ops.finish k g).Admits (inside.eraseIdx i) ∧
      Cells.ops.finish k g.cells = (Gate.ops.finish k g).cells := by
  obtain ⟨hi, hget⟩ := List.getElem?_eq_some_iff.1 hk
  have hmem : k ∈ inside := hget ▸ List.getElem_mem hi
  cases g with
  | idle =>
    obtain rfl : inside = [] := h
    cases hmem
  | building =>
    obtain rfl : inside = [.build] := h
    obtain rfl : k = .build := List.mem_singleton.1 hmem
    obtain rfl : i = 0 := by simpa using hi
    exact ⟨rfl, rfl⟩
  | updating others =>
    obtain ⟨hlength, hshares⟩ := h
    have herase : (inside.eraseIdx i).length = others := by
      rw [List.length_eraseIdx_of_lt hi, hlength, Nat.add_sub_cancel]
    have hrest : ∀ k ∈ inside.eraseIdx i, k.shares = true :=
      fun k hk => hshares k (List.mem_of_mem_eraseIdx hk)
    -- a build is not among those who share
    have hfinish : Gate.ops.finish k (.updating others) = Gate.endUpdate (.updating others) ∧
        Cells.ops.finish k (Gate.cells (.updating others)) = (Gate.cells (.updating others)).endUpdate := by
      have hk := hshares k hmem
      cases k with
      | build => cases hk
      | update => exact ⟨rfl, rfl⟩
      | removal => exact ⟨rfl, rfl⟩
    rw [hfinish.1, hfinish.2, Cells.endUpdate_cells]
    refine ⟨?_, rfl⟩
    cases others with
    | zero => exact List.length_eq_zero_iff.1 herase
    | succ n => exact ⟨herase, hrest⟩

/-- What is kept by every move, in the gate and in the two cells at once. -/
theorem step_admits {w : Crowd Gate} (h : w.gate.Admits w.inside) (m : Move) :
    (step Gate.ops w m).gate.Admits (step Gate.ops w m).inside ∧
      step Cells.ops ⟨w.gate.cells, w.inside⟩ m =
        ⟨(step Gate.ops w m).gate.cells, (step Gate.ops w m).inside⟩ := by
  cases m with
  | enter k =>
    simp only [step, Cells.begin?_cells]
    cases hbegin : Gate.ops.begin? k w.gate with
    | none => exact ⟨h, rfl⟩
    | some g => exact ⟨admits_enter h hbegin, rfl⟩
  | leave i =>
    simp only [step]
    cases hk : w.inside[i]? with
    | none => exact ⟨h, rfl⟩
    | some k =>
      obtain ⟨hadmits, hcells⟩ := admits_leave h hk
      dsimp only
      rw [hcells]
      exact ⟨hadmits, rfl⟩

theorem runFrom_admits {w : Crowd Gate} (h : w.gate.Admits w.inside) (moves : List Move) :
    (runFrom Gate.ops w moves).gate.Admits (runFrom Gate.ops w moves).inside ∧
      runFrom Cells.ops ⟨w.gate.cells, w.inside⟩ moves =
        ⟨(runFrom Gate.ops w moves).gate.cells, (runFrom Gate.ops w moves).inside⟩ := by
  induction moves generalizing w with
  | nil => exact ⟨h, rfl⟩
  | cons m moves ih =>
    obtain ⟨hadmits, hcells⟩ := step_admits h m
    rw [runFrom_cons, runFrom_cons, hcells]
    exact ih hadmits

theorem admits_run (moves : List Move) :
    (run Gate.ops moves).gate.Admits (run Gate.ops moves).inside :=
  (runFrom_admits (w := ⟨.idle, []⟩) rfl moves).1

/-- Whether the gate is kept in one piece or in two cells makes no difference. -/
theorem run_cells (moves : List Move) :
    run Cells.ops moves = ⟨(run Gate.ops moves).gate.cells, (run Gate.ops moves).inside⟩ :=
  (runFrom_admits (w := ⟨.idle, []⟩) rfl moves).2

end Crowd

/-- What the two cells say about those who are at work. -/
structure Cells.Shows (c : Cells) (inside : List Work) : Prop where
  one_build : inside.count .build ≤ 1
  build_alone : .build ∈ inside → inside.countP Work.shares = 0
  updates : c.updates = inside.countP Work.shares
  building : c.phase = .building ↔ .build ∈ inside
  updating : c.phase = .updating ↔ 0 < inside.countP Work.shares
  idle : c.phase = .idle ↔ inside = []

theorem Gate.Admits.shows {g : Gate} {inside : List Work} (h : g.Admits inside) :
    g.cells.Shows inside := by
  cases g with
  | idle =>
    obtain rfl : inside = [] := h
    exact ⟨by simp, by simp, rfl, by simp [Gate.cells], by simp [Gate.cells], by simp [Gate.cells]⟩
  | building =>
    obtain rfl : inside = [.build] := h
    exact ⟨by simp, by simp [Work.shares], rfl, by simp [Gate.cells], by simp [Gate.cells, Work.shares],
      by simp [Gate.cells]⟩
  | updating others =>
    obtain ⟨hlength, hshares⟩ := h
    -- a build shares the index with no one
    have hnone : Work.build ∉ inside := by
      intro hmem
      cases hshares _ hmem
    have hcount : inside.countP Work.shares = others + 1 := by
      rw [List.countP_eq_length.2 hshares, hlength]
    have hne : inside ≠ [] := by
      rintro rfl
      cases hlength
    refine ⟨?_, fun hmem => absurd hmem hnone, ?_, ?_, ?_, ?_⟩
    · rw [List.count_eq_zero.2 hnone]
      exact Nat.zero_le 1
    · rw [hcount]
      rfl
    · simp [Gate.cells, hnone]
    · simp [Gate.cells, hcount]
    · simp [Gate.cells, hne]

/-! ## Operations -/

namespace Crowd

/-- Moves lead from one state of the gate to another and leave those inside as they were. -/
def Passes (g g' : Gate) : Prop :=
  ∃ moves, ∀ inside, runFrom Gate.ops ⟨g, inside⟩ moves = ⟨g', inside⟩

theorem Passes.refl (g : Gate) : Passes g g := ⟨[], fun _ => rfl⟩

theorem Passes.trans {g g' g'' : Gate} (h : Passes g g') (h' : Passes g' g'') : Passes g g'' := by
  obtain ⟨moves, hmoves⟩ := h
  obtain ⟨moves', hmoves'⟩ := h'
  refine ⟨moves ++ moves', fun inside => ?_⟩
  rw [runFrom_append, hmoves, hmoves']

/-- Work that begins, lets others come and go, and ends. -/
theorem Passes.within {k : Work} {g g' g'' : Gate} (hbegin : Gate.ops.begin? k g = some g')
    (h : Passes g' g'') : Passes g (Gate.ops.finish k g'') := by
  obtain ⟨moves, hmoves⟩ := h
  refine ⟨.enter k :: (moves ++ [.leave 0]), fun inside => ?_⟩
  have henter : step Gate.ops ⟨g, inside⟩ (.enter k) = ⟨g', k :: inside⟩ := by
    simp only [step, hbegin]
  rw [runFrom_cons, henter, runFrom_append, hmoves]
  rfl

end Crowd

namespace Session

open Crowd

section

variable {hook : Hook} {reactions : Reactions}
  (houter : ∀ listener count (u : Session), Passes u.index.gate (reactions listener count u).2.index.gate)

include houter

/-- Whatever listeners begin, they end. -/
theorem passes_notify {g : Gate} {s : Session} (h : Passes g s.index.gate) :
    Passes g (s.notify reactions).index.gate :=
  notify_holds (P := fun u => Passes g u.index.gate)
    (fun l n u hu => hu.trans (houter l n (u.record (.notified l n)))) h

theorem passes_build (s : Session) (c : IndexConfig) (now : Int) (files : Option (List String)) :
    Passes s.index.gate (s.build c hook now files reactions).2.index.gate := by
  by_cases hidle : s.index.gate = .idle
  · have hpasses : Passes .idle .idle := Passes.within (k := .build) rfl (.refl .building)
    rw [build_of_idle hidle, hidle]
    dsimp only
    split
    · exact hpasses
    · exact hpasses
    · exact passes_notify houter hpasses
  · rw [build_of_busy hidle]
    exact .refl _

theorem passes_rebuild (s : Session) (c : IndexConfig) (now : Int) :
    Passes s.index.gate (s.rebuild c hook now reactions).2.index.gate := by
  unfold rebuild
  split
  · dsimp only
    split
    · exact .refl _
    · exact passes_build houter { s with index := s.index.clear, files := _ } c now none
  · exact .refl _

/-- An update ends what it began, also when its file cannot be parsed; what runs inside it has come to
its own end by then. -/
theorem passes_update (s : Session) (c : IndexConfig)
    (hinner : ∀ file (u : Session), Passes u.index.gate (hook file u).index.gate) (path : String) :
    Passes s.index.gate (s.update c hook path reactions).2.index.gate := by
  unfold update
  split
  · exact .refl _
  · rename_i file hfile
    split
    · exact .refl _
    · rename_i g hg
      have hlook := examine_looks (s.setGate g) c hook file none
      have hinside : Passes g ((s.setGate g).examine c hook file none).2.index.gate :=
        hlook.holds (P := fun u => Passes g u.index.gate) (.refl g)
          (hinner file ((s.setGate g).record (.parsed file)))
      have hpasses := Passes.within (k := .update) hg hinside
      split
      · rename_i cause t hexamine
        rw [hexamine] at hpasses
        exact hpasses
      · rename_i f t hexamine
        rw [hexamine] at hpasses
        refine passes_notify houter ?_
        show Passes _ (t.index.commit file f).gate.endUpdate
        rw [Index.gate_commit]
        exact hpasses

theorem passes_remove (s : Session) (path : String) :
    Passes s.index.gate (s.remove path reactions).2.index.gate := by
  unfold remove
  split
  · exact .refl _
  · rename_i file hfile
    split
    · exact .refl _
    · rename_i g hg
      have hpasses := Passes.within (k := .removal) hg (.refl g)
      dsimp only
      split
      · exact passes_notify houter hpasses
      · exact hpasses

end

/-- Whatever operations run one after another and inside each other, all of them end. -/
theorem Leads.passes {s t : Session} (h : Leads s t) : Passes s.index.gate t.index.gate := by
  -- the hypotheses for `inner` and `outer` say it of what runs inside
  induction h with
  | refl => exact .refl _
  | outside h fs stop events home ih => exact ih
  | register h hgate listeners ih => exact ih
  | build h c hook inner reactions outer now files ih ih_inner ih_outer =>
    exact ih.trans (passes_build ih_outer _ c now files)
  | rebuild h c hook inner reactions outer now ih ih_inner ih_outer =>
    exact ih.trans (passes_rebuild ih_outer _ c now)
  | update h c hook inner reactions outer path ih ih_inner ih_outer =>
    exact ih.trans (passes_update ih_outer _ c ih_inner path)
  | remove h reactions outer path ih ih_outer => exact ih.trans (passes_remove ih_outer _ path)

theorem gate_start (c : IndexConfig) (fs : FileSystem) (home : Option Path) :
    (start c fs home).index.gate = .idle := by
  show (Index.new c fs).gate = .idle
  unfold Index.new
  dsimp only
  split
  · rfl
  · rfl

/-- After any operations on a new index, nobody is left behind the gate. -/
theorem Leads.left {c : IndexConfig} {fs : FileSystem} {home : Option Path} {t : Session}
    (h : Leads (start c fs home) t) : ∃ moves, run Gate.ops moves = ⟨t.index.gate, []⟩ := by
  obtain ⟨moves, hmoves⟩ := h.passes
  rw [gate_start] at hmoves
  exact ⟨moves, hmoves []⟩

theorem Leads.gate_idle {c : IndexConfig} {fs : FileSystem} {home : Option Path} {t : Session}
    (h : Leads (start c fs home) t) : t.index.gate = .idle := by
  obtain ⟨moves, hmoves⟩ := h.left
  have hadmits := admits_run moves
  rw [hmoves] at hadmits
  -- a gate behind which nobody is at work is idle
  cases hgate : t.index.gate with
  | idle => rfl
  | building =>
    rw [hgate] at hadmits
    cases hadmits
  | updating others =>
    rw [hgate] at hadmits
    cases hadmits.1

end Session

namespace Crowd

/-- However clients come and go, there is never more than one build and never a build beside an update
or a removal, the counter is the number of updates and removals at work, and the phase tells what is
going on. This holds of the two cells, and the gate of the index stands for them. After every
operation on an index, nobody is left inside. -/
theorem exclusion :
    (∀ moves, (run Cells.ops moves).gate.Shows (run Cells.ops moves).inside ∧
      run Cells.ops moves = ⟨(run Gate.ops moves).gate.cells, (run Gate.ops moves).inside⟩) ∧
    ∀ c fs home t, Session.Leads (Session.start c fs home) t →
      (∃ moves, run Gate.ops moves = ⟨t.index.gate, []⟩) ∧ t.index.gate.cells = ⟨.idle, 0⟩ := by
  constructor
  · intro moves
    have hcells := run_cells moves
    rw [hcells]
    exact ⟨(admits_run moves).shows, rfl⟩
  · intro c fs home t hleads
    refine ⟨hleads.left, ?_⟩
    rw [hleads.gate_idle]
    rfl

/-- Nothing can be parsed. -/
def brokenConfig : IndexConfig :=
  { Session.sampleConfig with parse := fun _ _ => .broken "unreadable" }

/-- An update and a removal overlap, a build is turned away, and the update ends first. An update of a
file that cannot be parsed fails, and so does the one inside it. -/
theorem exclusion_overlapping :
    run Cells.ops [.enter .update, .enter .removal, .enter .build, .leave 1] =
        ⟨⟨.updating, 1⟩, [.removal]⟩ ∧
      Cells.Shows ⟨.updating, 1⟩ [.removal] ∧
      ((Session.start brokenConfig Session.sampleFiles).update brokenConfig
        (fun _ u => (u.update brokenConfig Hook.none "/r/B.java").2) "/r/A.java").2.index.gate.cells =
          ⟨.idle, 0⟩ :=
  ⟨rfl, (exclusion.1 [.enter .update, .enter .removal, .enter .build, .leave 1]).1,
    (exclusion.2 brokenConfig Session.sampleFiles none _
      (.update (.refl _) brokenConfig _
        (fun _ u => .update (.refl u) brokenConfig Hook.none (fun _ v => .refl v) Reactions.none
          Session.leads_reactionsNone "/r/B.java")
        Reactions.none Session.leads_reactionsNone "/r/A.java")).2⟩

end Crowd

end EndpointIndex
