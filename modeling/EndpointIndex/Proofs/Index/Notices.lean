import Mathlib.Tactic.ByContra
import EndpointIndex.Proofs.Index.Exclusion
import EndpointIndex.Proofs.Index.Keeps

/-!
# What listeners know

A listener knows the count that it was told last. Updates and removals leave it with the right count
whether they succeed or fail, and so do builds that return: since the beginning of the operation it was
told the count that there is now, or it was told nothing and the count is what it was
(`Session.Informed`). Listeners may raise and do much else, but they start no operation of their own
(`Session.LooksOn`). A build that fails tells nobody, although what it has committed stays. Main fact:
`Session.lastTold?_perform`; `Session.not_lastTold?_perform` has two builds after which a listener is
left with a count of the past, and an update after which it is, because of what another listener does.
-/

namespace EndpointIndex

namespace Event

/-- The count that an event tells a listener. -/
def told? (listener : String) : Event → Option Nat
  | .notified l count => if l = listener then some count else none
  | _ => none

/-- The count that a listener was told last. -/
def lastTold? (listener : String) (events : List Event) : Option Nat :=
  (events.filterMap (told? listener)).getLast?

variable {l : String}

theorem lastTold?_append (xs ys : List Event) :
    lastTold? l (xs ++ ys) = (lastTold? l ys).or (lastTold? l xs) := by
  rw [lastTold?, List.filterMap_append, List.getLast?_append]
  rfl

end Event

open Event

/-! ## What stays behind the gate -/

namespace Crowd

theorem exists_admits (g : Gate) : ∃ inside, g.Admits inside := by
  cases g with
  | idle => exact ⟨[], rfl⟩
  | building => exact ⟨[.build], rfl⟩
  | updating others =>
    refine ⟨List.replicate (others + 1) .update, List.length_replicate, ?_⟩
    intro k hk
    rw [List.eq_of_mem_replicate hk]
    rfl

/-- Those at work determine the state of the gate. -/
theorem admits_unique {g g' : Gate} {inside : List Work} (h : g.Admits inside) (h' : g'.Admits inside) :
    g' = g := by
  have hshows := h.shows
  have hshows' := h'.shows
  have hphase : g'.cells.phase = g.cells.phase := by
    cases hp : g.cells.phase with
    | idle => exact hshows'.idle.2 (hshows.idle.1 hp)
    | building => exact hshows'.building.2 (hshows.building.1 hp)
    | updating => exact hshows'.updating.2 (hshows.updating.1 hp)
  have hupdates : g'.cells.updates = g.cells.updates := by
    rw [hshows.updates, hshows'.updates]
  -- the two cells say all that there is to say
  cases g <;> cases g' <;> simp [Gate.cells] at hphase hupdates ⊢
  omega

/-- Whoever has come and gone has left the gate as it was. -/
theorem Passes.eq {g g' : Gate} (h : Passes g g') : g' = g := by
  obtain ⟨moves, hmoves⟩ := h
  obtain ⟨inside, hinside⟩ := exists_admits g
  have hadmits := (runFrom_admits (w := ⟨g, inside⟩) hinside moves).1
  rw [hmoves] at hadmits
  exact admits_unique hinside hadmits

end Crowd

namespace Session

open Crowd

theorem passes_perform (s : Session) (c : IndexConfig) {hook : Hook}
    (hinner : ∀ file (u : Session), Passes u.index.gate (hook file u).index.gate) {reactions : Reactions}
    (houter : ∀ listener count (u : Session), Passes u.index.gate (reactions listener count u).2.index.gate)
    (op : Operation) : Passes s.index.gate (s.perform c hook op reactions).index.gate := by
  cases op with
  | build now files => exact passes_build houter s c now files
  | rebuild now => exact passes_rebuild houter s c now
  | update file => exact passes_update houter s c hinner file
  | remove file => exact passes_remove houter s file

theorem perform_of_building {s : Session} (hs : s.index.gate = .building) (c : IndexConfig) (hook : Hook)
    (op : Operation) (reactions : Reactions) : s.perform c hook op reactions = s := by
  cases op with
  | build now files => exact congrArg Prod.snd (build_of_building hs c hook now files reactions)
  | rebuild now => exact congrArg Prod.snd (rebuild_of_building hs c hook now reactions)
  | update file => exact session_update_of_building hs c hook file reactions
  | remove file => exact session_remove_of_building hs file reactions

/-! ## What happens meanwhile -/

/-- What happens beside the operations, as far as it concerns a listener that stays: files change, a
stop is requested, something is remarked, other listeners come and go. -/
inductive LooksOn (l : String) : Session → Session → Prop
  | refl (s : Session) : LooksOn l s s
  | outside {s t : Session} (h : LooksOn l s t) (fs : FileSystem) (stop : Bool) (home : Option Path) :
      LooksOn l s { t with files := fs, stopRequested := stop, home := home }
  | remark {s t : Session} (h : LooksOn l s t) (text : String) : LooksOn l s (t.record (.remark text))
  | listen {s t : Session} (h : LooksOn l s t) (other : String) : LooksOn l s (t.listen other)
  | unlisten {s t : Session} (h : LooksOn l s t) (other : String) (hother : l ≠ other) :
      LooksOn l s (t.unlisten other)

/-- Listeners that start no operation when they are told a count. They may raise. -/
def Onlookers (l : String) (reactions : Reactions) : Prop :=
  ∀ listener count s, LooksOn l s (reactions listener count s).2

/-- What may happen at the moment at which a file is about to be read: operations run as well, inside
of which the same may happen. -/
inductive Meanwhile (l : String) : Session → Session → Prop
  | refl (s : Session) : Meanwhile l s s
  | look {s t u : Session} (h : Meanwhile l s t) (hlook : LooksOn l t u) : Meanwhile l s u
  | operate {s t : Session} (h : Meanwhile l s t) (c : IndexConfig) (hook : Hook)
      (inner : ∀ file u, Meanwhile l u (hook file u)) (reactions : Reactions)
      (outer : Onlookers l reactions) (op : Operation) : Meanwhile l s (t.perform c hook op reactions)

variable {l : String} {s t u : Session}

/-- Of the index only the listeners change. -/
theorem LooksOn.index_eq (h : LooksOn l s t) :
    t.index = { s.index with listeners := t.index.listeners } := by
  induction h with
  | refl => rfl
  | outside h fs stop home ih => exact ih
  | remark h text ih => exact ih
  | listen h other ih =>
    exact congrArg (fun i : Index => { i with listeners := i.listeners ++ [other] }) ih
  | unlisten h other hother ih =>
    exact congrArg (fun i : Index => { i with listeners := i.listeners.erase other }) ih

theorem LooksOn.gate_eq (h : LooksOn l s t) : t.index.gate = s.index.gate := by
  rw [h.index_eq]

theorem LooksOn.count_eq (h : LooksOn l s t) : t.index.store.count = s.index.store.count := by
  rw [h.index_eq]

theorem Onlookers.passes {reactions : Reactions} (h : Onlookers l reactions)
    (listener : String) (count : Nat) (u : Session) :
    Passes u.index.gate (reactions listener count u).2.index.gate := by
  rw [(h listener count u).gate_eq]
  exact .refl _

theorem Meanwhile.passes (h : Meanwhile l s t) : Passes s.index.gate t.index.gate := by
  induction h with
  | refl => exact .refl _
  | look h hlook ih =>
    rw [hlook.gate_eq]
    exact ih
  | operate h c hook inner reactions outer op ih ih_inner =>
    exact ih.trans (passes_perform _ c ih_inner outer.passes op)

theorem Meanwhile.gate_eq (h : Meanwhile l s t) : t.index.gate = s.index.gate := h.passes.eq

/-- Between two sessions a listener has stayed, and `last` is what it was told last, if anything. -/
structure Hears (l : String) (last : Option Nat) (s t : Session) : Prop where
  listener : l ∈ t.index.listeners
  events : ∃ new, t.events = s.events ++ new ∧ lastTold? l new = last

namespace Hears

theorem refl (h : l ∈ s.index.listeners) : Hears l none s s :=
  ⟨h, [], (List.append_nil _).symm, rfl⟩

theorem trans {a b : Option Nat} (h : Hears l a s t) (h' : Hears l b t u) : Hears l (b.or a) s u := by
  obtain ⟨new, hnew, ha⟩ := h.events
  obtain ⟨new', hnew', hb⟩ := h'.events
  refine ⟨h'.listener, new ++ new', ?_, ?_⟩
  · rw [hnew', hnew, List.append_assoc]
  · rw [lastTold?_append, ha, hb]

/-- Nothing is told where events and listeners stay as they are. -/
theorem congr {a : Option Nat} (h : Hears l a s t) (hlisteners : u.index.listeners = t.index.listeners)
    (hevents : u.events = t.events) : Hears l a s u :=
  ⟨hlisteners ▸ h.listener, hevents ▸ h.events⟩

theorem silent {a : Option Nat} (h : Hears l a s t) (h' : Hears l none t u) : Hears l a s u :=
  h.trans h'

end Hears

theorem hears_record (h : l ∈ s.index.listeners) {e : Event} (he : e.told? l = none) :
    Hears l none s (s.record e) :=
  ⟨h, [e], rfl, by simp [lastTold?, he]⟩

theorem mem_listeners_unlisten {other : String} (h : l ∈ s.index.listeners) (hother : l ≠ other) :
    l ∈ (s.unlisten other).index.listeners := by
  show l ∈ s.index.listeners.erase other
  rw [List.mem_erase_of_ne hother]
  exact h

/-- Whoever looks on tells nobody anything. -/
theorem LooksOn.hears (h : LooksOn l s t) (hl : l ∈ s.index.listeners) : Hears l none s t := by
  induction h with
  | refl => exact .refl hl
  | outside h fs stop home ih => exact ih.congr rfl rfl
  | remark h text ih => exact ih.silent (hears_record ih.listener rfl)
  | listen h other ih => exact ⟨List.mem_append_left [other] ih.listener, ih.events⟩
  | unlisten h other hother ih =>
    exact ⟨mem_listeners_unlisten ih.listener hother, ih.events⟩

section Notify

variable {reactions : Reactions} (outer : Onlookers l reactions)

include outer

/-- A listener that is told something is told it, and whether it raises or not is no matter. -/
theorem hears_tell (hl : l ∈ s.index.listeners) (count : Nat) (listener : String) :
    Hears l (if listener = l then some count else none) s (tell reactions count s listener) := by
  rw [tell_eq]
  have hrecord : Hears l (if listener = l then some count else none) s
      (s.record (.notified listener count)) :=
    ⟨hl, [.notified listener count], rfl, by by_cases h : listener = l <;> simp [lastTold?, told?, h]⟩
  exact hrecord.silent ((outer listener count _).hears hrecord.listener)

theorem hears_tellAll (listeners : List String) (count : Nat) {s : Session} (hl : l ∈ s.index.listeners) :
    Hears l (if l ∈ listeners then some count else none) s (listeners.foldl (tell reactions count) s) := by
  induction listeners generalizing s with
  | nil => exact .refl hl
  | cons x listeners ih =>
    have hfirst := hears_tell outer hl count x
    have hboth := hfirst.trans (ih hfirst.listener)
    -- the last registration of the listener counts
    have hlast : (if l ∈ listeners then some count else none).or (if x = l then some count else none) =
        if l ∈ x :: listeners then some count else none := by
      by_cases hx : x = l <;> by_cases hmem : l ∈ listeners <;> simp [hx, hmem, Ne.symm]
    rw [hlast] at hboth
    exact hboth

theorem hears_notify (hl : l ∈ s.index.listeners) :
    Hears l (some s.index.store.count) s (s.notify reactions) := by
  have hall := hears_tellAll outer s.index.listeners s.index.store.count hl
  rw [if_pos hl] at hall
  exact hall

theorem count_notify (s : Session) :
    (s.notify reactions).index.store.count = s.index.store.count :=
  notify_holds (P := fun u => u.index.store.count = s.index.store.count)
    (fun listener count _ hu => (outer listener count _).count_eq.trans hu) rfl

end Notify

/-- What a listener knows is the count, if it knew it before. -/
def Informed (l : String) (s t : Session) : Prop :=
  ∃ last, Hears l last s t ∧ last.getD s.index.store.count = t.index.store.count

namespace Informed

theorem of_silent (h : Hears l none s t) (hcount : t.index.store.count = s.index.store.count) :
    Informed l s t :=
  ⟨none, h, hcount.symm⟩

theorem refl (h : l ∈ s.index.listeners) : Informed l s s := of_silent (.refl h) rfl

theorem trans (h : Informed l s t) (h' : Informed l t u) : Informed l s u := by
  obtain ⟨a, ha, hcount⟩ := h
  obtain ⟨b, hb, hcount'⟩ := h'
  refine ⟨_, ha.trans hb, ?_⟩
  cases b with
  | none => exact hcount.trans hcount'
  | some n => exact hcount'

theorem listener (h : Informed l s t) : l ∈ t.index.listeners := by
  obtain ⟨last, hlast, -⟩ := h
  exact hlast.listener

/-- Whatever has been told or not told before, a notification puts it right. -/
theorem of_notify {reactions : Reactions} (outer : Onlookers l reactions) {a : Option Nat}
    (h : Hears l a s t) : Informed l s (t.notify reactions) := by
  refine ⟨_, h.trans (hears_notify outer h.listener), ?_⟩
  rw [count_notify outer]
  rfl

end Informed

/-! ## Updates and removals -/

theorem listeners_commit (i : Index) (file : String) (f : Finding) :
    (i.commit file f).listeners = i.listeners := by
  cases f <;> rfl

/-- A file without endpoints is not in the store, and removing it changes nothing there. -/
theorem store_remove_of_not_contains {store : Store} {file : String} (h : store.contains file = false) :
    store.remove file = store := by
  have hall : ∀ p ∈ store.byFile.entries, (p.1 != file) = true := by
    intro p hp
    rw [bne_iff_ne]
    rintro rfl
    have hget := (FileMap.get?_eq_some_iff store.byFile p.1 p.2).2 hp
    rw [Store.contains, FileMap.contains, hget] at h
    cases h
  have hentries : (store.byFile.erase file).entries = store.byFile.entries := List.filter_eq_self.2 hall
  exact congrArg Store.mk (FileMap.eq_of_entries hentries)

theorem informed_remove {reactions : Reactions} (outer : Onlookers l reactions)
    (h : l ∈ s.index.listeners) (path : String) : Informed l s (s.remove path reactions).2 := by
  unfold remove
  split
  · exact .refl h
  · rename_i file hfile
    split
    · exact .refl h
    · rename_i g hg
      dsimp only
      split
      · exact .of_notify outer ((Hears.refl h).congr rfl rfl)
      · rename_i hexisted
        refine .of_silent ((Hears.refl h).congr rfl rfl) ?_
        show (s.index.store.remove file).count = s.index.store.count
        rw [store_remove_of_not_contains (by simpa using hexisted)]

/-- An update that fails leaves the listener with what it was told by what ran inside. -/
theorem informed_update {hook : Hook} {reactions : Reactions} (outer : Onlookers l reactions)
    (h : l ∈ s.index.listeners) (c : IndexConfig)
    (hinner : ∀ file (u : Session), u.index.gate ≠ .idle → l ∈ u.index.listeners →
      Informed l u (hook file u)) (path : String) : Informed l s (s.update c hook path reactions).2 := by
  unfold update
  split
  · exact .refl h
  · rename_i file hfile
    split
    · exact .refl h
    · rename_i g hg
      have hbusy : g ≠ .idle := by
        obtain ⟨others, rfl⟩ := Gate.updating_of_beginUpdate? hg
        simp
      have hbegin : Hears l none s (s.setGate g) := (Hears.refl h).congr rfl rfl
      have hlook := examine_looks (s.setGate g) c hook file none
      -- the look changes the count only by what runs inside it
      have hafter : Informed l s ((s.setGate g).examine c hook file none).2 := by
        have hopened := hbegin.silent (hears_record hbegin.listener (e := .parsed file) rfl)
        apply hlook.holds
        · exact .of_silent hbegin rfl
        · exact (Informed.of_silent hopened rfl).trans (hinner file _ hbusy hopened.listener)
      split
      · -- nothing is entered, so there is nothing to tell
        rename_i cause t hexamine
        rw [hexamine] at hafter
        obtain ⟨last, hlast, hcount⟩ := hafter
        exact ⟨last, hlast.congr rfl rfl, hcount⟩
      · rename_i f t hexamine
        rw [hexamine] at hafter
        obtain ⟨last, hlast, -⟩ := hafter
        exact .of_notify outer (hlast.congr (listeners_commit _ _ _) rfl)

theorem perform_of_busy (hs : s.index.gate ≠ .idle) (c : IndexConfig) (hook : Hook)
    (reactions : Reactions) (op : Operation) :
    (∃ path, op = .update path) ∨ (∃ path, op = .remove path) ∨ s.perform c hook op reactions = s := by
  cases op with
  | build now files =>
    exact .inr (.inr (congrArg Prod.snd (build_of_busy hs c hook now files reactions)))
  | rebuild now => exact .inr (.inr (by rw [perform, rebuild, if_neg hs]))
  | update path => exact .inl ⟨path, rfl⟩
  | remove path => exact .inr (.inl ⟨path, rfl⟩)

/-- What runs inside an operation keeps the listener informed: no build is admitted there. -/
theorem Meanwhile.informed (h : Meanwhile l s t) (hs : s.index.gate ≠ .idle)
    (hl : l ∈ s.index.listeners) : Informed l s t := by
  induction h with
  | refl => exact .refl hl
  | look h hlook ih =>
    have hbefore := ih hs hl
    exact hbefore.trans (.of_silent (hlook.hears hbefore.listener) hlook.count_eq)
  | @operate s t h c hook inner reactions outer op ih ih_inner =>
    have hbefore := ih hs hl
    have hbusy : t.index.gate ≠ .idle := by
      rw [h.gate_eq]
      exact hs
    apply hbefore.trans
    -- a busy gate turns builds away; updates and removals tell the listener
    rcases perform_of_busy hbusy c hook reactions op with ⟨path, rfl⟩ | ⟨path, rfl⟩ | heq
    · exact informed_update outer hbefore.listener c ih_inner path
    · exact informed_remove outer hbefore.listener path
    · rw [heq]
      exact .refl hbefore.listener

/-! ## Builds -/

/-- While a build runs, nobody is told anything. -/
theorem Meanwhile.silent (h : Meanwhile l s t) (hs : s.index.gate = .building)
    (hl : l ∈ s.index.listeners) : Hears l none s t := by
  induction h with
  | refl => exact .refl hl
  | look h hlook ih => exact (ih hs hl).silent (hlook.hears (ih hs hl).listener)
  | operate h c hook inner reactions outer op ih ih_inner =>
    rw [perform_of_building (by rw [h.gate_eq, hs])]
    exact ih hs hl

theorem listeners_prune (i : Index) (keep : List String) : (i.prune keep).listeners = i.listeners :=
  Index.prune_keeps (P := fun j => j.listeners = i.listeners) (fun _ _ hj => hj) rfl keep

/-- While a build runs, its looks and commits tell nobody anything either. -/
theorem silent_lasts {c : IndexConfig} {hook : Hook} (inner : ∀ file u, Meanwhile l u (hook file u))
    (s : Session) :
    LastsThroughBuild c hook fun t => Hears l none s t ∧ t.index.gate = .building := by
  have hlook : ∀ {t v file known r}, Hears l none s t ∧ t.index.gate = .building →
      Looks c hook t file known r v → Hears l none s v ∧ v.index.gate = .building := by
    rintro t v file known r ⟨hears, hgate⟩ hlook
    rcases hlook.session_eq with rfl | rfl
    · exact ⟨hears, hgate⟩
    · have hrecord := hears.silent (hears_record hears.listener (e := .parsed file) rfl)
      have hhook := inner file (t.record (.parsed file))
      exact ⟨hrecord.silent (hhook.silent hgate hears.listener), hhook.gate_eq.trans hgate⟩
  constructor
  · exact fun _ ht hlooks => hlook ht hlooks
  · intro t v file known f _ ht hlooks
    obtain ⟨hears, hgate⟩ := hlook ht hlooks
    exact ⟨hears.congr (listeners_commit _ _ _) rfl, (Index.gate_commit _ _ _).trans hgate⟩
  · rintro t found ⟨hears, hgate⟩
    exact ⟨hears.congr (listeners_prune t.index found) rfl, (Index.gate_prune t.index found).trans hgate⟩

theorem saveCache_eq (s : Session) (c : IndexConfig) (now : Int) :
    ∃ files cache, (s.saveCache c now).2 = { s with files, index := { s.index with cache } } := by
  unfold saveCache
  split
  · split
    · exact ⟨_, _, rfl⟩
    · exact ⟨_, _, rfl⟩
  · exact ⟨_, _, rfl⟩

section Builds

variable {c : IndexConfig} {hook : Hook} (inner : ∀ file u, Meanwhile l u (hook file u))
  {reactions : Reactions} (outer : Onlookers l reactions)

include inner outer

/-- A build that is admitted tells the listener the count when it returns, and nothing when it fails. -/
theorem hears_build (hidle : s.index.gate = .idle) (hl : l ∈ s.index.listeners) (now : Int)
    (files : Option (List String)) :
    (∀ report, (s.build c hook now files reactions).1 = .ok report →
      Hears l (some (s.build c hook now files reactions).2.index.store.count) s
        (s.build c hook now files reactions).2) ∧
    ∀ e, (s.build c hook now files reactions).1 = .error e →
      Hears l none s (s.build c hook now files reactions).2 := by
  have hbegin : Hears l none s (s.setGate .building) := (Hears.refl hl).congr rfl rfl
  have hbody : Hears l none s ((s.setGate .building).buildBody c hook files).2 :=
    ((silent_lasts inner s).buildBody files ⟨hbegin, rfl⟩).1
  obtain ⟨fs, cache, hsaved⟩ := saveCache_eq ((s.setGate .building).buildBody c hook files).2 c now
  have hend : Hears l none s
      ((((s.setGate .building).buildBody c hook files).2.saveCache c now).2.setGate .idle) := by
    rw [hsaved]
    exact hbody.congr rfl rfl
  rw [build_of_idle hidle]
  dsimp only
  -- the cache is not saved, the build fails, or it returns
  split
  · exact ⟨nofun, fun _ _ => hend⟩
  · exact ⟨nofun, fun _ _ => hend⟩
  · refine ⟨fun _ _ => ?_, nofun⟩
    rw [count_notify outer]
    exact hend.trans (hears_notify outer hend.listener)

theorem hears_rebuild (hidle : s.index.gate = .idle) (hl : l ∈ s.index.listeners) (now : Int) :
    (∀ report, (s.rebuild c hook now reactions).1 = .ok report →
      Hears l (some (s.rebuild c hook now reactions).2.index.store.count) s
        (s.rebuild c hook now reactions).2) ∧
    ∀ e, (s.rebuild c hook now reactions).1 = .error e →
      Hears l none s (s.rebuild c hook now reactions).2 := by
  unfold rebuild
  rw [if_pos hidle]
  dsimp only
  split
  · exact ⟨nofun, fun _ _ => (Hears.refl hl).congr rfl rfl⟩
  · -- all that was known is forgotten, and nobody is told before the build comes to its end
    rename_i fs hdelete
    let u : Session := { s with index := s.index.clear, files := fs }
    have hclear : Hears l none s u := (Hears.refl hl).congr rfl rfl
    obtain ⟨hok, herror⟩ := hears_build (c := c) inner outer (s := u) hidle hl now none
    exact ⟨fun report hr => hclear.trans (hok report hr), fun e he => hclear.silent (herror e he)⟩

end Builds

/-! ## Operations -/

/-- Whether an operation is a build that fails. -/
def BuildFails (s : Session) (c : IndexConfig) (hook : Hook) (reactions : Reactions) : Operation → Prop
  | .build now files => ∃ e, (s.build c hook now files reactions).1 = .error e
  | .rebuild now => ∃ e, (s.rebuild c hook now reactions).1 = .error e
  | _ => False

theorem informed_of_hears {a : Option Nat} (h : Hears l a s t) (ha : a = some t.index.store.count) :
    Informed l s t := by
  subst ha
  exact ⟨_, h, rfl⟩

section Operations

variable {c : IndexConfig} {hook : Hook} (inner : ∀ file u, Meanwhile l u (hook file u))
  {reactions : Reactions} (outer : Onlookers l reactions)

include inner outer

theorem informed_perform (hl : l ∈ s.index.listeners) {op : Operation}
    (hop : ¬ s.BuildFails c hook reactions op) : Informed l s (s.perform c hook op reactions) := by
  have hupdate (path : String) : Informed l s (s.update c hook path reactions).2 :=
    informed_update outer hl c (fun file u hu hmem => (inner file u).informed hu hmem) path
  by_cases hidle : s.index.gate = .idle
  · cases op with
    | build now files =>
      cases hr : (s.build c hook now files reactions).1 with
      | error e => exact absurd ⟨e, hr⟩ hop
      | ok report => exact informed_of_hears ((hears_build inner outer hidle hl now files).1 report hr) rfl
    | rebuild now =>
      cases hr : (s.rebuild c hook now reactions).1 with
      | error e => exact absurd ⟨e, hr⟩ hop
      | ok report => exact informed_of_hears ((hears_rebuild inner outer hidle hl now).1 report hr) rfl
    | update path => exact hupdate path
    | remove path => exact informed_remove outer hl path
  · -- a busy gate turns builds away
    rcases perform_of_busy hidle c hook reactions op with ⟨path, rfl⟩ | ⟨path, rfl⟩ | heq
    · exact hupdate path
    · exact informed_remove outer hl path
    · rw [heq]
      exact .refl hl

theorem hears_of_buildFails (hl : l ∈ s.index.listeners) {op : Operation}
    (hop : s.BuildFails c hook reactions op) : Hears l none s (s.perform c hook op reactions) := by
  -- what is not admitted does not fail
  have hidle : s.index.gate = .idle := by
    by_contra hbusy
    cases op with
    | build now files =>
      obtain ⟨e, he⟩ := hop
      rw [build_of_busy hbusy] at he
      cases he
    | rebuild now =>
      obtain ⟨e, he⟩ := hop
      rw [rebuild, if_neg hbusy] at he
      cases he
    | update path => exact hop
    | remove path => exact hop
  cases op with
  | build now files =>
    obtain ⟨e, he⟩ := hop
    exact (hears_build inner outer hidle hl now files).2 e he
  | rebuild now =>
    obtain ⟨e, he⟩ := hop
    exact (hears_rebuild inner outer hidle hl now).2 e he
  | update path => exact hop.elim
  | remove path => exact hop.elim

end Operations

/-- A listener that stays registered while an operation runs. If the operation changes the count, then
the listener is told during it, and what it is told last is the new count; whether the operation
returns or fails, whatever runs inside it, and whether other listeners raise or not, as long as they
start no operation. The exception are builds and rebuilds that fail: they tell the listener nothing. -/
theorem lastTold?_perform {c : IndexConfig} {hook : Hook} {reactions : Reactions}
    (hl : l ∈ s.index.listeners) (inner : ∀ file u, Meanwhile l u (hook file u))
    (outer : Onlookers l reactions) (op : Operation) :
    l ∈ (s.perform c hook op reactions).index.listeners ∧
    ∃ new, (s.perform c hook op reactions).events = s.events ++ new ∧
      (¬ s.BuildFails c hook reactions op →
        (s.perform c hook op reactions).index.store.count ≠ s.index.store.count →
        lastTold? l new = some (s.perform c hook op reactions).index.store.count) ∧
      (s.BuildFails c hook reactions op → lastTold? l new = none) := by
  by_cases hop : s.BuildFails c hook reactions op
  · obtain ⟨hmem, new, hnew, hnone⟩ := hears_of_buildFails inner outer hl hop
    exact ⟨hmem, new, hnew, fun hnot => absurd hop hnot, fun _ => hnone⟩
  · obtain ⟨last, ⟨hmem, new, hnew, hlast⟩, hcount⟩ := informed_perform inner outer hl hop
    refine ⟨hmem, new, hnew, fun _ hchanged => ?_, fun h => absurd h hop⟩
    cases last with
    | none => exact absurd hcount.symm hchanged
    | some n => rw [hlast, ← hcount]; rfl

theorem onlookers_none : Onlookers l Reactions.none := fun _ _ u => .refl u

theorem meanwhile_sampleHook (file : String) (u : Session) : Meanwhile l u (sampleHook file u) :=
  .operate (.refl u) sampleConfig Hook.none (fun _ v => .refl v) Reactions.none onlookers_none
    (.update "/r/B.java")

/-- The first of two listeners raises, and asks to stop. -/
def raisingReactions : Reactions := fun listener _ u =>
  if listener = "k" then (.error "boom", { u with stopRequested := true }) else (.ok (), u)

theorem onlookers_raisingReactions : Onlookers l raisingReactions := by
  intro listener count u
  unfold raisingReactions
  split
  · exact .outside (.refl u) u.files true u.home
  · exact .refl u

/-- One file is updated while another is, and a listener raises each time. The listener behind it is
told of both, the sum last. -/
theorem lastTold?_perform_nested :
    lastTold? "l" ((((start sampleConfig sampleFiles).listen "k").listen "l").perform sampleConfig
      sampleHook (.update "/r/A.java") raisingReactions).events = some 2 := by
  let s := ((start sampleConfig sampleFiles).listen "k").listen "l"
  obtain ⟨-, new, hnew, htold, -⟩ :=
    lastTold?_perform (s := s) (l := "l") (c := sampleConfig) (by simp [s, listen])
      meanwhile_sampleHook onlookers_raisingReactions (.update "/r/A.java")
  have hbefore : s.index.store.count = 0 := by cbv
  have hafter : (s.perform sampleConfig sampleHook (.update "/r/A.java")
      raisingReactions).index.store.count = 2 := by cbv
  have hlast := htold id (by rw [hbefore, hafter]; decide)
  rw [hnew]
  exact hlast.trans (congrArg some hafter)

/-- A parser that fails at the second of two files. -/
def halfBroken : IndexConfig :=
  { sampleConfig with
    parse := fun fs file => if file = "/r/B.java" then .broken "boom" else sampleConfig.parse fs file }

/-- A configuration that cannot list its files. -/
def unlisting : IndexConfig := { sampleConfig with provide := fun _ => .error "gone" }

/-- The first of two listeners updates another file when it is told of one endpoint. -/
def updatingReactions : Reactions := fun listener count u =>
  if listener = "k" ∧ count = 1 then (.ok (), (u.update sampleConfig Hook.none "/r/B.java").2)
  else (.ok (), u)

/-- Three listeners that are left with a count of the past. A build that fails at its second file keeps
what it has found in the first, a rebuild that fails has forgotten what there was before, and an update
settles the count before it calls the first listener, which changes it. -/
theorem not_lastTold?_perform :
    (∃ s : Session, s.index.listeners = ["l"] ∧ s.index.store.count = 0 ∧
      (s.perform halfBroken Hook.none (.build 0 none)).index.store.count = 1 ∧
      lastTold? "l" (s.perform halfBroken Hook.none (.build 0 none)).events = none) ∧
    (∃ s : Session, s.index.listeners = ["l"] ∧ s.index.store.count = 1 ∧
      (s.perform unlisting Hook.none (.rebuild 0)).index.store.count = 0 ∧
      lastTold? "l" (s.perform unlisting Hook.none (.rebuild 0)).events = some 1) ∧
    ∃ s : Session, s.index.listeners = ["k", "l"] ∧ s.index.store.count = 0 ∧
      (s.perform sampleConfig Hook.none (.update "/r/A.java") updatingReactions).index.store.count = 2 ∧
      lastTold? "l" (s.perform sampleConfig Hook.none (.update "/r/A.java") updatingReactions).events =
        some 1 := by
  refine ⟨?_, ?_, ?_⟩
  · refine ⟨(start halfBroken sampleFiles).listen "l", ?_, ?_, ?_, ?_⟩
    · cbv
    · cbv
    · cbv
    · cbv
  · -- the listener has been told of the one file that was there
    refine ⟨((start unlisting sampleFiles).listen "l").perform unlisting Hook.none
      (.update "/r/A.java"), ?_, ?_, ?_, ?_⟩
    · cbv
    · cbv
    · cbv
    · cbv
  · -- it is told of both files first, and then of the first one alone
    refine ⟨((start sampleConfig sampleFiles).listen "k").listen "l", ?_, ?_, ?_, ?_⟩
    · cbv
    · cbv
    · cbv
    · cbv

end Session

end EndpointIndex
