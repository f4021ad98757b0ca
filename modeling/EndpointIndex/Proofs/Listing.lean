import EndpointIndex.CommandLine.Run
import EndpointIndex.Proofs.Sorting
import Mathlib.Data.Prod.Lex
import Mathlib.Data.String.Basic

/-!
# Listings and the order of files

Rows are sorted by a key that names the file (`precedes_eq`), so rows with the same key are of one file, and
these stand together in the store, in the order of the file. That is why the order of the files in the
store does not show in a listing (`select_eq_of_filter`), nor in what is printed (`printIndex_eq_of_get?`).
-/

namespace EndpointIndex

/-! ## One file in the store -/

namespace Store

/-- Every endpoint stands under its own file. -/
def Keyed (s : Store) : Prop := ∀ file es, s.get? file = some es → ∀ e ∈ es, e.file = file

theorem filter_flatMap_entries {entries : List (String × List Endpoint)}
    (hnodup : (entries.map Prod.fst).Nodup) (h : ∀ p ∈ entries, ∀ e ∈ p.2, e.file = p.1) (file : String) :
    (entries.flatMap Prod.snd).filter (fun e => e.file = file) =
      ((entries.find? fun p => p.1 == file).map Prod.snd).getD [] := by
  induction entries with
  | nil => rfl
  | cons p rest ih =>
    rw [List.map_cons, List.nodup_cons] at hnodup
    have hrest := ih hnodup.2 fun q hq => h q (List.mem_cons_of_mem p hq)
    have hhead := h p List.mem_cons_self
    rw [List.flatMap_cons, List.filter_append, hrest, List.find?_cons]
    by_cases hp : p.1 = file
    · -- all of this entry, and nothing of the others
      have hall : p.2.filter (fun e => e.file = file) = p.2 :=
        List.filter_eq_self.2 fun e he => decide_eq_true ((hhead e he).trans hp)
      have hnone : rest.find? (fun q => q.1 == file) = none := by
        rw [List.find?_eq_none]
        intro q hq heq
        exact hnodup.1 (hp ▸ eq_of_beq heq ▸ List.mem_map_of_mem hq)
      simp [hp, hall, hnone]
    · have hnone : p.2.filter (fun e => e.file = file) = [] := by
        rw [List.filter_eq_nil_iff]
        intro e he heq
        exact hp ((hhead e he).symm.trans (of_decide_eq_true heq))
      have hother : (p.1 == file) = false := beq_false_of_ne hp
      rw [hnone, hother, List.nil_append]

theorem Keyed.filter_snapshot {s : Store} (h : s.Keyed) (file : String) :
    s.snapshot.filter (fun e => e.file = file) = (s.get? file).getD [] :=
  filter_flatMap_entries s.byFile.nodup
    (fun p hp => h p.1 p.2 ((s.byFile.get?_eq_some_iff p.1 p.2).2 hp)) file

end Store

/-! ## The order of rows -/

namespace Listing

/-- What rows are sorted by. -/
def key (e : Endpoint) : String ×ₗ String ×ₗ String ×ₗ Int :=
  toLex (e.fullPath, toLex (e.verb.name, toLex (e.file, e.startLine)))

theorem precedes_eq : precedes = Sorting.byKey key := by
  funext a b
  apply Bool.eq_iff_iff.2
  simp only [precedes, Sorting.byKey, key, Prod.Lex.toLex_le_toLex, decide_eq_true_eq]
  by_cases hpath : a.fullPath = b.fullPath
  · by_cases hverb : a.verb.name = b.verb.name
    · by_cases hfile : a.file = b.file
      · simp [hpath, hverb, hfile]
      · simp [hpath, hverb, hfile]
    · simp [hpath, hverb]
  · simp [hpath]

/-- The file that a key names. -/
def keyFile (k : String ×ₗ String ×ₗ String ×ₗ Int) : String := (ofLex (ofLex (ofLex k).2).2).1

theorem filter_key (endpoints : List Endpoint) (k : String ×ₗ String ×ₗ String ×ₗ Int) :
    endpoints.filter (fun e => key e = k) =
      (endpoints.filter fun e => e.file = keyFile k).filter fun e => key e = k := by
  rw [List.filter_filter]
  apply List.filter_congr
  intro e _
  by_cases he : key e = k
  · subst he
    simp [keyFile, key]
  · simp [he]

/-- Rows are chosen and sorted alike when every file has the same endpoints in the same order. -/
theorem select_eq_of_filter {endpoints others : List Endpoint}
    (h : ∀ file, endpoints.filter (fun e => e.file = file) = others.filter fun e => e.file = file)
    (f : Filter) : select f endpoints = select f others := by
  rw [select, select, precedes_eq]
  apply Sorting.mergeSort_eq_of_filter
  intro k
  rw [List.filter_comm, filter_key endpoints, h, ← filter_key, List.filter_comm]

end Listing

/-! ## Printing -/

namespace CommandLine

section

variable {α β : Type} {outcome : Except CommandError α} {text : String}

theorem run_bind (action : CommandM α) (next : α → CommandM β) (t : Terminal) :
    (action >>= next).run t =
      match action.run t with
      | (.ok a, t') => (next a).run t'
      | (.error e, t') => (.error e, t') := by
  rw [ExceptT.run_bind]
  simp only [bind, StateT.bind]
  rcases action.run t with ⟨r, t'⟩
  cases r <;> rfl

/-- Whatever is there, an action ends in the same way, adds a text to the output and does nothing else. -/
def Prints (action : CommandM α) (outcome : Except CommandError α) (text : String) : Prop :=
  ∀ t : Terminal, action.run t = (outcome, { t with output := t.output ++ text })

theorem Prints.unique {action : CommandM α} {outcome' : Except CommandError α} {text' : String}
    (h : Prints action outcome text) (h' : Prints action outcome' text') :
    outcome = outcome' ∧ text = text' := by
  -- on an empty output the text is all there is
  obtain ⟨houtcome, hterminal⟩ :=
    Prod.mk.inj ((h ⟨⟨.directory [] 0, []⟩, ""⟩).symm.trans (h' ⟨⟨.directory [] 0, []⟩, ""⟩))
  have houtput := congrArg Terminal.output hterminal
  simp only [String.empty_append] at houtput
  exact ⟨houtcome, houtput⟩

/-- An action that reads nothing of the terminal and writes to its output only. -/
def PrintsOnly (action : CommandM α) : Prop := ∃ outcome text, Prints action outcome text

theorem printsOnly_pure (a : α) : PrintsOnly (pure a : CommandM α) :=
  ⟨.ok a, "", fun _ => by rw [String.append_empty]; rfl⟩

theorem printsOnly_throw (e : CommandError) : PrintsOnly (throw e : CommandM α) :=
  ⟨.error e, "", fun _ => by rw [String.append_empty]; rfl⟩

theorem PrintsOnly.bind {action : CommandM α} {next : α → CommandM β} (h : PrintsOnly action)
    (hnext : ∀ a, PrintsOnly (next a)) : PrintsOnly (action >>= next) := by
  obtain ⟨outcome, text, hrun⟩ := h
  cases outcome with
  | error e => exact ⟨.error e, text, fun t => by rw [run_bind, hrun]⟩
  | ok a =>
    obtain ⟨outcome, more, hmore⟩ := hnext a
    refine ⟨outcome, text ++ more, fun t => ?_⟩
    rw [run_bind, hrun]
    dsimp only
    rw [hmore, String.append_assoc]

theorem printsOnly_printLines (ls : List (List Char)) : PrintsOnly (printLines ls) :=
  ⟨.ok (), String.ofList (Console.endLines ls), fun _ => rfl⟩

theorem printsOnly_print (markup : String) : PrintsOnly (print markup) := by
  unfold print
  split
  · exact printsOnly_throw _
  · exact printsOnly_printLines _

theorem printsOnly_printPlain (text : String) : PrintsOnly (printPlain text) :=
  ⟨.ok (), text ++ "\n", fun t => by rw [← String.append_assoc]; rfl⟩

theorem printsOnly_printTable (table : Console.Table) : PrintsOnly (printTable table) := by
  unfold printTable
  split
  · exact printsOnly_throw _
  · exact printsOnly_printLines _

theorem printsOnly_printEndpoints (root : Location) (endpoints : List Endpoint) (format : String) (limit : Int) :
    PrintsOnly (printEndpoints root endpoints format limit) := by
  rw [printEndpoints]
  cases Listing.Format.ofText? format with
  | none => exact printsOnly_throw _
  | some shape =>
    cases shape with
    | json => exact printsOnly_printPlain _
    | table =>
      refine (printsOnly_printTable _).bind fun _ => ?_
      by_cases hmore : limit < endpoints.length
      · rw [if_pos hmore]
        exact printsOnly_print _
      · rw [if_neg hmore]
        exact printsOnly_pure ()

theorem printsOnly_printIndex (root : Location) (filter : Listing.Filter) (limit : Int) (format : String)
    (s : Session) : PrintsOnly (printIndex root filter limit format s) := by
  unfold printIndex
  dsimp only
  split
  · refine (printsOnly_print _).bind fun _ => (printsOnly_printEndpoints _ _ _ _).bind fun _ => ?_
    exact printsOnly_pure success
  · exact (printsOnly_printEndpoints _ _ _ _).bind fun _ => printsOnly_pure success

end

/-- Two indexes with the same endpoints for every file have the same rows, whatever the order of their files,
and print the same text or fail in the same way. -/
theorem printIndex_eq_of_get? {s t : Session} (hkeyed : s.index.store.Keyed)
    (hsame : ∀ file, s.index.store.get? file = t.index.store.get? file) (filter : Listing.Filter) :
    Listing.select filter s.allEndpoints = Listing.select filter t.allEndpoints ∧
      ∀ (root : Location) (limit : Int) (format : String), ∃ outcome text,
        Prints (printIndex root filter limit format s) outcome text ∧
          Prints (printIndex root filter limit format t) outcome text := by
  have hkeyed' : t.index.store.Keyed := fun file es hes => hkeyed file es ((hsame file).trans hes)
  have hrows : Listing.select filter s.allEndpoints = Listing.select filter t.allEndpoints := by
    apply Listing.select_eq_of_filter
    intro file
    rw [Session.allEndpoints, Session.allEndpoints, hkeyed.filter_snapshot, hkeyed'.filter_snapshot, hsame]
  refine ⟨hrows, fun root limit format => ?_⟩
  obtain ⟨outcome, text, hprints⟩ := printsOnly_printIndex root filter limit format s
  have hindex : printIndex root filter limit format t = printIndex root filter limit format s := by
    simp only [printIndex, hrows]
  refine ⟨outcome, text, hprints, ?_⟩
  rw [hindex]
  exact hprints

/-- `GET /users` at the start of a file. -/
def usersEndpoint (methodName file : String) : Endpoint where
  fullPath := "/users"
  rawPath := "/users"
  typePath := ""
  methodPath := "/users"
  verb := .get
  typeName := "Users"
  methodName := methodName
  file := file
  startLine := 1
  startColumn := 1
  endLine := 1
  endColumn := 1

def sessionOf (store : Store) : Session :=
  ⟨⟨.directory [] 0, []⟩, ⟨Cache.new none, store, .idle, []⟩, false, [], none⟩

/-- Two endpoints of one file that sort alike, and one of another file. -/
def builtSession : Session :=
  sessionOf ((Store.empty.set "A.java" [usersEndpoint "list" "A.java", usersEndpoint "all" "A.java"]).set
    "B.java" [usersEndpoint "find" "B.java"])

/-- The same endpoints, entered in the other order. -/
def restoredSession : Session :=
  sessionOf ((Store.empty.set "B.java" [usersEndpoint "find" "B.java"]).set
    "A.java" [usersEndpoint "list" "A.java", usersEndpoint "all" "A.java"])

/-- Those of the file that comes first stay in their order. -/
def usersRows : List Endpoint :=
  [usersEndpoint "list" "A.java", usersEndpoint "all" "A.java", usersEndpoint "find" "B.java"]

theorem prints_builtSession :
    Listing.select ⟨some "get", none, none⟩ builtSession.allEndpoints = usersRows ∧
      Prints (printIndex [] ⟨some "get", none, none⟩ 2 "json" builtSession) (.ok success)
        ((Listing.json (usersRows.take 2)).pretty ++ "\n") := by
  have hrows : Listing.select ⟨some "get", none, none⟩ builtSession.allEndpoints = usersRows := by
    -- the rows stand in order already
    have hadmitted : builtSession.allEndpoints.filter (Listing.Filter.admits ⟨some "get", none, none⟩) =
        usersRows := by decide +kernel
    have hordered : usersRows.Pairwise fun a b => Listing.precedes a b = true := by decide +kernel
    rw [Listing.select, hadmitted, List.mergeSort_of_pairwise hordered]
  have hjson : Listing.Format.ofText? "json" = some .json := by decide +kernel
  refine ⟨hrows, fun t => ?_⟩
  rw [printIndex, isTable, hjson, hrows, printEndpoints, hjson, ← String.append_assoc]
  rfl

theorem printIndex_eq_of_get?_reordered :
    (builtSession.index.store.Keyed ∧
      ∀ file, builtSession.index.store.get? file = restoredSession.index.store.get? file) ∧
      builtSession.allEndpoints ≠ restoredSession.allEndpoints ∧
      Listing.select ⟨some "get", none, none⟩ builtSession.allEndpoints = usersRows ∧
      Listing.select ⟨some "get", none, none⟩ restoredSession.allEndpoints = usersRows ∧
      Prints (printIndex [] ⟨some "get", none, none⟩ 2 "json" builtSession) (.ok success)
        ((Listing.json (usersRows.take 2)).pretty ++ "\n") ∧
      Prints (printIndex [] ⟨some "get", none, none⟩ 2 "json" restoredSession) (.ok success)
        ((Listing.json (usersRows.take 2)).pretty ++ "\n") := by
  have hsame (file : String) : builtSession.index.store.get? file = restoredSession.index.store.get? file := by
    simp only [builtSession, restoredSession, sessionOf, Store.get?_set]
    by_cases ha : file = "A.java"
    · subst ha
      rfl
    · rw [if_neg ha, if_neg ha]
  -- each endpoint names the file it is listed under
  have hkeyed : builtSession.index.store.Keyed := by
    intro file es hes
    simp only [builtSession, sessionOf, Store.get?_set] at hes
    split at hes
    · cases hes
      simp_all [usersEndpoint]
    · split at hes
      · cases hes
        simp_all [usersEndpoint]
      · cases hes
  obtain ⟨hrows, hprints⟩ := printIndex_eq_of_get? hkeyed hsame ⟨some "get", none, none⟩
  obtain ⟨hbuilt, htext⟩ := prints_builtSession
  obtain ⟨outcome, text, hbefore, hafter⟩ := hprints [] 2 "json"
  obtain ⟨rfl, rfl⟩ := hbefore.unique htext
  exact ⟨⟨hkeyed, hsame⟩, by decide, hbuilt, hrows.symm.trans hbuilt, hbefore, hafter⟩

end CommandLine

end EndpointIndex
