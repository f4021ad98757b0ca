import EndpointIndex.Proofs.Artifact
import EndpointIndex.Proofs.FileSystem.Renaming

/-!
# Saving and loading the cache

A cache that was saved is loaded as it was: the same files in the same order, with entries that agree
in every field. Main fact: `Cache.load_save`. Saving what was loaded writes the same bytes again, but
for the digits of the time. Links that are tangled with the artifact can undo this, and so can integers
of too many digits (`Cache.not_load_save`).
-/

namespace EndpointIndex

/-! ## Integers that are read back -/

/-- An integer with few enough digits to be converted. -/
def Json.Convertible (i : Int) : Prop := (Nat.toDigits 10 i.natAbs).length ≤ Text.maxIntDigits

instance (i : Int) : Decidable (Json.Convertible i) :=
  inferInstanceAs (Decidable (_ ≤ _))

def Endpoint.positions (e : Endpoint) : List Int := [e.startLine, e.startColumn, e.endLine, e.endColumn]

/-- An entry whose integers can be converted. -/
structure CacheEntry.Convertible (e : CacheEntry) : Prop where
  time : Json.Convertible e.lastModified
  positions : ∀ endpoint ∈ e.endpoints, ∀ i ∈ endpoint.positions, Json.Convertible i

namespace Json

theorem legible_int (i : Int) : (Json.int i).legible = true ↔ Convertible i := by
  rw [legible, decide_eq_true_eq]
  rfl

theorem legibleItems_of_forall {items : List Json} (h : ∀ v ∈ items, v.legible = true) :
    legibleItems items = true := by
  induction items with
  | nil => rfl
  | cons v items ih =>
    rw [legibleItems, h v List.mem_cons_self, ih fun w hw => h w (List.mem_cons_of_mem v hw)]
    rfl

theorem legibleMembers_of_forall {members : List (String × Json)}
    (h : ∀ p ∈ members, p.2.legible = true) : legibleMembers members = true := by
  induction members with
  | nil => rfl
  | cons p members ih =>
    rw [legibleMembers, h p List.mem_cons_self, ih fun q hq => h q (List.mem_cons_of_mem p hq)]
    rfl

end Json

theorem Endpoint.legible_toJson {e : Endpoint} (h : ∀ i ∈ e.positions, Json.Convertible i) :
    e.toJson.legible = true := by
  apply Json.legibleMembers_of_forall
  intro p hp
  simp only [List.mem_cons, List.not_mem_nil, or_false] at hp
  rcases hp with rfl | rfl | rfl | rfl | rfl | rfl | rfl | rfl | hp
  -- the texts have no integers
  · rfl
  · rfl
  · rfl
  · rfl
  · rfl
  · rfl
  · rfl
  · rfl
  · rcases hp with rfl | rfl | rfl | rfl
    all_goals exact (Json.legible_int _).2 (h _ (by simp [positions]))

theorem CacheEntry.legible_toJson {e : CacheEntry} (h : e.Convertible) : e.toJson.legible = true := by
  have hendpoints : (Json.array (e.endpoints.map Endpoint.toJson)).legible = true := by
    apply Json.legibleItems_of_forall
    intro v hv
    obtain ⟨endpoint, hmem, rfl⟩ := List.mem_map.1 hv
    exact endpoint.legible_toJson (h.positions endpoint hmem)
  apply Json.legibleMembers_of_forall
  intro p hp
  simp only [List.mem_cons, List.not_mem_nil, or_false] at hp
  rcases hp with rfl | rfl
  · exact (Json.legible_int _).2 h.time
  · exact hendpoints

theorem Artifact.legible_toJson {a : Artifact} (htime : Json.Convertible a.lastUpdate)
    (hentries : ∀ p ∈ a.entries.entries, p.2.Convertible) : a.toJson.legible = true := by
  have hfiles : (Json.object (a.entries.entries.map fun p => (p.1, p.2.toJson))).legible = true := by
    apply Json.legibleMembers_of_forall
    intro p hp
    obtain ⟨q, hq, rfl⟩ := List.mem_map.1 hp
    exact q.2.legible_toJson (hentries q hq)
  apply Json.legibleMembers_of_forall
  intro p hp
  simp only [List.mem_cons, List.not_mem_nil, or_false] at hp
  rcases hp with rfl | rfl | rfl
  · rfl
  · exact (Json.legible_int _).2 htime
  · exact hfiles

/-! ## The bytes of the time -/

theorem Text.Utf8.encodeText_ofList_append (s t : List Char) :
    encodeText (String.ofList (s ++ t)) = encodeText (String.ofList s) ++ encodeText (String.ofList t) := by
  rw [encodeText_eq_flatMap, encodeText_eq_flatMap, encodeText_eq_flatMap, String.toList_ofList,
    String.toList_ofList, String.toList_ofList, List.flatMap_append]

namespace Cache

/-- The bytes in which a time is written. -/
def timeBytes (time : Int) : List UInt8 := Text.Utf8.encodeText (Json.int time).compact

/-- Only the digits of the time tell artifacts of the same entries apart. -/
theorem payload_eq (entries : FileMap CacheEntry) :
    ∃ before after, ∀ path time, payload ⟨path, time, entries⟩ = before ++ timeBytes time ++ after := by
  let head : List Char := '{' :: (Json.quoteWith Json.escapeChar "version" ++ ':' ::
    Json.compactChars (.string Artifact.version) ++ ',' ::
      (Json.quoteWith Json.escapeChar "lastUpdate" ++ [':']))
  let tail : List Char := ',' :: (Json.compactMembers
    [("fileData", .object (entries.entries.map fun p => (p.1, p.2.toJson)))] ++ ['}'])
  refine ⟨Text.Utf8.encodeText (String.ofList head), Text.Utf8.encodeText (String.ofList tail), ?_⟩
  intro path time
  have hchars : Json.compactChars (Artifact.toJson ⟨time, entries⟩) =
      head ++ Json.compactChars (.int time) ++ tail := by
    simp only [Artifact.toJson, Json.compactChars, Json.compactMembers_cons_cons, head, tail,
      List.append_assoc, List.cons_append, List.nil_append]
  rw [payload, artifact, Json.compact, hchars, Text.Utf8.encodeText_ofList_append,
    Text.Utf8.encodeText_ofList_append]
  rfl

/-! ## Saving -/

/-- A cache is saved without a failure: there is a directory for the artifact, the draft is written,
and it is moved to its place. Nothing can be moved to the name `..`. -/
structure Saves (c : Cache) (now : Int) (fs : FileSystem) (path : Path) (fs' : FileSystem) : Prop where
  kept : c.path = some path
  named : path.parts ≠ []
  last : path.name ≠ ".."
  steps : ∃ made drafted, fs.makeDirectories path.parent (now * 1000000) = .ok made ∧
    made.write (draftPath path) ({ c with lastUpdate := now }).payload (now * 1000000)
      (now * 1000000) = .ok drafted ∧
    drafted.move (draftPath path) path (now * 1000000) = .ok fs'

/-- Once there is a directory for the artifact, the artifact is in the way neither of this directory nor
of the draft, and the draft does not lead to it. -/
def Untangled (fs : FileSystem) (path : Path) (now : Int) : Prop :=
  ∀ made, fs.makeDirectories path.parent (now * 1000000) = .ok made →
    made.Untangled (draftPath path) path

namespace Saves

variable {c : Cache} {now : Int} {fs fs' : FileSystem} {path : Path}

theorem save_eq (h : c.Saves now fs path fs') : c.save now fs = (.ok fs', { c with lastUpdate := now }) := by
  obtain ⟨made, drafted, hmake, hwrite, hmove⟩ := h.steps
  have hempty : ¬ path.parts.isEmpty = true := by simpa using h.named
  rw [h.kept] at hwrite
  rw [save, h.kept]
  dsimp only
  rw [writeArtifact]
  simp only [hmake, bind, Except.bind, if_neg hempty]
  dsimp only [pure, Except.pure]
  rw [hwrite]
  dsimp only
  rw [hmove]

/-- What was written is what is read at the place of the artifact. -/
theorem read_eq (h : c.Saves now fs path fs') (huntangled : Untangled fs path now) :
    fs'.read path = .ok ({ c with lastUpdate := now }).payload := by
  obtain ⟨made, drafted, hmake, hwrite, hmove⟩ := h.steps
  exact FileSystem.read_of_move (draftPath_parent path) (draftPath_getLast? path)
    (getLast?_of_named h.named) (draftName_ne path.name) (draftName_ne_up path.name) h.last
    (huntangled made hmake) hwrite hmove

/-- What was saved is there to be loaded, unless it has integers of too many digits. -/
theorem load_eq (h : c.Saves now fs path fs') (huntangled : Untangled fs path now) :
    (new (some path)).load fs' =
      if (Artifact.toJson ⟨now, c.entries⟩).legible then (true, ⟨some path, now, c.entries⟩)
      else (false, new (some path)) := by
  have hread : Artifact.read fs' path =
      if (Artifact.toJson ⟨now, c.entries⟩).legible then .ok ⟨now, c.entries⟩
      else .error (.unreadable path) := by
    rw [Artifact.read_eq_decode, h.read_eq huntangled]
    dsimp only
    rw [decode_payload, artifact]
  rw [load, new]
  dsimp only
  rw [hread]
  cases (Artifact.toJson ⟨now, c.entries⟩).legible with
  | false => rfl
  | true => rfl

end Saves

/-- After a cache was saved, a new one on the same path finds all of it; and wherever that one is saved
in turn, the file differs in the digits of the time only. -/
theorem load_save {c : Cache} {now : Int} {fs fs' : FileSystem} {path : Path}
    (hsaves : c.Saves now fs path fs') (huntangled : Untangled fs path now) (htime : Json.Convertible now)
    (hentries : ∀ p ∈ c.entries.entries, p.2.Convertible) :
    (c.save now fs).1 = .ok fs' ∧
      (new (some path)).load fs' = (true, ⟨some path, now, c.entries⟩) ∧
      ∃ before after, fs'.read path = .ok (before ++ timeBytes now ++ after) ∧
        ∀ now' later later', ((new (some path)).load fs').2.Saves now' later path later' →
          Untangled later path now' → later'.read path = .ok (before ++ timeBytes now' ++ after) := by
  have hload : (new (some path)).load fs' = (true, ⟨some path, now, c.entries⟩) := by
    rw [hsaves.load_eq huntangled, if_pos (Artifact.legible_toJson htime hentries)]
  obtain ⟨before, after, hpayload⟩ := payload_eq c.entries
  refine ⟨?_, hload, before, after, ?_, ?_⟩
  · rw [hsaves.save_eq]
  · rw [hsaves.read_eq huntangled, hpayload]
  · intro now' later later' hagain huntangled'
    rw [hload] at hagain
    rw [hagain.read_eq huntangled', hpayload]

/-! ## Samples -/

/-- One file with one endpoint, whose texts need to be escaped. -/
def sampleEntries (line : Int) : FileMap CacheEntry :=
  FileMap.empty.put "/r/A \"é\".java"
    ⟨-7, [⟨"/a\\b", "\n", "", "/\t", .get, "A", "m", "/r/A \"é\".java", line, -2, 3, 4⟩]⟩

def samplePlace : Path := ⟨.root, ["c"]⟩

def sample (line : Int) : Cache := ⟨some samplePlace, 0, sampleEntries line⟩

theorem convertible_sampleEntries : ∀ p ∈ (sampleEntries 1).entries, p.2.Convertible := by
  intro p hp
  rw [show (sampleEntries 1).entries = [_] from rfl, List.mem_singleton] at hp
  subst hp
  refine ⟨by decide, ?_⟩
  intro endpoint hendpoint i hi
  rw [List.mem_singleton.1 hendpoint] at hi
  simp only [Endpoint.positions, List.mem_cons, List.not_mem_nil, or_false] at hi
  rcases hi with rfl | rfl | rfl | rfl <;> decide

def emptyFiles : FileSystem := ⟨.directory [] 0, []⟩

/-- The artifact and its draft are links to files elsewhere that are not there yet. -/
def linkedFiles : FileSystem := ⟨.directory [("c", .link "d"), ("c.tmp", .link "e")] 0, []⟩

theorem saves_emptyFiles (line : Int) :
    (sample line).Saves 5 emptyFiles samplePlace
      ⟨.directory [("c", .file ({ sample line with lastUpdate := 5 }).payload 5000000)] 5000000, []⟩ := by
  refine ⟨rfl, by decide, by decide, emptyFiles,
    ⟨.directory [("c.tmp", .file ({ sample line with lastUpdate := 5 }).payload 5000000)] 5000000, []⟩,
    ?_, ?_, ?_⟩
  · cbv
  · generalize ({ sample line with lastUpdate := 5 } : Cache).payload = bytes
    cbv
  · generalize ({ sample line with lastUpdate := 5 } : Cache).payload = bytes
    cbv

theorem untangled_emptyFiles : Untangled emptyFiles samplePlace 5 := by
  have hmake : emptyFiles.makeDirectories samplePlace.parent (5 * 1000000) = .ok emptyFiles := by cbv
  have hnone : ∀ x, emptyFiles.get? [x] = none := by
    intro x
    rfl
  intro made hmade
  rw [hmake] at hmade
  cases hmade
  refine FileSystem.untangled_of_not_link (draftPath_parent _) (draftPath_getLast? _)
    (getLast?_of_named (by decide)) (draftName_ne _) (draftName_ne_up _) ?_ ?_
  · intro l target hl
    rw [show emptyFiles.entryPlace (draftPath samplePlace) = .ok ["c.tmp"] by cbv] at hl
    cases hl
    simp [hnone]
  · intro l n hl
    rw [show emptyFiles.entryPlace samplePlace = .ok ["c"] by cbv] at hl
    cases hl
    simp [hnone]

theorem saves_linkedFiles :
    (sample 1).Saves 5 linkedFiles samplePlace
      ⟨.directory [("c", .link "e"), ("e", .file ({ sample 1 with lastUpdate := 5 }).payload 5000000)]
        5000000, []⟩ := by
  refine ⟨rfl, by decide, by decide, linkedFiles,
    ⟨.directory [("c", .link "d"), ("c.tmp", .link "e"),
      ("e", .file ({ sample 1 with lastUpdate := 5 }).payload 5000000)] 5000000, []⟩, ?_, ?_, ?_⟩
  · cbv
  · generalize ({ sample 1 with lastUpdate := 5 } : Cache).payload = bytes
    cbv
  · generalize ({ sample 1 with lastUpdate := 5 } : Cache).payload = bytes
    cbv

theorem untangled_linkedFiles : Untangled linkedFiles samplePlace 5 := by
  have hmake : linkedFiles.makeDirectories samplePlace.parent (5 * 1000000) = .ok linkedFiles := by cbv
  have hplace : linkedFiles.entryPlace samplePlace = .ok ["c"] := by cbv
  intro made hmade
  rw [hmake] at hmade
  cases hmade
  refine ⟨?_, ?_, ?_⟩
  · intro l hl
    rw [hplace] at hl
    cases hl
    cbv
  · intro l hl
    rw [hplace] at hl
    cases hl
    cbv
  · intro l hl
    rw [hplace] at hl
    cases hl
    rw [show linkedFiles.locate (draftPath samplePlace) = .ok ["e"] by cbv]
    simp

theorem load_save_sample :
    (sample 1).Saves 5 emptyFiles samplePlace
        ⟨.directory [("c", .file ({ sample 1 with lastUpdate := 5 }).payload 5000000)] 5000000, []⟩ ∧
      (new (some samplePlace)).load
          ⟨.directory [("c", .file ({ sample 1 with lastUpdate := 5 }).payload 5000000)] 5000000, []⟩ =
        (true, ⟨some samplePlace, 5, sampleEntries 1⟩) ∧
      (sample 1).Saves 5 linkedFiles samplePlace
        ⟨.directory [("c", .link "e"), ("e", .file ({ sample 1 with lastUpdate := 5 }).payload 5000000)]
          5000000, []⟩ ∧
      (new (some samplePlace)).load
          ⟨.directory [("c", .link "e"), ("e", .file ({ sample 1 with lastUpdate := 5 }).payload 5000000)]
            5000000, []⟩ =
        (true, ⟨some samplePlace, 5, sampleEntries 1⟩) :=
  ⟨saves_emptyFiles 1,
    (load_save (saves_emptyFiles 1) untangled_emptyFiles (by decide) convertible_sampleEntries).2.1,
    saves_linkedFiles,
    (load_save saves_linkedFiles untangled_linkedFiles (by decide) convertible_sampleEntries).2.1⟩

/-- The artifact is a link through itself. -/
def loopedFiles (bytes : List UInt8) : FileSystem :=
  ⟨.directory [("c", .link "c/e"), ("d", .directory [("e", .file bytes 5000000)] 5000000)] 5000000, []⟩

theorem locateNames_loopedFiles (bytes : List UInt8) (links : Nat) (rest : List String) :
    (loopedFiles bytes).locateNames links [] ("c" :: rest) = .error .tooManyLinks := by
  have htarget : Path.ofString "c/e" = ⟨.relative, ["c", "e"]⟩ := by cbv
  -- each time the link is followed, one more name is left
  induction links generalizing rest with
  | zero => rw [FileSystem.locateNames_link ⟨_, _, rfl⟩ (by decide) rfl]
  | succ links ih =>
    rw [FileSystem.locateNames_link ⟨_, _, rfl⟩ (by decide) rfl, htarget]
    exact ih ("e" :: rest)

theorem load_loopedFiles (bytes : List UInt8) :
    ((new (some samplePlace)).load (loopedFiles bytes)).1 = false := by
  have hlocate : (loopedFiles bytes).locate samplePlace = .error .tooManyLinks :=
    locateNames_loopedFiles bytes FileSystem.maxLinks []
  have hread : (loopedFiles bytes).read samplePlace = .error .tooManyLinks := by
    rw [FileSystem.read, FileSystem.find, hlocate]
    rfl
  rw [load, new]
  dsimp only
  rw [Artifact.read_eq_decode, hread]

/-- A cache is lost whose draft is a link to the artifact or through it, or whose artifact is a link on
the way to itself, or that has a position of too many digits. -/
theorem not_load_save :
    (∀ p ∈ (sampleEntries 1).entries, p.2.Convertible) ∧
      (∃ fs', (sample 1).Saves 5 ⟨.directory [("c.tmp", .link "c")] 0, []⟩ samplePlace fs' ∧
        ((new (some samplePlace)).load fs').1 = false) ∧
      (∃ fs', (sample 1).Saves 5
          ⟨.directory [("c", .link "d"), ("c.tmp", .link "c/e"), ("d", .directory [] 0)] 0, []⟩
          samplePlace fs' ∧ ((new (some samplePlace)).load fs').1 = false) ∧
      (∃ fs', Saves ⟨some ⟨.root, ["c", "c"]⟩, 0, sampleEntries 1⟩ 5 ⟨.directory [("c", .link "/")] 0, []⟩
          ⟨.root, ["c", "c"]⟩ fs' ∧
        ((new (some ⟨.root, ["c", "c"]⟩)).load fs').1 = false) ∧
      ∃ fs', (sample (.ofNat (Nat.pow 10 4300))).Saves 5 emptyFiles samplePlace fs' ∧
        ((new (some samplePlace)).load fs').1 = false := by
  refine ⟨convertible_sampleEntries, ?_, ?_, ?_, ?_⟩
  · -- the draft is a link to the place; moved there, it leads to itself
    refine ⟨⟨.directory [("c", .link "c")] 5000000, []⟩, ⟨rfl, by decide, by decide,
      ⟨.directory [("c.tmp", .link "c")] 0, []⟩,
      ⟨.directory [("c.tmp", .link "c"),
        ("c", .file ({ sample 1 with lastUpdate := 5 }).payload 5000000)] 5000000, []⟩, ?_, ?_, ?_⟩, ?_⟩
    · cbv
    · generalize ({ sample 1 with lastUpdate := 5 } : Cache).payload = bytes
      cbv
    · generalize ({ sample 1 with lastUpdate := 5 } : Cache).payload = bytes
      cbv
    · cbv
  · -- the draft is a link through the place, with the same end
    refine ⟨loopedFiles ({ sample 1 with lastUpdate := 5 } : Cache).payload, ⟨rfl, by decide, by decide,
      ⟨.directory [("c", .link "d"), ("c.tmp", .link "c/e"), ("d", .directory [] 0)] 0, []⟩,
      ⟨.directory [("c", .link "d"), ("c.tmp", .link "c/e"), ("d", .directory
        [("e", .file ({ sample 1 with lastUpdate := 5 }).payload 5000000)] 5000000)] 0, []⟩,
      ?_, ?_, ?_⟩, load_loopedFiles _⟩
    · cbv
    · generalize ({ sample 1 with lastUpdate := 5 } : Cache).payload = bytes
      cbv
    · generalize ({ sample 1 with lastUpdate := 5 } : Cache).payload = bytes
      cbv
  · -- the way to the place goes through a link, which the artifact replaces
    generalize hbytes : payload ⟨some ⟨.root, ["c", "c"]⟩, 5, sampleEntries 1⟩ = bytes
    refine ⟨⟨.directory [("c", .file bytes 5000000)] 5000000, []⟩, ⟨rfl, by decide, by decide,
      ⟨.directory [("c", .link "/")] 0, []⟩,
      ⟨.directory [("c", .link "/"), ("c.tmp", .file bytes 5000000)] 5000000, []⟩, ?_, ?_, ?_⟩, ?_⟩
    · cbv
    · rw [hbytes]
      cbv
    · cbv
    · cbv
  · -- the position has more digits than an integer may have
    refine ⟨_, saves_emptyFiles (.ofNat (Nat.pow 10 4300)), ?_⟩
    rw [(saves_emptyFiles (.ofNat (Nat.pow 10 4300))).load_eq untangled_emptyFiles, if_neg]
    decide +kernel

end Cache

end EndpointIndex
