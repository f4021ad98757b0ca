import EndpointIndex.Cache
import EndpointIndex.Proofs.FileMap
import EndpointIndex.Proofs.FileSystem.Changes
import EndpointIndex.Proofs.Json.RoundTrip
import EndpointIndex.Proofs.Text.Utf8

/-!
# What the artifact holds

The bytes of an artifact are read as the artifact that was written, or not at all (`decode_payload`).
Saving a cache writes these bytes and nothing else, and it works on the places of the artifact and of
its draft only (`changes_writeArtifact`); so does deleting the artifact, which writes nothing.
-/

namespace EndpointIndex

namespace Json

theorem plainItems_of_forall {items : List Json} (h : ∀ v ∈ items, v.Plain) : PlainItems items := by
  induction items with
  | nil => trivial
  | cons v items ih =>
    exact ⟨h v List.mem_cons_self, ih fun w hw => h w (List.mem_cons_of_mem _ hw)⟩

theorem plainMembers_of_forall {members : List (String × Json)} (h : ∀ p ∈ members, p.2.Plain) :
    PlainMembers members := by
  induction members with
  | nil => trivial
  | cons p members ih =>
    exact ⟨h p List.mem_cons_self, ih fun q hq => h q (List.mem_cons_of_mem _ hq)⟩

end Json

theorem Endpoint.plain_toJson (e : Endpoint) : e.toJson.Plain := by
  refine ⟨by simp, Json.plainMembers_of_forall ?_⟩
  intro p hp
  simp only [List.mem_cons, List.not_mem_nil, or_false] at hp
  rcases hp with rfl | rfl | rfl | rfl | rfl | rfl | rfl | rfl | rfl | rfl | rfl | rfl <;> trivial

theorem CacheEntry.plain_toJson (e : CacheEntry) : e.toJson.Plain := by
  have hendpoints : Json.PlainItems (e.endpoints.map Endpoint.toJson) := by
    apply Json.plainItems_of_forall
    intro v hv
    obtain ⟨endpoint, -, rfl⟩ := List.mem_map.1 hv
    exact endpoint.plain_toJson
  exact ⟨by simp, trivial, hendpoints, trivial⟩

namespace Artifact

theorem plain_toJson (a : Artifact) : a.toJson.Plain := by
  have hkeys : (a.entries.entries.map fun p => (p.1, p.2.toJson)).map Prod.fst =
      a.entries.entries.map Prod.fst := by
    rw [List.map_map]
    rfl
  have hentries : Json.PlainMembers (a.entries.entries.map fun p => (p.1, p.2.toJson)) := by
    apply Json.plainMembers_of_forall
    intro p hp
    obtain ⟨q, -, rfl⟩ := List.mem_map.1 hp
    exact q.2.plain_toJson
  exact ⟨by simp, trivial, trivial, ⟨hkeys ▸ a.entries.nodup, hentries⟩, trivial⟩

theorem ofJson_toJson (path : Path) (a : Artifact) : ofJson path a.toJson = .ok a := by
  have hversion : a.toJson.member? "version" = some (.string version) := rfl
  have hfields : fields a.toJson = .ok a := by
    simp [fields, toJson, Json.withDefault, Json.Key.find?, Json.member?, Json.checkInt, Json.checkMap,
      Json.checkMembers_map CacheEntry.ofJson_toJson, FileMap.ofList_entries]
  rw [ofJson.eq_def]
  simp only [hversion, Option.getD_some, if_true, hfields]
  rfl

/-- The artifact in the bytes of a file. -/
def decode (path : Path) (bytes : List UInt8) : Except CacheError Artifact :=
  match (Text.Utf8.decode? bytes).bind Json.parseChars? with
  | none => .error (.unreadable path)
  | some v => ofJson path v

theorem read_eq_decode (fs : FileSystem) (path : Path) :
    read fs path =
      match fs.read path with
      | .error _ => .error (.unreadable path)
      | .ok bytes => decode path bytes := rfl

theorem read_ne_ok {fs : FileSystem} {path : Path} {e : FileError} (h : fs.read path = .error e)
    (a : Artifact) : read fs path ≠ .ok a := by
  rw [read_eq_decode, h]
  exact nofun

end Artifact

/-- What was written is read back, unless it has integers of too many digits. -/
theorem Cache.decode_payload (c : Cache) (path : Path) :
    Artifact.decode path c.payload =
      if c.artifact.toJson.legible then .ok c.artifact else .error (.unreadable path) := by
  rw [Artifact.decode, payload, Text.Utf8.decode?_encodeText, Json.compact, String.toList_ofList,
    Option.bind_some, Json.parseChars?_compactChars c.artifact.plain_toJson]
  cases c.artifact.toJson.legible with
  | false => rfl
  | true => exact Artifact.ofJson_toJson path c.artifact

/-! ## The places of the artifact and of its draft -/

namespace Cache

theorem draftPath_parent (path : Path) : (draftPath path).parent = path.parent := by
  simp [draftPath, Path.addSuffix, Path.parent]

theorem draftPath_name (path : Path) : (draftPath path).name = path.name ++ ".tmp" := by
  simp [draftPath, Path.addSuffix, Path.name]

theorem draftPath_parts (path : Path) :
    (draftPath path).parts = path.parts.dropLast ++ [path.name ++ ".tmp"] := rfl

theorem getLast?_of_named {path : Path} (h : path.parts ≠ []) :
    path.parts.getLast? = some path.name := by
  rw [Path.name, List.getLast?_eq_some_getLast h]
  rfl

theorem draftPath_getLast? (path : Path) :
    (draftPath path).parts.getLast? = some (path.name ++ ".tmp") := by
  rw [draftPath_parts, List.getLast?_concat]

theorem draftName_ne (name : String) : name ++ ".tmp" ≠ name := by
  intro heq
  have hlength := congrArg String.length heq
  rw [String.length_append] at hlength
  simp at hlength

theorem draftName_ne_up (name : String) : name ++ ".tmp" ≠ ".." := by
  intro heq
  have hchar := congrArg (fun s : String => s.toList.getLast?) heq
  simp at hchar

/-- The draft stands in the directory of the artifact. -/
theorem spelled_draftPath (fs : FileSystem) (path : Path) :
    fs.spelled (draftPath path) = fs.spelled path.parent ++ [(draftPath path).name] := by
  rw [draftPath_name, FileSystem.spelled, FileSystem.walk, draftPath_parts, List.foldl_append,
    List.foldl_cons, if_neg (draftName_ne_up path.name)]
  rfl

/-- The places that saving and deleting the artifact work on. -/
def places (fs : FileSystem) (path : Path) : List Location :=
  [fs.spelled path.parent ++ [path.name], fs.spelled (draftPath path)]

theorem entryPlace_mem_places {fs : FileSystem} (h : fs.Tidy) {path : Path} (hpath : path.parts ≠ [])
    {l : Location} (hplace : fs.entryPlace path = .ok l) : l ∈ places fs path := by
  rw [(h.entryPlace_eq_spelled hpath hplace).1]
  exact List.mem_cons_self

theorem spelled_draftPath_mem_places (fs : FileSystem) (path : Path) :
    fs.spelled (draftPath path) ∈ places fs path :=
  List.mem_cons_of_mem _ List.mem_cons_self

theorem places_eq {fs fs' : FileSystem} {changed : List Location} {written : List UInt8 → Prop}
    (h : FileSystem.Changes fs fs' changed written) (path : Path) : places fs' path = places fs path := by
  rw [places, places, h.spelled_eq, h.spelled_eq]

/-- What saving a cache can come to: there is a directory for the artifact, and the draft is not written,
or it is written and stays where it is, or it is moved. -/
theorem writeArtifact_cases {fs fs' : FileSystem} {c : Cache} {path : Path}
    (hwrite : c.writeArtifact fs path = .ok fs') :
    ∃ made, fs.makeDirectories path.parent (c.lastUpdate * 1000000) = .ok made ∧ path.parts ≠ [] ∧
      (fs' = made ∨ ∃ drafted,
        made.write (draftPath path) c.payload (c.lastUpdate * 1000000) (c.lastUpdate * 1000000) =
            .ok drafted ∧
          (fs' = drafted ∨ drafted.move (draftPath path) path (c.lastUpdate * 1000000) = .ok fs')) := by
  unfold writeArtifact at hwrite
  dsimp only at hwrite
  cases hmake : fs.makeDirectories path.parent (c.lastUpdate * 1000000) with
  | error e =>
    rw [hmake] at hwrite
    cases hwrite
  | ok made =>
    refine ⟨made, rfl, ?_⟩
    simp only [hmake, bind, Except.bind] at hwrite
    split at hwrite
    · cases hwrite
    · rename_i hpath
      refine ⟨by simpa using hpath, ?_⟩
      split at hwrite
      · cases hwrite
        exact .inl rfl
      · rename_i drafted hdraft
        refine .inr ⟨drafted, hdraft, ?_⟩
        split at hwrite
        · cases hwrite
          exact .inl rfl
        · rename_i moved hmove
          cases hwrite
          exact .inr hmove

theorem draftPath_ne_nil (path : Path) : (draftPath path).parts ≠ [] := by
  rw [draftPath_parts]
  simp

/-- Saving a cache writes the bytes of the artifact, to its place or to that of the draft. -/
theorem changes_writeArtifact {fs fs' : FileSystem} (h : fs.Tidy) {c : Cache} {path : Path}
    (hwrite : c.writeArtifact fs path = .ok fs') :
    FileSystem.Changes fs fs' (places fs path) (· = c.payload) := by
  obtain ⟨made, hmake, hpath, hcases⟩ := writeArtifact_cases hwrite
  have hmade : FileSystem.Changes fs made (places fs path) (· = c.payload) :=
    h.changes_makeDirectories hmake
  rcases hcases with rfl | ⟨drafted, hdraft, hcases⟩
  · exact hmade
  · have hdrafted : FileSystem.Changes fs drafted (places fs path) (· = c.payload) := by
      apply hmade.trans (hmade.tidy.changes_write hdraft _ rfl)
      rw [hmade.spelled_eq]
      exact spelled_draftPath_mem_places fs path
    rcases hcases with rfl | hmove
    · exact hdrafted
    · obtain ⟨l, hplace⟩ := FileSystem.entryPlace_of_move hmove
      -- what is moved is the draft that was written just before
      have hl : l = made.spelled (draftPath path) := by
        rw [(hdrafted.tidy.entryPlace_eq_spelled (draftPath_ne_nil path) hplace).1, hdrafted.spelled_eq,
          hmade.spelled_eq, spelled_draftPath, draftPath_parent]
      have hfile := hmade.tidy.get?_write (draftPath_ne_nil path) hdraft
      rw [← hl] at hfile
      refine hdrafted.trans (hdrafted.tidy.changes_move hplace hfile hmove ?_ ?_ rfl)
      · rw [hl, hmade.spelled_eq]
        exact spelled_draftPath_mem_places fs path
      · intro l' hl'
        rw [← places_eq hdrafted]
        exact entryPlace_mem_places hdrafted.tidy hpath hl'

/-- Once there is a directory for the artifact, nothing that fails is reported. -/
theorem writeArtifact_returns {fs made : FileSystem} (c : Cache) {path : Path} (hparts : path.parts ≠ [])
    (hmake : fs.makeDirectories path.parent (c.lastUpdate * 1000000) = .ok made) :
    ∃ fs', c.writeArtifact fs path = .ok fs' := by
  have hempty : ¬ path.parts.isEmpty = true := by simpa using hparts
  unfold writeArtifact
  simp only [hmake, bind, Except.bind, if_neg hempty]
  dsimp only [pure, Except.pure]
  split
  · exact ⟨_, rfl⟩
  · split
    · exact ⟨_, rfl⟩
    · exact ⟨_, rfl⟩

/-- Deleting the artifact writes nothing. -/
theorem changes_deleteArtifact {fs fs' : FileSystem} (h : fs.Tidy) {c : Cache} {path : Path}
    {now : Int} (hpath : c.path = some path) (hdelete : c.deleteArtifact fs now = .ok fs') {written : List UInt8 → Prop} :
    FileSystem.Changes fs fs' (places fs path) written := by
  unfold deleteArtifact at hdelete
  rw [hpath] at hdelete
  dsimp only at hdelete
  split at hdelete
  · cases hdelete
    exact h.changes_self
  · apply h.changes_remove hdelete
    intro l hl
    by_cases hparts : path.parts = []
    · simp only [FileSystem.entryPlace, hparts] at hl
      cases hl
      exact .inl rfl
    · exact .inr (entryPlace_mem_places h hparts hl)

end Cache

end EndpointIndex
