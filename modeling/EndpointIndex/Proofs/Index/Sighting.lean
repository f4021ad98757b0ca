import EndpointIndex.Proofs.FileSystem.Tree
import EndpointIndex.Proofs.Index.Examine
import EndpointIndex.Proofs.Text.Utf8

/-!
# What entries rest on

An entry of the cache is good if its endpoints were read from the file at some time, and its time is
not later than the file's time then (`Sighted`). This says nothing about the file as it is now, so that
no change of the files can undo it. Where the times at a path never go back and a time names one
content (`Chronological`), it is enough: an entry that is up to date has the endpoints of the file
as it is (`Sighted.parseWith_eq`).
-/

namespace EndpointIndex

theorem Session.modified?_of_fileAt {s : Session} {file : String} {content : List UInt8} {time : Int}
    (h : s.files.fileAt file = some (content, time)) : s.modified? file = some time := by
  rw [modified?, FileSystem.modified_of_fileAt h]
  rfl

/-- What a look at the time of something sees is its time. -/
theorem Session.modified?_eq_some_iff (s : Session) (file : String) (time : Int) :
    s.modified? file = some time ↔ s.files.modified (.ofString file) = .ok time := by
  rw [modified?]
  cases s.files.modified (.ofString file) with
  | error e => simp [Except.toOption]
  | ok time' => simp [Except.toOption]

namespace IndexConfig

/-- The endpoints in the content of a file. -/
def parseContent (prefilter : Bool) (file : String) (content : List UInt8) : ParseResult :=
  match (ReadingPlan.standard prefilter).endpointsOfBytes file content with
  | .ok found => .endpoints found
  | .error .malformed => .endpoints []
  | .error (.broken cause) => .broken cause

/-- What is read from a file depends on its content alone. -/
theorem parseWith_eq (prefilter : Bool) (fs : FileSystem) (file : String) :
    parseWith prefilter fs file =
      match fs.fileAt file with
      | some (content, _) => parseContent prefilter file content
      | none => .unreadable := by
  unfold parseWith FileSystem.read FileSystem.fileAt
  cases fs.find (.ofString file) with
  | error o => rfl
  | ok p =>
    obtain ⟨l, n⟩ := p
    cases n <;> rfl

theorem parseWith_of_fileAt {fs : FileSystem} {file : String} {content : List UInt8} {time : Int}
    (h : fs.fileAt file = some (content, time)) (prefilter : Bool) :
    parseWith prefilter fs file = parseContent prefilter file content := by
  rw [parseWith_eq, h]

theorem fileAt_of_parseWith {prefilter : Bool} {fs : FileSystem} {file : String} {es : List Endpoint}
    (h : parseWith prefilter fs file = .endpoints es) :
    ∃ content time, fs.fileAt file = some (content, time) ∧
      parseContent prefilter file content = .endpoints es := by
  rw [parseWith_eq] at h
  split at h
  · rename_i content time hfile
    exact ⟨content, time, hfile, h⟩
  · cases h

/-- What may come of reading a file: it may fail for reasons of its own, but endpoints that are
read are those in the file. -/
def Reads (prefilter : Bool) (fs : FileSystem) (file : String) (r : ParseResult) : Prop :=
  ∀ es, r = .endpoints es → parseWith prefilter fs file = .endpoints es

theorem reads_parseWith (prefilter : Bool) (fs : FileSystem) (file : String) :
    Reads prefilter fs file (parseWith prefilter fs file) :=
  fun _ h => h

/-- A configuration that reads files rightly whenever it reads them. -/
def Faithful (c : IndexConfig) (prefilter : Bool) : Prop :=
  ∀ fs file, Reads prefilter fs file (c.parse fs file)

theorem faithful_of_parse {c : IndexConfig} {prefilter : Bool} (h : c.parse = parseWith prefilter) :
    c.Faithful prefilter := by
  intro fs file
  rw [h]
  exact reads_parseWith prefilter fs file

end IndexConfig

open IndexConfig

/-- An entry that was read from the file at some time, when the file was not older than it. -/
def Sighted (prefilter : Bool) (history : List FileSystem) (file : String) (e : CacheEntry) : Prop :=
  ∃ fs ∈ history, ∃ content time, fs.fileAt file = some (content, time) ∧ e.lastModified ≤ time ∧
    parseContent prefilter file content = .endpoints e.endpoints

theorem Sighted.mono {prefilter : Bool} {history history' : List FileSystem} {file : String}
    {e : CacheEntry} (h : Sighted prefilter history file e) (hsub : history ⊆ history') :
    Sighted prefilter history' file e := by
  obtain ⟨fs, hfs, hrest⟩ := h
  exact ⟨fs, hsub hfs, hrest⟩

/-- Of two states of a file the newer one is not older by its time, and the same time stands for the
same content. -/
def InOrder (file : String) (newer older : FileSystem) : Prop :=
  ∀ content time content' time', newer.fileAt file = some (content, time) →
    older.fileAt file = some (content', time') → time' ≤ time ∧ (time' = time → content' = content)

theorem InOrder.refl (file : String) (fs : FileSystem) : InOrder file fs fs := by
  intro content time content' time' hfile hfile'
  cases hfile.symm.trans hfile'
  exact ⟨Int.le_refl _, fun _ => rfl⟩

/-- The states that a file has had, the latest first. -/
def Chronological (history : List FileSystem) (file : String) : Prop :=
  history.Pairwise (InOrder file)

/-- An entry that is up to date has what the file holds now. -/
theorem Sighted.parseWith_eq {prefilter : Bool} {fs : FileSystem} {past : List FileSystem}
    {file : String} {e : CacheEntry} (h : Sighted prefilter (fs :: past) file e)
    (horder : Chronological (fs :: past) file) {content : List UInt8} {time : Int}
    (hfile : fs.fileAt file = some (content, time)) (htime : time ≤ e.lastModified) :
    parseWith prefilter fs file = .endpoints e.endpoints := by
  rw [parseWith_of_fileAt hfile]
  obtain ⟨g, hg, content', time', hthen, hle, hparse⟩ := h
  rcases List.mem_cons.1 hg with rfl | hg
  · rw [hfile] at hthen
    cases hthen
    exact hparse
  · obtain ⟨hback, hsame⟩ := (List.pairwise_cons.1 horder).1 g hg _ _ _ _ hfile hthen
    rw [← hsame (by omega)]
    exact hparse

/-! ## All entries of a cache -/

def AllSighted (prefilter : Bool) (history : List FileSystem) (entries : FileMap CacheEntry) : Prop :=
  ∀ file e, entries.get? file = some e → Sighted prefilter history file e

namespace AllSighted

variable {prefilter : Bool} {history : List FileSystem}

theorem mono {entries : FileMap CacheEntry} (h : AllSighted prefilter history entries)
    {history' : List FileSystem} (hsub : history ⊆ history') : AllSighted prefilter history' entries :=
  fun file e he => (h file e he).mono hsub

theorem empty : AllSighted prefilter history .empty := by
  intro file e he
  cases he

/-- Only what has been read has to be sighted: other findings add nothing to the cache. -/
theorem commit {i : Index} (h : AllSighted prefilter history i.cache.entries) {file : String}
    {f : Finding} (hf : ∀ time es, f = .parsed time es → Sighted prefilter history file ⟨time, es⟩) :
    AllSighted prefilter history (i.commit file f).cache.entries := by
  intro g e he
  cases f with
  | missing =>
    have hremove := (Cache.get?_remove i.cache file g).symm.trans he
    split at hremove
    · cases hremove
    · exact h g e hremove
  | cached es => exact h g e he
  | parsed time es =>
    have hput := (Cache.get?_put i.cache file g ⟨time, es⟩).symm.trans he
    split at hput
    · rename_i hg
      cases hput
      rw [hg]
      exact hf time es rfl
    · exact h g e hput

theorem drop {i : Index} (h : AllSighted prefilter history i.cache.entries) (file : String) :
    AllSighted prefilter history (i.drop file).cache.entries :=
  h.commit (f := .missing) (by simp)

theorem prune {i : Index} (h : AllSighted prefilter history i.cache.entries) (keep : List String) :
    AllSighted prefilter history (i.prune keep).cache.entries :=
  Index.prune_keeps (P := fun j => AllSighted prefilter history j.cache.entries)
    (fun _ file hj => hj.drop file) h keep

end AllSighted

/-! ## A sample -/

def controllerText : String := "@RestController class A \x7b @GetMapping(\"/a\") void f() \x7b\x7d \x7d"

def controllerEndpoint (file : String) : Endpoint :=
  ⟨"/a", "/a", "", "/a", .get, "A", "f", file, 1, 27, 1, 43⟩

theorem parseContent_controllerText {file : String} (hfile : file ∈ ["/r/A.java", "/r/B.java"]) :
    parseContent true file (Text.Utf8.encodeText controllerText) = .endpoints [controllerEndpoint file] := by
  have hcandidate : (ReadingPlan.standard true).isCandidate controllerText.toList = true := by
    decide +kernel
  have hprimary : (ReadingPlan.standard true).primaryEndpoints file controllerText.toList =
      [controllerEndpoint file] := by
    simp only [List.mem_cons, List.not_mem_nil, or_false] at hfile
    rcases hfile with rfl | rfl <;> decide +kernel
  have htext := Text.Utf8.decodeLossy_eq_of_decode? (Text.Utf8.decode?_encodeText controllerText)
  rw [parseContent, ReadingPlan.endpointsOfBytes, htext, ReadingPlan.endpoints, if_pos hcandidate,
    hprimary]

/-- An empty file and a controller. -/
def earlierFiles : FileSystem :=
  ⟨.directory [("r", .directory [("A.java", .file [] 5),
    ("B.java", .file (Text.Utf8.encodeText controllerText) 5)] 0)] 0, []⟩

/-- The first file has become a controller too. -/
def writtenFiles : FileSystem :=
  ⟨.directory [("r", .directory [("A.java", .file (Text.Utf8.encodeText controllerText) 9),
    ("B.java", .file (Text.Utf8.encodeText controllerText) 5)] 0)] 0, []⟩

theorem fileAt_earlierFiles :
    earlierFiles.fileAt "/r/A.java" = some ([], 5) ∧
      earlierFiles.fileAt "/r/B.java" = some (Text.Utf8.encodeText controllerText, 5) := by
  unfold earlierFiles
  generalize Text.Utf8.encodeText controllerText = bytes
  exact ⟨by cbv, by cbv⟩

theorem fileAt_writtenFiles :
    writtenFiles.fileAt "/r/A.java" = some (Text.Utf8.encodeText controllerText, 9) ∧
      writtenFiles.fileAt "/r/B.java" = some (Text.Utf8.encodeText controllerText, 5) := by
  unfold writtenFiles
  generalize Text.Utf8.encodeText controllerText = bytes
  exact ⟨by cbv, by cbv⟩

theorem parseWith_writtenFiles {file : String} (hfile : file ∈ ["/r/A.java", "/r/B.java"]) :
    parseWith true writtenFiles file = .endpoints [controllerEndpoint file] := by
  obtain ⟨hfirst, hsecond⟩ := fileAt_writtenFiles
  have hcontent := parseContent_controllerText hfile
  simp only [List.mem_cons, List.not_mem_nil, or_false] at hfile
  rcases hfile with rfl | rfl
  · rw [parseWith_of_fileAt hfirst, hcontent]
  · rw [parseWith_of_fileAt hsecond, hcontent]

end EndpointIndex
