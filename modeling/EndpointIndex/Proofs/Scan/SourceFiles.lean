import EndpointIndex.Proofs.FileSystem.Agreement
import EndpointIndex.Proofs.FileSystem.Names
import EndpointIndex.Proofs.Scan.Walk
import Mathlib

/-!
# The source files of a tree

Which files a scan finds is said file by file (`Selected`), and their order by what they are called, so a
scan of a tree without links has one possible answer (`sourceFiles_eq_iff`), in whatever order
directories list their entries. A limit cuts the answer off, but lets one file through
(`sourceFiles_limit`).
-/

namespace EndpointIndex.Scan

/-! ## What a scan should find -/

/-- A file below a place that some glob of a selection includes and none excludes, by the path from that
place on, where no directory on the way from there is an ignored one. -/
structure Selected (fs : FileSystem) (place : Location) (s : Selection) (below : Location) : Prop where
  ne_nil : below ≠ []
  file : ∃ content time, fs.get? (place ++ below) = some (.file content time)
  unignored : ∀ name ∈ below.dropLast, name ∉ ignoredNames
  included : ∃ g ∈ s.includes, Glob.matchesPath g (String.intercalate "/" below) = true
  unexcluded : ∀ g ∈ s.excludes, Glob.matchesPath g (String.intercalate "/" below) = false

/-- The absolute paths of the selected files in the order of the walk. -/
def Listing (fs : FileSystem) (place : Location) (s : Selection) (files : List String) : Prop :=
  ∃ places : List Location, files = places.map (fun below => Location.toString (place ++ below)) ∧
    (∀ below, below ∈ places ↔ Selected fs place s below) ∧ places.Pairwise Precedes

section

variable {fs : FileSystem} {root : Path} {place : Location} {n : Node} {s : Selection}
  {files files' : List String}

/-- Files can be listed in one way only. -/
theorem Listing.unique (h : Listing fs place s files) (h' : Listing fs place s files') :
    files = files' := by
  obtain ⟨places, rfl, hmem, horder⟩ := h
  obtain ⟨places', rfl, hmem', horder'⟩ := h'
  have hnodup := nodup_of_pairwise_precedes horder
  have hnodup' := nodup_of_pairwise_precedes horder'
  have hperm : places.Perm places' :=
    (List.perm_ext_iff_of_nodup hnodup hnodup').2 fun below => (hmem below).trans (hmem' below).symm
  rw [hperm.eq_of_pairwise (fun a b _ _ hab hba => absurd hba hab.asymm) horder horder']

theorem Listing.nodup (hnamed : fs.tree.named = true) (h : Listing fs place s files) : files.Nodup := by
  obtain ⟨places, rfl, hmem, horder⟩ := h
  have hnames : ∀ below ∈ places, ∀ x ∈ place ++ below, Path.isName x = true := by
    intro below hbelow
    obtain ⟨content, time, hfile⟩ := ((hmem below).1 hbelow).file
    exact Node.isName_of_get? hnamed hfile
  refine List.Nodup.map_on ?_ (nodup_of_pairwise_precedes horder)
  intro a ha b hb hab
  have hne : ∀ below ∈ places, place ++ below ≠ [] := fun below hbelow => by
    simp [((hmem below).1 hbelow).ne_nil]
  exact List.append_cancel_left
    (Location.toString_inj (hne a ha) (hne b hb) (hnames a ha) (hnames b hb) hab)

/-! ## Absolute paths -/

/-- Without a limit it does not matter how many files were found before. -/
theorem absolutePaths_none (found found' : Nat) (ls : List Location) :
    absolutePaths fs none found ls = absolutePaths fs none found' ls := by
  induction ls generalizing found found' with
  | nil => rfl
  | cons l ls ih =>
    rw [absolutePaths, absolutePaths]
    cases fs.resolve (FileSystem.ofLocation l) with
    | error e => rfl
    | ok place =>
      dsimp only
      rw [if_neg (by simp), if_neg (by simp), ih]

theorem absolutePaths_cons (found : Nat) (l : Location) (ls : List Location) :
    absolutePaths fs none found (l :: ls) =
      match fs.resolve (FileSystem.ofLocation l) with
      | .error e => .error e
      | .ok place => (absolutePaths fs none found ls).map (place.toString :: ·) := by
  rw [absolutePaths]
  cases fs.resolve (FileSystem.ofLocation l) with
  | error e => rfl
  | ok place =>
    dsimp only
    rw [if_neg (by simp), absolutePaths_none]

theorem absolutePaths_cons_eq_ok {found : Nat} {l : Location} {ls : List Location} :
    absolutePaths fs none found (l :: ls) = .ok files ↔
      ∃ place rest, fs.resolve (FileSystem.ofLocation l) = .ok place ∧
        absolutePaths fs none found ls = .ok rest ∧ place.toString :: rest = files := by
  rw [absolutePaths_cons]
  cases fs.resolve (FileSystem.ofLocation l) with
  | error e => simp
  | ok place => cases absolutePaths fs none found ls <;> simp [Except.map]

theorem absolutePaths_cons_eq_error {found : Nat} {l : Location} {ls : List Location}
    {e : FileSystem.LinkLoop} :
    absolutePaths fs none found (l :: ls) = .error e ↔
      fs.resolve (FileSystem.ofLocation l) = .error e ∨
        ∃ place, fs.resolve (FileSystem.ofLocation l) = .ok place ∧
          absolutePaths fs none found ls = .error e := by
  rw [absolutePaths_cons]
  cases fs.resolve (FileSystem.ofLocation l) with
  | error e' => simp
  | ok place => cases absolutePaths fs none found ls <;> simp [Except.map]

/-! ## What a scan finds -/

theorem reaches_and_admits_iff (hn : fs.get? place = some n) (s : Selection) (below : Location) :
    Reaches n below ∧ s.admits (String.intercalate "/" below) = true ↔ Selected fs place s below := by
  have hget : fs.get? (place ++ below) = n.get? below := by
    rw [FileSystem.get?, Node.get?_append, show fs.tree.get? place = some n from hn]
    rfl
  have hadmits : s.admits (String.intercalate "/" below) = true ↔
      (∃ g ∈ s.includes, Glob.matchesPath g (String.intercalate "/" below) = true) ∧
        ∀ g ∈ s.excludes, Glob.matchesPath g (String.intercalate "/" below) = false := by
    simp [Selection.admits]
  rw [hadmits]
  constructor
  · rintro ⟨⟨hne, hfile, hignored⟩, hincluded, hexcluded⟩
    exact ⟨hne, hget ▸ hfile, hignored, hincluded, hexcluded⟩
  · rintro ⟨hne, hfile, hignored, hincluded, hexcluded⟩
    exact ⟨⟨hne, hget ▸ hfile, hignored⟩, hincluded, hexcluded⟩

theorem mem_admitted (hn : fs.get? place = some n) (htidy : n.tidy = true) {l : Location} :
    l ∈ admitted fs place n s ↔ ∃ below, Selected fs place s below ∧ l = place ++ below := by
  simp only [admitted, List.mem_filter, mem_walk htidy, ← reaches_and_admits_iff hn]
  constructor
  · rintro ⟨⟨below, hbelow, rfl⟩, hadmits⟩
    rw [List.drop_left] at hadmits
    exact ⟨below, ⟨hbelow, hadmits⟩, rfl⟩
  · rintro ⟨below, ⟨hbelow, hadmits⟩, rfl⟩
    rw [List.drop_left]
    exact ⟨⟨below, hbelow, rfl⟩, hadmits⟩

theorem listing_admitted (hn : fs.get? place = some n) (htidy : n.tidy = true) :
    Listing fs place s ((admitted fs place n s).map Location.toString) := by
  -- every file that the walk gives lies below the place
  have hbelow : ∀ l ∈ admitted fs place n s, place ++ l.drop place.length = l := by
    intro l hl
    obtain ⟨below, -, rfl⟩ := (mem_admitted hn htidy).1 hl
    rw [List.drop_left]
  refine ⟨(admitted fs place n s).map (List.drop place.length), ?_, fun below => ?_, ?_⟩
  · rw [List.map_map]
    exact List.map_congr_left fun l hl => congrArg Location.toString (hbelow l hl).symm
  · rw [List.mem_map]
    constructor
    · rintro ⟨l, hl, rfl⟩
      obtain ⟨below, hselected, rfl⟩ := (mem_admitted hn htidy).1 hl
      rwa [List.drop_left]
    · exact fun h => ⟨place ++ below, (mem_admitted hn htidy).2 ⟨below, h, rfl⟩, List.drop_left⟩
  · rw [List.pairwise_map]
    refine ((pairwise_walk htidy place).filter _).imp_of_mem ?_
    intro a b ha hb hab
    obtain ⟨below, hselected, rfl⟩ := (mem_admitted hn htidy).1 ha
    obtain ⟨below', hselected', rfl⟩ := (mem_admitted hn htidy).1 hb
    rw [List.drop_left, List.drop_left]
    exact (precedes_append place hselected.ne_nil hselected'.ne_nil).1 hab

theorem absolutePaths_eq_map {found : Nat} {ls : List Location}
    (h : ∀ l ∈ ls, fs.resolve (FileSystem.ofLocation l) = .ok l) :
    absolutePaths fs none found ls = .ok (ls.map Location.toString) := by
  induction ls generalizing found with
  | nil => rfl
  | cons l ls ih =>
    obtain ⟨hl, hls⟩ := List.forall_mem_cons.1 h
    exact absolutePaths_cons_eq_ok.2 ⟨l, _, hl, ih hls, rfl⟩

/-- A scan without a limit lists the selected files. -/
theorem listing_of_find (htidy : fs.Tidy) (hnamed : fs.tree.named = true)
    (hroot : fs.find root = .ok (place, n)) (s : Selection) :
    ∃ files, sourceFiles fs root s none = .ok files ∧ Listing fs place s files := by
  have hn := FileSystem.get?_of_find hroot
  have hntidy := Node.tidy_of_get? htidy hn
  refine ⟨_, ?_, listing_admitted hn hntidy⟩
  rw [sourceFiles, hroot]
  refine absolutePaths_eq_map fun l hl => ?_
  obtain ⟨below, hselected, rfl⟩ := (mem_admitted hn hntidy).1 hl
  obtain ⟨content, time, hfile⟩ := hselected.file
  exact htidy.resolve_ofLocation (Node.isName_of_get? hnamed hfile)

theorem Listing.agree {fs' : FileSystem} (hagree : fs.Agree fs') (h : Listing fs' place s files) :
    Listing fs place s files := by
  obtain ⟨places, hfiles, hmem, horder⟩ := h
  refine ⟨places, hfiles, fun below => (hmem below).trans ?_, horder⟩
  constructor
  · intro h
    obtain ⟨content, time, hfile⟩ := h.file
    exact { h with file := ⟨content, time, (hagree.kinds _).eq_file.1 hfile⟩ }
  · intro h
    obtain ⟨content, time, hfile⟩ := h.file
    exact { h with file := ⟨content, time, (hagree.kinds _).eq_file.2 hfile⟩ }

/-- A scan of a tree without links lists the selected files and nothing else, each once, in the order of
the walk, and lists the same where directories list their entries in another order. -/
theorem sourceFiles_eq_iff (htidy : fs.Tidy) (hnamed : fs.tree.named = true)
    (hroot : fs.find root = .ok (place, n)) (s : Selection) :
    (∀ files, sourceFiles fs root s none = .ok files ↔ Listing fs place s files) ∧
      (∃ files, sourceFiles fs root s none = .ok files ∧ files.Nodup) ∧
      ∀ fs', fs'.Tidy → fs'.tree.named = true → fs.Agree fs' →
        sourceFiles fs' root s none = sourceFiles fs root s none := by
  obtain ⟨found, hfound, hlisting⟩ := listing_of_find htidy hnamed hroot s
  refine ⟨fun files => ⟨fun h => ?_, fun h => ?_⟩, ⟨found, hfound, hlisting.nodup hnamed⟩, ?_⟩
  · rw [hfound] at h
    exact Except.ok.inj h ▸ hlisting
  · rw [hfound, hlisting.unique h]
  · -- the other scan has its own listing, which is one of this tree as well
    intro fs' htidy' hnamed' hagree
    rcases hagree.find_cases root with ⟨o, ho, -⟩ | ⟨l, m, m', hm, hm'⟩
    · rw [hroot] at ho
      cases ho
    · obtain ⟨rfl, -⟩ := Prod.mk.inj (Except.ok.inj (hm.symm.trans hroot))
      obtain ⟨found', hfound', hlisting'⟩ := listing_of_find htidy' hnamed' hm' s
      rw [hfound', hfound, hlisting.unique (hlisting'.agree hagree)]

end

/-- Sources at two levels, and one that a build has left. -/
def sampleEntries : List (String × Node) :=
  [("b", .directory [("B.java", .file [] 0)] 0), ("target", .directory [("C.java", .file [] 0)] 0),
   ("A.java", .file [] 0)]

def sampleSources : FileSystem := ⟨.directory sampleEntries 0, []⟩

def reversedSources : FileSystem := ⟨.directory sampleEntries.reverse 0, []⟩

/-- All files with one suffix. -/
def javaFiles : Selection := ⟨["**/*.java"], []⟩

theorem sourceFiles_eq_iff_sample :
    sampleSources.Tidy ∧ sampleSources.tree.named = true ∧
      sampleSources.find (.ofString "/") = .ok ([], sampleSources.tree) ∧
      reversedSources.Tidy ∧ reversedSources.tree.named = true ∧ sampleSources.Agree reversedSources ∧
      Listing sampleSources [] javaFiles ["/A.java", "/b/B.java"] ∧
      sourceFiles reversedSources (.ofString "/") javaFiles none =
        sourceFiles sampleSources (.ofString "/") javaFiles none := by
  have htidy : sampleSources.Tidy := rfl
  have hnamed : sampleSources.tree.named = true := by decide
  have hroot : sampleSources.find (.ofString "/") = .ok ([], sampleSources.tree) := by cbv
  have htidy' : reversedSources.Tidy := rfl
  have hnamed' : reversedSources.tree.named = true := by decide
  have hagree : sampleSources.Agree reversedSources :=
    FileSystem.agree_of_perm htidy htidy' (List.reverse_perm sampleEntries) 0 []
  have hfiles : sourceFiles sampleSources (.ofString "/") javaFiles none =
      .ok ["/A.java", "/b/B.java"] := by cbv
  obtain ⟨hlisting, -, hreversed⟩ := sourceFiles_eq_iff htidy hnamed hroot javaFiles
  exact ⟨htidy, hnamed, hroot, htidy', hnamed', hagree, (hlisting _).1 hfiles,
    hreversed reversedSources htidy' hnamed' hagree⟩

/-! ## Limits -/

section

variable {fs : FileSystem}

/-- With a limit no place is looked at after as many files were found; the first one always is. -/
theorem absolutePaths_limit (limit : Int) (found : Nat) (ls : List Location) :
    absolutePaths fs (some limit) found ls =
      absolutePaths fs none found (ls.take (max 1 (limit - found).toNat)) := by
  induction ls generalizing found with
  | nil =>
    rw [List.take_nil]
    rfl
  | cons l ls ih =>
    -- the limit is looked at after a file was added, so the first place is always among those taken
    obtain ⟨m, hm⟩ : ∃ m, max 1 (limit - found).toNat = m + 1 :=
      Nat.exists_eq_succ_of_ne_zero (by omega)
    rw [hm, List.take_succ_cons, absolutePaths, absolutePaths]
    cases fs.resolve (FileSystem.ofLocation l) with
    | error e => rfl
    | ok place =>
      simp only [Option.any_some, Option.any_none, decide_eq_true_eq, Bool.false_eq_true, if_false]
      split
      · obtain rfl : m = 0 := by omega
        rfl
      · have hnext : max 1 (limit - (found + 1 : Nat)).toNat = m := by omega
        rw [ih, hnext]

/-- The paths of the first places are the first paths. -/
theorem absolutePaths_take {found : Nat} {ls : List Location} {files : List String}
    (h : absolutePaths fs none found ls = .ok files) (m : Nat) :
    absolutePaths fs none found (ls.take m) = .ok (files.take m) := by
  induction ls generalizing files m with
  | nil =>
    cases h
    simp [absolutePaths]
  | cons l ls ih =>
    cases m with
    | zero => rfl
    | succ m =>
      obtain ⟨place, rest, hl, hrest, rfl⟩ := absolutePaths_cons_eq_ok.1 h
      exact absolutePaths_cons_eq_ok.2 ⟨place, rest.take m, hl, ih hrest m, rfl⟩

/-- A failure is met among the first places, or these have paths. -/
theorem absolutePaths_take_of_error {found : Nat} {ls : List Location} {e : FileSystem.LinkLoop}
    (h : absolutePaths fs none found ls = .error e) (m : Nat) :
    absolutePaths fs none found (ls.take m) = .error e ∨
      ∃ files, absolutePaths fs none found (ls.take m) = .ok files ∧ files.length = m := by
  induction ls generalizing m with
  | nil => cases h
  | cons l ls ih =>
    cases m with
    | zero => exact .inr ⟨[], rfl, rfl⟩
    | succ m =>
      rw [List.take_succ_cons]
      rcases absolutePaths_cons_eq_error.1 h with hl | ⟨place, hl, hrest⟩
      · exact .inl (absolutePaths_cons_eq_error.2 (.inl hl))
      · rcases ih hrest m with herror | ⟨files, hfiles, hlength⟩
        · exact .inl (absolutePaths_cons_eq_error.2 (.inr ⟨place, hl, herror⟩))
        · refine .inr ⟨place.toString :: files, ?_, congrArg (· + 1) hlength⟩
          exact absolutePaths_cons_eq_ok.2 ⟨place, files, hl, hfiles, rfl⟩

end

/-- A scan with a limit returns the first files of the scan without one, as many as the limit says but
never less than one; where the scan without a limit fails, the scan with one fails as well or has found
enough files before. -/
theorem sourceFiles_limit (fs : FileSystem) (root : Path) (s : Selection) (limit : Nat) :
    (∀ files, sourceFiles fs root s none = .ok files →
        sourceFiles fs root s (some limit) = .ok (files.take (max 1 limit))) ∧
      ∀ e, sourceFiles fs root s none = .error e →
        sourceFiles fs root s (some limit) = .error e ∨
          ∃ files, sourceFiles fs root s (some limit) = .ok files ∧ files.length = max 1 limit := by
  cases hroot : fs.find root with
  | error o =>
    have hnone : ∀ bound, sourceFiles fs root s bound = .ok [] := by
      intro bound
      rw [sourceFiles, hroot]
    simp only [hnone]
    refine ⟨?_, by simp⟩
    rintro files ⟨⟩
    rw [List.take_nil]
  | ok found =>
    obtain ⟨place, n⟩ := found
    have hnone : sourceFiles fs root s none = absolutePaths fs none 0 (admitted fs place n s) := by
      rw [sourceFiles, hroot]
    -- a limit takes the first places, and always at least one
    have hsome : sourceFiles fs root s (some limit) =
        absolutePaths fs none 0 ((admitted fs place n s).take (max 1 limit)) := by
      rw [sourceFiles, hroot]
      exact absolutePaths_limit limit 0 (admitted fs place n s)
    rw [hnone, hsome]
    exact ⟨fun files h => absolutePaths_take h _, fun e h => absolutePaths_take_of_error h _⟩

theorem sourceFiles_limit_sample :
    sourceFiles sampleSources (.ofString "/") javaFiles none = .ok ["/A.java", "/b/B.java"] ∧
      sourceFiles sampleSources (.ofString "/") javaFiles (some (1 : Nat)) = .ok ["/A.java"] := by
  have hfiles : sourceFiles sampleSources (.ofString "/") javaFiles none =
      .ok ["/A.java", "/b/B.java"] := by cbv
  exact ⟨hfiles, (sourceFiles_limit sampleSources (.ofString "/") javaFiles 1).1 _ hfiles⟩

/-- No files were asked for, and one is returned. -/
theorem not_sourceFiles_limit : ¬ ∀ (fs : FileSystem) (root : Path) (s : Selection) (limit : Nat)
    (files : List String), sourceFiles fs root s none = .ok files →
      sourceFiles fs root s (some limit) = .ok (files.take limit) := by
  intro h
  have hfiles : sourceFiles sampleSources (.ofString "/") javaFiles none =
      .ok ["/A.java", "/b/B.java"] := by cbv
  have hone : sourceFiles sampleSources (.ofString "/") javaFiles (some (0 : Nat)) =
      .ok ["/A.java"] := by cbv
  have hzero := h sampleSources (.ofString "/") javaFiles 0 _ hfiles
  rw [hone] at hzero
  cases hzero

end EndpointIndex.Scan
