import EndpointIndex.Proofs.Offset.Access

/-!
# Annotation arguments by offset

The argument list of an annotation, read between two offsets. Its values nest, and the stretch of a
value inside braces is shorter than that of the braces, also where brackets are missing, so the reading
ends. Main facts: `value_eq`, `arguments_eq`.
-/

namespace EndpointIndex.ByOffset

open Source Pattern

/-! ## Escapes -/

/-- The characters that a literal stands for, from offset `i` of its contents on. -/
def unescapeFrom (body : List Char) (i : Nat) : Except BracketError (List Char) :=
  if i < body.length then do
    let c ← charAt body i
    if c = '\\' && i + 1 < body.length then
      let d ← charAt body (i + 1)
      return escaped d :: (← unescapeFrom body (i + 2))
    else return c :: (← unescapeFrom body (i + 1))
  else return []
termination_by body.length - i

theorem unescapeFrom_eq (body : List Char) (i : Nat) :
    unescapeFrom body i = .ok (unescape (body.drop i)) := by
  induction hn : body.length - i using Nat.strong_induction_on generalizing i with
  | _ n ih =>
    rw [unescapeFrom]
    by_cases hi : i < body.length
    · rw [if_pos hi, charAt_of_getElem? (List.getElem?_eq_getElem hi), ok_bind,
        List.drop_eq_getElem_cons hi]
      generalize body[i] = c
      by_cases hescape : (c = '\\' && i + 1 < body.length) = true
      · rw [if_pos hescape]
        rw [Bool.and_eq_true, decide_eq_true_iff, decide_eq_true_iff] at hescape
        obtain ⟨rfl, hnext⟩ := hescape
        rw [charAt_of_getElem? (List.getElem?_eq_getElem hnext), ok_bind, ih _ (by omega) (i + 2) rfl,
          List.drop_eq_getElem_cons hnext]
        rfl
      · rw [if_neg hescape, ih _ (by omega) (i + 1) rfl]
        rw [Bool.and_eq_true, decide_eq_true_iff, decide_eq_true_iff] at hescape
        -- a backslash at the very end stands for itself
        rw [unescape]
        · rfl
        · intro d r hc hr
          apply hescape
          refine ⟨hc, ?_⟩
          by_contra hlast
          rw [List.drop_eq_nil_of_le (by omega)] at hr
          cases hr
    · rw [if_neg hi, List.drop_eq_nil_of_le (by omega)]
      rfl

/-! ## Stretches -/

/-- How many blanks stand at the end of a stretch that starts at `first`. -/
def blanksBefore (s : List Char) (first : Nat) : Nat → Except BracketError Nat
  | 0 => return 0
  | last + 1 =>
    if first < last + 1 then do
      let c ← charAt s last
      if Text.isBlank c then return (← blanksBefore s first last) + 1 else return 0
    else return 0

theorem blanksBefore_eq {src : List Glyph} {first stop : Nat} (hfirst : first ≤ stop)
    (hstop : stop ≤ src.length) :
    ∃ n, blanksBefore (codes src) first stop = .ok n ∧ first ≤ stop - n ∧
      ((slice src first stop).reverse.dropWhile fun g => Text.isBlank g.code).reverse =
        slice src first (stop - n) := by
  induction stop with
  | zero => exact ⟨0, rfl, by omega, by rw [slice_eq_nil (Nat.zero_le _)]; rfl⟩
  | succ last ih =>
    rw [blanksBefore]
    by_cases hlt : first < last + 1
    · have hget := List.getElem?_eq_getElem (l := src) (i := last) (by omega)
      rw [if_pos hlt, charAt_codes hget, ok_bind, slice_succ hget (by omega), List.reverse_append,
        List.reverse_singleton, List.singleton_append, List.dropWhile_cons]
      cases hblank : Text.isBlank src[last].code with
      | true =>
        obtain ⟨n, hn, hle, htrim⟩ := ih (by omega) (by omega)
        refine ⟨n + 1, ?_, ?_, ?_⟩
        · rw [if_pos rfl, hn]
          rfl
        · omega
        · rw [if_pos rfl, htrim, Nat.add_sub_add_right]
      | false =>
        refine ⟨0, rfl, by omega, ?_⟩
        rw [if_neg (by decide), List.reverse_cons, List.reverse_reverse, Nat.sub_zero,
          slice_succ hget (by omega)]
    · refine ⟨0, by rw [if_neg hlt]; rfl, by omega, ?_⟩
      rw [slice_eq_nil (by omega), Nat.sub_zero, slice_eq_nil (by omega)]
      rfl

/-- The stretches between the commas outside all brackets, from offset `k` on; `depth` brackets are open
there, and the first stretch starts at `seg`. -/
def split (s : List Char) (depth : Int) (seg k stop : Nat) : Except BracketError (List (Nat × Nat)) :=
  if k < stop then do
    let c ← charAt s k
    if c = ',' && depth = 0 then return (seg, k) :: (← split s depth (k + 1) (k + 1) stop)
    else
      let depth' := if isOpening c then depth + 1 else if isClosing c then depth - 1 else depth
      split s depth' seg (k + 1) stop
  else return [(seg, stop)]
termination_by stop - k

theorem bind_eq_ok {ε α β : Type} {x : Except ε α} {f : α → Except ε β} {b : β} (h : x >>= f = .ok b) :
    ∃ a, x = .ok a ∧ f a = .ok b := by
  cases x with
  | error e => cases h
  | ok a => exact ⟨a, rfl, h⟩

theorem bounds_of_split {s : List Char} {depth : Int} {seg k stop : Nat} {parts : List (Nat × Nat)}
    (hseg : seg ≤ k) (h : split s depth seg k stop = .ok parts) :
    ∀ p ∈ parts, seg ≤ p.1 ∧ p.2 ≤ stop := by
  induction hn : stop - k using Nat.strong_induction_on generalizing depth seg k parts with
  | _ n ih =>
    rw [split] at h
    split at h
    · obtain ⟨c, -, h⟩ := bind_eq_ok h
      split at h
      · obtain ⟨rest, hrest, h⟩ := bind_eq_ok h
        cases h
        intro p hp
        rcases List.mem_cons.1 hp with rfl | hp
        · exact ⟨Nat.le_refl _, by dsimp only; omega⟩
        · have hbounds := ih _ (by omega) (Nat.le_refl _) hrest rfl p hp
          exact ⟨by omega, hbounds.2⟩
      · exact ih _ (by omega) (by omega) h rfl
    · cases h
      intro p hp
      cases List.mem_singleton.1 hp
      exact ⟨Nat.le_refl _, Nat.le_refl _⟩

theorem prepend_nil (depth : Int) (gs : List Glyph) :
    prepend [] (splitTopLevel depth gs) = splitTopLevel depth gs :=
  (whole_nil depth (Int.le_refl depth) gs).symm

theorem split_eq {src : List Glyph} {stop : Nat} (hstop : stop ≤ src.length) (depth : Int) {seg k : Nat}
    (hseg : seg ≤ k) (hk : k ≤ stop) :
    ∃ parts, split (codes src) depth seg k stop = .ok parts ∧ (∀ p ∈ parts, p.1 ≤ p.2) ∧
      parts.map (fun p => slice src p.1 p.2) =
        prepend (slice src seg k) (splitTopLevel depth (slice src k stop)) := by
  induction hn : stop - k using Nat.strong_induction_on generalizing depth seg k with
  | _ n ih =>
    rw [split]
    by_cases hlt : k < stop
    · have hget := List.getElem?_eq_getElem (l := src) (i := k) (by omega)
      rw [if_pos hlt, charAt_codes hget, ok_bind, slice_cons hget hlt]
      -- only a comma outside all brackets ends a part
      by_cases hcomma : (src[k].code = ',' && depth = 0) = true
      · obtain ⟨parts, hparts, hle, hmap⟩ := ih _ (by omega) depth (Nat.le_refl (k + 1)) (by omega) rfl
        refine ⟨(seg, k) :: parts, ?_, ?_, ?_⟩
        · rw [if_pos hcomma, hparts]
          rfl
        · intro p hp
          rcases List.mem_cons.1 hp with rfl | hp
          · exact hseg
          · exact hle p hp
        · rw [slice_eq_nil (Nat.le_refl _), prepend_nil] at hmap
          rw [splitTopLevel, if_pos hcomma, List.map_cons, hmap, prepend, List.append_nil]
      · obtain ⟨parts, hparts, hle, hmap⟩ := ih _ (by omega) (if isOpening src[k].code then depth + 1
          else if isClosing src[k].code then depth - 1 else depth) (by omega : seg ≤ k + 1) (by omega) rfl
        refine ⟨parts, by rw [if_neg hcomma]; exact hparts, hle, ?_⟩
        rw [hmap, splitTopLevel_cons _ (by simpa using hcomma) rfl, ← prepend_append, slice_succ hget hseg]
    · have hend : k = stop := by omega
      subst hend
      refine ⟨[(seg, k)], by rw [if_neg hlt]; rfl, ?_, ?_⟩
      · intro p hp
        cases List.mem_singleton.1 hp
        exact hseg
      · rw [slice_eq_nil (Nat.le_refl k), splitTopLevel, prepend, List.append_nil]
        rfl

/-- The stretches between the commas of an argument list. -/
def pieces (s : List Char) (start stop : Nat) :
    Except BracketError { parts : List (Nat × Nat) // ∀ p ∈ parts, start ≤ p.1 ∧ p.2 ≤ stop } :=
  match h : split s 0 start start stop with
  | .ok parts => .ok ⟨parts, bounds_of_split (Nat.le_refl start) h⟩
  | .error e => .error e

theorem pieces_eq {src : List Glyph} {start stop : Nat} (hstart : start ≤ stop) (hstop : stop ≤ src.length) :
    ∃ parts, ∃ hparts : ∀ p ∈ parts, start ≤ p.1 ∧ p.2 ≤ stop,
      pieces (codes src) start stop = .ok ⟨parts, hparts⟩ ∧ (∀ p ∈ parts, p.1 ≤ p.2) ∧
        parts.map (fun p => slice src p.1 p.2) = splitTopLevel 0 (slice src start stop) := by
  obtain ⟨parts, hparts, hle, hmap⟩ := split_eq hstop 0 (Nat.le_refl start) hstart
  rw [slice_eq_nil (Nat.le_refl start), prepend_nil] at hmap
  unfold pieces
  split
  · rename_i parts' hok
    have hparts' := hok
    rw [hparts, Except.ok.injEq] at hparts'
    rw [hparts'] at hle hmap
    exact ⟨parts', bounds_of_split (Nat.le_refl start) hok, rfl, hle, hmap⟩
  · rename_i e he
    rw [hparts] at he
    cases he

/-! ## Values -/

/-- Whether the first character of a stretch is a brace that the last one closes. -/
def isBraced (s : List Char) (first last : Nat) : Except BracketError Bool := do
  let c ← charAt s first
  if c = '{' then return (← closeBelow s first last).1 = last - 1 else return false

/-- The value of a stretch without braces around it. -/
def plainValue (gs : List Glyph) : Except BracketError Value :=
  match quoted? gs with
  | some body => return .literal (String.ofList (← unescapeFrom body 0))
  | none =>
    match wholeName? gs with
    | some parts => return referenceOf parts
    | none => return .unresolved (String.ofList (raws gs))

/-- The value that stands between two offsets of an argument list. -/
def value (src : List Glyph) (start stop : Nat) : Except BracketError Value := do
  let ⟨first, _⟩ ← skipBlanksBelow (codes src) start stop
  let last := stop - (← blanksBefore (codes src) first stop)
  if first < last then
    if ← isBraced (codes src) first last then
      let ⟨parts, _hparts⟩ ← pieces (codes src) (first + 1) (last - 1)
      let items ← (parts.filter fun p => !isBlankStretch (slice src p.1 p.2)).attach.mapM
        fun ⟨p, _hp⟩ => value src p.1 p.2
      return .array items
    else plainValue (slice src first last)
  else return .unresolved ""
termination_by stop - start
decreasing_by
  have hp := _hparts p (List.mem_filter.1 _hp).1
  omega

theorem isBraced_eq {src : List Glyph} {first last : Nat} (hlt : first < last) (hlast : last ≤ src.length) :
    isBraced (codes src) first last = .ok (braced? (slice src first last)).isSome ∧
      ∀ inner, braced? (slice src first last) = some inner →
        first + 1 < last ∧ inner = slice src (first + 1) (last - 1) := by
  have hget := List.getElem?_eq_getElem (l := src) (i := first) (by omega)
  have hrest : (slice src (first + 1) last).length = last - (first + 1) := length_slice hlast
  rw [isBraced, charAt_codes hget, ok_bind, slice_cons hget hlt, braced?, ← slice_cons hget hlt]
  generalize src[first] = g at *
  by_cases hbrace : g.code = '{'
  · obtain ⟨k, hbounds, hk, hpos, hvalue⟩ :=
      closeBelow_codes hget (by rw [hbrace]; rfl) hlt hlast (c := '}')
    rw [hbrace] at hvalue
    -- the brace is closed by the last character just if the search ends there
    have hiff : k = last - 1 ↔ closeOffset '{' '}' 0 (codes (slice src first last)) =
        some (slice src (first + 1) last).length := by
      rw [hvalue, hrest]
      cases closeOffset '{' '}' 0 (codes (slice src first last)) with
      | none =>
        show last = last - 1 ↔ none = some _
        have hne : last ≠ last - 1 := by omega
        simp [hne]
      | some n =>
        show first + n = last - 1 ↔ some n = some _
        rw [Option.some.injEq]
        omega
    rw [if_pos hbrace, hk, ok_bind]
    by_cases hclosed : k = last - 1
    · rw [if_pos (by simp [hbrace, hiff.1 hclosed])]
      refine ⟨by simp [hclosed], ?_⟩
      intro inner hinner
      cases hinner
      exact ⟨by omega, dropLast_slice hlast⟩
    · rw [if_neg (by simp [hbrace, ← hiff, hclosed])]
      exact ⟨by simp [hclosed], fun inner hinner => by cases hinner⟩
  · rw [if_neg hbrace, if_neg (by simp [hbrace])]
    exact ⟨rfl, fun inner hinner => by cases hinner⟩

theorem plainValue_eq (gs : List Glyph) :
    plainValue gs =
      .ok (match quoted? gs with
        | some body => .literal (String.ofList (unescape body))
        | none =>
          match wholeName? gs with
          | some parts => referenceOf parts
          | none => .unresolved (String.ofList (raws gs))) := by
  unfold plainValue
  cases quoted? gs with
  | some body =>
    dsimp only
    rw [unescapeFrom_eq]
    rfl
  | none => cases wholeName? gs <;> rfl

theorem mapM_eq_ok {ε α β : Type} {f : α → Except ε β} {g : α → β} {l : List α}
    (h : ∀ a ∈ l, f a = .ok (g a)) : l.mapM f = .ok (l.map g) := by
  induction l with
  | nil => rfl
  | cons a l ih =>
    rw [List.mapM_cons, h a List.mem_cons_self, ok_bind, ih fun b hb => h b (List.mem_cons_of_mem a hb)]
    rfl

theorem mapM_attach_eq_ok {ε α β : Type} {l : List α} {f : { a // a ∈ l } → Except ε β} {g : α → β}
    (h : ∀ a, ∀ ha : a ∈ l, f ⟨a, ha⟩ = .ok (g a)) : l.attach.mapM f = .ok (l.map g) := by
  rw [mapM_eq_ok (g := fun a => g a.1) fun a _ => h a.1 a.2, List.attach_map_val]

/-- The stretches that are not blank, as offsets and as glyphs. -/
theorem map_slice_filter (src : List Glyph) (parts : List (Nat × Nat)) :
    (parts.filter fun p => !isBlankStretch (slice src p.1 p.2)).map (fun p => slice src p.1 p.2) =
      (parts.map fun p => slice src p.1 p.2).filter fun s => !isBlankStretch s := by
  rw [List.filter_map]
  rfl

theorem value_eq {src : List Glyph} {start stop : Nat} (hstart : start ≤ stop) (hstop : stop ≤ src.length) :
    value src start stop = .ok (Pattern.value (slice src start stop)) := by
  induction hn : stop - start using Nat.strong_induction_on generalizing start stop with
  | _ n ih =>
    obtain ⟨first, hge, hfirst, hle, hskip⟩ := skipBlanksBelow_eq hstart hstop
    obtain ⟨blanks, hblanks, hfirst_le, htrim⟩ := blanksBefore_eq hle hstop
    have htrimmed : trimGlyphs (slice src start stop) = slice src first (stop - blanks) := by
      rw [trimGlyphs, hskip, htrim]
    rw [value, hfirst, ok_bind]
    dsimp only
    rw [hblanks, ok_bind]
    by_cases hlt : first < stop - blanks
    · obtain ⟨hbraced, hinner⟩ := isBraced_eq hlt (by omega : stop - blanks ≤ src.length)
      rw [if_pos hlt, hbraced, ok_bind, ← htrimmed]
      rw [← htrimmed] at hinner
      cases hbraces : braced? (trimGlyphs (slice src start stop)) with
      | none =>
        have hne : trimGlyphs (slice src start stop) ≠ [] := by
          rw [htrimmed, slice_cons (List.getElem?_eq_getElem (by omega)) hlt]
          exact List.cons_ne_nil _ _
        rw [value_of_not_braced hne hbraces]
        exact plainValue_eq _
      | some inner =>
        obtain ⟨htwo, rfl⟩ := hinner inner hbraces
        obtain ⟨parts, hbounds, hparts, hordered, hmap⟩ :=
          pieces_eq (by omega : first + 1 ≤ stop - blanks - 1) (by omega : stop - blanks - 1 ≤ src.length)
        -- the items lie within the braces, so they are shorter than the whole
        have hitem (p : Nat × Nat) (hp : p ∈ parts.filter fun p => !isBlankStretch (slice src p.1 p.2)) :
            value src p.1 p.2 = .ok (Pattern.value (slice src p.1 p.2)) := by
          have hmem := (List.mem_filter.1 hp).1
          have hbound := hbounds p hmem
          exact ih _ (by omega) (hordered p hmem) (by omega) rfl
        rw [Option.isSome_some, if_pos rfl, hparts, ok_bind]
        dsimp only
        rw [mapM_attach_eq_ok hitem, ok_bind, value_of_braced hbraces, ← hmap, ← map_slice_filter, List.map_map]
        rfl
    · have hnil : trimGlyphs (slice src start stop) = [] := by rw [htrimmed, slice_eq_nil (by omega)]
      rw [if_neg hlt, Pattern.value, hnil]
      rfl

/-! ## Argument lists -/

/-- Adds what one stretch of an argument list says. -/
def noteArgument (src : List Glyph) (found : Option Value × List (String × Value)) (p : Nat × Nat) :
    Except BracketError (Option Value × List (String × Value)) :=
  if isBlankStretch (slice src p.1 p.2) then return found
  else
    match namedArgument? (slice src p.1 p.2) with
    | some (key, rest) => return (found.1, found.2 ++ [(key, ← value src (p.2 - rest.length) p.2)])
    | none =>
      match found.1 with
      | none => return (some (← value src p.1 p.2), found.2)
      | some _ => return found

/-- The first unnamed value and all named values of the argument list between two offsets. -/
def arguments (src : List Glyph) (start stop : Nat) :
    Except BracketError (Option Value × List (String × Value)) := do
  let ⟨parts, _⟩ ← pieces (codes src) start stop
  parts.foldlM (noteArgument src) (none, [])

/-- An equals sign stands before the value of a named argument. -/
theorem exists_equals_of_namedArgument? {gs rest : List Glyph} {key : String}
    (h : namedArgument? gs = some (key, rest)) : ∃ e : Glyph, e.code = '=' ∧ e :: rest <:+ gs := by
  rw [namedArgument?] at h
  split at h
  · cases h
  · rename_i k r hname
    have hr := (name?_suffix hname).trans (skipBlankGlyphs_suffix gs)
    split at h
    · rename_i e r' hskip
      have hrest := skipBlankGlyphs_suffix r
      rw [hskip] at hrest
      split at h
      · rename_i hequals
        cases h
        simp only [Bool.and_eq_true, decide_eq_true_eq] at hequals
        exact ⟨e, hequals.1, hrest.trans hr⟩
      · cases h
    · cases h

theorem namedArgument?_suffix {gs rest : List Glyph} {key : String} (h : namedArgument? gs = some (key, rest)) :
    rest <:+ gs := by
  obtain ⟨e, -, hsuffix⟩ := exists_equals_of_namedArgument? h
  exact (List.suffix_cons e rest).trans hsuffix

theorem noteArgument_eq {src : List Glyph} (found : Option Value × List (String × Value)) {p : Nat × Nat}
    (hp : p.1 ≤ p.2) (hstop : p.2 ≤ src.length) :
    noteArgument src found p = .ok (Source.noteArgument found (slice src p.1 p.2)) := by
  unfold noteArgument Source.noteArgument
  split
  · rfl
  · cases hnamed : namedArgument? (slice src p.1 p.2) with
    | some keyed =>
      obtain ⟨key, rest⟩ := keyed
      obtain ⟨hrest, -, hle⟩ := eq_slice_of_suffix (namedArgument?_suffix hnamed) hp hstop
      dsimp only
      rw [value_eq hle hstop, ← hrest]
      rfl
    | none =>
      cases hfirst : found.1 with
      | none =>
        dsimp only
        rw [value_eq hp hstop]
        rfl
      | some v =>
        show Except.ok found = .ok (some v, found.2)
        rw [← hfirst]

theorem foldlM_eq_ok {ε α β : Type} {f : β → α → Except ε β} {g : β → α → β} {l : List α}
    (h : ∀ b, ∀ a ∈ l, f b a = .ok (g b a)) (b : β) : l.foldlM f b = .ok (l.foldl g b) := by
  induction l generalizing b with
  | nil => rfl
  | cons a l ih =>
    rw [List.foldlM_cons, h b a List.mem_cons_self, ok_bind, List.foldl_cons]
    exact ih (fun b c hc => h b c (List.mem_cons_of_mem a hc)) (g b a)

theorem arguments_eq {src : List Glyph} {start stop : Nat} (hstart : start ≤ stop) (hstop : stop ≤ src.length) :
    arguments src start stop = .ok (Pattern.arguments (slice src start stop)) := by
  obtain ⟨parts, hbounds, hparts, hordered, hmap⟩ := pieces_eq hstart hstop
  rw [arguments, hparts, ok_bind]
  dsimp only
  rw [foldlM_eq_ok (g := fun found p => Source.noteArgument found (slice src p.1 p.2)), arguments_eq_foldl,
    ← hmap, List.foldl_map]
  intro found p hp
  have hbound := hbounds p hp
  exact noteArgument_eq found (hordered p hp) (by omega)

end EndpointIndex.ByOffset
