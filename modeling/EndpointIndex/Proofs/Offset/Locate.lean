import EndpointIndex.Proofs.Offset.Masking
import EndpointIndex.Proofs.Source.Position
import EndpointIndex.Reader.Structural

/-!
# Locating declarations by offset

The search for the places of declarations, for which a place is an offset and a limit is another. Main
facts: what a search finds is a place of the source (`find?_placeAt`), and from whatever tree the
declarations come, they are located without a step outside the text (`declareAll_eq`).
-/

namespace EndpointIndex.ByOffset

open Source

/-! ## Places -/

/-- The place at an offset in a source that ends at a limit. -/
def placeAt (src : List Glyph) (limit i : Nat) : Cursor :=
  ⟨if i = 0 then none else (src[i - 1]?).map Glyph.code, slice src i limit⟩

section

variable {src : List Glyph} {limit i : Nat}

theorem placeAt_succ {g : Glyph} (hg : src[i]? = some g) :
    placeAt src limit (i + 1) = ⟨some g.code, slice src (i + 1) limit⟩ := by
  rw [placeAt, if_neg (Nat.succ_ne_zero i), Nat.add_sub_cancel, hg]
  rfl

theorem placeAt_rest_cons {g : Glyph} (hg : src[i]? = some g) (hi : i < limit) :
    (placeAt src limit i).rest = g :: slice src (i + 1) limit :=
  slice_cons hg hi

theorem start_eq (text : List Char) :
    Cursor.start text = placeAt (glyphs text) (glyphs text).length 0 := by
  rw [placeAt, slice_self_length]
  rfl

theorem limitedTo_placeAt (hsrc : Indexed src) (hi : i ≤ limit) (hlimit : limit ≤ src.length) :
    (placeAt src src.length i).limitedTo (some limit) = placeAt src limit i := by
  rw [Cursor.limitedTo, placeAt, hsrc.takeWhile_slice hi hlimit (Nat.le_refl _), placeAt]

/-- A search sees every place from the first on. -/
theorem find?_step {α : Type} (matchAt : Cursor → Option α) (hi : i < limit) (hlimit : limit ≤ src.length) :
    (placeAt src limit i).find? matchAt =
      (matchAt (placeAt src limit i)).or ((placeAt src limit (i + 1)).find? matchAt) := by
  have hget := List.getElem?_eq_getElem (l := src) (i := i) (by omega)
  rw [placeAt_succ hget, Cursor.find?, placeAt_rest_cons hget hi, Cursor.find?.go]
  have hplace : (⟨(placeAt src limit i).before, src[i] :: slice src (i + 1) limit⟩ : Cursor) =
      placeAt src limit i := by
    rw [← slice_cons hget hi]
    rfl
  rw [hplace]
  cases matchAt (placeAt src limit i) <;> rfl

theorem find?_end {α : Type} (matchAt : Cursor → Option α) (hi : limit ≤ i) :
    (placeAt src limit i).find? matchAt = matchAt (placeAt src limit i) := by
  rw [Cursor.find?, placeAt, slice_eq_nil hi]
  rfl

/-- What a search finds is the first match, whatever is made of it. -/
theorem find?_placeAt {α : Type} (matchAt : Cursor → Option α) (hi : i ≤ limit) (hlimit : limit ≤ src.length) :
    (∀ (β : Type) (h : Cursor → α → β),
        (placeAt src limit i).find? (fun p => (matchAt p).map (h p)) = none) ∨
      ∃ j a, i ≤ j ∧ j ≤ limit ∧ matchAt (placeAt src limit j) = some a ∧
        ∀ (β : Type) (h : Cursor → α → β),
          (placeAt src limit i).find? (fun p => (matchAt p).map (h p)) = some (h (placeAt src limit j) a) := by
  induction hn : limit - i generalizing i with
  | zero =>
    simp only [find?_end _ (by omega : limit ≤ i)]
    cases hmatch : matchAt (placeAt src limit i) with
    | none => exact .inl fun β h => rfl
    | some a => exact .inr ⟨i, a, Nat.le_refl i, hi, hmatch, fun β h => rfl⟩
  | succ n ih =>
    simp only [find?_step _ (by omega : i < limit) hlimit]
    cases hmatch : matchAt (placeAt src limit i) with
    | none =>
      rcases ih (by omega : i + 1 ≤ limit) (by omega) with hnone | ⟨j, a, hij, hj, ha, hfind⟩
      · exact .inl hnone
      · exact .inr ⟨j, a, by omega, hj, ha, hfind⟩
    | some a => exact .inr ⟨i, a, Nat.le_refl i, hi, hmatch, fun β h => rfl⟩

/-- Moving to an offset is going to the later of the two. -/
theorem moveTo_placeAt (hsrc : Indexed src) {k : Nat} (hi : i ≤ src.length) (hk : k ≤ src.length) :
    (placeAt src src.length i).moveTo k = placeAt src src.length (max i k) := by
  induction hn : src.length - i generalizing i with
  | zero =>
    have hmax : max i k = i := by omega
    rw [hmax, Cursor.moveTo, placeAt, slice_eq_nil (by omega)]
    rfl
  | succ n ih =>
    have hget := List.getElem?_eq_getElem (l := src) (i := i) (by omega)
    rw [Cursor.moveTo, placeAt_rest_cons hget (by omega), Cursor.moveTo.go, hsrc _ _ hget]
    by_cases hik : i < k
    · have hmax : max (i + 1) k = max i k := by omega
      have hstep := ih (by omega : i + 1 ≤ src.length) (by omega)
      rw [placeAt_succ hget, hmax] at hstep
      rw [if_pos hik]
      exact hstep
    · have hmax : max i k = i := by omega
      rw [if_neg hik, hmax, ← slice_cons hget (by omega)]
      rfl

/-- The place after blanks is that after the glyphs that are skipped. -/
theorem skipBlanks_placeAt (hi : i ≤ limit) (hlimit : limit ≤ src.length) :
    ∃ j, i ≤ j ∧ j ≤ limit ∧ (placeAt src limit i).skipBlanks = placeAt src limit j ∧
      Pattern.skipBlankGlyphs (slice src i limit) = slice src j limit := by
  induction hn : limit - i generalizing i with
  | zero =>
    refine ⟨i, Nat.le_refl i, hi, ?_⟩
    rw [Cursor.skipBlanks, placeAt, slice_eq_nil (by omega)]
    exact ⟨rfl, rfl⟩
  | succ n ih =>
    have hget := List.getElem?_eq_getElem (l := src) (i := i) (by omega)
    rw [Cursor.skipBlanks, placeAt_rest_cons hget (by omega), Cursor.skipBlanks.go, slice_cons hget (by omega),
      Pattern.skipBlankGlyphs, List.dropWhile_cons]
    cases hblank : Text.isBlank src[i].code with
    | true =>
      obtain ⟨j, hij, hj, hskip, hrest⟩ := ih (by omega : i + 1 ≤ limit) (by omega)
      rw [placeAt_succ hget] at hskip
      exact ⟨j, by omega, hj, hskip, hrest⟩
    | false =>
      refine ⟨i, Nat.le_refl i, hi, ?_, ?_⟩
      · rw [if_neg (by decide), ← slice_cons hget (by omega)]
        rfl
      · rw [if_neg (by decide), ← slice_cons hget (by omega)]

theorem next?_placeAt {c : Char} (hlimit : limit ≤ src.length) :
    (placeAt src limit i).next? = some c ↔ i < limit ∧ ∃ g, src[i]? = some g ∧ g.code = c := by
  unfold Cursor.next?
  by_cases hi : i < limit
  · have hget := List.getElem?_eq_getElem (l := src) (i := i) (by omega)
    rw [placeAt_rest_cons hget hi, List.head?_cons, Option.map_some, Option.some.injEq, hget]
    simp [hi]
  · rw [placeAt, slice_eq_nil (by omega)]
    simp [hi]

theorem skipBlanks_rest (c : Cursor) : c.skipBlanks.rest = Pattern.skipBlankGlyphs c.rest := by
  obtain ⟨before, rest⟩ := c
  show (Cursor.skipBlanks.go before rest).rest = rest.dropWhile _
  induction rest generalizing before with
  | nil => rfl
  | cons g rest ih =>
    rw [Cursor.skipBlanks.go, List.dropWhile_cons]
    cases Text.isBlank g.code with
    | true => exact ih (some g.code)
    | false => rfl

/-- The place after a text that is here. -/
theorem after?_placeAt {text : List Char} {c : Cursor} (hi : i ≤ limit) (hlimit : limit ≤ src.length)
    (h : (placeAt src limit i).after? text = some c) :
    c = placeAt src limit (i + text.length) ∧ i + text.length ≤ limit := by
  unfold Cursor.after? at h
  split at h
  · rename_i hcodes
    have hlength := congrArg List.length hcodes
    rw [length_codes, List.length_take, placeAt, length_slice hlimit] at hlength
    have hle : i + text.length ≤ limit := by omega
    refine ⟨?_, hle⟩
    cases h
    rw [placeAt, placeAt, drop_slice, Cursor.mk.injEq]
    refine ⟨?_, rfl⟩
    rw [placeAt, take_slice hle] at hcodes
    -- a cursor remembers the character before it, here the last one of the text
    by_cases hempty : text.length = 0
    · rw [List.length_eq_zero_iff.1 hempty]
      rfl
    · have hpos : i + text.length ≠ 0 := by omega
      have hget := List.getElem?_eq_getElem (l := src) (i := i + text.length - 1) (by omega)
      have hlast := congrArg List.getLast? hcodes
      rw [codes, List.getLast?_map, getLast?_slice (by omega) (by omega), hget] at hlast
      rw [if_neg hpos, ← hlast, hget]
      rfl
  · cases h

/-- After a glyph that is left of a slice there is a place. -/
theorem place_of_suffix {g : Glyph} {r : List Glyph} (h : g :: r <:+ slice src i limit) (hi : i ≤ limit)
    (hlimit : limit ≤ src.length) :
    ∃ k, i ≤ k ∧ k + 1 ≤ limit ∧ src[k]? = some g ∧ ⟨some g.code, r⟩ = placeAt src limit (k + 1) := by
  obtain ⟨hslice, hle, -⟩ := eq_slice_of_suffix h hi hlimit
  rw [List.length_cons] at hslice hle
  have hlength := h.length_le
  rw [List.length_cons, length_slice hlimit] at hlength
  have hget := List.getElem?_eq_getElem (l := src) (i := limit - (r.length + 1)) (by omega)
  rw [slice_cons hget (by omega), List.cons.injEq] at hslice
  refine ⟨limit - (r.length + 1), hle, by omega, ?_, ?_⟩
  · rw [hget, hslice.1]
  · rw [placeAt_succ hget, ← hslice.1, ← hslice.2]

/-- The places after the qualifiers of a name are places after its start. -/
theorem mem_qualifierStops (fuel : Nat) (hi : i ≤ limit) (hlimit : limit ≤ src.length) :
    ∀ p ∈ qualifierStops (placeAt src limit i) fuel, ∃ j, i ≤ j ∧ j ≤ limit ∧ p = placeAt src limit j := by
  induction fuel generalizing i with
  | zero =>
    intro p hp
    exact ⟨i, Nat.le_refl i, hi, List.mem_singleton.1 hp⟩
  | succ fuel ih =>
    have hself (p : Cursor) (hp : p ∈ [placeAt src limit i]) :
        ∃ j, i ≤ j ∧ j ≤ limit ∧ p = placeAt src limit j :=
      ⟨i, Nat.le_refl i, hi, List.mem_singleton.1 hp⟩
    unfold qualifierStops
    split
    · exact hself
    · rename_i g r hrest
      split
      · dsimp only
        split
        · rename_i d r' hdot
          split
          · rename_i hcode
            rw [skipBlanks_rest] at hdot
            have hsuffix : d :: r' <:+ slice src i limit := by
              show d :: r' <:+ (placeAt src limit i).rest
              rw [← hdot, hrest]
              exact (skipBlankGlyphs_suffix _).trans ((List.dropWhile_suffix _).trans (List.suffix_cons g r))
            -- the dot stands in the source, and the next name after it
            obtain ⟨k, hik, hk, -, hafter⟩ := place_of_suffix hsuffix hi hlimit
            obtain ⟨j, hkj, hj, hskip, -⟩ := skipBlanks_placeAt hk hlimit
            rw [hcode] at hafter
            rw [hafter, hskip]
            intro p hp
            rcases List.mem_cons.1 hp with rfl | hp
            · exact ⟨i, Nat.le_refl i, hi, rfl⟩
            · obtain ⟨j', hjj', hj', rfl⟩ := ih hj p hp
              exact ⟨j', by omega, hj', rfl⟩
          · exact hself
        · exact hself
      · exact hself

theorem annotationAt?_placeAt {simple : String} {stop : Cursor} (hi : i ≤ limit) (hlimit : limit ≤ src.length)
    (h : annotationAt? simple (placeAt src limit i) = some stop) :
    ∃ e, i < e ∧ e ≤ limit ∧ stop = placeAt src limit e := by
  unfold annotationAt? at h
  obtain ⟨name, hname, h⟩ := Option.bind_eq_some_iff.1 h
  obtain ⟨rfl, hlt⟩ := after?_placeAt hi hlimit hname
  obtain ⟨j, hij, hj, hskip, -⟩ := skipBlanks_placeAt hlt hlimit
  obtain ⟨p, hp, h⟩ := List.exists_of_findSome?_eq_some h
  rw [List.mem_reverse, hskip] at hp
  obtain ⟨k, hjk, hk, rfl⟩ := mem_qualifierStops _ hj hlimit p hp
  obtain ⟨stop', hstop, h⟩ := Option.bind_eq_some_iff.1 h
  obtain ⟨rfl, hle⟩ := after?_placeAt hk hlimit hstop
  dsimp only [List.length_singleton] at hij
  split at h
  · cases h
    exact ⟨_, by omega, hle, rfl⟩
  · cases h

theorem typeAt?_placeAt {keyword name : String} {stop : Cursor} (hi : i ≤ limit) (hlimit : limit ≤ src.length)
    (h : typeAt? keyword name (placeAt src limit i) = some stop) :
    ∃ e, i < e ∧ e ≤ limit ∧ stop = placeAt src limit e := by
  unfold typeAt? at h
  dsimp only at h
  split at h
  · cases h
  · obtain ⟨blank, hblank, h⟩ := Option.bind_eq_some_iff.1 h
    obtain ⟨rfl, hle⟩ := after?_placeAt hi hlimit hblank
    obtain ⟨j, hij, hj, hskip, -⟩ := skipBlanks_placeAt hle hlimit
    rw [hskip] at h
    split at h
    · cases h
    · rename_i hblanks
      -- there is a blank between the keyword and the name
      have hlt : i < j := by
        by_contra hge
        have hsame : j = i + keyword.toList.length := by omega
        exact hblanks (by rw [hsame])
      obtain ⟨stop', hstop, h⟩ := Option.bind_eq_some_iff.1 h
      obtain ⟨rfl, hle⟩ := after?_placeAt hj hlimit hstop
      split at h
      · cases h
        exact ⟨_, by omega, hle, rfl⟩
      · cases h

theorem methodAt?_placeAt {name : String} {stop paren : Cursor} (hi : i ≤ limit) (hlimit : limit ≤ src.length)
    (h : methodAt? name (placeAt src limit i) = some (stop, paren)) :
    stop = placeAt src limit (i + name.toList.length) ∧
      ∃ k g, i + name.toList.length ≤ k ∧ k < limit ∧ paren = placeAt src limit k ∧ src[k]? = some g ∧
        g.code = '(' := by
  unfold methodAt? at h
  dsimp only at h
  split at h
  · cases h
  · obtain ⟨stop', hstop, h⟩ := Option.bind_eq_some_iff.1 h
    obtain ⟨rfl, hle⟩ := after?_placeAt hi hlimit hstop
    obtain ⟨k, hik, hk, hskip, -⟩ := skipBlanks_placeAt hle hlimit
    rw [hskip] at h
    split at h
    · rename_i hnext
      cases h
      obtain ⟨hlt, g, hg, hcode⟩ := (next?_placeAt hlimit).1 hnext
      exact ⟨rfl, k, g, hik, hlt, rfl, hg, hcode⟩
    · cases h

/-- What was found between two places, by its offsets. -/
theorem foundBetween_eq (lines : LineTable) (hsrc : Indexed src) {e : Nat} {stop : Cursor} (hi : i < limit)
    (hie : i ≤ e) (he : e ≤ limit) (hlimit : limit ≤ src.length) (hstop : stop.rest = slice src e limit) :
    foundBetween lines (placeAt src limit i) stop = ⟨lines.span i e, i, stop⟩ := by
  have hget := List.getElem?_eq_getElem (l := src) (i := i) (by omega)
  have hfirst : ((placeAt src limit i).rest.head?.map Glyph.offset).getD lines.size = i := by
    rw [placeAt_rest_cons hget hi, List.head?_cons, Option.map_some, Option.getD_some, hsrc _ _ hget]
  -- what is covered lies between the two places
  have hcovered : (placeAt src limit i).rest.take ((placeAt src limit i).rest.length - stop.rest.length) =
      slice src i e := by
    have hwidth : limit - i - (limit - e) = e - i := by omega
    have hend : i + (e - i) = e := by omega
    rw [hstop, placeAt, length_slice hlimit, length_slice hlimit, hwidth, take_slice (by omega), hend]
  unfold foundBetween spanBetween
  dsimp only
  rw [hfirst, hcovered, Found.mk.injEq]
  refine ⟨?_, rfl, rfl⟩
  by_cases hlt : i < e
  · have hlast := List.getElem?_eq_getElem (l := src) (i := e - 1) (by omega)
    have hend : ((e - 1 : Nat) : Int) + 1 = e := by omega
    rw [getLast?_slice hlt (by omega), hlast, Option.map_some, Option.getD_some, hsrc _ _ hlast, hend]
  · -- nothing is covered, but a span has at least one character
    have hsame : e = i := by omega
    have hmax : max (i : Int) (i + 1 - 1) = max (i : Int) (i - 1) := by omega
    rw [hsame, slice_eq_nil (Nat.le_refl i), List.getLast?_nil, Option.map_none, Option.getD_none,
      LineTable.span, LineTable.span, hmax]

end

/-! ## Searches -/

/-- A declaration that was found: its span and the offsets at which it starts and ends. -/
structure Spot where
  span : Span
  start : Nat
  stop : Nat

/-- The first match from an offset on: the offset at which it starts, and that of a place it leads to. -/
def search {α : Type} (src : List Glyph) (matchAt : Cursor → Option α) (place : α → Cursor) (i limit : Nat) :
    Option (Nat × Nat) :=
  (placeAt src limit i).find? fun p => (matchAt p).map fun a =>
    (limit - p.rest.length, limit - (place a).rest.length)

def findType (src : List Glyph) (lines : LineTable) (keyword name : String) (i : Nat) : Option Spot :=
  (search src (typeAt? keyword name) id i src.length).map fun (first, stop) =>
    ⟨lines.span first stop, first, stop⟩

/-- A method from its name to the end of its parameters; only the name if they do not end. -/
def findMethod (src : List Glyph) (lines : LineTable) (name : String) (i : Nat) :
    Except BracketError (Option Spot) :=
  match search src (methodAt? name) Prod.snd i src.length with
  | none => return none
  | some (first, paren) => do
    let ⟨close, _⟩ ← closeBelow (codes src) paren src.length
    let stop := if close < src.length then close + 1 else first + name.toList.length
    return some ⟨lines.span first stop, first, stop⟩

/-- The offset after the argument list that follows an annotation's name, if one does. A list that does not
end takes all up to the limit. -/
def argumentsEnd (src : List Glyph) (i limit : Nat) : Except BracketError Nat := do
  let ⟨j, _⟩ ← skipBlanksBelow (codes src) i limit
  if j < limit then
    if (← charAt (codes src) j) = '(' then
      let ⟨close, _⟩ ← closeBelow (codes src) j limit
      return min (close + 1) limit
    else return i
  else return i

/-- An annotation with its arguments, before the limit. -/
def findAnnotation (src : List Glyph) (lines : LineTable) (simple : String) (i limit : Nat) :
    Except BracketError (Option Spot) :=
  match search src (annotationAt? simple) id i limit with
  | none => return none
  | some (first, last) => do
    let stop ← argumentsEnd src last limit
    return some ⟨lines.span first stop, first, stop⟩

section

variable {src : List Glyph} {i limit : Nat}

/-- The offset of a place, told from what is left there. -/
theorem offset_placeAt (hi : i ≤ limit) (hlimit : limit ≤ src.length) :
    limit - (placeAt src limit i).rest.length = i := by
  rw [placeAt, length_slice hlimit]
  omega

/-- The stretch lies between two offsets. -/
structure Spot.Within (i limit : Nat) (s : Spot) : Prop where
  le_start : i ≤ s.start
  le_stop : s.start ≤ s.stop
  stop_le : s.stop ≤ limit

/-- What was found, with the place after it. -/
def Spot.found (src : List Glyph) (s : Spot) : Found := ⟨s.span, s.start, placeAt src src.length s.stop⟩

theorem findType_eq (lines : LineTable) (hsrc : Indexed src) (keyword name : String) (hi : i ≤ src.length) :
    findType? lines keyword name (placeAt src src.length i) =
        (findType src lines keyword name i).map (Spot.found src) ∧
      ∀ s, findType src lines keyword name i = some s → s.Within i src.length := by
  unfold findType? findType search
  rcases find?_placeAt (typeAt? keyword name) hi (Nat.le_refl src.length) with
    hnone | ⟨j, stop, hij, hj, hmatch, hfind⟩
  · rw [hnone, hnone]
    refine ⟨rfl, ?_⟩
    intro s hs
    cases hs
  · obtain ⟨e, hje, he, rfl⟩ := typeAt?_placeAt hj (Nat.le_refl _) hmatch
    rw [hfind, hfind, foundBetween_eq lines hsrc (by omega) (by omega) he (Nat.le_refl _) rfl]
    dsimp only [Option.map_some, id]
    rw [offset_placeAt hj (Nat.le_refl _), offset_placeAt he (Nat.le_refl _)]
    refine ⟨rfl, ?_⟩
    rintro s ⟨⟩
    exact ⟨hij, Nat.le_of_lt hje, he⟩

/-- The place after the parenthesis that closes the one at an offset. -/
theorem afterClosing?_placeAt {k : Nat} {g : Glyph} (hg : src[k]? = some g) (hcode : g.code = '(')
    (hk : k < limit) (hlimit : limit ≤ src.length) :
    ∃ close, ∃ hclose : k ≤ close ∧ close ≤ limit,
      closeBelow (codes src) k limit = .ok ⟨close, hclose⟩ ∧ k < close ∧
      afterClosing? (placeAt src limit k) =
        if close < limit then some (placeAt src limit (close + 1)) else none := by
  obtain ⟨close, hbounds, hclose, hpos, hvalue⟩ :=
    closeBelow_codes hg (by rw [hcode]; rfl) hk hlimit (c := ')')
  rw [hcode] at hvalue
  refine ⟨close, hbounds, hclose, hpos, ?_⟩
  unfold afterClosing?
  dsimp only [placeAt]
  cases hoffset : closeOffset '(' ')' 0 (codes (slice src k limit)) with
  | none =>
    rw [hoffset, Option.elim_none] at hvalue
    rw [if_neg (by omega)]
    rfl
  | some n =>
    rw [hoffset, Option.elim_some] at hvalue
    have hlt := closeOffset_lt hoffset
    rw [length_codes, length_slice hlimit] at hlt
    have hlast := closeOffset_getElem? hoffset
    rw [codes, List.getElem?_map, getElem?_slice (by omega)] at hlast
    subst hvalue
    rw [if_pos (by omega), Option.map_some, drop_slice, if_neg (Nat.succ_ne_zero _), Nat.add_sub_cancel, hlast]
    rfl

theorem findMethod_eq (lines : LineTable) (hsrc : Indexed src) (name : String) (hi : i ≤ src.length) :
    ∃ spot, findMethod src lines name i = .ok spot ∧
      findMethod? lines name (placeAt src src.length i) = spot.map (Spot.found src) ∧
      ∀ s, spot = some s → s.Within i src.length := by
  unfold findMethod? findMethod search
  rcases find?_placeAt (methodAt? name) hi (Nat.le_refl src.length) with
    hnone | ⟨j, ⟨stop, paren⟩, hij, hj, hmatch, hfind⟩
  · rw [hnone, hnone]
    refine ⟨none, rfl, rfl, ?_⟩
    intro s hs
    cases hs
  · obtain ⟨rfl, k, g, hjk, hk, rfl, hg, hcode⟩ := methodAt?_placeAt hj (Nat.le_refl _) hmatch
    obtain ⟨close, hbounds, hclose, hpos, hafter⟩ := afterClosing?_placeAt hg hcode hk (Nat.le_refl _)
    rw [hfind, hfind]
    dsimp only
    rw [hafter, offset_placeAt hj (Nat.le_refl _), offset_placeAt (Nat.le_of_lt hk) (Nat.le_refl _), hclose,
      ok_bind]
    dsimp only
    -- where the parentheses stay open, the span ends with the opening one
    by_cases hlt : close < src.length
    · rw [if_pos hlt, if_pos hlt, Option.getD_some,
        foundBetween_eq lines hsrc (by omega) (by omega : j ≤ close + 1) hlt (Nat.le_refl _) rfl]
      refine ⟨_, rfl, rfl, ?_⟩
      rintro s ⟨⟩
      exact ⟨hij, by dsimp only; omega, hlt⟩
    · rw [if_neg hlt, if_neg hlt, Option.getD_none,
        foundBetween_eq lines hsrc (by omega) (Nat.le_add_right j _) (by omega) (Nat.le_refl _) rfl]
      refine ⟨_, rfl, rfl, ?_⟩
      rintro s ⟨⟩
      exact ⟨hij, Nat.le_add_right j _, by dsimp only; omega⟩

theorem skipBlanksBelow_placeAt (hi : i ≤ limit) (hlimit : limit ≤ src.length) :
    ∃ j, ∃ hj : i ≤ j, skipBlanksBelow (codes src) i limit = .ok ⟨j, hj⟩ ∧ j ≤ limit ∧
      (placeAt src limit i).skipBlanks = placeAt src limit j := by
  obtain ⟨j, hij, hskip, hj, hrest⟩ := skipBlanksBelow_eq hi hlimit
  obtain ⟨k, hik, hk, hplace, hrest'⟩ := skipBlanks_placeAt hi hlimit
  have hlength := congrArg List.length (hrest.symm.trans hrest')
  rw [length_slice hlimit, length_slice hlimit] at hlength
  have hsame : k = j := by omega
  rw [hsame] at hplace
  exact ⟨j, hij, hskip, hj, hplace⟩

theorem argumentsEnd_eq (hi : i ≤ limit) (hlimit : limit ≤ src.length) :
    ∃ stop, argumentsEnd src i limit = .ok stop ∧ i ≤ stop ∧ stop ≤ limit ∧
      (afterArguments (placeAt src limit i)).rest = slice src stop limit := by
  obtain ⟨j, hij, hskip, hj, hplace⟩ := skipBlanksBelow_placeAt hi hlimit
  have hnext := next?_placeAt (i := j) (c := '(') hlimit
  rw [argumentsEnd, hskip, ok_bind, afterArguments, hplace]
  dsimp only
  by_cases hlt : j < limit
  · have hget := List.getElem?_eq_getElem (l := src) (i := j) (by omega)
    rw [if_pos hlt, charAt_codes hget, ok_bind]
    by_cases hparen : src[j].code = '('
    · obtain ⟨close, hbounds, hclose, hpos, hafter⟩ := afterClosing?_placeAt hget hparen hlt hlimit
      rw [if_pos hparen, if_pos (hnext.2 ⟨hlt, _, hget, hparen⟩), hclose, ok_bind, hafter]
      refine ⟨min (close + 1) limit, rfl, by omega, by omega, ?_⟩
      -- arguments that stay open reach to the limit
      by_cases hend : close < limit
      · rw [if_pos hend, Nat.min_eq_left hend]
        rfl
      · rw [if_neg hend, slice_eq_nil (by omega)]
        rfl
    · rw [if_neg hparen, if_neg]
      · exact ⟨i, rfl, Nat.le_refl i, hi, rfl⟩
      · intro h
        obtain ⟨-, g, hg, hcode⟩ := hnext.1 h
        rw [hget] at hg
        cases hg
        exact hparen hcode
  · rw [if_neg hlt, if_neg fun h => hlt (hnext.1 h).1]
    exact ⟨i, rfl, Nat.le_refl i, hi, rfl⟩

/-- What was found and what is left after it, as glyphs and as offsets. -/
theorem findAnnotation_eq (lines : LineTable) (hsrc : Indexed src) (simple : String) (hi : i ≤ limit)
    (hlimit : limit ≤ src.length) :
    ∃ spot, findAnnotation src lines simple i limit = .ok spot ∧
      ((placeAt src limit i).find? fun p => (annotationAt? simple p).map fun stop =>
          foundBetween lines p (afterArguments stop)).map (fun f => (f.span, f.after.rest)) =
        spot.map (fun s => (s.span, slice src s.stop limit)) ∧
      ∀ s, spot = some s → s.Within i limit := by
  unfold findAnnotation search
  rcases find?_placeAt (annotationAt? simple) hi hlimit with hnone | ⟨j, stop, hij, hj, hmatch, hfind⟩
  · rw [hnone, hnone]
    refine ⟨none, rfl, rfl, ?_⟩
    intro s hs
    cases hs
  · obtain ⟨e, hje, he, rfl⟩ := annotationAt?_placeAt hj hlimit hmatch
    obtain ⟨stop, hstop, hes, hle, hrest⟩ := argumentsEnd_eq he hlimit
    rw [hfind, hfind]
    dsimp only [id]
    rw [offset_placeAt hj hlimit, offset_placeAt he hlimit, hstop, ok_bind,
      foundBetween_eq lines hsrc (by omega) (by omega : j ≤ stop) hle hlimit hrest]
    refine ⟨_, rfl, ?_, ?_⟩
    · rw [Option.map_some, Option.map_some, hrest]
    · rintro s ⟨⟩
      exact ⟨hij, by dsimp only; omega, hle⟩

end

/-! ## Declarations -/

/-- Locates annotations one after the other before a limit. -/
def locateMarks (src : List Glyph) (lines : LineTable) (limit : Nat) :
    Nat → List Java.Mark → Except BracketError (List Annotation)
  | _, [] => return []
  | i, m :: ms => do
    let (positional, named) := Structural.argumentValues m.arguments
    match ← findAnnotation src lines (Structural.simpleName m.name) i limit with
    | some s => return ⟨m.name, positional, named, some s.span⟩ :: (← locateMarks src lines limit s.stop ms)
    | none => return ⟨m.name, positional, named, none⟩ :: (← locateMarks src lines limit i ms)

/-- The declaration's annotations, its span, and the offset after it. -/
def locate (src : List Glyph) (lines : LineTable) (marks : List Java.Mark) (found : Option Spot) (i : Nat) :
    Except BracketError (List Annotation × Option Span × Nat) :=
  match found with
  | some s => return (← locateMarks src lines s.start i marks, some s.span, s.stop)
  | none => return (← locateMarks src lines src.length i marks, none, i)

mutual

/-- Locates a declaration and its members from an offset on. -/
def declare (src : List Glyph) (lines : LineTable) (i : Nat) :
    Java.Node → Except BracketError (Declaration × Nat)
  | .method name line marks => do
    let found ← findMethod src lines name (max i (lines.lineStart line))
    let (annotations, span, after) ← locate src lines marks found i
    return (.method name annotations span, after)
  | .type kind name line marks members => do
    let found := findType src lines kind.keyword name (max i (lines.lineStart line))
    let (annotations, span, after) ← locate src lines marks found i
    let (members, after) ← declareAll src lines after members
    return (.type kind name annotations members span, after)

def declareAll (src : List Glyph) (lines : LineTable) (i : Nat) :
    List Java.Node → Except BracketError (List Declaration × Nat)
  | [] => return ([], i)
  | n :: ns => do
    let (d, i) ← declare src lines i n
    let (ds, i) ← declareAll src lines i ns
    return (d :: ds, i)

end

section

variable {src : List Glyph} {lines : LineTable}

theorem findAnnotation?_eq (hsrc : Indexed src) (simple : String) {i : Nat} (limit : Option Nat)
    (hi : i ≤ limit.getD src.length) (hlimit : limit.getD src.length ≤ src.length) :
    findAnnotation? lines simple (placeAt src src.length i) limit =
      (placeAt src (limit.getD src.length) i).find? fun p => (annotationAt? simple p).map fun stop =>
        foundBetween lines p (afterArguments stop) := by
  rw [findAnnotation?]
  cases limit with
  | none => rfl
  | some l =>
    rw [Option.getD_some] at hi hlimit ⊢
    rw [limitedTo_placeAt hsrc hi hlimit]

/-- Where an annotation ends, told from what is left after it. -/
theorem endOffset_eq (hsrc : Indexed src) (hsize : lines.size = src.length) {limit : Option Nat} {stop : Nat}
    {found : Found} (hstop : stop ≤ limit.getD src.length) (hlimit : limit.getD src.length ≤ src.length)
    (hfound : found.after.rest = slice src stop (limit.getD src.length)) :
    Structural.locateMarks.endOffset lines limit found = stop := by
  unfold Structural.locateMarks.endOffset
  rw [hfound, hsize]
  by_cases hlt : stop < limit.getD src.length
  · have hget := List.getElem?_eq_getElem (l := src) (i := stop) (by omega)
    rw [slice_cons hget hlt]
    exact hsrc _ _ hget
  · rw [slice_eq_nil (by omega)]
    show limit.getD src.length = stop
    omega

theorem locateMarks_eq (hsrc : Indexed src) (hsize : lines.size = src.length) (limit : Option Nat)
    (hlimit : limit.getD src.length ≤ src.length) (marks : List Java.Mark) {i : Nat}
    (hi : i ≤ limit.getD src.length) :
    locateMarks src lines (limit.getD src.length) i marks =
      .ok (Structural.locateMarks lines limit (placeAt src src.length i) marks) := by
  induction marks generalizing i with
  | nil => rfl
  | cons m marks ih =>
    obtain ⟨spot, hspot, hfound, hwithin⟩ := findAnnotation_eq lines hsrc
      (Structural.simpleName m.name) hi hlimit
    rw [← findAnnotation?_eq hsrc _ limit hi hlimit] at hfound
    rw [locateMarks, hspot, Structural.locateMarks]
    dsimp only
    rw [ok_bind]
    cases spot with
    | none =>
      rw [Option.map_none, Option.map_eq_none_iff] at hfound
      rw [hfound, ih hi]
      rfl
    | some s =>
      obtain ⟨f, hf, hsame⟩ := Option.map_eq_some_iff.1 (hfound.trans (Option.map_some ..))
      rw [Prod.mk.injEq] at hsame
      obtain ⟨hstart, hstop, hle⟩ := hwithin s rfl
      -- the search for the next mark goes on where this one ends
      have hmax : max i s.stop = s.stop := by omega
      rw [hf]
      dsimp only
      rw [endOffset_eq hsrc hsize hle hlimit hsame.2, moveTo_placeAt hsrc (by omega) (by omega), hmax, ih hle,
        hsame.1]
      rfl

theorem locate_eq (hsrc : Indexed src) (hsize : lines.size = src.length) (marks : List Java.Mark)
    {found : Option Spot} {i : Nat} (hi : i ≤ src.length)
    (hwithin : ∀ s, found = some s → s.Within i src.length) :
    ∃ annotations span j, locate src lines marks found i = .ok (annotations, span, j) ∧ j ≤ src.length ∧
      Structural.locate lines marks (found.map (Spot.found src)) (placeAt src src.length i) =
        (annotations, span, placeAt src src.length j) := by
  cases found with
  | none =>
    refine ⟨_, none, i, ?_, hi, rfl⟩
    have hmarks := locateMarks_eq hsrc hsize none (Nat.le_refl _) marks hi
    rw [Option.getD_none] at hmarks
    rw [locate, hmarks]
    rfl
  | some s =>
    obtain ⟨hstart, hstop, hle⟩ := hwithin s rfl
    refine ⟨_, some s.span, s.stop, ?_, hle, rfl⟩
    have hmarks := locateMarks_eq hsrc hsize (some s.start) (by rw [Option.getD_some]; omega) marks hstart
    rw [Option.getD_some] at hmarks
    rw [locate, hmarks]
    rfl

end

mutual

theorem declare_eq (text : List Char) {i : Nat} (hi : i ≤ (glyphs text).length) (n : Java.Node) :
    ∃ d j, declare (glyphs text) (.ofText text) i n = .ok (d, j) ∧ j ≤ (glyphs text).length ∧
      Structural.declare (.ofText text) (placeAt (glyphs text) (glyphs text).length i) n =
        (d, placeAt (glyphs text) (glyphs text).length j) := by
  have hsrc := indexed_glyphs text
  have hsize : (LineTable.ofText text).size = (glyphs text).length := (length_glyphs text).symm
  have hmove (line : Nat) := moveTo_placeAt hsrc hi ((LineTable.lineStart_le text line).trans (length_glyphs text).ge)
  have hfrom (line : Nat) : max i ((LineTable.ofText text).lineStart line) ≤ (glyphs text).length := by
    have hline := LineTable.lineStart_le text line
    rw [← length_glyphs] at hline
    omega
  have hweaken {line : Nat} {s : Spot}
      (hs : s.Within (max i ((LineTable.ofText text).lineStart line)) (glyphs text).length) :
      s.Within i (glyphs text).length := ⟨by have := hs.le_start; omega, hs.le_stop, hs.stop_le⟩
  cases n with
  | method name line marks =>
    obtain ⟨spot, hspot, hfound, hwithin⟩ := findMethod_eq (.ofText text) hsrc name (hfrom line)
    obtain ⟨annotations, span, j, hlocate, hj, hplace⟩ :=
      locate_eq hsrc hsize marks hi fun s hs => hweaken (hwithin s hs)
    refine ⟨.method name annotations span, j, ?_, hj, ?_⟩
    · rw [declare, hspot, ok_bind, hlocate]
      rfl
    · rw [Structural.declare, hmove, hfound, hplace]
  | type kind name line marks members =>
    obtain ⟨hfound, hwithin⟩ := findType_eq (.ofText text) hsrc kind.keyword name (hfrom line)
    obtain ⟨annotations, span, j, hlocate, hj, hplace⟩ :=
      locate_eq hsrc hsize marks hi fun s hs => hweaken (hwithin s hs)
    obtain ⟨ds, k, hmembers, hk, hrest⟩ := declareAll_eq text hj members
    refine ⟨.type kind name annotations ds span, k, ?_, hk, ?_⟩
    · rw [declare, hlocate, ok_bind]
      dsimp only
      rw [hmembers]
      rfl
    · rw [Structural.declare, hmove, hfound, hplace]
      dsimp only
      rw [hrest]

theorem declareAll_eq (text : List Char) {i : Nat} (hi : i ≤ (glyphs text).length) (ns : List Java.Node) :
    ∃ ds j, declareAll (glyphs text) (.ofText text) i ns = .ok (ds, j) ∧ j ≤ (glyphs text).length ∧
      Structural.declareAll (.ofText text) (placeAt (glyphs text) (glyphs text).length i) ns =
        (ds, placeAt (glyphs text) (glyphs text).length j) := by
  cases ns with
  | nil => exact ⟨[], i, by rw [declareAll]; rfl, hi, by rw [Structural.declareAll]⟩
  | cons n ns =>
    obtain ⟨d, j, hd, hj, hnode⟩ := declare_eq text hi n
    obtain ⟨ds, k, hds, hk, hrest⟩ := declareAll_eq text hj ns
    refine ⟨d :: ds, k, ?_, hk, ?_⟩
    · rw [declareAll, hd, ok_bind]
      dsimp only
      rw [hds]
      rfl
    · rw [Structural.declareAll, hnode]
      dsimp only
      rw [hrest]

end

end EndpointIndex.ByOffset
