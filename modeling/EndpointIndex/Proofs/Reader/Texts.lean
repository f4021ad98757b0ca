import EndpointIndex.Proofs.Reader.Redrawn

/-!
# Values up to their texts

What kind of value a stretch spells is read from its masked characters. Only the texts of literals and
of unresolved expressions are copied from what was written. So a move keeps values as far as one knows
of these texts no more than the move keeps (`mapTexts_value`).
-/

namespace EndpointIndex

open Source

namespace Value

variable (onLiteral onOther : String → String)

mutual

/-- A value with other texts in its literals and in its unresolved expressions. -/
def mapTexts : Value → Value
  | .literal text => .literal (onLiteral text)
  | .reference qualifier member => .reference qualifier member
  | .array items => .array (mapTextsAll items)
  | .unresolved text => .unresolved (onOther text)

def mapTextsAll : List Value → List Value
  | [] => []
  | v :: vs => mapTexts v :: mapTextsAll vs

end

theorem mapTextsAll_eq_map (vs : List Value) :
    mapTextsAll onLiteral onOther vs = vs.map (mapTexts onLiteral onOther) := by
  induction vs with
  | nil => rfl
  | cons v vs ih => rw [mapTextsAll, ih, List.map_cons]

mutual

theorem mapTexts_id (v : Value) : mapTexts id id v = v := by
  cases v with
  | array items => rw [mapTexts, mapTextsAll_id items]
  | _ => rfl

theorem mapTextsAll_id (vs : List Value) : mapTextsAll id id vs = vs := by
  cases vs with
  | nil => rfl
  | cons v vs => rw [mapTextsAll, mapTexts_id v, mapTextsAll_id vs]

end

end Value

/-- Of what the stretches `among` spell, a move keeps the texts up to `onLiteral` and `onOther`. -/
structure Redrawing.KeepsTexts (r : Redrawing) (onLiteral onOther : String → String)
    (among : List Glyph → Prop) : Prop where
  item : ∀ {gs inner s}, among gs → Pattern.braced? (Pattern.trimGlyphs gs) = some inner →
    s ∈ Pattern.splitTopLevel 0 inner → among s
  literal : ∀ {gs body}, among gs → Pattern.quoted? (Pattern.trimGlyphs gs) = some body →
    onLiteral (String.ofList (unescape (raws ((Pattern.trimGlyphs gs).tail.dropLast.map r.glyph)))) =
      onLiteral (String.ofList (unescape body))
  other : ∀ {gs}, among gs →
    onOther (String.ofList (raws ((Pattern.trimGlyphs gs).map r.glyph))) =
      onOther (String.ofList (raws (Pattern.trimGlyphs gs)))

namespace Pattern

theorem quoted?_eq {gs : List Glyph} {body : List Char} (h : quoted? gs = some body) :
    body = raws gs.tail.dropLast := by
  cases gs with
  | nil => cases h
  | cons g t =>
    rw [quoted?] at h
    split at h
    · cases h
      rfl
    · cases h

theorem quoted?_map (r : Redrawing) (gs : List Glyph) :
    quoted? (gs.map r.glyph) = (quoted? gs).map fun _ => raws (gs.tail.dropLast.map r.glyph) := by
  cases gs with
  | nil => rfl
  | cons g t =>
    have hlast : ((t.map r.glyph).getLast?.any fun h => h.code = '"') =
        t.getLast?.any fun h => h.code = '"' := by
      rw [List.getLast?_map]
      cases t.getLast? <;> rfl
    rw [List.map_cons, quoted?, quoted?, Redrawing.code_glyph, hlast, ← List.map_dropLast, isBlankStretch_map]
    split <;> rfl

section

variable {r : Redrawing} {onLiteral onOther : String → String} {among : List Glyph → Prop}

/-- A move keeps the value of a stretch, up to the texts that it does not keep. -/
theorem mapTexts_value (h : r.KeepsTexts onLiteral onOther among) {gs : List Glyph} (hgs : among gs) :
    (value (gs.map r.glyph)).mapTexts onLiteral onOther = (value gs).mapTexts onLiteral onOther := by
  -- the items of an array are shorter than the array
  induction hn : gs.length using Nat.strong_induction_on generalizing gs with
  | _ n ih =>
    subst hn
    have htrim := trimGlyphs_map r gs
    have hbraced := braced?_map r (trimGlyphs gs)
    rw [← htrim] at hbraced
    by_cases hnil : trimGlyphs gs = []
    · rw [value, value, htrim, hnil]
      rfl
    · have hnil' : trimGlyphs (gs.map r.glyph) ≠ [] := by
        rw [htrim]
        simpa using hnil
      cases hinner : braced? (trimGlyphs gs) with
      | none =>
        rw [hinner] at hbraced
        have hquoted := quoted?_map r (trimGlyphs gs)
        rw [value_of_not_braced hnil hinner, value_of_not_braced hnil' hbraced, htrim, hquoted, wholeName?_map]
        cases hbody : quoted? (trimGlyphs gs) with
        | some body =>
          exact congrArg Value.literal (h.literal hgs hbody)
        | none =>
          dsimp only [Option.map_none]
          cases wholeName? (trimGlyphs gs) with
          | some parts => rfl
          | none => exact congrArg Value.unresolved (h.other hgs)
      | some inner =>
        rw [hinner] at hbraced
        have hkeep (s : List Glyph) : (!isBlankStretch (s.map r.glyph)) = !isBlankStretch s := by
          rw [isBlankStretch_map]
        rw [value_of_braced hinner, value_of_braced hbraced, splitTopLevel_map, List.filter_map, Value.mapTexts,
          Value.mapTexts, Value.mapTextsAll_eq_map, Value.mapTextsAll_eq_map, List.map_map, List.map_map,
          List.map_map]
        simp only [Function.comp_def, hkeep]
        congr 1
        apply List.map_congr_left
        intro s hs
        have hitem := (List.mem_filter.1 hs).1
        have hlength := length_le_of_mem_splitTopLevel hitem
        have hshorter := braced?_length hinner
        have htrimmed := length_trimGlyphs_le gs
        exact ih _ (by omega) (h.item hgs hinner hitem) rfl

end

end Pattern

end EndpointIndex
