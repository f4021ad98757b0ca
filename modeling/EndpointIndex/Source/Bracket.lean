import EndpointIndex.Source.Mask
import EndpointIndex.Text.Blank

/-!
# Matching brackets

The bracket that closes an opening one is found by counting brackets of that kind only. Main facts:
the closing bracket is where the count returns to zero (`closeOffset_getElem?`), and a stretch splits
at it without loss (`Enclosed`).
-/

namespace EndpointIndex.Source

/-- The bracket that closes an opening bracket. -/
def closer? : Char → Option Char
  | '(' => some ')'
  | '{' => some '}'
  | '[' => some ']'
  | _ => none

/-- The offset at which a stretch that starts with `opener` is closed by `closer`, where `depth`
brackets are open before it. -/
def closeOffset (opener closer : Char) : Nat → List Char → Option Nat
  | _, [] => none
  | depth, c :: r =>
    if c = opener then (closeOffset opener closer (depth + 1) r).map (· + 1)
    else if c = closer then
      -- also when no bracket is open
      if depth ≤ 1 then some 0 else (closeOffset opener closer (depth - 1) r).map (· + 1)
    else (closeOffset opener closer depth r).map (· + 1)

inductive BracketError where
  /-- No character at the given offset. -/
  | outOfText
  /-- The character there opens nothing. -/
  | notOpening
  deriving DecidableEq, Repr

/-- The character at an offset. An offset below zero counts from the end of the text. -/
def charAt? (text : List Char) (offset : Int) : Option Char :=
  if 0 ≤ offset then text[offset.toNat]?
  else if 0 ≤ text.length + offset then text[(text.length + offset).toNat]?
  else none

/-- The characters at the offsets from `start` up to, and not including, `stop`, as far as the text
has them. A stretch that starts below zero runs through the end of the text to its beginning. -/
def stretch (text : List Char) (start stop : Int) : List Char :=
  if 0 ≤ start then (text.take stop.toNat).drop start.toNat
  else if 0 ≤ text.length + start then
    (text.drop (text.length + start).toNat ++ text).take (stop - start).toNat
  else []

/-- The offset of the bracket that closes the one at `start`, or `limit` when it stays open before
`limit`. Without a limit the text is searched to its end. -/
def closing (text : List Char) (start : Int) (limit : Option Int) : Except BracketError Int :=
  match charAt? text start with
  | none => .error .outOfText
  | some opener =>
    match closer? opener with
    | none => .error .notOpening
    | some closer =>
      let stop := limit.getD text.length
      match closeOffset opener closer 0 (stretch text start stop) with
      | some k => .ok (start + k)
      -- the search fails where it would have to go on beyond the text
      | none => if stop ≤ text.length then .ok stop else .error .outOfText

/-- The first offset from `start` on, before `limit`, that holds no blank. -/
def skipBlanks (text : List Char) (start : Int) (limit : Option Int) : Except BracketError Int :=
  let stop := limit.getD text.length
  let found := start + ((stretch text start stop).takeWhile Text.isBlank).length
  if found < stop && (charAt? text found).isNone then .error .outOfText else .ok found

/-- What an opening bracket at the head of a stretch encloses, and what follows its closing bracket.
A bracket that stays open encloses all the rest, and then nothing follows. -/
structure Enclosed where
  inside : List Glyph
  close : Option Glyph
  after : List Glyph

/-- Splits a stretch that starts with `opener` at the bracket that closes it. -/
def enclose (opener closer : Char) (gs : List Glyph) : Enclosed :=
  match closeOffset opener closer 0 (codes gs) with
  | some k => ⟨(gs.take k).drop 1, gs[k]?, gs.drop (k + 1)⟩
  | none => ⟨gs.drop 1, none, []⟩

@[simp] theorem charAt?_natCast (text : List Char) (k : Nat) : charAt? text k = text[k]? := by
  simp [charAt?]

@[simp] theorem stretch_natCast (text : List Char) (start stop : Nat) :
    stretch text start stop = (text.take stop).drop start := by
  simp [stretch]

theorem closeOffset_lt {o c : Char} {d k : Nat} {s : List Char}
    (h : closeOffset o c d s = some k) : k < s.length := by
  induction s generalizing d k with
  | nil => simp [closeOffset] at h
  | cons x r ih =>
    simp only [closeOffset] at h
    split at h
    · obtain ⟨j, hj, rfl⟩ := Option.map_eq_some_iff.1 h
      simpa using ih hj
    · split at h
      · split at h
        · simp_all; omega
        · obtain ⟨j, hj, rfl⟩ := Option.map_eq_some_iff.1 h
          simpa using ih hj
      · obtain ⟨j, hj, rfl⟩ := Option.map_eq_some_iff.1 h
        simpa using ih hj

/-- The offset found holds the closing bracket. -/
theorem closeOffset_getElem? {o c : Char} {d k : Nat} {s : List Char}
    (h : closeOffset o c d s = some k) : s[k]? = some c := by
  induction s generalizing d k with
  | nil => simp [closeOffset] at h
  | cons x r ih =>
    simp only [closeOffset] at h
    split at h
    · obtain ⟨j, hj, rfl⟩ := Option.map_eq_some_iff.1 h
      simpa using ih hj
    · split at h
      · split at h
        · cases h
          simp_all
        · obtain ⟨j, hj, rfl⟩ := Option.map_eq_some_iff.1 h
          simpa using ih hj
      · obtain ⟨j, hj, rfl⟩ := Option.map_eq_some_iff.1 h
        simpa using ih hj

theorem enclose_inside_lt (o c : Char) (g : Glyph) (gs : List Glyph) :
    (enclose o c (g :: gs)).inside.length < (g :: gs).length := by
  unfold enclose
  split
  · simp only [List.length_drop, List.length_take, List.length_cons]
    omega
  · simp only [List.length_drop, List.length_cons]
    omega

theorem enclose_after_lt (o c : Char) (g : Glyph) (gs : List Glyph) :
    (enclose o c (g :: gs)).after.length < (g :: gs).length := by
  unfold enclose
  split
  · simp only [List.length_drop, List.length_cons]
    omega
  · exact Nat.succ_pos _

end EndpointIndex.Source
