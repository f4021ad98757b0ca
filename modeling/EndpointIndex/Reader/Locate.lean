import EndpointIndex.Source.Bracket
import EndpointIndex.Source.Position
import EndpointIndex.Text.Category

/-!
# Locating declarations

A grammar tells the line of a declaration and nothing about its annotations, so both are searched for
in the masked source, forwards from the declaration before. A search sees the character before the
place where it starts, and nothing from its limit on.
-/

namespace EndpointIndex.Source

/-- A place in a source: the masked character before it and the glyphs after it. -/
structure Cursor where
  before : Option Char
  rest : List Glyph

namespace Cursor

def start (text : List Char) : Cursor := ⟨none, glyphs text⟩

/-- One glyph further. -/
def step : Cursor → Cursor
  | ⟨before, []⟩ => ⟨before, []⟩
  | ⟨_, g :: r⟩ => ⟨some g.code, r⟩

/-- Moves forwards to an offset; a place beyond it stays. -/
def moveTo (offset : Nat) (c : Cursor) : Cursor :=
  go c.before c.rest
where
  go (before : Option Char) : List Glyph → Cursor
    | [] => ⟨before, []⟩
    | g :: r => if g.offset < offset then go (some g.code) r else ⟨before, g :: r⟩

/-- The same place in a source that ends at an offset. -/
def limitedTo (limit : Option Nat) (c : Cursor) : Cursor :=
  match limit with
  | none => c
  | some n => { c with rest := c.rest.takeWhile fun g => g.offset < n }

/-- The first place from here on at which a match is found. -/
def find? {α : Type} (matchAt : Cursor → Option α) (c : Cursor) : Option α :=
  go c.before c.rest
where
  go (before : Option Char) : List Glyph → Option α
    | [] => matchAt ⟨before, []⟩
    | g :: r =>
      match matchAt ⟨before, g :: r⟩ with
      | some a => some a
      | none => go (some g.code) r

/-- The place after a text, if the text is here. -/
def after? (text : List Char) (c : Cursor) : Option Cursor :=
  if codes (c.rest.take text.length) = text then
    some ⟨text.getLast?.or c.before, c.rest.drop text.length⟩
  else none

/-- The place after the blanks that are here. -/
def skipBlanks (c : Cursor) : Cursor :=
  go c.before c.rest
where
  go (before : Option Char) : List Glyph → Cursor
    | [] => ⟨before, []⟩
    | g :: r => if Text.isBlank g.code then go (some g.code) r else ⟨before, g :: r⟩

def next? (c : Cursor) : Option Char := c.rest.head?.map Glyph.code

/-- A word starts or ends here. -/
def atWordBoundary (c : Cursor) : Bool :=
  c.before.any Text.isWord != c.next?.any Text.isWord

end Cursor

/-- A declaration that was found: its span, the offset at which it starts, and the place after it. -/
structure Found where
  span : Span
  start : Nat
  after : Cursor

/-- The span of the glyphs of `c` up to, and without, those of `stop`. -/
def spanBetween (lines : LineTable) (c stop : Cursor) : Span :=
  let covered := c.rest.take (c.rest.length - stop.rest.length)
  let first := (c.rest.head?.map Glyph.offset).getD lines.size
  lines.span first (((covered.getLast?.map Glyph.offset).getD first) + 1)

def foundBetween (lines : LineTable) (c stop : Cursor) : Found :=
  ⟨spanBetween lines c stop, (c.rest.head?.map Glyph.offset).getD lines.size, stop⟩

/-- The keyword of a type and its name, where the keyword continues nothing. -/
def typeAt? (keyword name : String) (c : Cursor) : Option Cursor := do
  if c.before.any fun b => Text.isNamePart b || b = '.' || b = '@' then none
  let blank ← c.after? keyword.toList
  let nameStart := blank.skipBlanks
  -- a blank has to stand between the keyword and the name
  if nameStart.rest.length = blank.rest.length then none
  let stop ← nameStart.after? name.toList
  if stop.atWordBoundary then some stop else none

def findType? (lines : LineTable) (keyword name : String) (c : Cursor) : Option Found :=
  c.find? fun p => (typeAt? keyword name p).map (foundBetween lines p)

/-- A method's name and the place of the parenthesis that opens its parameters. -/
def methodAt? (name : String) (c : Cursor) : Option (Cursor × Cursor) := do
  if !c.atWordBoundary then none
  let stop ← c.after? name.toList
  let paren := stop.skipBlanks
  if paren.next? = some '(' then some (stop, paren) else none

/-- The place after the bracket that closes the one that is here. -/
def afterClosing? (c : Cursor) : Option Cursor :=
  (closeOffset '(' ')' 0 (codes c.rest)).map fun k => ⟨some ')', c.rest.drop (k + 1)⟩

/-- A method from its name to the end of its parameters; only the name if they do not end. -/
def findMethod? (lines : LineTable) (name : String) (c : Cursor) : Option Found :=
  c.find? fun p => (methodAt? name p).map fun (stop, paren) =>
    foundBetween lines p ((afterClosing? paren).getD stop)

/-- The places after the qualifiers of an annotation's name, none of them first. -/
def qualifierStops (c : Cursor) : Nat → List Cursor
  | 0 => [c]
  | fuel + 1 =>
    match c.rest with
    | [] => [c]
    | g :: r =>
      if Text.isNameStart g.code then
        let stop : Cursor := ⟨some g.code, r.dropWhile fun h => Text.isNamePart h.code⟩
        match stop.skipBlanks.rest with
        | d :: r' =>
          if d.code = '.' then c :: qualifierStops (Cursor.skipBlanks ⟨some '.', r'⟩) fuel else [c]
        | [] => [c]
      else [c]

/-- An annotation with the given simple name, with as many qualifiers before it as can be. -/
def annotationAt? (simple : String) (c : Cursor) : Option Cursor := do
  let name ← c.after? ['@']
  let stops := qualifierStops name.skipBlanks c.rest.length
  -- the longest qualifier is tried first
  stops.reverse.findSome? fun p => do
    let stop ← p.after? simple.toList
    if stop.atWordBoundary then some stop else none

/-- The place after the argument list that follows an annotation's name, if one does. A list that
does not end takes all the rest. -/
def afterArguments (c : Cursor) : Cursor :=
  let paren := c.skipBlanks
  if paren.next? = some '(' then (afterClosing? paren).getD ⟨none, []⟩ else c

def findAnnotation? (lines : LineTable) (simple : String) (c : Cursor) (limit : Option Nat) :
    Option Found :=
  (c.limitedTo limit).find? fun p => (annotationAt? simple p).map fun stop =>
    foundBetween lines p (afterArguments stop)

end EndpointIndex.Source
