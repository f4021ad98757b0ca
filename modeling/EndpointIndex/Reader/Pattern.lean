import EndpointIndex.Declaration.Basic
import EndpointIndex.Source.Bracket
import EndpointIndex.Source.Escape
import EndpointIndex.Text.Category

/-!
# Reading declarations by pattern

Declarations are recognised in the masked source by brackets and a few patterns, without a grammar:
what stands before a `{` or a `;` outside parentheses is the header of a declaration. The values of
literals are read back from the unmasked characters.
-/

namespace EndpointIndex.Pattern

open Source

/-! ## Names -/

def skipBlankGlyphs (gs : List Glyph) : List Glyph := gs.dropWhile fun g => Text.isBlank g.code

/-- A name at the head of a stretch, and what follows it. -/
def name? : List Glyph → Option (List Glyph × List Glyph)
  | [] => none
  | g :: gs =>
    if Text.isNameStart g.code then
      some (g :: gs.takeWhile (fun h => Text.isNamePart h.code),
        gs.dropWhile fun h => Text.isNamePart h.code)
    else none

/-- A dot and a name, with blanks around the dot. -/
def dotName? (gs : List Glyph) : Option (List Glyph × List Glyph) :=
  match skipBlankGlyphs gs with
  | g :: r => if g.code = '.' then name? (skipBlankGlyphs r) else none
  | [] => none

theorem name?_length {gs n r : List Glyph} (h : name? gs = some (n, r)) :
    n.length + r.length = gs.length ∧ 0 < n.length := by
  cases gs with
  | nil => simp [name?] at h
  | cons g gs =>
    simp only [name?] at h
    split at h
    · simp only [Option.some.injEq, Prod.mk.injEq] at h
      obtain ⟨rfl, rfl⟩ := h
      have := congrArg List.length
        (List.takeWhile_append_dropWhile (p := fun h : Glyph => Text.isNamePart h.code) (l := gs))
      simp only [List.length_append] at this
      simp only [List.length_cons]
      omega
    · simp at h

theorem length_skipBlankGlyphs_le (gs : List Glyph) :
    (skipBlankGlyphs gs).length ≤ gs.length :=
  (List.dropWhile_suffix _).length_le

theorem dotName?_rest_lt {gs n r : List Glyph} (h : dotName? gs = some (n, r)) :
    r.length < gs.length := by
  unfold dotName? at h
  have hle := length_skipBlankGlyphs_le gs
  split at h
  · rename_i g t ht
    split at h
    · have h1 := name?_length h
      have h2 := length_skipBlankGlyphs_le t
      rw [ht] at hle
      simp only [List.length_cons] at hle
      omega
    · simp at h
  · simp at h

/-- The names that continue a dotted name, and what follows the last of them. -/
def moreNames (gs : List Glyph) : List (List Glyph) × List Glyph :=
  match h : dotName? gs with
  | none => ([], gs)
  | some (n, r) =>
    have := dotName?_rest_lt h
    let (ns, rest) := moreNames r
    (n :: ns, rest)
termination_by gs.length

/-- The parts of a dotted name at the head of a stretch, and what follows it. -/
def dottedName? (gs : List Glyph) : Option (List (List Glyph) × List Glyph) :=
  match name? gs with
  | none => none
  | some (n, r) =>
    let (ns, rest) := moreNames r
    some (n :: ns, rest)

def textOf (gs : List Glyph) : String := String.ofList (codes gs)

def dottedText (parts : List (List Glyph)) : String := String.intercalate "." (parts.map textOf)

/-! ## Values -/

def isOpening (c : Char) : Bool := c = '(' || c = '{' || c = '['

def isClosing (c : Char) : Bool := c = ')' || c = '}' || c = ']'

/-- The stretches between the commas outside all brackets, `depth` of which are open at the start. -/
def splitTopLevel (depth : Int) : List Glyph → List (List Glyph)
  | [] => [[]]
  | g :: gs =>
    if g.code = ',' && depth = 0 then [] :: splitTopLevel depth gs
    else
      let depth' := if isOpening g.code then depth + 1
        else if isClosing g.code then depth - 1 else depth
      match splitTopLevel depth' gs with
      | [] => [[g]]
      | s :: ss => (g :: s) :: ss

theorem length_le_of_mem_splitTopLevel {depth : Int} {gs s : List Glyph}
    (h : s ∈ splitTopLevel depth gs) : s.length ≤ gs.length := by
  induction gs generalizing depth s with
  | nil => simp_all [splitTopLevel]
  | cons g gs ih =>
    simp only [splitTopLevel] at h
    split at h
    · rcases List.mem_cons.1 h with rfl | h
      · simp
      · have := ih h; simp; omega
    · split at h
      · simp_all
      · rename_i s' ss hs
        rcases List.mem_cons.1 h with rfl | h
        · have := ih (hs ▸ List.mem_cons_self)
          simpa using this
        · have := ih (hs ▸ List.mem_cons_of_mem _ h)
          simp; omega

def isBlankStretch (gs : List Glyph) : Bool := gs.all fun g => Text.isBlank g.code

/-- A stretch without the blanks around it. -/
def trimGlyphs (gs : List Glyph) : List Glyph :=
  ((skipBlankGlyphs gs).reverse.dropWhile fun g => Text.isBlank g.code).reverse

theorem length_trimGlyphs_le (gs : List Glyph) : (trimGlyphs gs).length ≤ gs.length := by
  have h1 := length_skipBlankGlyphs_le gs
  have h2 := (List.dropWhile_suffix (l := (skipBlankGlyphs gs).reverse)
    fun g => Text.isBlank g.code).length_le
  simp only [List.length_reverse] at h2
  simp only [trimGlyphs, List.length_reverse]
  omega

/-- What the braces around a whole stretch enclose. -/
def braced? (gs : List Glyph) : Option (List Glyph) :=
  match gs with
  | g :: r =>
    if g.code = '{' && closeOffset '{' '}' 0 (codes gs) = some r.length then some r.dropLast
    else none
  | [] => none

theorem braced?_length {gs inner : List Glyph} (h : braced? gs = some inner) :
    inner.length < gs.length := by
  cases gs with
  | nil => simp [braced?] at h
  | cons g r =>
    simp only [braced?] at h
    split at h
    · cases h
      simp only [List.length_dropLast, List.length_cons]
      omega
    · simp at h

/-- The contents of a string literal that is a whole stretch, as written. -/
def quoted? (gs : List Glyph) : Option (List Char) :=
  match gs with
  | g :: r =>
    -- the contents of one literal are blanked out; between two literals something would be left
    if g.code = '"' && (r.getLast?.any fun h => h.code = '"') && isBlankStretch r.dropLast then
      some (raws r.dropLast)
    else none
  | [] => none

/-- The dotted name that is a whole stretch. -/
def wholeName? (gs : List Glyph) : Option (List String) :=
  match dottedName? gs with
  | some (parts, []) => some (parts.map textOf)
  | _ => none

def referenceOf (parts : List String) : Value :=
  let qualifier := String.intercalate "." parts.dropLast
  .reference (if qualifier.isEmpty then none else some qualifier) (parts.getLastD "")

/-- The value that a stretch of an argument list spells. -/
def value (gs : List Glyph) : Value :=
  let trimmed := trimGlyphs gs
  if trimmed.isEmpty then .unresolved ""
  else
    match _h : braced? trimmed with
    | some inner =>
      -- what follows a last comma is no item
      .array (((splitTopLevel 0 inner).filter fun s => !isBlankStretch s).attach.map
        fun ⟨s, _⟩ => value s)
    | none =>
      match quoted? trimmed with
      | some body => .literal (String.ofList (unescape body))
      | none =>
        match wholeName? trimmed with
        | some parts => referenceOf parts
        | none => .unresolved (String.ofList (raws trimmed))
termination_by gs.length
decreasing_by
  rename_i hs
  have h1 := length_le_of_mem_splitTopLevel (List.mem_filter.1 hs).1
  have h2 : inner.length < (trimGlyphs gs).length := braced?_length _h
  have h3 := length_trimGlyphs_le gs
  omega

/-- The key of a named argument and the stretch of its value. A double `=` is a comparison. -/
def namedArgument? (gs : List Glyph) : Option (String × List Glyph) :=
  match name? (skipBlankGlyphs gs) with
  | none => none
  | some (key, r) =>
    match skipBlankGlyphs r with
    | e :: r' =>
      if e.code = '=' && !(r'.head?.any fun g => g.code = '=') then some (textOf key, r') else none
    | [] => none

/-- The first unnamed value and all named values of an argument list. -/
def arguments (gs : List Glyph) : Option Value × List (String × Value) :=
  (splitTopLevel 0 gs).foldl (fun (positional, named) s =>
    if isBlankStretch s then (positional, named)
    else
      match namedArgument? s with
      | some (key, v) => (positional, named ++ [(key, value v)])
      -- a second unnamed value is passed over
      | none => (positional.or (some (value s)), named)) (none, [])

/-! ## Annotations -/

/-- An annotation at the head of a stretch: its name, its argument list and what follows it. -/
structure Mark where
  name : String
  args : Option (List Glyph)
  after : List Glyph

/-- The argument list that follows a name, if one does, and what follows that. -/
def argumentList (gs : List Glyph) : Option (List Glyph) × List Glyph :=
  match skipBlankGlyphs gs with
  | g :: r =>
    if g.code = '(' then
      let e := enclose '(' ')' (g :: r)
      (some e.inside, e.after)
    else (none, gs)
  | [] => (none, gs)

/-- The annotation that an `@` starts; `@interface` starts none. -/
def mark? : List Glyph → Option Mark
  | [] => none
  | g :: gs =>
    if g.code = '@' then
      match dottedName? (skipBlankGlyphs gs) with
      | none => none
      | some (parts, rest) =>
        let name := dottedText parts
        if name = "interface" then none
        else
          let (args, after) := argumentList rest
          some ⟨name, args, after⟩
    else none

theorem length_moreNames_le (gs : List Glyph) : (moreNames gs).2.length ≤ gs.length := by
  fun_induction moreNames gs with
  | case1 => simp_all
  | case2 gs n r h hlt ns rest hm ih =>
    simp only [hm] at ih
    simp only
    omega

theorem dottedName?_rest_lt {gs rest : List Glyph} {parts : List (List Glyph)}
    (h : dottedName? gs = some (parts, rest)) : rest.length < gs.length := by
  unfold dottedName? at h
  split at h
  · simp at h
  · rename_i n r hn
    have h1 := name?_length hn
    have h2 := length_moreNames_le r
    cases h
    omega

theorem length_argumentList_le (gs : List Glyph) : (argumentList gs).2.length ≤ gs.length := by
  unfold argumentList
  have hle := length_skipBlankGlyphs_le gs
  split
  · rename_i g r hg
    split
    · have := enclose_after_lt '(' ')' g r
      simp only
      rw [hg] at hle
      omega
    · simp
  · simp

theorem mark?_after_lt {gs : List Glyph} {m : Mark} (h : mark? gs = some m) :
    m.after.length < gs.length := by
  cases gs with
  | nil => simp [mark?] at h
  | cons g gs =>
    simp only [mark?] at h
    split at h
    · split at h
      · simp at h
      · rename_i parts rest hd
        split at h
        · simp at h
        · have h1 := dottedName?_rest_lt hd
          have h2 := length_argumentList_le rest
          have h3 := length_skipBlankGlyphs_le gs
          cases h
          simp only [List.length_cons]
          omega
    · simp at h

/-- The span of a stretch from glyph `first` to the last of `covered`. -/
def spanOf (lines : LineTable) (first : Glyph) (covered : List Glyph) : Span :=
  lines.span first.offset ((covered.getLast?.getD first).offset + 1)

def annotationOf (lines : LineTable) (first : Glyph) (covered : List Glyph) (m : Mark) :
    Annotation :=
  let (positional, named) := match m.args with
    | some args => arguments args
    | none => (none, [])
  ⟨m.name, positional, named, some (spanOf lines first covered)⟩

/-- The annotations of a header with the offsets at which they start, and the header with the
annotations blanked out. -/
def annotations (lines : LineTable) (header : List Glyph) :
    List (Nat × Annotation) × List Glyph :=
  match header with
  | [] => ([], [])
  | g :: gs =>
    match _h : mark? (g :: gs) with
    | none =>
      let (found, stripped) := annotations lines gs
      (found, g :: stripped)
    | some m =>
      let covered := (g :: gs).take ((g :: gs).length - m.after.length)
      let (found, stripped) := annotations lines m.after
      ((g.offset, annotationOf lines g covered m) :: found,
        covered.map (fun c => { c with code := blankOut c.code }) ++ stripped)
termination_by header.length
decreasing_by
  · exact Nat.lt_succ_self _
  · exact mark?_after_lt _h

/-! ## Declarations -/

/-- Keywords that name a type. -/
def typeKeywords : List String := ["class", "interface", "enum", "record"]

/-- Names that may stand before a parenthesis without naming a method. -/
def reservedNames : List String :=
  ["if", "for", "while", "switch", "catch", "synchronized", "return",
   "new", "throw", "try", "else", "do", "assert", "super", "this"]

/-- The keyword at the head of a stretch that blanks and a name follow. -/
def typeHead? (gs : List Glyph) : Option (String × List Glyph) :=
  typeKeywords.findSome? fun keyword =>
    if codes (gs.take keyword.length) = keyword.toList then
      let rest := gs.drop keyword.length
      match rest with
      | b :: _ =>
        if Text.isBlank b.code then (name? (skipBlankGlyphs rest)).map fun (n, _) => (keyword, n)
        else none
      | [] => none
    else none

/-- The first type keyword, with the name after it, that does not continue a name, a selection or
an annotation. -/
def findType? (before : Option Char) : List Glyph → Option (Glyph × String × List Glyph)
  | [] => none
  | g :: gs =>
    let free := !(before.any fun c => Text.isNamePart c || c = '.' || c = '@')
    match if free then typeHead? (g :: gs) else none with
    | some (keyword, n) => some (g, keyword, n)
    | none => findType? (some g.code) gs

/-- The name that ends a stretch, blanks after it aside. -/
def trailingName? (gs : List Glyph) : Option (List Glyph) :=
  let run := ((gs.reverse.dropWhile fun g => Text.isBlank g.code).takeWhile
    fun g => Text.isNamePart g.code).reverse
  match run.dropWhile fun g => !Text.isNameStart g.code with
  | [] => none
  | n => some n

def annotationsBefore (located : List (Nat × Annotation)) (offset : Nat) : List Annotation :=
  (located.filter fun p => p.1 < offset).map Prod.snd

/-- The span of a method: from its name to the parenthesis that closes its parameters. -/
def methodSpan (lines : LineTable) (header : List Glyph) (first paren : Glyph) : Span :=
  let fromParen := header.dropWhile fun g => g.offset < paren.offset
  let last := match closeOffset '(' ')' 0 (codes fromParen) with
    | some k => fromParen[k]?
    | none => header.getLast?
  spanOf lines first last.toList

/-- What a header declares. -/
inductive Heading where
  | type (kind : TypeKind) (name : String) (annotations : List Annotation) (span : Span)
  | method (name : String) (annotations : List Annotation) (span : Span)
  /-- An enumeration, a record, a field or no declaration at all. -/
  | other

def typeKind? : String → Option TypeKind
  | "class" => some .classType
  | "interface" => some .interfaceType
  | _ => none

/-- Reads a header that starts with its first character that is not blank. -/
def heading (lines : LineTable) (header : List Glyph) : Heading :=
  let (located, stripped) := annotations lines header
  let beforeParen := stripped.takeWhile fun g => g.code ≠ '('
  match findType? none beforeParen with
  | some (first, keyword, n) =>
    match typeKind? keyword with
    | some kind =>
      .type kind (textOf n) (annotationsBefore located first.offset) (spanOf lines first n)
    -- an enumeration or a record
    | none => .other
  | none =>
    match stripped.dropWhile fun g => g.code ≠ '(' with
    | [] => .other
    | paren :: _ =>
      -- behind an equals sign the parenthesis is that of a call
      if beforeParen.any fun g => g.code = '=' then .other
      else
        match trailingName? beforeParen with
        | some (first :: n) =>
          if textOf (first :: n) ∈ reservedNames then .other
          else
            .method (textOf (first :: n)) (annotationsBefore located first.offset)
              (methodSpan lines header first paren)
        | _ => .other

/-- The members of a stretch whose current header, in reverse, is `header`. -/
def members (lines : LineTable) (header : List Glyph) (gs : List Glyph) : List Declaration :=
  match gs with
  | [] => []
  | g :: r =>
    if g.code = '(' then
      let e := enclose '(' ')' (g :: r)
      -- a parenthesis that stays open hides the rest
      let taken := (g :: r).take ((g :: r).length - e.after.length)
      members lines (taken.reverse ++ header) e.after
    else if g.code = '{' then
      let e := enclose '{' '}' (g :: r)
      let found := match skipBlankGlyphs header.reverse with
        | [] => []
        | h =>
          match heading lines h with
          | .type kind name annotations span =>
            [.type kind name annotations (members lines [] e.inside) (some span)]
          -- the body of a method is not looked into
          | .method name annotations span => [.method name annotations (some span)]
          | .other => []
      found ++ members lines [] e.after
    else if g.code = ';' then
      let found := match skipBlankGlyphs header.reverse with
        | [] => []
        | h =>
          match heading lines h with
          | .method name annotations span => [.method name annotations (some span)]
          -- a type without a body is none
          | _ => []
      found ++ members lines [] r
    else if g.code = '}' then members lines [] r
    else members lines (g :: header) r
termination_by gs.length
decreasing_by
  · exact enclose_after_lt _ _ g r
  · exact enclose_inside_lt _ _ g r
  · exact enclose_after_lt _ _ g r
  · exact Nat.lt_succ_self _
  · exact Nat.lt_succ_self _
  · exact Nat.lt_succ_self _

/-- The types that a source text declares. -/
def readTypes (text : List Char) : List Declaration :=
  (members (.ofText text) [] (glyphs text)).filter Declaration.isType

end EndpointIndex.Pattern
