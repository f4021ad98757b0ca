import EndpointIndex.Text.Blank

/-!
# Files of variables

One variable on a line, as `NAME=value`, with comments, quotes and references to other variables.
A line that cannot be read is passed over.
-/

namespace EndpointIndex.EnvFile

/-- Line ends of all kinds as line feeds. -/
def unifyLines : List Char → List Char
  | '\r' :: '\n' :: r => '\n' :: unifyLines r
  | '\r' :: r => '\n' :: unifyLines r
  | c :: r => c :: unifyLines r
  | [] => []

/-- A blank that does not end a line. -/
def isInlineBlank (c : Char) : Bool := Text.isBlank c && c ≠ '\n' && c ≠ '\r'

def skipInline (s : List Char) : List Char := s.dropWhile isInlineBlank

def isLineEnd (c : Char) : Bool := c = '\n' || c = '\r'

/-- The text after the current line. -/
def nextLine (s : List Char) : List Char := (s.dropWhile fun c => !isLineEnd c).drop 1

/-- Drops the word `export` with the blanks after it. -/
def skipExport (s : List Char) : List Char :=
  let word := "export".toList
  if word.isPrefixOf s then
    let r := s.drop word.length
    if r.head?.any isInlineBlank then skipInline r else s
  else s

/-- The body of a quoted value and what follows it. A backslash takes the next character with it, which
must not end the line. -/
def quotedBody? (quote : Char) : List Char → Option (List Char × List Char)
  | [] => none
  | '\\' :: c :: r =>
    if c = '\n' then none else (quotedBody? quote r).map fun p => ('\\' :: c :: p.1, p.2)
  | c :: r =>
    if c = quote then some ([], r)
    else if c = '\\' then none
    else (quotedBody? quote r).map fun p => (c :: p.1, p.2)

/-- What a backslash and a character stand for inside quotes. -/
def escape? (quote : Char) (c : Char) : Option Char :=
  if c = '\\' || c = '\'' then some c
  else if quote = '\'' then none
  else
    match c with
    | '"' => some '"'
    | 'a' => some '\x07'
    | 'b' => some '\x08'
    | 'f' => some '\x0c'
    | 'n' => some '\n'
    | 'r' => some '\r'
    | 't' => some '\t'
    | 'v' => some '\x0b'
    | _ => none

def decodeEscapes (quote : Char) : List Char → List Char
  | '\\' :: c :: r =>
    match escape? quote c with
    | some d => d :: decodeEscapes quote r
    | none => '\\' :: decodeEscapes quote (c :: r)
  | c :: r => c :: decodeEscapes quote r
  | [] => []

/-- Cuts a value off at a comment, which needs a blank before it. -/
def dropComment : List Char → List Char
  | [] => []
  | c :: r =>
    if Text.isBlank c && (r.dropWhile Text.isBlank).head? = some '#' then []
    else c :: dropComment r

/-- The value after an equals sign and what follows it; none if a quote does not end. -/
def value? (s : List Char) : Option (List Char × List Char) :=
  match skipInline s with
  | [] => some ([], [])
  | c :: r =>
    if c = '\'' || c = '"' then
      (quotedBody? c r).map fun p => (decodeEscapes c p.1, p.2)
    else
      let part := s.takeWhile fun c => !isLineEnd c
      some (Text.trim (dropComment part), s.drop part.length)

/-- The name at the head of a text and what follows it. -/
def name? (s : List Char) : Option (List Char × List Char) :=
  match s with
  | '\'' :: r =>
    let body := r.takeWhile (· ≠ '\'')
    match r.drop body.length with
    | _ :: rest => if body = [] then none else some (body, rest)
    | [] => none
  | _ =>
    let word := s.takeWhile fun c => c ≠ '=' && c ≠ '#' && !Text.isBlank c
    if word = [] then none else some (word, s.drop word.length)

/-- The text after a comment and the end of the line, if nothing else is left on it. -/
def lineRest? (s : List Char) : Except (List Char) (List Char) :=
  let s := match skipInline s with
    | '#' :: r => r.dropWhile fun c => !isLineEnd c
    | _ => s
  match skipInline s with
  | [] => .ok []
  | c :: r => if isLineEnd c then .ok r else .error s

/-- A variable, without a value when no equals sign follows its name. -/
abbrev Binding := String × Option String

/-- What follows a name on its line: the value and the text after the line. -/
def assignment (s : List Char) : Except (List Char) (Option (List Char) × List Char) :=
  match skipInline s with
  | '=' :: r =>
    match value? r with
    | some (v, rest) => (lineRest? rest).map fun t => (some v, t)
    -- a quote stays open: only the line on which it opens is given up
    | none => .error (skipInline r)
  | r => (lineRest? r).map fun t => (none, t)

/-- The binding at the head of a text, if there is one, and the text after its line. -/
def binding (s : List Char) : Option Binding × List Char :=
  let s := skipExport (s.dropWhile Text.isBlank)
  match s with
  | '#' :: _ => (none, nextLine s)
  | _ =>
    match name? s with
    | none => (none, nextLine s)
    | some (name, r) =>
      match assignment r with
      | .ok (v, rest) => (some (String.ofList name, v.map String.ofList), rest)
      | .error rest => (none, nextLine rest)

/-- All bindings of a text. -/
def bindings (s : List Char) : List Binding :=
  if s = [] then []
  else
    let (b, rest) := binding s
    if rest.length < s.length then b.toList ++ bindings rest else b.toList
termination_by s.length

/-! ## References -/

/-- A reference after its dollar sign and brace: the name, a value for when it is not set, and what
follows. -/
def reference? (s : List Char) : Option (String × String × List Char) :=
  let name := s.takeWhile fun c => c ≠ '}' && c ≠ ':'
  match s.drop name.length with
  | '}' :: r => some (String.ofList name, "", r)
  | ':' :: '-' :: r =>
    let fallback := r.takeWhile (· ≠ '}')
    match r.drop fallback.length with
    | _ :: rest => some (String.ofList name, String.ofList fallback, rest)
    | [] => none
  | _ => none

theorem length_reference? {s r : List Char} {name fallback : String}
    (h : reference? s = some (name, fallback, r)) : r.length ≤ s.length := by
  simp only [reference?] at h
  split at h
  · rename_i hd
    have := List.length_drop (i := (s.takeWhile fun c => c ≠ '}' && c ≠ ':').length) (l := s)
    simp_all
    omega
  · rename_i t hd
    split at h
    · rename_i c u hr
      have h1 := List.length_drop (i := (s.takeWhile fun c => c ≠ '}' && c ≠ ':').length) (l := s)
      have h2 := List.length_drop (i := (t.takeWhile (· ≠ '}')).length) (l := t)
      simp only [Option.some.injEq, Prod.mk.injEq] at h
      obtain ⟨-, -, rfl⟩ := h
      rw [hd] at h1
      rw [hr] at h2
      simp only [List.length_cons] at h1 h2
      omega
    · simp at h
  · simp at h

/-- Replaces references by what they stand for. -/
def expand (lookup : String → Option (Option String)) (s : List Char) : List Char :=
  match s with
  | [] => []
  | '$' :: '{' :: t =>
    match _h : reference? t with
    | some (name, fallback, rest) =>
      (match lookup name with
        | some v => (v.getD "").toList
        -- only a name that is not bound at all has the fallback
        | none => fallback.toList) ++ expand lookup rest
    | none => '$' :: '{' :: expand lookup t
  | c :: r => c :: expand lookup r
termination_by s.length
decreasing_by
  all_goals simp only [List.length_cons]
  · have := length_reference? _h; omega
  all_goals omega

/-- The value of the last binding of a name. -/
def valueOf? (known : List Binding) (name : String) : Option (Option String) :=
  (known.reverse.find? (·.1 == name)).map Prod.snd

/-- Binds a name. One that is bound already keeps its place. -/
def bind (name : String) (value : Option String) : List Binding → List Binding
  | [] => [(name, value)]
  | b :: rest => if b.1 = name then (name, value) :: rest else b :: bind name value rest

/-- Replaces references in the order of the bindings. A reference means an earlier binding, or else a
variable of the environment. -/
def resolve (environment : List Binding) (done : List Binding) : List Binding → List Binding
  | [] => done
  | (name, v) :: rest =>
    let lookup := valueOf? (environment ++ done)
    resolve environment (bind name (v.map fun s => String.ofList (expand lookup s.toList)) done) rest

/-- The variables that a file sets. -/
def resolved (environment : List (String × String)) (text : List Char) : List Binding :=
  resolve (environment.map fun p => (p.1, some p.2)) [] (bindings (unifyLines text))

end EndpointIndex.EnvFile
