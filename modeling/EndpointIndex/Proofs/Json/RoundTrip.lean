import EndpointIndex.Json.Reader
import EndpointIndex.Json.Writer

/-!
# Compact texts read back

The compact text of a value without fractions and without repeated keys is read as that value, unless
it has an integer of more digits than the reader takes; then it is refused (`parseChars?_compactChars`).
The fuel of the reader is never short, because each nested value takes at least one character.
-/

namespace EndpointIndex.Json

/-! ## Strings -/

theorem hexValue?_hexDigit (n : Nat) : hexValue? (hexDigit n) = some (n % 16) := by
  have hall : ∀ m : Fin 16, hexValue? ((Nat.toDigits 16 m.val).getLastD '0') = some m.val := by decide
  exact hall ⟨n % 16, Nat.mod_lt _ (by decide)⟩

theorem unit?_hexDigits {n : Nat} (h : n < 65536) (rest : List Char) :
    unit? (hexDigit (n / 4096) :: hexDigit (n / 256) :: hexDigit (n / 16) :: hexDigit n :: rest) =
      some (n, rest) := by
  simp only [unit?, hexValue?_hexDigit, Option.bind_eq_bind, Option.bind_some, Option.some.injEq,
    Prod.mk.injEq, and_true]
  omega

theorem shortUnescape?_shortEscape {c e : Char} (h : shortEscape? c = some e) :
    e ≠ 'u' ∧ shortUnescape? e = some c := by
  unfold shortEscape? at h
  split at h <;> cases h <;> exact ⟨by decide, rfl⟩

/-- A character is read back from its escape. -/
theorem stringBody?_escapeChar (fuel : Nat) (c : Char) (tail : List Char) :
    stringBody? (fuel + 1) (escapeChar c ++ tail) =
      (stringBody? fuel tail).map fun p => (c :: p.1, p.2) := by
  unfold escapeChar
  split
  · -- a backslash and one character, which is not the one that four digits follow
    rename_i e he
    obtain ⟨hu, hshort⟩ := shortUnescape?_shortEscape he
    simp only [List.cons_append, List.nil_append, stringBody?, hu, hshort, if_false]
    rfl
  · rename_i hnone
    split
    · -- four digits; characters this low are no halves of pairs
      rename_i hlow
      have hhigh : isHighSurrogate c.toNat = false := by
        simp only [isHighSurrogate, Bool.and_eq_false_iff, decide_eq_false_iff_not]
        omega
      have hunit : unitChar c.toNat = c := by
        have hlowUnit : isLowSurrogate c.toNat = false := by
          simp only [isLowSurrogate, Bool.and_eq_false_iff, decide_eq_false_iff_not]
          omega
        simp only [unitChar, hhigh, hlowUnit, Bool.or_self, Bool.false_eq_true, if_false,
          Char.ofNat_toNat]
      simp only [unitEscape, List.cons_append, List.nil_append, stringBody?]
      rw [unit?_hexDigits (by omega)]
      simp only [hhigh, hunit]
      rfl
    · -- the character itself: quotes and backslashes have short escapes
      rename_i hhigh
      have hquote : c ≠ '"' := by
        rintro rfl
        cases hnone
      have hslash : c ≠ '\\' := by
        rintro rfl
        cases hnone
      simp only [List.cons_append, List.nil_append, stringBody?, hquote, hslash, hhigh, if_false]

theorem stringBody?_flatMap {fuel : Nat} {s : List Char} (h : s.length < fuel) (rest : List Char) :
    stringBody? fuel (s.flatMap escapeChar ++ '"' :: rest) = some (s, rest) := by
  induction s generalizing fuel with
  | nil =>
    obtain ⟨fuel, rfl⟩ := Nat.exists_eq_add_of_lt h
    simp [stringBody?]
  | cons c s ih =>
    obtain ⟨fuel, rfl⟩ : ∃ k, fuel = k + 1 := ⟨fuel - 1, by omega⟩
    rw [List.flatMap_cons, List.append_assoc, stringBody?_escapeChar,
      ih (Nat.lt_of_succ_lt_succ h), Option.map_some]

theorem length_le_flatMap_escapeChar (s : List Char) : s.length ≤ (s.flatMap escapeChar).length := by
  have hone : ∀ c, 1 ≤ (escapeChar c).length := by
    intro c
    unfold escapeChar
    split
    · simp
    · split
      · simp [unitEscape]
      · simp
  induction s with
  | nil => simp
  | cons c s ih =>
    have := hone c
    rw [List.flatMap_cons, List.length_append, List.length_cons]
    omega

/-- What follows an opening quote is read up to the closing one. -/
theorem stringBody?_quoted (s : String) (rest : List Char) :
    stringBody? ((s.toList.flatMap escapeChar ++ '"' :: rest).length + 1)
      (s.toList.flatMap escapeChar ++ '"' :: rest) = some (s.toList, rest) := by
  apply stringBody?_flatMap
  have := length_le_flatMap_escapeChar s.toList
  rw [List.length_append]
  omega

/-! ## Integers -/

/-- What may follow a number without being taken for a part of it. -/
def EndsNumber (rest : List Char) : Prop :=
  ∀ c r, rest = c :: r → c.isDigit = false ∧ c ≠ '.' ∧ c ≠ 'e' ∧ c ≠ 'E'

theorem endsNumber_nil : EndsNumber [] := by
  intro c r h
  cases h

theorem endsNumber_cons {c : Char} (h : c = ',' ∨ c = ']' ∨ c = '}') (rest : List Char) :
    EndsNumber (c :: rest) := by
  rintro c' r ⟨⟩
  rcases h with rfl | rfl | rfl <;> decide

theorem digitsValue_toDigits (n : Nat) : Text.digitsValue (Nat.toDigits 10 n) = n := by
  have h := Nat.ofDigitChars_ten_toDigits (n := n)
  rw [Nat.ofDigitChars_eq_foldl] at h
  rw [Text.digitsValue]
  conv => rhs; rw [← h]
  congr 1
  funext m c
  rw [Nat.mul_comm]
  rfl

theorem toDigits_eq_cons (n : Nat) :
    ∃ d ds, Nat.toDigits 10 n = d :: ds ∧ d.isDigit = true := by
  obtain ⟨d, ds, hd⟩ := List.exists_cons_of_ne_nil (Nat.toDigits_ne_nil (n := n) (b := 10))
  have hmem : d ∈ Nat.toDigits 10 n := by
    rw [hd]
    exact List.mem_cons_self
  exact ⟨d, ds, hd, Nat.isDigit_of_mem_toDigits (by decide) (by decide) hmem⟩

/-- Only zero is written with a zero in front. -/
theorem head_toDigits {n : Nat} (hn : 0 < n) : ∀ r, Nat.toDigits 10 n ≠ '0' :: r := by
  induction n using Nat.strongRecOn with
  | _ n ih =>
    intro r h
    -- the first digit of a longer number is the first digit of its tenth
    rcases Nat.lt_or_ge n 10 with hlt | hge
    · rw [Nat.toDigits_of_lt_base hlt] at h
      have hall : ∀ m : Fin 10, 0 < m.val → Nat.digitChar m.val ≠ '0' := by decide
      exact hall ⟨n, hlt⟩ hn (List.cons.inj h).1
    · rw [Nat.toDigits_of_base_le (by decide) hge] at h
      cases hdigits : Nat.toDigits 10 (n / 10) with
      | nil => exact Nat.toDigits_ne_nil hdigits
      | cons d ds =>
        rw [hdigits, List.cons_append] at h
        obtain ⟨rfl, -⟩ := List.cons.inj h
        exact ih (n / 10) (by omega) (by omega) ds hdigits

theorem integral?_toDigits (n : Nat) {rest : List Char} (hrest : EndsNumber rest) :
    integral? (Nat.toDigits 10 n ++ rest) = some (Nat.toDigits 10 n, rest) := by
  rcases Nat.eq_zero_or_pos n with rfl | hn
  · rw [Nat.toDigits_zero]
    rfl
  · have hdigits : ∀ c ∈ Nat.toDigits 10 n, c.isDigit = true :=
      fun c hc => Nat.isDigit_of_mem_toDigits (by decide) (by decide) hc
    -- the run of digits ends where the number ends
    have htake : rest.takeWhile Char.isDigit = [] := by
      cases rest with
      | nil => rfl
      | cons c r => rw [List.takeWhile_cons_of_neg (by simp [(hrest c r rfl).1])]
    have hdrop : rest.dropWhile Char.isDigit = rest := by
      cases rest with
      | nil => rfl
      | cons c r => rw [List.dropWhile_cons_of_neg (by simp [(hrest c r rfl).1])]
    have hhead := head_toDigits hn
    cases hd : Nat.toDigits 10 n with
    | nil => exact absurd hd Nat.toDigits_ne_nil
    | cons d ds =>
      rw [hd] at hdigits hhead
      have hds : ∀ c ∈ ds, c.isDigit = true := fun c hc => hdigits c (List.mem_cons_of_mem _ hc)
      rw [List.cons_append]
      unfold integral?
      split
      · -- a zero in front would be the whole number
        rename_i r heq
        obtain ⟨rfl, -⟩ := List.cons.inj heq
        exact absurd rfl (hhead ds)
      · rename_i c r hzero heq
        obtain ⟨rfl, rfl⟩ := List.cons.inj heq
        rw [if_pos (hdigits d List.mem_cons_self), List.takeWhile_append_of_pos hds, htake,
          List.append_nil, List.dropWhile_append_of_pos hds, hdrop]
      · rename_i heq
        cases heq

/-- An integer is read back, unless it has too many digits. -/
theorem number?_toDigits (negative : Bool) (n : Nat) {rest : List Char} (hrest : EndsNumber rest) :
    number? negative (Nat.toDigits 10 n ++ rest) =
      if (Nat.toDigits 10 n).length ≤ Text.maxIntDigits then
        some (.int (if negative then -(n : Int) else n), rest)
      else none := by
  -- neither a point nor an exponent follows, so the number is an integer
  have hfraction : fraction rest = ([], rest) := by
    cases rest with
    | nil => rfl
    | cons c r =>
      unfold fraction
      split
      · rename_i heq
        obtain ⟨rfl, -⟩ := List.cons.inj heq
        exact absurd rfl (hrest _ _ rfl).2.1
      · rfl
  have hexponent : exponent? rest = none := by
    cases rest with
    | nil => rfl
    | cons c r =>
      obtain ⟨-, -, he, hE⟩ := hrest c r rfl
      simp [exponent?, he, hE]
  unfold number?
  rw [integral?_toDigits n hrest]
  simp only [hfraction, hexponent, digitsValue_toDigits]
  by_cases hlength : (Nat.toDigits 10 n).length ≤ Text.maxIntDigits
  · rw [if_pos hlength, if_neg (Nat.not_lt.2 hlength)]
  · rw [if_neg hlength, if_pos (Nat.lt_of_not_le hlength)]

theorem ne_of_isDigit {d c : Char} (hd : d.isDigit = true) (hc : c.isDigit = false) : d ≠ c := by
  rintro rfl
  rw [hd] at hc
  cases hc

/-- No word starts with a digit, or with a minus and a digit. -/
theorem word?_digit {d : Char} (hd : d.isDigit = true) (r : List Char) :
    word? (d :: r) = none ∧ word? ('-' :: d :: r) = none := by
  have hn := ne_of_isDigit hd (c := 'n') (by decide)
  have ht := ne_of_isDigit hd (c := 't') (by decide)
  have hf := ne_of_isDigit hd (c := 'f') (by decide)
  have hN := ne_of_isDigit hd (c := 'N') (by decide)
  have hI := ne_of_isDigit hd (c := 'I') (by decide)
  have hminus := ne_of_isDigit hd (c := '-') (by decide)
  simp [word?, words, afterWord?, Ne.symm hn, Ne.symm ht, Ne.symm hf, Ne.symm hN,
    Ne.symm hI, Ne.symm hminus]

theorem value?_digit (fuel : Nat) {d : Char} (hd : d.isDigit = true) (r : List Char) :
    value? (fuel + 1) (d :: r) = number? false (d :: r) := by
  have hquote := ne_of_isDigit hd (c := '"') (by decide)
  have hbracket := ne_of_isDigit hd (c := '[') (by decide)
  have hbrace := ne_of_isDigit hd (c := '{') (by decide)
  have hminus := ne_of_isDigit hd (c := '-') (by decide)
  unfold value?
  split
  · exact absurd rfl hquote
  · exact absurd rfl hbracket
  · exact absurd rfl hbrace
  · simp only [(word?_digit hd r).1, hminus, if_false]

theorem value?_minus (fuel : Nat) {d : Char} (hd : d.isDigit = true) (r : List Char) :
    value? (fuel + 1) ('-' :: d :: r) = number? true (d :: r) := by
  unfold value?
  simp only [(word?_digit hd r).2, if_true]
  rfl

/-- An integer is read back with its sign. -/
theorem value?_intChars (fuel : Nat) (i : Int) {rest : List Char} (hrest : EndsNumber rest) :
    value? (fuel + 1) (intChars i ++ rest) =
      if (Nat.toDigits 10 i.natAbs).length ≤ Text.maxIntDigits then some (.int i, rest) else none := by
  cases i with
  | ofNat n =>
    obtain ⟨d, ds, hd, hdigit⟩ := toDigits_eq_cons n
    have hnumber := number?_toDigits false n hrest
    rw [hd] at hnumber
    change value? (fuel + 1) (Nat.toDigits 10 n ++ rest) = _
    rw [hd, List.cons_append, value?_digit fuel hdigit, ← List.cons_append, hnumber, ← hd]
    rfl
  | negSucc n =>
    obtain ⟨d, ds, hd, hdigit⟩ := toDigits_eq_cons (n + 1)
    have hnumber := number?_toDigits true (n + 1) hrest
    rw [hd] at hnumber
    change value? (fuel + 1) ('-' :: Nat.toDigits 10 (n + 1) ++ rest) = _
    rw [hd, List.cons_append, List.cons_append, value?_minus fuel hdigit, ← List.cons_append, hnumber,
      ← hd]
    rfl

/-! ## Values -/

mutual

/-- Whether all integers in a value are short enough to be read. -/
def legible : Json → Bool
  | .int i => (Nat.toDigits 10 i.natAbs).length ≤ Text.maxIntDigits
  | .array items => legibleItems items
  | .object members => legibleMembers members
  | _ => true

def legibleItems : List Json → Bool
  | [] => true
  | v :: vs => legible v && legibleItems vs

def legibleMembers : List (String × Json) → Bool
  | [] => true
  | (_, v) :: ms => legible v && legibleMembers ms

end

mutual

/-- A value that has no fractions, and objects that have no key twice. -/
def Plain : Json → Prop
  | .double _ => False
  | .array items => PlainItems items
  | .object members => (members.map Prod.fst).Nodup ∧ PlainMembers members
  | _ => True

def PlainItems : List Json → Prop
  | [] => True
  | v :: vs => Plain v ∧ PlainItems vs

def PlainMembers : List (String × Json) → Prop
  | [] => True
  | (_, v) :: ms => Plain v ∧ PlainMembers ms

end

/-- The character that a text starts with, if it is no blank and ends no list and no object. -/
def Opens (s : List Char) : Prop := ∃ c r, s = c :: r ∧ isSpace c = false ∧ c ≠ ']' ∧ c ≠ '}'

theorem Opens.append {s : List Char} (h : Opens s) (t : List Char) : Opens (s ++ t) := by
  obtain ⟨c, r, rfl, hc⟩ := h
  exact ⟨c, r ++ t, rfl, hc⟩

theorem Opens.skipSpace {s : List Char} (h : Opens s) : Json.skipSpace s = s := by
  obtain ⟨c, r, rfl, hc, -⟩ := h
  exact List.dropWhile_cons_of_neg (by simp [hc])

theorem opens_digit {d : Char} (hd : d.isDigit = true) (r : List Char) : Opens (d :: r) := by
  refine ⟨d, r, rfl, ?_, ne_of_isDigit hd (by decide), ne_of_isDigit hd (by decide)⟩
  have hspace := ne_of_isDigit hd (c := ' ') (by decide)
  have htab := ne_of_isDigit hd (c := '\t') (by decide)
  have hline := ne_of_isDigit hd (c := '\n') (by decide)
  have hreturn := ne_of_isDigit hd (c := '\r') (by decide)
  simp [isSpace, hspace, htab, hline, hreturn]

theorem opens_compactChars {v : Json} (hv : v.Plain) : Opens (compactChars v) := by
  cases v with
  | null => exact ⟨'n', _, rfl, by decide⟩
  | bool b =>
    cases b with
    | false => exact ⟨'f', _, rfl, by decide⟩
    | true => exact ⟨'t', _, rfl, by decide⟩
  | int i =>
    cases i with
    | ofNat n =>
      obtain ⟨d, ds, hd, hdigit⟩ := toDigits_eq_cons n
      change Opens (Nat.toDigits 10 n)
      rw [hd]
      exact opens_digit hdigit ds
    | negSucc n => exact ⟨'-', _, rfl, by decide⟩
  | double x => exact hv.elim
  | string s => exact ⟨'"', _, rfl, by decide⟩
  | array items => exact ⟨'[', _, rfl, by decide⟩
  | object members => exact ⟨'{', _, rfl, by decide⟩

theorem opens_compactItems {v : Json} (hv : v.Plain) (vs : List Json) :
    Opens (compactItems (v :: vs)) := by
  cases vs with
  | nil => exact opens_compactChars hv
  | cons w vs => exact (opens_compactChars hv).append _

theorem opens_compactMembers (k : String) (v : Json) (ms : List (String × Json)) :
    Opens (compactMembers ((k, v) :: ms)) := by
  cases ms with
  | nil => exact ⟨'"', _, rfl, by decide⟩
  | cons p ms => exact ⟨'"', _, rfl, by decide⟩

/-! ### Steps of the reader -/

theorem value?_array {fuel : Nat} {s : List Char} (h : Opens s) :
    value? (fuel + 1) ('[' :: s) = (items? fuel s).map fun p => (.array p.1, p.2) := by
  rw [value?.eq_def]
  dsimp only
  rw [h.skipSpace]
  obtain ⟨c, r, rfl, -, hc, -⟩ := h
  -- only the branch of the bracket is open
  split
  · rename_i heq
    exact absurd heq (by decide)
  · split
    · rename_i heq
      exact absurd (List.cons.inj heq).1 hc
    · rfl
  · rename_i heq
    exact absurd heq (by decide)
  · rename_i hne _
    exact absurd rfl hne

theorem value?_object {fuel : Nat} {s : List Char} (h : Opens s) :
    value? (fuel + 1) ('{' :: s) = (members? fuel [] s).map fun p => (.object p.1, p.2) := by
  rw [value?.eq_def]
  dsimp only
  rw [h.skipSpace]
  obtain ⟨c, r, rfl, -, -, hc⟩ := h
  split
  · rename_i heq
    exact absurd heq (by decide)
  · rename_i heq
    exact absurd heq (by decide)
  · split
    · rename_i heq
      exact absurd (List.cons.inj heq).1 hc
    · rfl
  · rename_i hne
    exact absurd rfl hne

theorem value?_quote (fuel : Nat) (s : String) (rest : List Char) :
    value? (fuel + 1) (quoteWith escapeChar s ++ rest) = some (.string s, rest) := by
  have hbody := stringBody?_quoted s rest
  simp only [quoteWith, List.cons_append, List.append_assoc, List.nil_append]
  unfold value?
  change (stringBody? _ _).map _ = _
  rw [hbody]
  simp only [Option.map_some, String.ofList_toList]

theorem items?_last {fuel : Nat} {s rest : List Char} {v : Json}
    (h : value? fuel s = some (v, ']' :: rest)) : items? (fuel + 1) s = some ([v], rest) := by
  rw [items?, h]
  rfl

theorem items?_next {fuel : Nat} {s rest : List Char} {v : Json}
    (h : value? fuel s = some (v, ',' :: rest)) (hrest : Opens rest) :
    items? (fuel + 1) s = (items? fuel rest).map fun p => (v :: p.1, p.2) := by
  rw [items?, h]
  change (items? fuel (skipSpace rest)).map _ = _
  rw [hrest.skipSpace]

theorem items?_none {fuel : Nat} {s : List Char} (h : value? fuel s = none) :
    items? (fuel + 1) s = none := by
  rw [items?, h]

/-- A member is read: its key, the colon, its value, and what comes after. -/
theorem members?_quote {fuel : Nat} (before : List (String × Json)) (k : String) {s : List Char}
    (hs : Opens s) :
    members? (fuel + 1) before (quoteWith escapeChar k ++ ':' :: s) =
      match value? fuel s with
      | none => none
      | some (v, r) =>
        match skipSpace r with
        | '}' :: rest => some (setMember k v before, rest)
        | ',' :: rest => members? fuel (setMember k v before) (skipSpace rest)
        | _ => none := by
  have hbody := stringBody?_quoted k (':' :: s)
  simp only [quoteWith, List.cons_append, List.append_assoc, List.nil_append]
  rw [members?, hbody]
  change (match value? fuel (skipSpace s) with
    | none => none
    | some (v, r) =>
      match skipSpace r with
      | '}' :: rest => some (setMember (String.ofList k.toList) v before, rest)
      | ',' :: rest => members? fuel (setMember (String.ofList k.toList) v before) (skipSpace rest)
      | _ => none) = _
  rw [hs.skipSpace, String.ofList_toList]

section Member

variable {fuel : Nat} (before : List (String × Json)) (k : String) {s rest : List Char} (hs : Opens s)

include hs

theorem members?_none (h : value? fuel s = none) :
    members? (fuel + 1) before (quoteWith escapeChar k ++ ':' :: s) = none := by
  rw [members?_quote before k hs, h]

theorem members?_last {v : Json} (h : value? fuel s = some (v, '}' :: rest)) :
    members? (fuel + 1) before (quoteWith escapeChar k ++ ':' :: s) =
      some (setMember k v before, rest) := by
  rw [members?_quote before k hs, h]
  rfl

theorem members?_next {v : Json} (h : value? fuel s = some (v, ',' :: rest)) (hrest : Opens rest) :
    members? (fuel + 1) before (quoteWith escapeChar k ++ ':' :: s) =
      members? fuel (setMember k v before) rest := by
  rw [members?_quote before k hs, h]
  change members? fuel _ (skipSpace rest) = _
  rw [hrest.skipSpace]

end Member

theorem compactItems_cons_cons (v w : Json) (vs : List Json) :
    compactItems (v :: w :: vs) = compactChars v ++ ',' :: compactItems (w :: vs) := by
  simp only [compactItems]

theorem compactMembers_cons_cons (k l : String) (v w : Json) (ms : List (String × Json)) :
    compactMembers ((k, v) :: (l, w) :: ms) =
      quoteWith escapeChar k ++ ':' :: (compactChars v ++ ',' :: compactMembers ((l, w) :: ms)) := by
  simp only [compactMembers, List.append_assoc, List.cons_append]

/-- A new member comes last. -/
theorem setMember_of_not_mem {key : String} (v : Json) {before : List (String × Json)}
    (h : key ∉ before.map Prod.fst) : setMember key v before = before ++ [(key, v)] := by
  induction before with
  | nil => rfl
  | cons p before ih =>
    obtain ⟨k, w⟩ := p
    rw [List.map_cons, List.mem_cons, not_or] at h
    rw [setMember, if_neg (Ne.symm h.1), ih h.2, List.cons_append]

/-! ### The induction -/

-- The induction is on the fuel. A value takes at most twice as much of it as it has characters; the
-- items of an array and the members of an object take one more.
mutual

theorem value?_compactChars (v : Json) (hv : v.Plain) (fuel : Nat)
    (hfuel : 2 * (compactChars v).length ≤ fuel) (rest : List Char) (hrest : EndsNumber rest) :
    value? fuel (compactChars v ++ rest) = if v.legible then some (v, rest) else none := by
  -- a value has a first character, so there is fuel for it
  obtain ⟨fuel, rfl⟩ : ∃ k, fuel = k + 1 := by
    obtain ⟨c, r, hc, -⟩ := opens_compactChars hv
    rw [hc, List.length_cons] at hfuel
    exact ⟨fuel - 1, by omega⟩
  match v with
  | .null => rfl
  | .bool true => rfl
  | .bool false => rfl
  | .int i =>
    rw [compactChars, value?_intChars fuel i hrest]
    simp only [legible, decide_eq_true_eq]
  | .double x => exact hv.elim
  | .string s => exact value?_quote fuel s rest
  | .array [] => rfl
  | .array (v :: vs) =>
    have hopens := (opens_compactItems hv.1 vs).append (']' :: rest)
    have hitems := items?_compactItems v vs hv fuel
      (by simp only [compactChars, List.length_cons, List.length_append] at hfuel; omega) rest
    simp only [compactChars, List.cons_append, List.append_assoc, List.nil_append]
    rw [value?_array hopens, hitems, legible]
    split <;> rfl
  | .object [] => rfl
  | .object ((k, v) :: ms) =>
    have hopens := (opens_compactMembers k v ms).append ('}' :: rest)
    have hmembers := members?_compactMembers k v ms hv.2 [] hv.1 fuel
      (by simp only [compactChars, List.length_cons, List.length_append] at hfuel; omega) rest
    simp only [compactChars, List.cons_append, List.append_assoc, List.nil_append]
    rw [value?_object hopens, hmembers, legible]
    split <;> rfl
termination_by fuel

theorem items?_compactItems (v : Json) (vs : List Json) (hvs : PlainItems (v :: vs)) (fuel : Nat)
    (hfuel : 2 * (compactItems (v :: vs)).length + 1 ≤ fuel) (rest : List Char) :
    items? fuel (compactItems (v :: vs) ++ ']' :: rest) =
      if legibleItems (v :: vs) then some (v :: vs, rest) else none := by
  obtain ⟨fuel, rfl⟩ : ∃ k, fuel = k + 1 := ⟨fuel - 1, by omega⟩
  match vs with
  | [] =>
    have hv := value?_compactChars v hvs.1 fuel (by rw [compactItems] at hfuel; omega) (']' :: rest)
      (endsNumber_cons (by simp) rest)
    rw [compactItems, legibleItems, legibleItems, Bool.and_true]
    cases hlegible : v.legible with
    | false =>
      rw [hlegible] at hv
      exact items?_none hv
    | true =>
      rw [hlegible] at hv
      exact items?_last hv
  | w :: vs =>
    have hopens := (opens_compactItems hvs.2.1 vs).append (']' :: rest)
    rw [compactItems_cons_cons, List.length_append, List.length_cons] at hfuel
    have hv := value?_compactChars v hvs.1 fuel (by omega)
      (',' :: (compactItems (w :: vs) ++ ']' :: rest)) (endsNumber_cons (by simp) _)
    have hrest := items?_compactItems w vs hvs.2 fuel (by omega) rest
    rw [compactItems_cons_cons, List.append_assoc, List.cons_append, legibleItems]
    cases hlegible : v.legible with
    | false =>
      rw [hlegible] at hv
      exact items?_none hv
    | true =>
      rw [hlegible] at hv
      rw [items?_next hv hopens, hrest, Bool.true_and]
      split <;> rfl
termination_by fuel

theorem members?_compactMembers (k : String) (v : Json) (ms : List (String × Json))
    (hms : PlainMembers ((k, v) :: ms)) (before : List (String × Json))
    (hkeys : ((before ++ (k, v) :: ms).map Prod.fst).Nodup) (fuel : Nat)
    (hfuel : 2 * (compactMembers ((k, v) :: ms)).length + 1 ≤ fuel) (rest : List Char) :
    members? fuel before (compactMembers ((k, v) :: ms) ++ '}' :: rest) =
      if legibleMembers ((k, v) :: ms) then some (before ++ (k, v) :: ms, rest) else none := by
  obtain ⟨fuel, rfl⟩ : ∃ k, fuel = k + 1 := ⟨fuel - 1, by omega⟩
  -- the members read so far have other keys, so that this one is put behind them
  have hnew : k ∉ before.map Prod.fst := by
    intro hmem
    rw [List.map_append, List.map_cons] at hkeys
    exact (List.nodup_append.1 hkeys).2.2 k hmem k List.mem_cons_self rfl
  match ms with
  | [] =>
    have hopens := (opens_compactChars hms.1).append ('}' :: rest)
    rw [compactMembers, List.length_append, List.length_cons] at hfuel
    have hv := value?_compactChars v hms.1 fuel (by omega) ('}' :: rest)
      (endsNumber_cons (by simp) rest)
    rw [compactMembers, List.append_assoc, List.cons_append, legibleMembers, legibleMembers,
      Bool.and_true]
    cases hlegible : v.legible with
    | false =>
      rw [hlegible] at hv
      exact members?_none before k hopens hv
    | true =>
      rw [hlegible] at hv
      rw [members?_last before k hopens hv, setMember_of_not_mem v hnew]
      rfl
  | (l, w) :: ms =>
    have hopens := (opens_compactChars hms.1).append
      (',' :: (compactMembers ((l, w) :: ms) ++ '}' :: rest))
    have hnext := (opens_compactMembers l w ms).append ('}' :: rest)
    rw [compactMembers_cons_cons, List.length_append, List.length_cons, List.length_append,
      List.length_cons] at hfuel
    have hv := value?_compactChars v hms.1 fuel (by omega)
      (',' :: (compactMembers ((l, w) :: ms) ++ '}' :: rest)) (endsNumber_cons (by simp) _)
    have hrest := members?_compactMembers l w ms hms.2 (before ++ [(k, v)])
      (by rw [List.append_assoc]; exact hkeys) fuel (by omega) rest
    rw [compactMembers_cons_cons, List.append_assoc, List.cons_append, List.append_assoc,
      List.cons_append, legibleMembers]
    cases hlegible : v.legible with
    | false =>
      rw [hlegible] at hv
      exact members?_none before k hopens hv
    | true =>
      rw [hlegible] at hv
      rw [members?_next before k hopens hv hnext, setMember_of_not_mem v hnew, hrest, Bool.true_and,
        List.append_assoc]
      rfl
termination_by fuel

end

/-- The compact text of a value is read as the value, or not at all. -/
theorem parseChars?_compactChars {v : Json} (hv : v.Plain) :
    parseChars? (compactChars v) = if v.legible then some v else none := by
  have hopens := opens_compactChars hv
  have hvalue := value?_compactChars v hv (2 * (compactChars v).length + 2) (by omega) [] endsNumber_nil
  rw [List.append_nil] at hvalue
  rw [parseChars?, hopens.skipSpace, hvalue]
  cases v.legible with
  | true => rfl
  | false => rfl

end EndpointIndex.Json
