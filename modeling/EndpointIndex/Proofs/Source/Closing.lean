import EndpointIndex.Proofs.Offset.Access
import EndpointIndex.Proofs.Source.Nesting
import Mathlib.Order.Bounds.Defs

/-!
# The bracket that closes

The search for a closing bracket counts brackets of one kind. It ends at the first offset by which as many
are closed as opened (`count_of_closeOffset`), and at its limit when there is none
(`count_lt_of_closeOffset_eq_none`). In a text that nests, that is the partner of the opening bracket,
although brackets of the other kinds are not looked at (`closing_eq_least`).
-/

namespace EndpointIndex.Source

open ByOffset (slice closing_eq slice_append slice_cons take_slice length_slice getElem?_slice)

/-! ## Counting -/

section

variable {o c : Char} {depth k : Nat} {s : List Char}

/-- How many brackets are open after one more character. -/
def openAfter (o c : Char) (depth : Nat) (x : Char) : Nat :=
  if x = o then depth + 1 else if x = c then depth - 1 else depth

theorem closeOffset_cons (hdepth : 0 < depth) (x : Char) (s : List Char) :
    closeOffset o c depth (x :: s) =
      if openAfter o c depth x = 0 then some 0
      else (closeOffset o c (openAfter o c depth x) s).map (· + 1) := by
  rw [closeOffset, openAfter]
  by_cases hopen : x = o
  · rw [if_pos hopen, if_pos hopen, if_neg (Nat.succ_ne_zero depth)]
  · by_cases hclose : x = c
    · rw [if_neg hopen, if_neg hopen, if_pos hclose, if_pos hclose]
      by_cases hlast : depth ≤ 1
      · rw [if_pos hlast, if_pos (by omega)]
      · rw [if_neg hlast, if_neg (by omega)]
    · rw [if_neg hopen, if_neg hopen, if_neg hclose, if_neg hclose, if_neg (by omega)]

/-- One more character counts in the depth as it counts in the text. -/
theorem openAfter_add_count (hne : o ≠ c) (hdepth : 0 < depth) (x : Char) (s : List Char) :
    openAfter o c depth x + s.count o + (x :: s).count c = depth + (x :: s).count o + s.count c := by
  rw [openAfter, List.count_cons, List.count_cons]
  by_cases hopen : x = o
  · subst hopen
    simp [hne]
    omega
  · by_cases hclose : x = c
    · subst hclose
      simp [hopen]
      omega
    · simp [hopen, hclose]

/-- Where the search ends, as many brackets have been closed as opened, and nowhere before. -/
theorem count_of_closeOffset (hne : o ≠ c) (hdepth : 0 < depth) (h : closeOffset o c depth s = some k) :
    (s.take (k + 1)).count c = depth + (s.take (k + 1)).count o ∧
      ∀ i ≤ k, (s.take i).count c < depth + (s.take i).count o := by
  induction s generalizing depth k with
  | nil => cases h
  | cons x s ih =>
    rw [closeOffset_cons hdepth] at h
    split at h
    · rename_i hlast
      cases h
      refine ⟨?_, fun i hi => ?_⟩
      · have hcount := openAfter_add_count hne hdepth x []
        rw [hlast] at hcount
        simpa using hcount
      · obtain rfl : i = 0 := Nat.le_zero.1 hi
        simpa using hdepth
    · rename_i hopen
      obtain ⟨k, hk, rfl⟩ := Option.map_eq_some_iff.1 h
      obtain ⟨hcount, hbefore⟩ := ih (Nat.pos_of_ne_zero hopen) hk
      refine ⟨?_, fun i hi => ?_⟩
      · have hstep := openAfter_add_count hne hdepth x (s.take (k + 1))
        rw [List.take_succ_cons]
        omega
      · cases i with
        | zero => simpa using hdepth
        | succ i =>
          have hrest := hbefore i (by omega)
          have hstep := openAfter_add_count hne hdepth x (s.take i)
          rw [List.take_succ_cons]
          omega

theorem count_lt_of_closeOffset_eq_none (hne : o ≠ c) (hdepth : 0 < depth)
    (h : closeOffset o c depth s = none) (i : Nat) : (s.take i).count c < depth + (s.take i).count o := by
  induction s generalizing depth i with
  | nil => simpa using hdepth
  | cons x s ih =>
    rw [closeOffset_cons hdepth] at h
    split at h
    · cases h
    · rename_i hopen
      cases i with
      | zero => simpa using hdepth
      | succ i =>
        have hrest := ih (Nat.pos_of_ne_zero hopen) (Option.map_eq_none_iff.1 h) i
        have hstep := openAfter_add_count hne hdepth x (s.take i)
        rw [List.take_succ_cons]
        omega

end

/-! ## Stretches of a text -/

/-- The characters from one offset through another. -/
def through (text : List Char) (start stop : Nat) : List Char := stretch text start (stop + 1)

/-- From one offset through another, as many brackets of a kind are closed as opened. -/
def Evens (o c : Char) (text : List Char) (start stop : Nat) : Prop :=
  (through text start stop).count c = (through text start stop).count o

instance (o c : Char) (text : List Char) (start stop : Nat) : Decidable (Evens o c text start stop) :=
  inferInstanceAs (Decidable (_ = _))

/-- The offsets behind an opening bracket, below a limit, by which as many brackets are closed as opened. -/
def evenOffsets (o c : Char) (text : List Char) (start limit : Nat) : Set Nat :=
  {j | start < j ∧ j < limit ∧ Evens o c text start j}

section

variable {text : List Char} {start limit j : Nat} {o c : Char}

theorem stretch_eq_slice (text : List Char) (start stop : Nat) :
    stretch text start stop = slice text start stop := stretch_natCast text start stop

theorem through_eq_cons (hopen : text[start]? = some o) (hle : start ≤ j) (hlt : j < limit) :
    through text start j = o :: (slice text (start + 1) limit).take (j - start) := by
  have hstop : start + 1 + (j - start) = j + 1 := by omega
  have hslice : through text start j = slice text start (j + 1) := stretch_eq_slice text start (j + 1)
  rw [hslice, slice_cons hopen (by omega), take_slice (by omega), hstop]

/-- The search behind an opening bracket, where one is open. -/
theorem closing_eq_elim (hlt : start < limit) (hle : limit ≤ text.length) (hopen : text[start]? = some o)
    (hkind : closer? o = some c) :
    closing text start (some limit) =
      .ok ((closeOffset o c 1 (slice text (start + 1) limit)).elim (limit : Int)
        fun k => (start + 1 + k : Nat)) := by
  rw [closing_eq hopen hkind hle, slice_cons hopen hlt, closeOffset, if_pos rfl]
  cases closeOffset o c 1 (slice text (start + 1) limit) with
  | none => rfl
  | some k =>
    show Except.ok (((start + (k + 1) : Nat)) : Int) = _
    rw [Nat.add_comm k, ← Nat.add_assoc]
    rfl

theorem evens_iff (hne : o ≠ c) (hopen : text[start]? = some o) (hle : start ≤ j) (hlt : j < limit) :
    Evens o c text start j ↔
      ((slice text (start + 1) limit).take (j - start)).count c =
        1 + ((slice text (start + 1) limit).take (j - start)).count o := by
  rw [Evens, through_eq_cons hopen hle hlt, List.count_cons_self, List.count_cons_of_ne hne, Nat.add_comm 1]

/-- The search ends at the first offset by which as many brackets are closed as opened. -/
theorem isLeast_of_closeOffset {k : Nat} (hle : limit ≤ text.length) (hopen : text[start]? = some o)
    (hkind : closer? o = some c) (h : closeOffset o c 1 (slice text (start + 1) limit) = some k) :
    IsLeast (evenOffsets o c text start limit) (start + 1 + k) ∧ text[start + 1 + k]? = some c ∧
      ∀ j, start ≤ j → j < start + 1 + k → (through text start j).count c < (through text start j).count o := by
  have hne : o ≠ c := closer?_ne hkind hkind
  have hk := closeOffset_lt h
  rw [length_slice hle] at hk
  obtain ⟨hcount, hbefore⟩ := count_of_closeOffset hne Nat.one_pos h
  have hopened (j : Nat) (hj : start ≤ j) (hjk : j < start + 1 + k) :
      (through text start j).count c < (through text start j).count o := by
    have hfewer := hbefore (j - start) (by omega)
    rw [through_eq_cons hopen hj (show j < limit by omega), List.count_cons_self, List.count_cons_of_ne hne]
    omega
  have hoffset : start + 1 + k - start = k + 1 := by omega
  have heven : Evens o c text start (start + 1 + k) := by
    rw [evens_iff hne hopen (by omega) (show start + 1 + k < limit by omega), hoffset]
    exact hcount
  refine ⟨⟨⟨by omega, by omega, heven⟩, fun j hj => ?_⟩, ?_, hopened⟩
  · by_contra hless
    exact absurd hj.2.2 (Nat.ne_of_lt (hopened j (by have := hj.1; omega) (by omega)))
  · rw [← getElem?_slice (show start + 1 + k < limit by omega)]
    exact closeOffset_getElem? h

theorem notMem_evenOffsets_of_closeOffset (hopen : text[start]? = some o) (hkind : closer? o = some c)
    (h : closeOffset o c 1 (slice text (start + 1) limit) = none) (j : Nat) :
    j ∉ evenOffsets o c text start limit := by
  have hne : o ≠ c := closer?_ne hkind hkind
  rintro ⟨hj, hlt, heven⟩
  rw [evens_iff hne hopen (Nat.le_of_lt hj) hlt] at heven
  have hopened := count_lt_of_closeOffset_eq_none hne Nat.one_pos h (j - start)
  omega

end

/-! ## Partners -/

/-- The brackets of all three kinds, as they open. -/
def brackets : List Char := ['(', '{', '[']

/-- In a text that nests, the bracket at the start and the one `n` characters behind it are partners. -/
def Partner (o c : Char) (s : List Char) (n : Nat) : Prop :=
  ∃ inside after, s = o :: inside ++ c :: after ∧ Nested brackets inside ∧ Nested brackets after ∧
    n = inside.length + 1

section

variable {o c : Char} {s : List Char} {n : Nat}

theorem mem_brackets (hkind : closer? o = some c) : o ∈ brackets := by
  rcases closer?_cases hkind with ⟨rfl, -⟩ | ⟨rfl, -⟩ | ⟨rfl, -⟩ <;> decide

theorem Nested.exists_partner (hkind : closer? o = some c) (h : Nested brackets (o :: s)) :
    ∃ n, Partner o c (o :: s) n := by
  generalize htext : o :: s = t at h
  cases h with
  | nil => cases htext
  | plain isPlain more =>
    obtain ⟨rfl, rfl⟩ := List.cons.inj htext
    exact absurd (mem_brackets hkind) isPlain.1
  | group opens closes nested more =>
    obtain ⟨rfl, -⟩ := List.cons.inj htext
    cases hkind.symm.trans closes
    exact ⟨_, _, _, rfl, nested, more, rfl⟩

/-- The partner is found although only its own kind is counted, and whatever follows. -/
theorem Partner.closeOffset_append (hkind : closer? o = some c) (h : Partner o c s n) (rest : List Char) :
    closeOffset o c 0 (s ++ rest) = some n := by
  obtain ⟨inside, after, rfl, hinside, -, rfl⟩ := h
  have htext : o :: inside ++ c :: after ++ rest = o :: inside ++ c :: (after ++ rest) := by simp
  rw [htext]
  exact (hinside.balanced (mem_brackets hkind) hkind).closeOffset_eq (closer?_ne hkind hkind) (after ++ rest)

theorem Partner.unique {m : Nat} (hkind : closer? o = some c) (hm : Partner o c s m) (hn : Partner o c s n) :
    m = n :=
  Option.some.inj ((hm.closeOffset_append hkind []).symm.trans (hn.closeOffset_append hkind []))

end

section

variable {text : List Char} {start limit : Nat} {o c : Char}

theorem closing_eq_partner {stop n : Nat} (hstop : start ≤ stop) (hlimit : stop ≤ limit)
    (hle : limit ≤ text.length) (hopen : text[start]? = some o) (hkind : closer? o = some c)
    (h : Partner o c (stretch text start stop) n) :
    closing text start (some limit) = .ok (start + n : Nat) := by
  rw [stretch_eq_slice] at h
  rw [closing_eq hopen hkind hle, ← slice_append hstop hlimit, h.closeOffset_append hkind]
  rfl

/-- Behind an opening bracket, the first offset below the limit by which as many brackets of its kind are
closed as opened holds the closing one; up to there more are opened than closed. Where there is none, the
limit is given. If the text up to some offset nests, the partner of the opening bracket is found. -/
theorem closing_eq_least (hlt : start < limit) (hle : limit ≤ text.length) (hopen : text[start]? = some o)
    (hkind : closer? o = some c) :
    ((evenOffsets o c text start limit).Nonempty → ∃ r : Nat, closing text start (some limit) = .ok r ∧
        IsLeast (evenOffsets o c text start limit) r ∧ text[r]? = some c ∧
        ∀ j, start ≤ j → j < r → (through text start j).count c < (through text start j).count o) ∧
      (¬ (evenOffsets o c text start limit).Nonempty → closing text start (some limit) = .ok limit) ∧
      ∀ stop : Nat, start < stop → stop ≤ limit → Nested brackets (stretch text start stop) →
        ∃ n, Partner o c (stretch text start stop) n ∧ (∀ m, Partner o c (stretch text start stop) m → m = n) ∧
          closing text start (some limit) = .ok (start + n : Nat) := by
  refine ⟨fun ⟨j, hj⟩ => ?_, fun hnone => ?_, fun stop hstop hlimit hnested => ?_⟩
  · rw [closing_eq_elim hlt hle hopen hkind]
    cases hclose : closeOffset o c 1 (slice text (start + 1) limit) with
    | none => exact absurd hj (notMem_evenOffsets_of_closeOffset hopen hkind hclose j)
    | some k => exact ⟨start + 1 + k, rfl, isLeast_of_closeOffset hle hopen hkind hclose⟩
  · rw [closing_eq_elim hlt hle hopen hkind]
    cases hclose : closeOffset o c 1 (slice text (start + 1) limit) with
    | none => rfl
    | some k => exact absurd ⟨_, (isLeast_of_closeOffset hle hopen hkind hclose).1.1⟩ hnone
  · have hcons : stretch text start stop = o :: slice text (start + 1) stop := by
      rw [stretch_eq_slice, slice_cons hopen hstop]
    have hpartner : ∃ n, Partner o c (stretch text start stop) n := by
      rw [hcons] at hnested ⊢
      exact hnested.exists_partner hkind
    obtain ⟨n, hn⟩ := hpartner
    exact ⟨n, hn, fun m hm => hm.unique hkind hn,
      closing_eq_partner (Nat.le_of_lt hstop) hlimit hle hopen hkind hn⟩

/-- Brackets of two kinds inside, and the first closing one is not the partner. -/
def nestedCall : List Char := "f(a[b(c)]d)x".toList

theorem closing_eq_least_nestedCall :
    (1 < 12 ∧ 12 ≤ nestedCall.length ∧ nestedCall[1]? = some '(' ∧ closer? '(' = some ')') ∧
      closing nestedCall 1 (some 12) = .ok 10 ∧
      (∃ r : Nat, closing nestedCall 1 (some 12) = .ok r ∧ nestedCall[r]? = some ')') ∧
      closing nestedCall 1 (some 9) = .ok 9 := by
  have hopen : nestedCall[1]? = some '(' := by decide
  obtain ⟨hleast, -, hpartner⟩ :=
    closing_eq_least (show 1 < 12 by decide) (show 12 ≤ nestedCall.length by decide) hopen rfl
  refine ⟨⟨by decide, by decide, hopen, rfl⟩, ?_, ?_, ?_⟩
  · obtain ⟨n, -, hunique, hclosing⟩ := hpartner 12 (by decide) (by decide) (by decide)
    have hn : Partner '(' ')' (stretch nestedCall 1 12) 9 :=
      ⟨"a[b(c)]d".toList, ['x'], by decide, by decide, by decide, rfl⟩
    rw [← hunique 9 hn] at hclosing
    exact hclosing
  · have heven : Evens '(' ')' nestedCall 1 10 := by decide
    obtain ⟨r, hclosing, -, hcloser, -⟩ := hleast ⟨10, by decide, by decide, heven⟩
    exact ⟨r, hclosing, hcloser⟩
  · obtain ⟨-, hlimit, -⟩ :=
      closing_eq_least (show 1 < 9 by decide) (show 9 ≤ nestedCall.length by decide) hopen rfl
    refine hlimit fun ⟨j, hj, hlt, heven⟩ => ?_
    have hmore : ∀ j < 9, 1 < j → ¬ Evens '(' ')' nestedCall 1 j := by decide
    exact hmore j hlt hj heven

end

end EndpointIndex.Source
