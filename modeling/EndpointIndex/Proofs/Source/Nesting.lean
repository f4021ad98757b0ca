import EndpointIndex.Proofs.Outline.Brackets

/-!
# Nesting

A text nests when every opening bracket is closed by a bracket of its own kind and the text between the
two nests. The kinds of brackets that count are given by the opening ones. Main facts: one pass that
remembers the closing brackets that are due decides it (`nests_iff`), and a text that nests is balanced
in every kind (`Nested.balanced`), so that counting brackets of one kind finds the one that closes.
-/

namespace EndpointIndex.Source

/-! ## Kinds of brackets -/

section

variable {o o' c c' : Char}

theorem closer?_cases (h : closer? o = some c) :
    (o = '(' ∧ c = ')') ∨ (o = '{' ∧ c = '}') ∨ (o = '[' ∧ c = ']') := by
  unfold closer? at h
  split at h <;> cases h <;> simp

/-- No bracket both opens and closes. -/
theorem closer?_ne (h : closer? o = some c) (h' : closer? o' = some c') : o ≠ c' := by
  rcases closer?_cases h with ⟨rfl, -⟩ | ⟨rfl, -⟩ | ⟨rfl, -⟩ <;>
    rcases closer?_cases h' with ⟨-, rfl⟩ | ⟨-, rfl⟩ | ⟨-, rfl⟩ <;> decide

/-- A closing bracket closes one kind only. -/
theorem closer?_injective (h : closer? o = some c) (h' : closer? o' = some c) : o = o' := by
  rcases closer?_cases h with ⟨rfl, rfl⟩ | ⟨rfl, rfl⟩ | ⟨rfl, rfl⟩ <;>
    rcases closer?_cases h' with ⟨rfl, hc⟩ | ⟨rfl, hc⟩ | ⟨rfl, hc⟩ <;> first | rfl | cases hc

end

/-- Opens or closes none of the brackets. -/
def IsPlain (openers : List Char) (c : Char) : Prop := c ∉ openers ∧ ∀ o ∈ openers, closer? o ≠ some c

instance (openers : List Char) (c : Char) : Decidable (IsPlain openers c) :=
  -- named, since a search can end at the instance that goes through every character
  @instDecidableAnd _ _ _ (List.decidableBAll (closer? · ≠ some c) openers)

inductive Nested (openers : List Char) : List Char → Prop
  | nil : Nested openers []
  | plain {c : Char} {s : List Char} (isPlain : IsPlain openers c) (more : Nested openers s) :
      Nested openers (c :: s)
  | group {o c : Char} {inside after : List Char} (opens : o ∈ openers) (closes : closer? o = some c)
      (nested : Nested openers inside) (more : Nested openers after) :
      Nested openers (o :: inside ++ c :: after)

section

variable {openers due s : List Char}

/-- A text that nests is balanced in every kind of brackets. -/
theorem Nested.balanced {o c : Char} (ho : o ∈ openers) (hc : closer? o = some c) (h : Nested openers s) :
    Balanced o c s := by
  induction h with
  | nil => exact balanced_nil
  | @plain x s hx _ ih =>
    have hopen : o ∉ [x] := by
      intro hmem
      exact hx.1 (List.mem_singleton.1 hmem ▸ ho)
    have hclose : c ∉ [x] := by
      intro hmem
      exact hx.2 o ho (List.mem_singleton.1 hmem ▸ hc)
    exact (balanced_of_notMem hopen hclose).append ih
  | @group o' c' inside after _ hc' _ _ ihinside ihafter =>
    have hsplit : o' :: inside ++ c' :: after = (o' :: inside ++ [c']) ++ after := by simp
    rw [hsplit]
    refine Balanced.append ?_ ihafter
    by_cases hkind : o' = o
    · subst hkind
      obtain rfl : c = c' := Option.some.inj (hc.symm.trans hc')
      exact ihinside.group (closer?_ne hc hc)
    · -- brackets of another kind do not count
      have hopen : Balanced o c [o'] :=
        balanced_of_notMem (by simpa using Ne.symm hkind) (by simpa using (closer?_ne hc' hc).symm)
      have hother : c ≠ c' := fun heq => hkind (closer?_injective hc' (heq ▸ hc))
      have hclose : Balanced o c [c'] :=
        balanced_of_notMem (by simpa using closer?_ne hc hc') (by simpa using hother)
      exact (hopen.append ihinside).append hclose

/-! ## One pass -/

/-- Whether a text nests when the brackets of `due` are still to be closed, the first one first. -/
def nests (openers : List Char) : List Char → List Char → Bool
  | due, [] => due.isEmpty
  | due, x :: s =>
    if IsPlain openers x then nests openers due s
    else
      match closer? x with
      | some c => nests openers (c :: due) s
      | none => due.head? = some x && nests openers due.tail s

/-- A text that nests when it is cut at brackets that close those of `due`. -/
def NestedAround (openers : List Char) : List Char → List Char → Prop
  | [], s => Nested openers s
  | c :: due, s => ∃ inside after, s = inside ++ c :: after ∧ Nested openers inside ∧
      NestedAround openers due after

theorem NestedAround.plain {x : Char} (hx : IsPlain openers x) (h : NestedAround openers due s) :
    NestedAround openers due (x :: s) := by
  cases due with
  | nil => exact Nested.plain hx h
  | cons c due =>
    obtain ⟨inside, after, rfl, hinside, hafter⟩ := h
    exact ⟨x :: inside, after, rfl, .plain hx hinside, hafter⟩

theorem NestedAround.group {o c : Char} (ho : o ∈ openers) (hc : closer? o = some c)
    (h : NestedAround openers (c :: due) s) : NestedAround openers due (o :: s) := by
  obtain ⟨inside, after, rfl, hinside, hafter⟩ := h
  cases due with
  | nil => exact Nested.group ho hc hinside hafter
  | cons d due =>
    obtain ⟨next, rest, rfl, hnext, hrest⟩ := hafter
    exact ⟨o :: inside ++ c :: next, rest, by simp, .group ho hc hinside hnext, hrest⟩

theorem nestedAround_of_nests (h : nests openers due s = true) : NestedAround openers due s := by
  induction s generalizing due with
  | nil =>
    rw [nests, List.isEmpty_iff] at h
    subst h
    exact Nested.nil
  | cons x s ih =>
    rw [nests] at h
    split at h
    · rename_i hplain
      exact (ih h).plain hplain
    · rename_i hbracket
      split at h
      · rename_i c hc
        have ho : x ∈ openers := by
          by_contra hnot
          exact hbracket ⟨hnot, fun o _ hclose => closer?_ne hc hclose rfl⟩
        exact (ih h).group ho hc
      · rw [Bool.and_eq_true, decide_eq_true_eq, List.head?_eq_some_iff] at h
        obtain ⟨⟨due, rfl⟩, h⟩ := h
        exact ⟨[], s, rfl, .nil, ih h⟩

/-- The pass over a text that nests leaves open what was open before. -/
theorem Nested.nests_append (h : Nested openers s) (due rest : List Char) :
    nests openers due (s ++ rest) = nests openers due rest := by
  induction h generalizing due rest with
  | nil => rfl
  | plain hplain _ ih => rw [List.cons_append, nests, if_pos hplain, ih]
  | @group o c inside after ho hc _ _ ihinside ihafter =>
    have hopens : ¬ IsPlain openers o := fun h => h.1 ho
    have hcloses : ¬ IsPlain openers c := fun h => h.2 o ho hc
    have hnone : closer? c = none := Option.eq_none_iff_forall_not_mem.2 fun d hd => closer?_ne hd hc rfl
    rw [List.cons_append, List.cons_append, List.append_assoc, nests, if_neg hopens, hc]
    dsimp only
    rw [ihinside, List.cons_append, nests, if_neg hcloses, hnone]
    simp [ihafter]

theorem nests_iff : nests openers [] s = true ↔ Nested openers s := by
  refine ⟨nestedAround_of_nests, fun h => ?_⟩
  have hpass := h.nests_append [] []
  rwa [List.append_nil] at hpass

instance (openers s : List Char) : Decidable (Nested openers s) :=
  decidable_of_iff (nests openers [] s = true) nests_iff

end

end EndpointIndex.Source
