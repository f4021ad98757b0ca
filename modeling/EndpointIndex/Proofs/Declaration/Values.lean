import EndpointIndex.Declaration.Values

/-!
# Values by place

The values nested in a value, each with the place where it stands (`nodes`): what is listed is exactly
what stands somewhere (`mem_nodes_iff`), once for each place and in the order of places, which puts a value
before its items and an item before those to its right (`pairwise_nodes`). Working an agenda off visits
these values as far as they are not too deep (`upTo_eq_within`).
-/

namespace EndpointIndex.Value

/-- The way to a nested value: which item to enter at each array, the outermost first. -/
abbrev Place := List Nat

/-- The value that stands at a place. -/
def at? : Value → Place → Option Value
  | v, [] => some v
  | .array items, i :: place => items[i]?.bind fun v => v.at? place
  | _, _ :: _ => none

mutual

/-- A value and all that are nested in it, each with its place. -/
def nodes : Value → List (Place × Value)
  | .array items => ([], .array items) :: nodesFrom 0 items
  | v => [([], v)]

/-- The nodes of values side by side, the first of which is item number `k`. -/
def nodesFrom (k : Nat) : List Value → List (Place × Value)
  | [] => []
  | v :: vs => v.nodes.map (fun n => (k :: n.1, n.2)) ++ nodesFrom (k + 1) vs

end

/-- The nested values that stand no deeper than `room`. -/
def within (room : Int) (v : Value) : List Value :=
  (v.nodes.filter fun n => n.1.length ≤ room).map Prod.snd

/-! ## Places -/

mutual

theorem mem_nodes_iff (v : Value) (place : Place) (w : Value) :
    (place, w) ∈ v.nodes ↔ v.at? place = some w := by
  cases v with
  | array items =>
    rw [nodes, List.mem_cons, mem_nodesFrom_iff items 0 place w]
    cases place with
    | nil => simp [at?, eq_comm]
    | cons i place =>
      rw [at?]
      constructor
      · rintro (heq | ⟨j, rest, hplace, hw⟩)
        · cases heq
        · obtain ⟨rfl, rfl⟩ := List.cons.inj hplace
          rwa [Nat.zero_add]
      · intro hw
        exact .inr ⟨i, place, by rw [Nat.zero_add], hw⟩
  | _ => cases place <;> simp [nodes, at?, eq_comm]

theorem mem_nodesFrom_iff (vs : List Value) (k : Nat) (place : Place) (w : Value) :
    (place, w) ∈ nodesFrom k vs ↔
      ∃ i rest, place = (k + i) :: rest ∧ (vs[i]?.bind fun v => v.at? rest) = some w := by
  cases vs with
  | nil => simp [nodesFrom]
  | cons v vs =>
    rw [nodesFrom, List.mem_append, mem_nodesFrom_iff vs (k + 1) place w, List.mem_map]
    constructor
    · rintro (⟨⟨rest, x⟩, hx, heq⟩ | ⟨i, rest, rfl, hw⟩)
      · obtain ⟨rfl, rfl⟩ := Prod.mk.inj heq
        exact ⟨0, rest, rfl, (mem_nodes_iff v rest x).1 hx⟩
      · exact ⟨i + 1, rest, by rw [Nat.add_right_comm, Nat.add_assoc], hw⟩
    · rintro ⟨i, rest, rfl, hw⟩
      cases i with
      | zero => exact .inl ⟨(rest, w), (mem_nodes_iff v rest w).2 hw, rfl⟩
      | succ i => exact .inr ⟨i, rest, by rw [Nat.add_right_comm, Nat.add_assoc], hw⟩

end

/-- A place comes before those below it, and before those to its right. -/
def Earlier (m n : Place × Value) : Prop := m.1 < n.1

mutual

theorem pairwise_nodes (v : Value) : v.nodes.Pairwise Earlier := by
  cases v with
  | array items =>
    rw [nodes]
    refine List.pairwise_cons.2 ⟨fun n hn => ?_, pairwise_nodesFrom items 0⟩
    obtain ⟨i, rest, hplace, -⟩ := (mem_nodesFrom_iff items 0 n.1 n.2).1 hn
    show [] < n.1
    rw [hplace]
    exact List.nil_lt_cons _ _
  | _ => exact List.pairwise_singleton _ _

theorem pairwise_nodesFrom (vs : List Value) (k : Nat) : (nodesFrom k vs).Pairwise Earlier := by
  cases vs with
  | nil => exact List.Pairwise.nil
  | cons v vs =>
    rw [nodesFrom]
    refine List.pairwise_append.2 ⟨?_, pairwise_nodesFrom vs (k + 1), ?_⟩
    · -- below one item, places compare as they do within the item
      refine List.pairwise_map.2 ((pairwise_nodes v).imp fun {m n} hmn => ?_)
      exact List.cons_lt_cons_iff.2 (.inr ⟨rfl, hmn⟩)
    · intro m hm n hn
      obtain ⟨m, -, rfl⟩ := List.mem_map.1 hm
      obtain ⟨i, rest, hplace, -⟩ := (mem_nodesFrom_iff vs (k + 1) n.1 n.2).1 hn
      show k :: m.1 < n.1
      rw [hplace]
      exact List.cons_lt_cons_iff.2 (.inl (by omega))

end

/-! ## Depths -/

section

variable {room bound : Int}

theorem within_of_neg (h : room < 0) (v : Value) : v.within room = [] := by
  rw [within, List.map_eq_nil_iff, List.filter_eq_nil_iff]
  intro n _ hn
  have := of_decide_eq_true hn
  omega

theorem within_of_leaf {v : Value} (h : v.nodes = [([], v)]) (hroom : 0 ≤ room) : v.within room = [v] := by
  rw [within, h, List.filter_cons_of_pos (by simpa using hroom)]
  rfl

theorem within_nodesFrom (room : Int) (k : Nat) (vs : List Value) :
    ((nodesFrom k vs).filter fun n => n.1.length ≤ room).map Prod.snd =
      vs.flatMap (within (room - 1)) := by
  induction vs generalizing k with
  | nil => rfl
  | cons v vs ih =>
    have hdeeper (n : Place × Value) :
        decide ((((k :: n.1).length : Nat) : Int) ≤ room) = decide ((n.1.length : Int) ≤ room - 1) := by
      rw [List.length_cons]
      apply decide_eq_decide.2
      omega
    rw [nodesFrom, List.filter_append, List.map_append, ih, List.flatMap_cons, List.filter_map, List.map_map,
      within]
    simp only [Function.comp_def, hdeeper]

theorem within_array (h : 0 ≤ room) (items : List Value) :
    within room (.array items) = .array items :: items.flatMap (within (room - 1)) := by
  rw [within, nodes, List.filter_cons_of_pos (by simpa using h), List.map_cons, within_nodesFrom]

/-- A value comes first, and what it opens comes next. -/
theorem within_eq_cons {v : Value} {depth : Int} (h : depth ≤ bound) :
    v.within (bound - depth) = v :: (opened bound (v, depth)).flatMap fun p => p.1.within (bound - p.2) := by
  cases v with
  | array items =>
    rw [within_array (by omega), opened]
    split
    · rw [List.flatMap_map]
      simp only [Int.sub_sub]
    · -- at the bound nothing is opened, and nothing below has room
      have hnone (v : Value) : v.within (bound - depth - 1) = [] := within_of_neg (by omega) v
      simp [hnone]
  | _ => exact within_of_leaf rfl (by omega)

theorem visit_eq_flatMap {agenda : Agenda} (h : ∀ p ∈ agenda, p.2 ≤ bound) :
    visit bound agenda = agenda.flatMap fun p => p.1.within (bound - p.2) := by
  fun_induction visit bound agenda with
  | case1 => rfl
  | case2 p rest ih =>
    have hopened : ∀ q ∈ opened bound p, q.2 ≤ bound := by
      obtain ⟨v, depth⟩ := p
      intro q hq
      unfold opened at hq
      split at hq
      · split at hq
        · obtain ⟨w, -, rfl⟩ := List.mem_map.1 hq
          exact ‹_ < bound›
        · cases hq
      · cases hq
    have hagenda : ∀ q ∈ opened bound p ++ rest, q.2 ≤ bound := fun q hq =>
      (List.mem_append.1 hq).elim (hopened q) fun hq => h q (List.mem_cons_of_mem p hq)
    rw [ih hagenda, List.flatMap_append, List.flatMap_cons, within_eq_cons (h p List.mem_cons_self),
      List.cons_append]

/-- What is visited is what stands within the bound, in the order of places. -/
theorem upTo_eq_within (h : 0 ≤ bound) (v : Value) : upTo bound v = v.within bound := by
  rw [upTo, visit_eq_flatMap (by simpa using h), List.flatMap_singleton, Int.sub_zero]

end

end EndpointIndex.Value
