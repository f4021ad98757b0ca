import EndpointIndex.Glob
import Mathlib.Data.List.Infix

/-!
# Globs and directories

What a pattern matches is said item by item: a text is cut into pieces, and every item stands for its own
piece (`matchItems_cons_iff`, `matchItems_append_iff`). A leading `**/` is a star and a slash, or nothing,
so it stands for any number of whole directories (`matchesPath_anyDirectories`), and a name between two
such marks is looked for among the directories of a path.
-/

namespace EndpointIndex.Glob

/-! ## Items and pieces -/

/-- The pieces of a text that an item stands for: any at all for a star, slashes included, and one
admitted character for every other item. -/
def Item.Spells : Item → List Char → Prop
  | .star, _ => True
  | item, s => ∃ c, s = [c] ∧ item.admits c = true

section

variable {item : Item} {p q : List Item} {s : List Char}

theorem matchItems_nil_iff : matchItems [] s = true ↔ s = [] := by
  rw [matchItems, List.isEmpty_iff]

theorem matchItems_star_cons_iff :
    matchItems (.star :: p) s = true ↔ ∃ x y, s = x ++ y ∧ matchItems p y = true := by
  induction s with
  | nil =>
    rw [matchItems]
    constructor
    · intro h
      exact ⟨[], [], rfl, h⟩
    · rintro ⟨x, y, hs, h⟩
      obtain ⟨rfl, rfl⟩ := List.append_eq_nil_iff.1 hs.symm
      exact h
  | cons c r ih =>
    rw [matchItems, Bool.or_eq_true, ih]
    constructor
    · rintro (h | ⟨x, y, rfl, h⟩)
      · exact ⟨[], c :: r, rfl, h⟩
      · exact ⟨c :: x, y, rfl, h⟩
    · rintro ⟨x, y, hs, h⟩
      -- the star stands for nothing, or it takes the first character
      cases x with
      | nil => exact .inl (hs ▸ h)
      | cons d x =>
        obtain ⟨rfl, rfl⟩ := List.cons.inj hs
        exact .inr ⟨x, y, rfl, h⟩

theorem matchItems_single_cons_iff (h : item ≠ .star) :
    matchItems (item :: p) s = true ↔
      ∃ c r, s = c :: r ∧ item.admits c = true ∧ matchItems p r = true := by
  cases s with
  | nil =>
    have hnil : matchItems (item :: p) [] = false := by cases item <;> simp_all [matchItems]
    simp [hnil]
  | cons c r =>
    have hhead : matchItems (item :: p) (c :: r) = (item.admits c && matchItems p r) := by
      cases item <;> simp_all [matchItems]
    rw [hhead, Bool.and_eq_true]
    constructor
    · intro h
      exact ⟨c, r, rfl, h⟩
    · rintro ⟨c, r, heq, h⟩
      obtain ⟨rfl, rfl⟩ := List.cons.inj heq
      exact h

theorem matchItems_cons_iff : matchItems (item :: p) s = true ↔
    ∃ x y, s = x ++ y ∧ item.Spells x ∧ matchItems p y = true := by
  by_cases h : item = .star
  · subst h
    simp only [matchItems_star_cons_iff, Item.Spells, true_and]
  · have hspells (x : List Char) : item.Spells x ↔ ∃ c, x = [c] ∧ item.admits c = true := by
      cases item <;> first | exact absurd rfl h | exact Iff.rfl
    rw [matchItems_single_cons_iff h]
    constructor
    · rintro ⟨c, r, rfl, hc, hr⟩
      exact ⟨[c], r, rfl, (hspells _).2 ⟨c, rfl, hc⟩, hr⟩
    · rintro ⟨x, r, rfl, hx, hr⟩
      obtain ⟨c, rfl, hc⟩ := (hspells _).1 hx
      exact ⟨c, r, rfl, hc, hr⟩

/-- One pattern after another matches a text after another. -/
theorem matchItems_append_iff : matchItems (p ++ q) s = true ↔
    ∃ x y, s = x ++ y ∧ matchItems p x = true ∧ matchItems q y = true := by
  induction p generalizing s with
  | nil =>
    simp only [List.nil_append, matchItems_nil_iff]
    constructor
    · intro h
      exact ⟨[], s, rfl, rfl, h⟩
    · rintro ⟨x, y, rfl, rfl, h⟩
      exact h
  | cons item p ih =>
    rw [List.cons_append, matchItems_cons_iff]
    constructor
    · rintro ⟨x, r, rfl, hx, hr⟩
      obtain ⟨y, z, rfl, hy, hz⟩ := ih.1 hr
      exact ⟨x ++ y, z, by rw [List.append_assoc], matchItems_cons_iff.2 ⟨x, y, rfl, hx, hy⟩, hz⟩
    · rintro ⟨w, z, rfl, hw, hz⟩
      obtain ⟨x, y, rfl, hx, hy⟩ := matchItems_cons_iff.1 hw
      exact ⟨x, y ++ z, by rw [List.append_assoc], hx, ih.2 ⟨y, z, rfl, hy, hz⟩⟩

theorem matchItems_literals_iff {w : List Char} : matchItems (w.map .literal) s = true ↔ s = w := by
  induction w generalizing s with
  | nil => exact matchItems_nil_iff
  | cons c w ih =>
    rw [List.map_cons, matchItems_single_cons_iff Item.noConfusion]
    simp only [Item.admits, beq_iff_eq, ih]
    constructor
    · rintro ⟨d, r, rfl, rfl, rfl⟩
      rfl
    · rintro rfl
      exact ⟨c, w, rfl, rfl, rfl⟩

end

/-! ## Items of patterns -/

/-- The characters that have a meaning of their own outside of brackets. -/
def metacharacters : List Char := ['*', '?', '[']

theorem items_plain_append {w : List Char} (h : ∀ c ∈ w, c ∉ metacharacters) (p : List Char) :
    items (w ++ p) = w.map .literal ++ items p := by
  induction w with
  | nil => rfl
  | cons c w ih =>
    have hc : c ∉ metacharacters := h c List.mem_cons_self
    simp only [metacharacters, List.mem_cons, List.not_mem_nil, or_false, not_or] at hc
    rw [List.cons_append, items, if_neg hc.1, if_neg hc.2.1, if_neg hc.2.2,
      ih fun d hd => h d (List.mem_cons_of_mem c hd)]
    rfl

theorem items_star : items ['*'] = [.star] := by
  rw [items, if_pos rfl, items]

theorem items_slash_cons (p : List Char) : items ('/' :: p) = .literal '/' :: items p :=
  items_plain_append (w := ['/']) (by simp [metacharacters]) p

/-- Two stars are one, also when more of the pattern follows. -/
theorem items_star_star (p : List Char) : items ('*' :: '*' :: p) = items ('*' :: p) := by
  have hhead : ∃ rest, items ('*' :: p) = .star :: rest := by
    rw [items, if_pos rfl]
    split <;> exact ⟨_, rfl⟩
  obtain ⟨rest, hrest⟩ := hhead
  rw [items, if_pos rfl, hrest]

theorem items_anyDirectories_append (p : List Char) :
    items (anyDirectories ++ p) = .star :: .literal '/' :: items p := by
  show items ('*' :: '*' :: '/' :: p) = _
  rw [items_star_star, items, if_pos rfl, items_slash_cons]

/-! ## Paths -/

section

variable {p s : List Char}

/-- Read as it stands, a leading `**/` is at least one directory. -/
theorem matchItems_anyDirectories_iff : matchItems (items (anyDirectories ++ p)) s = true ↔
    ∃ x y, s = x ++ '/' :: y ∧ matchItems (items p) y = true := by
  rw [items_anyDirectories_append, matchItems_star_cons_iff]
  constructor
  · rintro ⟨x, r, rfl, hr⟩
    obtain ⟨c, y, rfl, hc, hy⟩ := (matchItems_single_cons_iff Item.noConfusion).1 hr
    obtain rfl : c = '/' := eq_of_beq hc
    exact ⟨x, y, rfl, hy⟩
  · rintro ⟨x, y, rfl, hy⟩
    exact ⟨x, '/' :: y, rfl, (matchItems_single_cons_iff Item.noConfusion).2 ⟨'/', y, rfl, rfl, hy⟩⟩

/-- What lies anywhere below a directory. -/
theorem matchItems_below_iff {d : List Char} (h : ∀ c ∈ d, c ∉ metacharacters) :
    matchItems (items (d ++ ['/', '*', '*'])) s = true ↔ d ++ ['/'] <+: s := by
  have hitems : items (d ++ ['/', '*', '*']) = (d ++ ['/']).map .literal ++ [.star] := by
    rw [items_plain_append h, items_slash_cons, items_star_star, items_star, List.map_append,
      List.append_assoc]
    rfl
  rw [hitems, matchItems_append_iff]
  constructor
  · rintro ⟨x, y, rfl, hx, -⟩
    rw [matchItems_literals_iff.1 hx]
    exact List.prefix_append _ y
  · rintro ⟨y, rfl⟩
    refine ⟨d ++ ['/'], y, rfl, matchItems_literals_iff.2 rfl, ?_⟩
    exact matchItems_star_cons_iff.2 ⟨y, [], (List.append_nil y).symm, matchItems_nil_iff.2 rfl⟩

end

theorem matchesText_anyDirectories_iff (p r : String) : matchesText ("**/" ++ p) r = true ↔
    ∃ x y, r = x ++ "/" ++ y ∧ matchesText p y = true := by
  have htoList : ("**/" ++ p).toList = anyDirectories ++ p.toList := String.toList_append
  rw [matchesText, htoList, matchItems_anyDirectories_iff]
  constructor
  · rintro ⟨x, y, hr, hy⟩
    refine ⟨String.ofList x, String.ofList y, String.toList_injective ?_, ?_⟩
    · simpa using hr
    · simpa [matchesText] using hy
  · rintro ⟨x, y, rfl, hy⟩
    exact ⟨x.toList, y.toList, by simp, hy⟩

theorem matchesPath_anyDirectories_eq (p r : String) :
    matchesPath ("**/" ++ p) r = (matchesText ("**/" ++ p) r || matchesText p r) := by
  have htoList : ("**/" ++ p).toList = anyDirectories ++ p.toList := String.toList_append
  have hstarts : anyDirectories.isPrefixOf ("**/" ++ p).toList = true := by
    rw [htoList, List.isPrefixOf_iff_prefix]
    exact List.prefix_append _ _
  have hrest : ("**/" ++ p).toList.drop anyDirectories.length = p.toList := by
    rw [htoList, List.drop_left]
  rw [matchesPath, hstarts, hrest, Bool.true_and]
  rfl

/-- A leading `**/` stands for no directory or for any number of whole ones. Between two such marks, a
name without characters of special meaning is that of a directory on the path. -/
theorem matchesPath_anyDirectories (p r : String) :
    (matchesPath ("**/" ++ p) r = true ↔
        matchesText p r = true ∨ ∃ x y, r = x ++ "/" ++ y ∧ matchesText p y = true) ∧
      ∀ d : String, (∀ c ∈ d.toList, c ∉ metacharacters) →
        (matchesPath ("**/" ++ d ++ "/**") r = true ↔
          (d ++ "/").toList <+: r.toList ∨ ("/" ++ d ++ "/").toList <:+: r.toList) := by
  have hpath (p : String) : matchesPath ("**/" ++ p) r = true ↔
      matchesText p r = true ∨ ∃ x y, r = x ++ "/" ++ y ∧ matchesText p y = true := by
    rw [matchesPath_anyDirectories_eq, Bool.or_eq_true, matchesText_anyDirectories_iff, or_comm]
  refine ⟨hpath p, fun d hd => ?_⟩
  have hbelow (y : String) : matchesText (d ++ "/**") y = true ↔ (d ++ "/").toList <+: y.toList := by
    have hpattern : (d ++ "/**").toList = d.toList ++ ['/', '*', '*'] := String.toList_append
    have hname : (d ++ "/").toList = d.toList ++ ['/'] := String.toList_append
    rw [matchesText, hpattern, hname, matchItems_below_iff hd]
  rw [String.append_assoc, hpath]
  -- the name begins the path, or follows a slash in it
  apply or_congr (hbelow r)
  constructor
  · rintro ⟨x, y, rfl, hy⟩
    obtain ⟨z, hz⟩ := (hbelow y).1 hy
    refine ⟨x.toList, z, ?_⟩
    simp only [String.toList_append, ← hz, List.append_assoc]
  · rintro ⟨x, z, hr⟩
    refine ⟨String.ofList x, d ++ "/" ++ String.ofList z, String.toList_injective ?_, ?_⟩
    · simpa [String.toList_append] using hr.symm
    · rw [hbelow]
      exact ⟨z, by simp [String.toList_append]⟩

/-- What lies below a directory, what lies below one whose name only ends in the same way, and a pattern with
a set that matches in no directory. -/
theorem matchesPath_anyDirectories_target :
    (∀ c ∈ "target".toList, c ∉ metacharacters) ∧
      matchesPath ("**/" ++ "target" ++ "/**") "app/target/A.java" = true ∧
      ¬ matchesPath ("**/" ++ "target" ++ "/**") "app/mytarget/A.java" = true ∧
      matchesPath ("**/" ++ "[AB]?.java") "A1.java" = true := by
  have hplain : ∀ c ∈ "target".toList, c ∉ metacharacters := by simp [metacharacters]
  have hbelow (r : String) := (matchesPath_anyDirectories "" r).2 "target" hplain
  have hset : matchesText "[AB]?.java" "A1.java" = true := by cbv
  refine ⟨hplain, (hbelow _).2 (.inr (by decide)), fun h => ?_, ?_⟩
  · exact absurd ((hbelow _).1 h) (by decide)
  · exact (matchesPath_anyDirectories "[AB]?.java" "A1.java").1.2 (.inl hset)

end EndpointIndex.Glob
