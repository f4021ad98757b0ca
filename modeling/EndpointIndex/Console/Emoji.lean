import EndpointIndex.Console.EmojiNames
import EndpointIndex.Text.Blank
import EndpointIndex.Text.Case
import EndpointIndex.Text.Numeral
import Std.Data.HashMap

/-!
# Emoji by name

A name between colons stands for an emoji: `:cat:` is a cat. A name may end in `-emoji` or `-text`,
which asks for the picture or the letter form. Words that are no names stay as they are. Main fact: a
text without colons is left alone (`replace_of_no_colon`).
-/

namespace EndpointIndex.Console.Emoji

/-- The characters that code points in hexadecimal, joined by plus signs, stand for. -/
def ofCodes (codes : String) : String :=
  String.ofList ((codes.splitOn "+").map fun c => Char.ofNat ((Text.digits? 16 c.toList).getD 0))

/-- An entry of the table of names. -/
def entry? (entry : List Char) : Option (String × String) :=
  match (String.ofList entry).splitOn "=" with
  | [name, codes] => some (name, ofCodes codes)
  | _ => none

def byName : Std.HashMap String String :=
  .ofList ((Text.words nameTable.toList).filterMap entry?)

/-- The endings of a name, each with the selector that it adds. -/
def variants : List (List Char × Char) :=
  [("-emoji".toList, '\ufe0f'), ("-text".toList, '\ufe0e')]

/-- A name without its ending, and the selector that the ending asks for. -/
def splitVariant (name : List Char) : List Char × List Char :=
  match variants.find? fun v => v.1.isSuffixOf name with
  | some (ending, selector) => (name.take (name.length - ending.length), [selector])
  | none => (name, [])

/-- The emoji of a name. The case of letters does not matter. -/
def find? (name : List Char) : Option (List Char) :=
  let (name, selector) := splitVariant name
  byName[String.ofList (Text.lowerChars name)]?.map fun e => e.toList ++ selector

/-- A word that a colon ends, and what follows the colon. -/
def named? : List Char → Option (List Char × List Char)
  | [] => none
  | c :: r =>
    if c = ':' then some ([], r)
    else if Text.isBlank c then none
    else (named? r).map fun p => (c :: p.1, p.2)

theorem length_of_named? {s name rest : List Char} (h : named? s = some (name, rest)) :
    rest.length < s.length := by
  induction s generalizing name with
  | nil => simp [named?] at h
  | cons c r ih =>
    simp only [named?] at h
    split at h
    · simp only [Option.some.injEq, Prod.mk.injEq] at h
      simp [← h.2]
    · split at h
      · simp at h
      · obtain ⟨p, hp, he⟩ := Option.map_eq_some_iff.1 h
        simp only [Prod.mk.injEq] at he
        have := ih (show named? r = some (p.1, rest) by rw [hp, ← he.2])
        simp only [List.length_cons]
        omega

/-- Replaces the names between colons. The two colons of a word that is no name are passed over
together. -/
def replace (s : List Char) : List Char :=
  match s with
  | [] => []
  | c :: r =>
    if c = ':' then
      match _h : named? r with
      | some (name, rest) => (find? name).getD (':' :: name ++ [':']) ++ replace rest
      | none => c :: replace r
    else c :: replace r
termination_by s.length
decreasing_by
  · have := length_of_named? _h
    simp only [List.length_cons]
    omega
  · simp
  · simp

theorem replace_of_no_colon {s : List Char} (h : ':' ∉ s) : replace s = s := by
  induction s with
  | nil => rw [replace]
  | cons c r ih =>
    have hc : c ≠ ':' := fun e => h (by simp [e])
    rw [replace, if_neg hc, ih fun e => h (List.mem_cons_of_mem _ e)]

end EndpointIndex.Console.Emoji
