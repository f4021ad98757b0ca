/-!
# Occurrence of one text in another

Main fact: the test is the infix relation of lists (`occursIn_iff`).
-/

namespace EndpointIndex.Text

/-- Whether `needle` occurs somewhere in the text. -/
def occursIn (needle : List Char) : List Char → Bool
  | [] => needle.isEmpty
  | c :: r => needle.isPrefixOf (c :: r) || occursIn needle r

def contains (text needle : String) : Bool := occursIn needle.toList text.toList

/-- Whether one of the needles occurs in the text. -/
def containsAny (text : String) (needles : List String) : Bool := needles.any (contains text)

theorem occursIn_iff (needle text : List Char) : occursIn needle text = true ↔ needle <:+: text := by
  induction text with
  | nil => simp [occursIn]
  | cons c r ih => simp [occursIn, ih, List.infix_cons_iff]

end EndpointIndex.Text
