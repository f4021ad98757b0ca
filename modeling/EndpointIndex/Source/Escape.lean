/-!
# Escapes in literals

The usual backslash escapes of a string literal. An unknown escape stands for the character after
the backslash; a backslash at the very end stands for itself.
-/

namespace EndpointIndex.Source

/-- What a character stands for after a backslash. -/
def escaped : Char → Char
  | 'n' => '\n'
  | 't' => '\t'
  | 'r' => '\r'
  | 'b' => '\x08'
  | 'f' => '\x0c'
  | '0' => '\x00'
  | 's' => ' '
  | c => c

def unescape : List Char → List Char
  | '\\' :: c :: r => escaped c :: unescape r
  | c :: r => c :: unescape r
  | [] => []

theorem unescape_of_no_backslash {s : List Char} (h : '\\' ∉ s) : unescape s = s := by
  induction s with
  | nil => rfl
  | cons c r ih =>
    have hc : c ≠ '\\' := fun hc => h (by simp [hc])
    have hr : '\\' ∉ r := fun hr => h (by simp [hr])
    rw [unescape]
    · rw [ih hr]
    · rintro d t rfl
      exact absurd rfl hc

end EndpointIndex.Source
