/-!
# UTF-8

Bytes to characters. `decode?` refuses a text with an invalid byte; `decodeLossy` leaves out the
bytes that belong to no character. Main fact: where the first succeeds, the second agrees with it
(`decodeLossy_eq_of_decode?`).
-/

namespace EndpointIndex.Text.Utf8

def isTail (b : UInt8) : Bool := 0x80 ≤ b.toNat && b.toNat ≤ 0xBF

/-- The low six bits that a continuation byte carries. -/
def payload (b : UInt8) : Nat := b.toNat % 64

/-- The second bytes that may follow the lead byte of a character of three or four bytes: they rule
out overlong forms, surrogates and code points beyond the last plane. -/
def admitsSecond (lead second : UInt8) : Bool :=
  let b := second.toNat
  match lead.toNat with
  | 0xE0 => 0xA0 ≤ b && b ≤ 0xBF
  | 0xED => 0x80 ≤ b && b ≤ 0x9F
  | 0xF0 => 0x90 ≤ b && b ≤ 0xBF
  | 0xF4 => 0x80 ≤ b && b ≤ 0x8F
  | _ => isTail second

/-- The character at the head of the bytes, with the number of bytes it takes. -/
def head? : List UInt8 → Option (Char × Nat)
  | [] => none
  | a :: r =>
    let n := a.toNat
    if n < 0x80 then some (Char.ofNat n, 1)
    else if 0xC2 ≤ n && n ≤ 0xDF then
      match r with
      | b :: _ => if isTail b then some (Char.ofNat (n % 32 * 64 + payload b), 2) else none
      | [] => none
    else if 0xE0 ≤ n && n ≤ 0xEF then
      match r with
      | b :: c :: _ =>
        if admitsSecond a b && isTail c then
          some (Char.ofNat (n % 16 * 4096 + payload b * 64 + payload c), 3)
        else none
      | _ => none
    else if 0xF0 ≤ n && n ≤ 0xF4 then
      match r with
      | b :: c :: d :: _ =>
        if admitsSecond a b && isTail c && isTail d then
          some (Char.ofNat (n % 8 * 262144 + payload b * 4096 + payload c * 64 + payload d), 4)
        else none
      | _ => none
    else none

/-- All characters of the bytes, if every byte belongs to one. -/
def decode? (bytes : List UInt8) : Option (List Char) :=
  match bytes with
  | [] => some []
  | b :: r =>
    match head? (b :: r) with
    | some (c, n) => (decode? (r.drop (n - 1))).map (c :: ·)
    | none => none
termination_by bytes.length
decreasing_by
  rw [List.length_drop, List.length_cons]
  omega

/-- The characters of the bytes, without the bytes that belong to none. -/
def decodeLossy (bytes : List UInt8) : List Char :=
  match bytes with
  | [] => []
  | b :: r =>
    match head? (b :: r) with
    | some (c, n) => c :: decodeLossy (r.drop (n - 1))
    | none => decodeLossy r
termination_by bytes.length
decreasing_by
  · rw [List.length_drop, List.length_cons]
    omega
  · exact Nat.lt_succ_self _

def encodeText (s : String) : List UInt8 := s.toUTF8.toList

theorem decodeLossy_eq_of_decode? {bytes : List UInt8} {s : List Char}
    (h : decode? bytes = some s) : decodeLossy bytes = s := by
  fun_induction decode? bytes generalizing s with
  | case1 => simp_all [decodeLossy]
  | case2 b r c n hc ih =>
    obtain ⟨t, ht, rfl⟩ := Option.map_eq_some_iff.1 h
    simp [decodeLossy, hc, ih ht]
  | case3 => simp at h

end EndpointIndex.Text.Utf8
