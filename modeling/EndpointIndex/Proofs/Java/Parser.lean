import EndpointIndex.Java.Parser

/-!
# Running token parsers

What the steps of a parser do to the tokens before them. The steps that only look ahead are simp rules,
so that a reading can be followed token by token. A loop is run by its turns (`Turns`, `Separated`), each
of which reads at least one token; its bound is met then (`Turns.untilNext_eq`, `Separated.separated_eq`).
-/

namespace EndpointIndex.Java.Parser

variable {α β : Type}

theorem bind_run (p : Parser α) (f : α → Parser β) (s : List Token) :
    (p >>= f) s =
      match p s with
      | .ok (a, s') => f a s'
      | .error e => .error e := by
  change StateT.bind p f s = _
  rw [StateT.bind]
  cases p s with
  | error e => rfl
  | ok r => rfl

theorem bind_ok {p : Parser α} {a : α} {s s' : List Token} (h : p s = .ok (a, s')) (f : α → Parser β) :
    (p >>= f) s = f a s' := by
  rw [bind_run, h]

theorem map_ok {p : Parser α} {a : α} {s s' : List Token} (h : p s = .ok (a, s')) (f : α → β) :
    (f <$> p) s = .ok (f a, s') := by
  rw [← bind_pure_comp, bind_ok h]
  rfl

/-! ## Steps -/

@[simp] theorem pure_run (a : α) (s : List Token) : (pure a : Parser α) s = .ok (a, s) := rfl

@[simp] theorem get_bind (f : List Token → Parser β) (s : List Token) : (get >>= f) s = f s s :=
  bind_ok (show (get : Parser (List Token)) s = .ok (s, s) from rfl) f

theorem set_run (s' s : List Token) : (set s' : Parser PUnit) s = .ok (⟨⟩, s') := rfl

@[simp] theorem set_bind (s' : List Token) (f : PUnit → Parser β) (s : List Token) :
    (set s' >>= f) s = f ⟨⟩ s' :=
  bind_ok (set_run s' s) f

@[simp] theorem textAt_nil (i : Nat) : textAt [] i = "" := rfl

@[simp] theorem textAt_zero (t : Token) (s : List Token) : textAt (t :: s) 0 = t.text := rfl

@[simp] theorem textAt_one (t : Token) (s : List Token) : textAt (t :: s) 1 = textAt s 0 := rfl

@[simp] theorem kindAt_zero (t : Token) (s : List Token) : kindAt (t :: s) 0 = some t.kind := rfl

@[simp] theorem startsWith_nil (s : List Token) : startsWith [] s = true := rfl

@[simp] theorem startsWith_cons (w : String) (ws : List String) (t : Token) (s : List Token) :
    startsWith (w :: ws) (t :: s) = (w == t.text && startsWith ws s) := rfl

theorem startsWith_singleton (w : String) (s : List Token) (hw : w ≠ "") :
    startsWith [w] s = (w == textAt s 0) := by
  cases s with
  | nil => exact (beq_false_of_ne hw).symm
  | cons t s => rw [startsWith_cons, startsWith_nil, Bool.and_true, textAt_zero]

@[simp] theorem startsWithText_cons (w : String) (t : Token) (s : List Token) :
    startsWithText w (t :: s) = (w == t.text) := by
  rw [startsWithText, startsWith_cons, startsWith_nil, Bool.and_true]

/-- A step that only looks at the tokens. -/
theorem look_bind (look : List Token → α) (f : α → Parser β) (s : List Token) :
    ((do return look (← get)) >>= f) s = f (look s) s :=
  bind_ok (show (do return look (← get) : Parser α) s = .ok (look s, s) from rfl) f

@[simp] theorem nextIs_bind (w : String) (f : Bool → Parser β) (s : List Token) :
    (nextIs w >>= f) s = f (textAt s 0 == w) s :=
  look_bind (fun s => textAt s 0 == w) f s

@[simp] theorem nextKind_bind (k : TokenKind) (f : Bool → Parser β) (s : List Token) :
    (nextKind k >>= f) s = f (kindAt s 0 == some k) s :=
  look_bind (fun s => kindAt s 0 == some k) f s

@[simp] theorem nextName_bind (w : String) (f : Bool → Parser β) (s : List Token) :
    (nextName w >>= f) s = f (kindAt s 0 == some .identifier && textAt s 1 == w) s :=
  look_bind (fun s => kindAt s 0 == some .identifier && textAt s 1 == w) f s

@[simp] theorem next_bind (ws : List String) (f : Bool → Parser β) (s : List Token) :
    (next ws >>= f) s = f (startsWith ws s) s :=
  look_bind (startsWith ws) f s

@[simp] theorem nextLine_bind (f : Nat → Parser β) (t : Token) (s : List Token) :
    (nextLine >>= f) (t :: s) = f t.line (t :: s) :=
  look_bind (fun s => (s.head?.map Token.line).getD 0) f (t :: s)

theorem advance_run (t : Token) (s : List Token) : advance (t :: s) = .ok (t, s) := rfl

@[simp] theorem advance_bind (f : Token → Parser β) (t : Token) (s : List Token) :
    (advance >>= f) (t :: s) = f t s :=
  bind_ok (advance_run t s) f

theorem tryAll_run (ws : List String) (s : List Token) :
    tryAll ws s = .ok (startsWith ws s, if startsWith ws s then s.drop ws.length else s) := by
  rw [tryAll, get_bind]
  cases hstart : startsWith ws s with
  | true => rw [if_pos rfl, if_pos rfl, set_bind, pure_run]
  | false => rw [if_neg Bool.false_ne_true, if_neg Bool.false_ne_true, pure_run]

@[simp] theorem tryAll_bind (ws : List String) (f : Bool → Parser β) (s : List Token) :
    (tryAll ws >>= f) s =
      f (startsWith ws s) (if startsWith ws s then s.drop ws.length else s) :=
  bind_ok (tryAll_run ws s) f

@[simp] theorem tryAccept_bind (w : String) (f : Bool → Parser β) (s : List Token) :
    (tryAccept w >>= f) s = f (startsWith [w] s) (if startsWith [w] s then s.drop 1 else s) :=
  tryAll_bind [w] f s

@[simp] theorem accept_run (k : TokenKind) (w : String) (line : Nat) (s : List Token) :
    accept w (⟨k, w, line⟩ :: s) = .ok ((), s) := by
  rw [accept, advance_bind, if_pos (beq_self_eq_true w), pure_run]

@[simp] theorem accept_bind (k : TokenKind) (w : String) (line : Nat) (f : Unit → Parser β)
    (s : List Token) : (accept w >>= f) (⟨k, w, line⟩ :: s) = f () s :=
  bind_ok (accept_run k w line s) f

@[simp] theorem accept_map (k : TokenKind) (w : String) (line : Nat) (f : Unit → β) (s : List Token) :
    (f <$> accept w) (⟨k, w, line⟩ :: s) = .ok (f (), s) :=
  map_ok (accept_run k w line s) f

theorem acceptKind_run (k : TokenKind) (w : String) (line : Nat) (s : List Token) :
    acceptKind k (⟨k, w, line⟩ :: s) = .ok (w, s) := by
  rw [acceptKind, advance_bind, if_pos (beq_self_eq_true k), pure_run]

theorem identifier_run (w : String) (line : Nat) (s : List Token) :
    identifier (⟨.identifier, w, line⟩ :: s) = .ok (w, s) :=
  acceptKind_run .identifier w line s

@[simp] theorem identifier_bind (w : String) (line : Nat) (f : String → Parser β) (s : List Token) :
    (identifier >>= f) (⟨.identifier, w, line⟩ :: s) = f w s :=
  bind_ok (identifier_run w line s) f

/-! ## Loops -/

/-- The turns of a loop that reads items until a test passes. -/
inductive Turns (stop : List Token → Bool) (item : Parser α) :
    List Token → List α → List Token → Prop
  | done {s : List Token} (hstop : stop s = true) : Turns stop item s [] s
  | turn {s s' s'' : List Token} {a : α} {as : List α} (hgo : stop s = false)
      (hitem : item s = .ok (a, s')) (hshorter : s'.length < s.length)
      (hmore : Turns stop item s' as s'') : Turns stop item s (a :: as) s''

theorem Turns.loop_eq {stop : List Token → Bool} {item : Parser α} {s s' : List Token} {as : List α}
    (h : Turns stop item s as s') {n : Nat} (hn : s.length < n) :
    untilNext.loop stop item n s = .ok (as, s') := by
  induction h generalizing n with
  | done hstop =>
    obtain ⟨m, rfl⟩ := Nat.exists_eq_succ_of_ne_zero (Nat.ne_of_gt (Nat.zero_lt_of_lt hn))
    rw [untilNext.loop, get_bind, if_pos hstop, pure_run]
  | turn hgo hitem hshorter hmore ih =>
    obtain ⟨m, rfl⟩ := Nat.exists_eq_succ_of_ne_zero (Nat.ne_of_gt (Nat.zero_lt_of_lt hn))
    have hloop := ih (n := m) (by omega)
    rw [untilNext.loop, get_bind, hgo, if_neg Bool.false_ne_true, bind_ok hitem, bind_ok hloop, pure_run]

theorem Turns.untilNext_eq {stop : List Token → Bool} {item : Parser α} {s s' : List Token} {as : List α}
    (h : Turns stop item s as s') : untilNext stop item s = .ok (as, s') :=
  h.loop_eq (Nat.lt_succ_self _)

/-- The turns of a loop that reads items with a separator between them. -/
inductive Separated (separator : String) (item : Parser α) :
    List Token → List α → List Token → Prop
  | last {s s' : List Token} {a : α} (hitem : item s = .ok (a, s'))
      (hend : startsWith [separator] s' = false) : Separated separator item s [a] s'
  | turn {s s' s'' : List Token} {t : Token} {a : α} {as : List α} (hitem : item s = .ok (a, t :: s'))
      (hseparator : t.text = separator) (hshorter : s'.length < s.length)
      (hmore : Separated separator item s' as s'') : Separated separator item s (a :: as) s''

theorem Separated.loop_eq {separator : String} {item : Parser α} {s s' : List Token} {as : List α}
    (h : Separated separator item s as s') {n : Nat} (hn : s.length < n) :
    separated.loop separator item n s = .ok (as, s') := by
  induction h generalizing n with
  | last hitem hend =>
    obtain ⟨m, rfl⟩ := Nat.exists_eq_succ_of_ne_zero (Nat.ne_of_gt (Nat.zero_lt_of_lt hn))
    rw [separated.loop, bind_ok hitem, tryAccept_bind, hend, if_neg Bool.false_ne_true,
      if_neg Bool.false_ne_true, pure_run]
  | @turn s s' s'' t a as hitem hseparator hshorter hmore ih =>
    obtain ⟨m, rfl⟩ := Nat.exists_eq_succ_of_ne_zero (Nat.ne_of_gt (Nat.zero_lt_of_lt hn))
    have hloop := ih (n := m) (by omega)
    have hstart : startsWith [separator] (t :: s') = true := by
      rw [startsWith_cons, hseparator, beq_self_eq_true, startsWith_nil]
      rfl
    rw [separated.loop, bind_ok hitem, tryAccept_bind, hstart, if_pos rfl, if_pos rfl, List.drop_one,
      List.tail_cons, bind_ok hloop, pure_run]

theorem Separated.separated_eq {separator : String} {item : Parser α} {s s' : List Token} {as : List α}
    (h : Separated separator item s as s') : separated separator item s = .ok (as, s') :=
  h.loop_eq (Nat.lt_succ_self _)

/-- Items between two brackets. -/
theorem Turns.enclosed_eq {opening closing : String} {item : Parser α} {s s' : List Token} {as : List α}
    {k k' : TokenKind} {line line' : Nat}
    (h : Turns (startsWithText closing) item s as (⟨k', closing, line'⟩ :: s')) :
    enclosed opening closing item (⟨k, opening, line⟩ :: s) = .ok (as, s') := by
  rw [enclosed, accept_bind, bind_ok h.untilNext_eq, accept_bind, pure_run]

end EndpointIndex.Java.Parser
