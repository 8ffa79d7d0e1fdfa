import DeviceSetup.Proofs.Utf8RoundTrip

/-!
# Octets that are not all text

Any octets fall into stretches: the octets of a character, or some that are none. Lossy decoding
reads the first kind as that character and puts U+FFFD for the second (`stretches_lossyChars`),
so every other character of the result has its octets in the input.

How a stretch ends depends on what comes next. An ASCII octet never goes on with a character, so
octets in front of one are decoded as if they stood alone (`lossyChars_append`): whether they
are broken off by it or cut off at their end, U+FFFD takes their place.
-/

namespace DeviceSetup.Utf8

/-- The characters of any octets, with U+FFFD for each ill-formed stretch. -/
def lossyChars (bs : Bytes) : List Char :=
  (symbols bs).map Symbol.toChar

/-- The octets of a character in front are read as that character, whatever is behind them. -/
theorem lossyChars_char (c : Char) (rest : Bytes) :
    lossyChars (String.utf8EncodeChar c ++ rest) = c :: lossyChars rest := by
  unfold lossyChars
  rw [symbols_char]
  rfl

/-! ## Where a character ends -/

/-- Nothing, or an ASCII octet in front: this goes on with no character. -/
def EndsChar : Bytes → Prop
  | [] => True
  | b :: _ => b.toNat < 0x80

/-- Inside a character no ASCII octet is waited for. -/
def State.BeyondAscii : State → Prop
  | .between => True
  | .within _ _ _ lo _ => 0x80 ≤ lo

theorem beyondAscii_start (b : Nat) : (start b).2.BeyondAscii := by
  unfold start
  repeat' split
  all_goals simp [State.BeyondAscii]

/-- Whatever the state was, the next one waits for no ASCII octet. -/
theorem beyondAscii_step (state : State) (b : Nat) : (step state b).2.BeyondAscii := by
  cases state with
  | between => exact beyondAscii_start b
  | within seen need acc lo hi =>
      rw [step]
      split
      · dsimp only
        split
        · trivial
        · exact Nat.le_refl 0x80
      · exact beyondAscii_start b

/--
A reader in any state that it can be in, before octets that begin with no continuation.

Where the first octets end inside a character, one reading breaks the character off and the other
one comes to the end of its input. Both put U+FFFD there, and the octet that broke it off is read
anew in the one as it is in the other.
-/
theorem map_readFrom_append {state : State} (hstate : state.BeyondAscii) (xs : Bytes) {ys : Bytes}
    (hys : EndsChar ys) :
    (readFrom state [] (xs ++ ys)).map Symbol.toChar
      = (readFrom state [] xs).map Symbol.toChar ++ lossyChars ys := by
  -- octet by octet, the reader being in any state that it can be in
  induction xs generalizing state with
  | nil =>
      cases state with
      | between => rfl
      | within seen need acc lo hi =>
          cases ys with
          | nil => rfl
          | cons b ys =>
              -- what is broken off here was cut off there
              have hlo : 0x80 ≤ lo := hstate
              have hb : b.toNat < 0x80 := hys
              have hbreaks : ¬ (lo ≤ b.toNat ∧ b.toNat ≤ hi) := by omega
              rw [List.nil_append, readFrom_broken hbreaks, List.map_cons]
              rfl
  | cons x xs ih =>
      have hnext := beyondAscii_step state x.toNat
      rw [List.cons_append, readFrom_cons, readFrom_cons, readFrom_done, readFrom_done _ _ xs,
        List.map_append, List.map_append, ih hnext, List.append_assoc]

/--
**Octets in front of ASCII are decoded as if they stood alone.**

Text is therefore mended in pieces: the pieces of a message between its ASCII marks do not see each
other, however broken they are.
-/
theorem lossyChars_append (xs : Bytes) {ys : Bytes} (hys : EndsChar ys) :
    lossyChars (xs ++ ys) = lossyChars xs ++ lossyChars ys := by
  have hstate : State.between.BeyondAscii := trivial
  exact map_readFrom_append hstate xs hys

/-! ## Stretches -/

/-- Octets fall into stretches: those of a character, and others that U+FFFD stands for. -/
inductive Stretches : Bytes → List Char → Prop where
  | done : Stretches [] []
  | char (c : Char) {bs : Bytes} {cs : List Char} (h : Stretches bs cs) :
      Stretches (String.utf8EncodeChar c ++ bs) (c :: cs)
  | ill (bad : Bytes) {bs : Bytes} {cs : List Char} (h : Stretches bs cs) :
      Stretches (bad ++ bs) ('�' :: cs)

theorem toChar_of_not_char {s : Symbol} (h : ∀ c, s ≠ .char c) : s.toChar = '�' := by
  cases s with
  | char c => exact absurd rfl (h c)
  | ill len => rfl
  | cut len => rfl

/--
**Lossy decoding goes stretch by stretch.**

It drops nothing and adds nothing but U+FFFD: every other character of the result is the character
of some octets of the input, in the order of the input.
-/
theorem stretches_lossyChars (bs : Bytes) : Stretches bs (lossyChars bs) := by
  -- on the length of the input, since a stretch may be of any length but none
  induction hlength : bs.length using Nat.strongRecOn generalizing bs with
  | ind n ih =>
    cases bs with
    | nil => exact .done
    | cons b rest =>
        rcases beginsIll_or_char b rest with
          ⟨bad, rest', s, hsplit, hfound, hs⟩ | ⟨c, rest', hsplit⟩
        · -- octets that are none, of which there is at least one: else nothing was read
          have hshorter : rest'.length < n := by
            cases bad with
            | nil =>
                rw [hsplit, List.nil_append] at hfound
                have hsame := congrArg List.length hfound
                rw [List.length_cons] at hsame
                omega
            | cons x bad =>
                rw [← hlength, hsplit, List.length_append, List.length_cons]
                omega
          have hchars : lossyChars (b :: rest) = '�' :: lossyChars rest' := by
            unfold lossyChars
            rw [hfound, List.map_cons, toChar_of_not_char hs]
          rw [hchars, hsplit]
          exact .ill bad (ih rest'.length hshorter rest' rfl)
        · -- the octets of a character, of which there is at least one too
          have hshorter : rest'.length < n := by
            have hpos := c.utf8Size_pos
            rw [← hlength, hsplit, List.length_append, String.length_utf8EncodeChar]
            omega
          rw [hsplit, lossyChars_char]
          exact .char c (ih rest'.length hshorter rest' rfl)

/-- A character of the result is U+FFFD or has all its octets in the input. -/
theorem Stretches.mem {bs : Bytes} {cs : List Char} (h : Stretches bs cs) {c : Char} (hc : c ∈ cs) :
    c = '�' ∨ ∀ b ∈ String.utf8EncodeChar c, b ∈ bs := by
  induction h with
  | done => cases hc
  | @char c' bs cs h ih =>
      rcases List.mem_cons.mp hc with rfl | hc
      · exact .inr fun b hb => List.mem_append_left _ hb
      · rcases ih hc with hill | hall
        · exact .inl hill
        · exact .inr fun b hb => List.mem_append_right _ (hall b hb)
  | @ill bad bs cs h ih =>
      rcases List.mem_cons.mp hc with rfl | hc
      · exact .inl rfl
      · rcases ih hc with hill | hall
        · exact .inl hill
        · exact .inr fun b hb => List.mem_append_right _ (hall b hb)

end DeviceSetup.Utf8
