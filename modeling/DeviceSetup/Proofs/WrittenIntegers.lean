import Mathlib
import DeviceSetup.Form.Behavior
import DeviceSetup.Proofs.Octets

/-!
# Integers as they are written

A form holds its integers as text, and texts are read in two ways: a port by the integer at the
front of its text, a choice by the integer that its whole text is. `Decimal.Denotes` says what
the characters of an integer stand for, without reading them; `Decimal.Leads` says of a whole
text that an integer stands at its front.

Both ways of reading find just what is there, as far as it fits 64 bits
(`leadingInt?_eq_some_iff`, `wholeInt?_eq_some_iff`). The decimal text of an integer is one way
to write it, so both find it there; it is not the only way, since signs and zeros may stand in
front.
-/

namespace DeviceSetup

namespace Decimal

/-! ## What characters stand for -/

/-- A run of digits. -/
def Digits (ds : List Char) : Prop :=
  ds ≠ [] ∧ ∀ c ∈ ds, isDigit c = true

/-- Digits with or without a sign in front stand for an integer. There may be any number of zeros in
front, so an integer has many spellings. -/
inductive Denotes : List Char → Int → Prop where
  | plain {ds : List Char} (h : Digits ds) : Denotes ds (ofDigits ds)
  | plus {ds : List Char} (h : Digits ds) : Denotes ('+' :: ds) (ofDigits ds)
  | minus {ds : List Char} (h : Digits ds) : Denotes ('-' :: ds) (-(ofDigits ds : Int))

/-- An integer stands at the front of a text, behind blanks. It goes as far as there are digits. -/
def Leads (text : String) (z : Int) : Prop :=
  ∃ blanks numeral rest, text.toList = blanks ++ (numeral ++ rest)
    ∧ (∀ c ∈ blanks, Text.isBlank c = true) ∧ Denotes numeral z
    ∧ ∀ c, rest.head? = some c → isDigit c = false

/-! ## Reading digits -/

/-- The number that digits come to behind others. -/
def append (n : Nat) (ds : List Char) : Nat :=
  ds.foldl (fun n c => n * 10 + digitValue c) n

/-- More digits never make a number smaller. -/
theorem le_append (n : Nat) (ds : List Char) : n ≤ append n ds := by
  induction ds generalizing n with
  | nil => exact Nat.le_refl n
  | cons c ds ih =>
      have hnext := ih (n * 10 + digitValue c)
      have hstep : append n (c :: ds) = append (n * 10 + digitValue c) ds := rfl
      omega

/-- Digits are read as long as they come to no more than the bound. -/
theorem readUpTo_eq_ok_iff {bound : Nat} {beyond : Fault} {n m : Nat} {cs : List Char}
    (hn : n ≤ bound) :
    readUpTo bound beyond n cs = .ok m
      ↔ (∀ c ∈ cs, isDigit c = true) ∧ append n cs = m ∧ m ≤ bound := by
  induction cs generalizing n with
  | nil =>
      rw [readUpTo]
      constructor
      · intro h
        cases h
        exact ⟨by simp, rfl, hn⟩
      · rintro ⟨-, rfl, -⟩
        rfl
  | cons c cs ih =>
      rw [readUpTo, List.forall_mem_cons]
      cases hdigit : isDigit c with
      | false => simp
      | true =>
          have hstep : append n (c :: cs) = append (n * 10 + digitValue c) cs := rfl
          have hle := le_append (n * 10 + digitValue c) cs
          rw [hstep]
          by_cases hbound : bound < n * 10 + digitValue c
          · -- digits behind these make it only greater
            simp only [Bool.not_true, Bool.false_eq_true, if_false, hbound, if_true]
            refine ⟨nofun, ?_⟩
            rintro ⟨-, rfl, hm⟩
            omega
          · simp only [Bool.not_true, Bool.false_eq_true, if_false, hbound, true_and]
            exact ih (by omega)

theorem not_digits_nil : ¬ Digits [] := fun h => h.1 rfl

/-- Digits are read from the start, and made into an integer. -/
theorem map_readUpTo_iff {bound : Nat} {beyond : Fault} {ds : List Char} (h : ds ≠ [])
    {f : Nat → Int} {z : Int} :
    (readUpTo bound beyond 0 ds).map f = .ok z
      ↔ Digits ds ∧ z = f (ofDigits ds) ∧ ofDigits ds ≤ bound := by
  rw [map_eq_ok_iff]
  constructor
  · rintro ⟨n, hread, rfl⟩
    obtain ⟨hdigits, rfl, hn⟩ := (readUpTo_eq_ok_iff (Nat.zero_le bound)).mp hread
    exact ⟨⟨h, hdigits⟩, rfl, hn⟩
  · rintro ⟨hdigits, rfl, hn⟩
    exact ⟨ofDigits ds, (readUpTo_eq_ok_iff (Nat.zero_le bound)).mpr ⟨hdigits.2, rfl, hn⟩, rfl⟩

/-! ## Reading integers

One lemma on `readInt64` and one on `Denotes` for each way an integer may begin. -/

theorem readInt64_plus_iff {ds : List Char} {z : Int} :
    readInt64 ('+' :: ds) = .ok z ↔ Digits ds ∧ z = ofDigits ds ∧ ofDigits ds ≤ 2 ^ 63 - 1 := by
  cases ds with
  | nil => exact ⟨nofun, fun h => absurd h.1 not_digits_nil⟩
  | cons c ds => exact map_readUpTo_iff (List.cons_ne_nil c ds)

/-- Below zero there is one number more than above it. -/
theorem readInt64_minus_iff {ds : List Char} {z : Int} :
    readInt64 ('-' :: ds) = .ok z
      ↔ Digits ds ∧ z = -(ofDigits ds : Int) ∧ ofDigits ds ≤ 2 ^ 63 := by
  cases ds with
  | nil => exact ⟨nofun, fun h => absurd h.1 not_digits_nil⟩
  | cons c ds =>
      have hread : readInt64 ('-' :: c :: ds)
          = (readUpTo (2 ^ 63) .tooSmall 0 (c :: ds)).map fun n : Nat => -(n : Int) := by
        rw [readInt64]
        · cases readUpTo (2 ^ 63) .tooSmall 0 (c :: ds) <;> rfl
        · exact nofun
      rw [hread, map_readUpTo_iff (List.cons_ne_nil c ds)]

theorem readInt64_plain_iff {c : Char} {ds : List Char} {z : Int} (hplus : c ≠ '+')
    (hminus : c ≠ '-') :
    readInt64 (c :: ds) = .ok z
      ↔ Digits (c :: ds) ∧ z = ofDigits (c :: ds) ∧ ofDigits (c :: ds) ≤ 2 ^ 63 - 1 := by
  have hread : readInt64 (c :: ds)
      = (readUpTo (2 ^ 63 - 1) .tooLarge 0 (c :: ds)).map Int.ofNat := by
    unfold readInt64
    split <;> rename_i heq
    · cases heq
    · exact absurd (List.cons.inj heq).1 hplus
    · exact absurd (List.cons.inj heq).1 hminus
    · exact absurd (List.cons.inj heq).1 hminus
    · exact absurd (List.cons.inj heq).1 hplus
    · rfl
  rw [hread]
  exact map_readUpTo_iff (List.cons_ne_nil c ds)

theorem not_digits_sign {c : Char} (hc : isDigit c = false) (ds : List Char) :
    ¬ Digits (c :: ds) := by
  intro h
  have hdigit := h.2 c List.mem_cons_self
  rw [hc] at hdigit
  cases hdigit

theorem denotes_plus_iff {ds : List Char} {z : Int} :
    Denotes ('+' :: ds) z ↔ Digits ds ∧ z = ofDigits ds := by
  constructor
  · intro h
    cases h with
    | plain h => exact absurd h (not_digits_sign (by decide) ds)
    | plus h => exact ⟨h, rfl⟩
  · rintro ⟨h, rfl⟩
    exact .plus h

theorem denotes_minus_iff {ds : List Char} {z : Int} :
    Denotes ('-' :: ds) z ↔ Digits ds ∧ z = -(ofDigits ds : Int) := by
  constructor
  · intro h
    cases h with
    | plain h => exact absurd h (not_digits_sign (by decide) ds)
    | minus h => exact ⟨h, rfl⟩
  · rintro ⟨h, rfl⟩
    exact .minus h

theorem denotes_plain_iff {c : Char} {ds : List Char} {z : Int} (hplus : c ≠ '+')
    (hminus : c ≠ '-') : Denotes (c :: ds) z ↔ Digits (c :: ds) ∧ z = ofDigits (c :: ds) := by
  constructor
  · intro h
    cases h with
    | plain h => exact ⟨h, rfl⟩
    | plus h => exact absurd rfl hplus
    | minus h => exact absurd rfl hminus
  · rintro ⟨h, rfl⟩
    exact .plain h

theorem not_denotes_nil (z : Int) : ¬ Denotes [] z := by
  intro h
  cases h with
  | plain h => exact not_digits_nil h

/-- Characters stand for one integer at most. -/
theorem Denotes.unique {cs : List Char} {z z' : Int} (h : Denotes cs z) (h' : Denotes cs z') :
    z = z' := by
  cases h with
  | plain hds =>
      cases h' with
      | plain _ => rfl
      | plus _ => exact absurd hds (not_digits_sign (by decide) _)
      | minus _ => exact absurd hds (not_digits_sign (by decide) _)
  | plus hds => exact (denotes_plus_iff.mp h').2.symm
  | minus hds => exact (denotes_minus_iff.mp h').2.symm

/-- **What is read as an integer is what the characters stand for, if that fits 64 bits.** The cases
are those of the first character. -/
theorem readInt64_eq_ok_iff {cs : List Char} {z : Int} :
    readInt64 cs = .ok z ↔ Denotes cs z ∧ -2 ^ 63 ≤ z ∧ z < 2 ^ 63 := by
  cases cs with
  | nil => exact ⟨nofun, fun h => absurd h.1 (not_denotes_nil z)⟩
  | cons c ds =>
      -- a sign, the other sign, or neither; the bounds differ by the sign
      by_cases hplus : c = '+'
      · subst hplus
        rw [readInt64_plus_iff, denotes_plus_iff, and_assoc]
        refine and_congr_right fun _ => and_congr_right fun hz => ?_
        omega
      by_cases hminus : c = '-'
      · subst hminus
        rw [readInt64_minus_iff, denotes_minus_iff, and_assoc]
        refine and_congr_right fun _ => and_congr_right fun hz => ?_
        omega
      · rw [readInt64_plain_iff hplus hminus, denotes_plain_iff hplus hminus, and_assoc]
        refine and_congr_right fun _ => and_congr_right fun hz => ?_
        omega

/-- An integer of 64 bits is read just where the characters stand for it. -/
theorem int64_of_read_iff {cs : List Char} {n : Int64} :
    ((readInt64 cs).toOption).map Int64.ofInt = some n ↔ Denotes cs n.toInt := by
  rw [Option.map_eq_some_iff]
  constructor
  · rintro ⟨z, hz, rfl⟩
    have hok : readInt64 cs = .ok z := by
      cases hread : readInt64 cs with
      | error e =>
          rw [hread] at hz
          cases hz
      | ok z' =>
          rw [hread] at hz
          cases hz
          rfl
    obtain ⟨hdenotes, hlo, hhi⟩ := readInt64_eq_ok_iff.mp hok
    rwa [Int64.toInt_ofInt_of_le hlo hhi]
  · intro hdenotes
    have hok := readInt64_eq_ok_iff.mpr ⟨hdenotes, n.le_toInt, n.toInt_lt⟩
    exact ⟨n.toInt, by rw [hok]; rfl, Int64.ofInt_toInt n⟩

end Decimal

/-! ## Reading texts -/

open Decimal

/-- A choice is read by the integer that its text is, outer blanks aside. -/
theorem wholeInt?_eq_some_iff {text : String} {n : Int64} :
    wholeInt? text = some n ↔ Denotes (Text.trimChars text.toList) n.toInt :=
  int64_of_read_iff

/-- The sign of a text and what is behind it make up the text. -/
theorem splitSign_append (cs : List Char) : (splitSign cs).1 ++ (splitSign cs).2 = cs := by
  unfold splitSign
  split <;> rfl

theorem splitSign_of_digit {c : Char} (h : isDigit c = true) (cs : List Char) :
    splitSign (c :: cs) = ([], c :: cs) := by
  unfold splitSign
  split <;> rename_i heq
  · exact absurd ((List.cons.inj heq).1 ▸ h) (by decide)
  · exact absurd ((List.cons.inj heq).1 ▸ h) (by decide)
  · rfl

/-- A run of digits ends where there is no more digit. -/
theorem takeWhile_digits {ds rest : List Char} (hds : Digits ds)
    (hrest : ∀ c, rest.head? = some c → isDigit c = false) :
    (ds ++ rest).takeWhile isDigit = ds := by
  have hstop : rest.takeWhile isDigit = [] := by
    cases rest with
    | nil => rfl
    | cons c rest => simp [hrest c rfl]
  rw [List.takeWhile_append_of_pos hds.2, hstop, List.append_nil]

theorem Decimal.isDigit_iff {c : Char} : isDigit c = true ↔ 0x30 ≤ c.toNat ∧ c.toNat ≤ 0x39 := by
  unfold isDigit
  simp only [Bool.and_eq_true, decide_eq_true_eq]
  exact Iff.rfl

/-- No digit is a blank, so trimming stops at digits. -/
theorem isBlank_of_isDigit {c : Char} (h : isDigit c = true) : Text.isBlank c = false := by
  have hrange := isDigit_iff.mp h
  simp only [Text.isBlank, Text.inRanges, Text.blankRanges, List.any_cons, List.any_nil,
    Bool.or_false, Bool.or_eq_false_iff, Bool.and_eq_false_iff, decide_eq_false_iff_not]
  omega

/-- What denotes an integer has a sign or none, and then digits. -/
theorem exists_sign {numeral : List Char} {z : Int} (h : Denotes numeral z) :
    ∃ sign ds, numeral = sign ++ ds ∧ Digits ds
      ∧ ∀ rest, splitSign (numeral ++ rest) = (sign, ds ++ rest) := by
  cases h with
  | plain h =>
      cases numeral with
      | nil => exact absurd h not_digits_nil
      | cons c ds =>
          exact ⟨[], c :: ds, rfl, h,
            fun rest => splitSign_of_digit (h.2 c List.mem_cons_self) (ds ++ rest)⟩
  | @plus ds h => exact ⟨['+'], ds, rfl, h, fun rest => rfl⟩
  | @minus ds h => exact ⟨['-'], ds, rfl, h, fun rest => rfl⟩

/-- No blank stands in front of what denotes an integer. -/
theorem trimStart_numeral {numeral : List Char} {z : Int} (h : Denotes numeral z)
    (rest : List Char) : Text.trimStart (numeral ++ rest) = numeral ++ rest := by
  have hhead : ∃ c cs, numeral = c :: cs ∧ Text.isBlank c = false := by
    cases h with
    | plain h =>
        cases numeral with
        | nil => exact absurd h not_digits_nil
        | cons c ds => exact ⟨c, ds, rfl, isBlank_of_isDigit (h.2 c List.mem_cons_self)⟩
    | @plus ds h => exact ⟨'+', ds, rfl, by decide⟩
    | @minus ds h => exact ⟨'-', ds, rfl, by decide⟩
  obtain ⟨c, cs, rfl, hc⟩ := hhead
  unfold Text.trimStart
  rw [List.cons_append, List.dropWhile_cons_of_neg (by simp [hc])]

/-- What a port's text is read as, once its blanks are gone and its sign is split off. -/
theorem leadingInt?_of_split {text : String} {sign rest : List Char}
    (h : splitSign (Text.trimStart text.toList) = (sign, rest)) :
    leadingInt? text = if rest.takeWhile isDigit = [] then none
      else ((readInt64 (sign ++ rest.takeWhile isDigit)).toOption).map Int64.ofInt := by
  unfold leadingInt?
  simp only [h]
  cases rest.takeWhile isDigit <;> rfl

/-- Of a text with an integer at its front, just the characters of the integer are read. -/
theorem leadingInt?_of_numeral {text : String} {blanks numeral rest : List Char} {z : Int}
    (htext : text.toList = blanks ++ (numeral ++ rest))
    (hblanks : ∀ c ∈ blanks, Text.isBlank c = true) (hdenotes : Denotes numeral z)
    (hrest : ∀ c, rest.head? = some c → isDigit c = false) :
    leadingInt? text = ((readInt64 numeral).toOption).map Int64.ofInt := by
  obtain ⟨sign, ds, hnumeral, hds, hsplit⟩ := exists_sign hdenotes
  have htrim : Text.trimStart text.toList = numeral ++ rest := by
    rw [htext]
    exact (List.dropWhile_append_of_pos hblanks).trans (trimStart_numeral hdenotes rest)
  have hsign : splitSign (Text.trimStart text.toList) = (sign, ds ++ rest) := by
    rw [htrim, hsplit]
  rw [leadingInt?_of_split hsign, takeWhile_digits hds hrest, if_neg hds.1, ← hnumeral]

/-- **A port is read by the integer at the front of its text.** What stands behind the digits is not
looked at. -/
theorem leadingInt?_eq_some_iff {text : String} {n : Int64} :
    leadingInt? text = some n ↔ Leads text n.toInt := by
  constructor
  · intro h
    -- the text falls into blanks, a sign, digits and the rest
    obtain ⟨sign, rest, hsplit⟩ : ∃ sign rest,
        splitSign (Text.trimStart text.toList) = (sign, rest) := ⟨_, _, rfl⟩
    have hchars := splitSign_append (Text.trimStart text.toList)
    rw [leadingInt?_of_split hsplit] at h
    rw [hsplit] at hchars
    split at h
    · cases h
    · refine ⟨text.toList.takeWhile Text.isBlank, sign ++ rest.takeWhile isDigit,
        rest.dropWhile isDigit, ?_, ?_, int64_of_read_iff.mp h, ?_⟩
      · rw [List.append_assoc, List.takeWhile_append_dropWhile, hchars]
        exact List.takeWhile_append_dropWhile.symm
      · exact fun c hc => List.mem_takeWhile_imp hc
      · intro c hc
        have hstop := List.head?_dropWhile_not isDigit rest
        rw [hc] at hstop
        exact hstop
  · rintro ⟨blanks, numeral, rest, htext, hblanks, hdenotes, hrest⟩
    rw [leadingInt?_of_numeral htext hblanks hdenotes hrest]
    exact int64_of_read_iff.mpr hdenotes

/-! ## Decimal texts -/

theorem digits_natDigits (n : Nat) : Digits (natDigits n) :=
  ⟨Nat.toDigits_ne_nil, fun _ hc => Nat.isDigit_of_mem_toDigits (by decide) (by decide) hc⟩

/-- The digits of a number come to that number. -/
theorem ofDigits_natDigits (n : Nat) : ofDigits (natDigits n) = n := by
  have hvalue : ofDigits (natDigits n) = Nat.ofDigitChars 10 (Nat.toDigits 10 n) 0 := by
    unfold ofDigits Nat.ofDigitChars natDigits digitValue
    simp only [Nat.mul_comm]
  rw [hvalue]
  exact Nat.ofDigitChars_toDigits (by decide) (by decide)

/-- The decimal text of an integer stands for it. -/
theorem denotes_intChars (z : Int) : Denotes (intChars z) z := by
  cases z with
  | ofNat n =>
      have h := Denotes.plain (digits_natDigits n)
      rw [ofDigits_natDigits] at h
      exact h
  | negSucc n =>
      have h := Denotes.minus (digits_natDigits (n + 1))
      rw [ofDigits_natDigits] at h
      exact h

/-- Nor does a blank stand behind what denotes an integer. -/
theorem trimChars_numeral {numeral : List Char} {z : Int} (h : Denotes numeral z) :
    Text.trimChars numeral = numeral := by
  have hstart := trimStart_numeral h []
  rw [List.append_nil] at hstart
  obtain ⟨sign, ds, rfl, hds, -⟩ := exists_sign h
  -- seen from behind, it begins with a digit
  have hlast : ds.reverse = ds.getLast hds.1 :: ds.dropLast.reverse := by
    conv_lhs => rw [← List.dropLast_append_getLast hds.1]
    simp
  have hdigit := isBlank_of_isDigit (hds.2 _ (List.getLast_mem hds.1))
  unfold Text.trimChars
  rw [hstart, List.reverse_append, hlast, List.cons_append, Text.trimStart,
    List.dropWhile_cons_of_neg (by simp [hdigit]), ← List.cons_append, ← hlast,
    ← List.reverse_append, List.reverse_reverse]

/-- A port reads back what is the decimal text of an integer. -/
theorem leadingInt?_ofInt (n : Int64) : leadingInt? (Decimal.ofInt n.toInt) = some n := by
  rw [leadingInt?_eq_some_iff]
  refine ⟨[], intChars n.toInt, [], ?_, by simp, denotes_intChars n.toInt, by simp⟩
  simp [Decimal.ofInt]

/-- A choice reads back what is the decimal text of an integer. -/
theorem wholeInt?_ofInt (n : Int64) : wholeInt? (Decimal.ofInt n.toInt) = some n := by
  have hdenotes := denotes_intChars n.toInt
  rw [wholeInt?_eq_some_iff, Decimal.ofInt, String.toList_ofList, trimChars_numeral hdenotes]
  exact hdenotes

end DeviceSetup
