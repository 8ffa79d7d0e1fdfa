import Mathlib
import DeviceSetup.Json.Lexeme
import DeviceSetup.Json.Writer
import DeviceSetup.Proofs.Utf8RoundTrip

/-!
# Strings and integers survive JSON

A string is written character by character, some of them escaped, and read octet by octet;
an integer is written as its decimal digits and read back digit by digit while it fits 64
bits. Both statements are about what was written with anything behind it. For an integer
that rest must not go on with the number.
-/

namespace DeviceSetup.Json

/-! ## Strings -/

/-- An octet that stands for itself in a string. The octets of characters beyond ASCII all do, so
nothing of them has to be escaped. -/
def IsPlain (b : UInt8) : Prop :=
  b ≠ '"'.toUInt8 ∧ b ≠ '\\'.toUInt8 ∧ ¬ b < 0x20

instance (b : UInt8) : Decidable (IsPlain b) :=
  inferInstanceAs (Decidable (_ ∧ _ ∧ _))

theorem stringOctets_step {state next : StringState} {b : UInt8} {new : Bytes}
    (h : stringStep state b = .ok (some (new, next))) (done rest : Bytes) :
    stringOctets state done (b :: rest) = stringOctets next (new.reverse ++ done) rest := by
  rw [stringOctets, h]

/-- Octets that stand for themselves are taken over one by one, the last of them in front. -/
theorem stringOctets_plain {bs : Bytes} (h : ∀ b ∈ bs, IsPlain b) (done rest : Bytes) :
    stringOctets .plain done (bs ++ rest) = stringOctets .plain (bs.reverse ++ done) rest := by
  induction bs generalizing done with
  | nil => rfl
  | cons b bs ih =>
      obtain ⟨hquote, hslash, hcontrol⟩ := h b List.mem_cons_self
      have hstep : stringStep .plain b = .ok (some ([b], .plain)) := by
        unfold stringStep
        dsimp only
        rw [if_neg hquote, if_neg hslash, if_neg hcontrol]
      rw [List.cons_append, stringOctets_step hstep,
        ih fun b' hb' => h b' (List.mem_cons_of_mem _ hb')]
      simp only [List.reverse_cons, List.reverse_nil, List.nil_append, List.append_assoc]

theorem isPlain_octet {n : Nat} (hlo : 0x20 ≤ n) (hhi : n < 256) (hquote : n ≠ 0x22)
    (hslash : n ≠ 0x5C) : IsPlain (UInt8.ofNat n) := by
  have hn := Utf8.toNat_octet hhi
  refine ⟨fun h => ?_, fun h => ?_, fun h => ?_⟩
  · rw [h] at hn
    exact hquote hn.symm
  · rw [h] at hn
    exact hslash hn.symm
  · rw [UInt8.lt_iff_toNat_lt, hn] at h
    exact absurd h (by simpa using hlo)

/-- The octets of a character that is not escaped stand for themselves. -/
theorem isPlain_utf8EncodeChar {c : Char} (hquote : c ≠ '"') (hslash : c ≠ '\\')
    (hcontrol : ¬ c.toNat < 0x20) : ∀ b ∈ String.utf8EncodeChar c, IsPlain b := by
  intro b hb
  rw [← UInt8.ofNat_toNat (x := b)]
  have hbyte := b.toNat_lt
  -- an ASCII character is its own octet; of any other all octets are high
  by_cases hascii : c.toNat < 0x80
  · rw [Utf8.encodeChar_ascii hascii] at hb
    have hoctet : b.toNat = c.toNat := by
      rw [List.mem_singleton.mp hb]
      exact Utf8.toNat_toUInt8 hascii
    have hquote' : c.toNat ≠ 0x22 := fun h => hquote (Char.toNat_inj.mp h)
    have hslash' : c.toNat ≠ 0x5C := fun h => hslash (Char.toNat_inj.mp h)
    exact isPlain_octet (by omega) hbyte (by omega) (by omega)
  · have hhigh := Utf8.le_of_mem_encodeChar (by omega) hb
    exact isPlain_octet (by omega) hbyte (by omega) (by omega)

theorem addHex_digit (n : Nat) {d : Nat} (h : d < 16) :
    addHex (some n) (Hex.digit d).toUInt8 = some (n * 16 + d) := by
  have hvalue : ∀ d < 16, Hex.digitValue? (Char.ofNat (Hex.digit d).toUInt8.toNat) = some d := by
    decide
  unfold addHex
  simp only [bind, Option.bind, hvalue d h]
  rfl

theorem stringOctets_hex {count : Nat} (h : count < 3) (high value : Option Nat) (b : UInt8)
    (done rest : Bytes) :
    stringOctets (.hex high count value) done (b :: rest)
      = stringOctets (.hex high (count + 1) (addHex value b)) done rest := by
  have hstep : stringStep (.hex high count value) b
      = .ok (some ([], .hex high (count + 1) (addHex value b))) := by
    unfold stringStep
    dsimp only
    rw [if_pos h]
  exact stringOctets_step hstep done rest

/-- A control is written as four hexadecimal digits. The first two are zeros, and none of the
numbers is half of a pair, so it stands for the control itself. -/
theorem stringOctets_control {c : Char} (h : c.toNat < 0x20) (done rest : Bytes) :
    stringOctets .plain done
        (ascii ['\\', 'u', '0', '0', Hex.digit (c.toNat / 16), Hex.digit (c.toNat % 16)] ++ rest)
      = stringOctets .plain ((String.utf8EncodeChar c).reverse ++ done) rest := by
  have hmark : ∀ bs, stringOctets .plain done ('\\'.toUInt8 :: 'u'.toUInt8 :: bs)
      = stringOctets (.hex none 0 (some 0)) done bs := fun _ => rfl
  have hzero : addHex (some 0) '0'.toUInt8 = some 0 := rfl
  -- a control is far below the numbers that come in pairs
  have hescape : hexEscape none (some c.toNat) = .ok (.inr c) := by
    have hlow : isLowSurrogate c.toNat = false := by
      simp only [isLowSurrogate, Bool.and_eq_false_iff, decide_eq_false_iff_not]
      omega
    have hhigh : isHighSurrogate c.toNat = false := by
      simp only [isHighSurrogate, Bool.and_eq_false_iff, decide_eq_false_iff_not]
      omega
    simp [hexEscape, hlow, hhigh]
  have hlast : stringStep (.hex none 3 (some (0 * 16 + c.toNat / 16)))
      (Hex.digit (c.toNat % 16)).toUInt8 = .ok (some (String.utf8EncodeChar c, .plain)) := by
    have hvalue : (0 * 16 + c.toNat / 16) * 16 + c.toNat % 16 = c.toNat := by omega
    unfold stringStep
    dsimp only
    rw [addHex_digit _ (Nat.mod_lt _ (by decide)), hvalue, hescape]
    rfl
  -- mark, three digits, and the last one, which adds the octets
  calc stringOctets .plain done _
      = stringOctets (.hex none 0 (some 0)) done ('0'.toUInt8 :: '0'.toUInt8 ::
          (Hex.digit (c.toNat / 16)).toUInt8 :: (Hex.digit (c.toNat % 16)).toUInt8 :: rest) :=
        hmark _
    _ = stringOctets (.hex none 3 (some (0 * 16 + c.toNat / 16))) done
          ((Hex.digit (c.toNat % 16)).toUInt8 :: rest) := by
        rw [stringOctets_hex (by decide), hzero, stringOctets_hex (by decide), hzero,
          stringOctets_hex (by decide), addHex_digit 0 (by omega)]
    _ = _ := stringOctets_step hlast done rest

/--
**A character in front is read as its octets**, whichever of the nine ways it was written in.

The reader works on octets and the writer on characters. This is where the two meet, so that all
about strings can be told character by character.
-/
theorem stringOctets_escapeChar (c : Char) (done rest : Bytes) :
    stringOctets .plain done (escapeChar c ++ rest)
      = stringOctets .plain ((String.utf8EncodeChar c).reverse ++ done) rest := by
  unfold escapeChar
  split
  · rename_i hc
    subst hc
    rfl
  split
  · rename_i hc
    subst hc
    rfl
  split
  · rename_i hc
    obtain rfl : c = Char.ofNat 0x08 := Char.toNat_inj.mp hc
    rfl
  split
  · rename_i hc
    obtain rfl : c = Char.ofNat 0x0C := Char.toNat_inj.mp hc
    rfl
  split
  · rename_i hc
    subst hc
    rfl
  split
  · rename_i hc
    subst hc
    rfl
  split
  · rename_i hc
    subst hc
    rfl
  split
  · rename_i hcontrol
    exact stringOctets_control hcontrol done rest
  · rename_i hquote hslash _ _ _ _ _ hcontrol
    exact stringOctets_plain (isPlain_utf8EncodeChar hquote hslash hcontrol) done rest

theorem stringOctets_escaped (cs : List Char) (done rest : Bytes) :
    stringOctets .plain done (cs.flatMap escapeChar ++ '"'.toUInt8 :: rest)
      = .ok (done.reverse ++ Utf8.encodeChars cs, rest) := by
  induction cs generalizing done with
  | nil =>
      rw [Utf8.encodeChars, List.flatMap_nil, List.flatMap_nil, List.append_nil]
      rfl
  | cons c cs ih =>
      -- the octets of the character are added to those that were taken
      rw [List.flatMap_cons, List.append_assoc, stringOctets_escapeChar, ih, List.reverse_append,
        List.reverse_reverse, List.append_assoc]
      rfl

/--
**A string that was written is read back.**

Any string is meant, with controls, quotes and characters beyond 16 bits in it, and whatever
follows its closing quote.
-/
theorem string_writeString (s : String) (rest : Bytes) :
    string (s.toList.flatMap escapeChar ++ '"'.toUInt8 :: rest) = .ok (s, rest) := by
  unfold string
  rw [stringOctets_escaped]
  simp only [bind, Except.bind, List.reverse_nil, List.nil_append]
  rw [show Utf8.encodeChars s.toList = Utf8.encode s from rfl, Utf8.decode?_encode]
  rfl

/-! ## Integers -/

/-- The octets of a number's digits. -/
def digitOctets (n : Nat) : Bytes :=
  ascii (Decimal.natDigits n)

theorem toUInt8_digitChar : ∀ d < 10, (Nat.digitChar d).toUInt8 = UInt8.ofNat (48 + d) := by
  decide

theorem digitOctets_eq (n : Nat) :
    digitOctets n = if n < 10 then [UInt8.ofNat (48 + n)]
      else digitOctets (n / 10) ++ [UInt8.ofNat (48 + n % 10)] := by
  unfold digitOctets ascii Decimal.natDigits
  rw [Nat.toDigits_eq_if (by decide)]
  split
  · rename_i h
    rw [List.map_cons, List.map_nil, toUInt8_digitChar n h]
  · rw [List.map_append, List.map_cons, List.map_nil,
      toUInt8_digitChar _ (Nat.mod_lt _ (by decide))]

theorem isDigit_octet {d : Nat} (h : d < 10) : isDigit (UInt8.ofNat (48 + d)) = true := by
  have hall : ∀ d < 10, isDigit (UInt8.ofNat (48 + d)) = true := by decide
  exact hall d h

theorem digitValue_octet {d : Nat} (h : d < 10) : digitValue (UInt8.ofNat (48 + d)) = d := by
  have hall : ∀ d < 10, digitValue (UInt8.ofNat (48 + d)) = d := by decide
  exact hall d h

theorem isDigit_of_mem {n : Nat} : ∀ b ∈ digitOctets n, isDigit b = true := by
  induction n using Nat.strongRecOn with
  | ind n ih =>
    intro b hb
    rw [digitOctets_eq] at hb
    split at hb
    · rename_i h
      rw [List.mem_singleton.mp hb]
      exact isDigit_octet h
    · rcases List.mem_append.mp hb with hb | hb
      · exact ih (n / 10) (by omega) b hb
      · rw [List.mem_singleton.mp hb]
        exact isDigit_octet (Nat.mod_lt _ (by decide))

/-- No zero stands in front of other digits. A reader would refuse what comes behind such a zero. -/
theorem digitOctets_head {n : Nat} (h : 0 < n) :
    ∃ b ds, digitOctets n = b :: ds ∧ b ≠ '0'.toUInt8 := by
  induction n using Nat.strongRecOn with
  | ind n ih =>
    rw [digitOctets_eq]
    split
    · rename_i hlt
      have hall : ∀ d < 10, 0 < d → UInt8.ofNat (48 + d) ≠ '0'.toUInt8 := by decide
      exact ⟨_, [], rfl, hall n hlt h⟩
    · obtain ⟨b, ds, heq, hb⟩ := ih (n / 10) (by omega) (by omega)
      exact ⟨b, ds ++ [UInt8.ofNat (48 + n % 10)], by rw [heq]; rfl, hb⟩

theorem appendDigits_append {a v : Nat} {xs : Bytes} (h : appendDigits a xs = (v, []))
    (ys : Bytes) : appendDigits a (xs ++ ys) = appendDigits v ys := by
  induction xs generalizing a with
  | nil =>
      rw [appendDigits] at h
      rw [List.nil_append, (Prod.mk.inj h).1]
  | cons d xs ih =>
      rw [appendDigits] at h
      rw [List.cons_append, appendDigits]
      split at h
      · rename_i hfits
        rw [if_pos hfits]
        exact ih h
      · cases (Prod.mk.inj h).2

/-- Digits of a number that fits 64 bits come to that number. -/
theorem appendDigits_digitOctets {n : Nat} (h : n ≤ maxWord) :
    appendDigits 0 (digitOctets n) = (n, []) := by
  induction n using Nat.strongRecOn with
  | ind n ih =>
    rw [digitOctets_eq]
    split
    · rename_i hlt
      rw [appendDigits, digitValue_octet hlt, if_pos (by omega), appendDigits]
      simp
    · -- all digits but the last come to the tenth of the number
      have hhigher := ih (n / 10) (by omega) (by omega)
      have hvalue : n / 10 * 10 + n % 10 = n := by omega
      rw [appendDigits_append hhigher, appendDigits, digitValue_octet (Nat.mod_lt _ (by decide)),
        hvalue, if_pos h, appendDigits]

/-- What may follow a number: nothing that would go on with it. A number is the only thing in JSON
without an end of its own. -/
def EndsNumber : Bytes → Prop
  | [] => True
  | b :: _ => isDigit b = false ∧ b ≠ '.'.toUInt8 ∧ b ≠ 'e'.toUInt8 ∧ b ≠ 'E'.toUInt8

/-- What may follow digits: no further one. -/
def EndsDigits : Bytes → Prop
  | [] => True
  | b :: _ => isDigit b = false

theorem EndsNumber.endsDigits {rest : Bytes} (h : EndsNumber rest) : EndsDigits rest := by
  cases rest with
  | nil => trivial
  | cons b rest => exact h.1

theorem digits_append {ds rest : Bytes} (hds : ∀ b ∈ ds, isDigit b = true)
    (hrest : EndsDigits rest) : digits (ds ++ rest) = (ds, rest) := by
  have hstop : rest.takeWhile isDigit = [] ∧ rest.dropWhile isDigit = rest := by
    cases rest with
    | nil => exact ⟨rfl, rfl⟩
    | cons b rest =>
        have hb : isDigit b = false := hrest
        simp [hb]
  unfold digits
  rw [List.takeWhile_append_of_pos hds, List.dropWhile_append_of_pos hds, hstop.1, hstop.2,
    List.append_nil]

theorem wholeDigits_digitOctets (n : Nat) {rest : Bytes} (hrest : EndsDigits rest) :
    wholeDigits (digitOctets n ++ rest) = .ok (digitOctets n, rest) := by
  rcases Nat.eq_zero_or_pos n with hzero | hpos
  · subst hzero
    have hoctets : digitOctets 0 = ['0'.toUInt8] := rfl
    rw [hoctets, List.cons_append, List.nil_append]
    cases rest with
    | nil => rfl
    | cons c rest =>
        have hc : isDigit c = false := hrest
        simp [wholeDigits, hc]
  · -- a number that is not zero begins with another digit
    obtain ⟨b, ds, heq, hb⟩ := digitOctets_head hpos
    have hall := isDigit_of_mem (n := n)
    rw [heq] at hall ⊢
    have hdigits := digits_append (fun b' hb' => hall b' (List.mem_cons_of_mem _ hb')) hrest
    unfold wholeDigits
    simp only [List.cons_append, hb, if_false, hall b List.mem_cons_self, if_true, hdigits]

theorem numeral_digitOctets (negative : Bool) (n : Nat) {rest : Bytes} (hrest : EndsNumber rest) :
    numeral negative (digitOctets n ++ rest)
      = .ok (⟨negative, digitOctets n, none, none⟩, rest) := by
  have hfraction : fractionDigits rest = .ok (none, rest) := by
    cases rest with
    | nil => rfl
    | cons b rest => simp [fractionDigits, hrest.2.1]
  have hexponent : exponentDigits rest = .ok (none, rest) := by
    cases rest with
    | nil => rfl
    | cons b rest => simp [exponentDigits, hrest.2.2.1, hrest.2.2.2]
  unfold numeral
  rw [wholeDigits_digitOctets n hrest.endsDigits]
  simp only [bind, Except.bind, hfraction, hexponent]
  rfl

theorem integer?_digitOctets (negative : Bool) {n : Nat} (h : n ≤ maxWord) :
    Numeral.integer? ⟨negative, digitOctets n, none, none⟩ = some n := by
  simp only [Numeral.integer?, appendDigits_digitOctets h]

theorem number_natural {n : Nat} (h : n ≤ maxWord) {rest : Bytes} (hrest : EndsNumber rest) :
    number false (digitOctets n ++ rest) = .ok (.natural n, rest) := by
  unfold number
  rw [numeral_digitOctets false n hrest]
  simp only [bind, Except.bind, Numeral.value, integer?_digitOctets false h]
  rfl

theorem number_negative {n : Nat} (hpos : 0 < n) (h : n ≤ 2 ^ 63) {rest : Bytes}
    (hrest : EndsNumber rest) :
    number true (digitOctets n ++ rest) = .ok (.negative (-(n : Int)), rest) := by
  have hfits : n ≤ maxWord := by
    unfold maxWord
    omega
  unfold number
  rw [numeral_digitOctets true n hrest]
  simp only [bind, Except.bind, Numeral.value, integer?_digitOctets true hfits]
  rw [if_neg (by simp), if_pos ⟨hpos, h⟩]
  rfl

end DeviceSetup.Json
