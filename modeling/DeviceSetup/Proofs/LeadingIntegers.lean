import Mathlib
import DeviceSetup.Json.Lexeme
import DeviceSetup.Proofs.TextCuts
import DeviceSetup.Proofs.WrittenIntegers

/-!
# The integer at the front of a text

A text with an integer at its front has four parts: blanks, a sign or none, digits, and a rest that
does not go on with the digits. The parts decide what is read. The integer counts if it fits 64
bits; if it does not, or if a text has no such parts, nothing is read
(`leadingInt?_of_parts`, `leadingInt?_eq_none`).

The sign and the digits are found one octet after the other, whatever characters follow. They are
an octet each, and no other character begins with the octet of a digit
(`takeWhile_isDigit_encodeChars`), so counting octets always ends between two characters
(`leadingIntByOctets?_eq`).
-/

namespace DeviceSetup

open Decimal

/-! ## Parts of a text -/

/-- What may stand in front of digits. -/
inductive Sign where
  | none
  | plus
  | minus
  deriving Repr, DecidableEq

/-- A sign as it is written. -/
def Sign.chars : Sign → List Char
  | .none => []
  | .plus => ['+']
  | .minus => ['-']

/-- The integer that a sign makes of a number. -/
def Sign.apply : Sign → Nat → Int
  | .none, n => n
  | .plus, n => n
  | .minus, n => -n

/-- A text with an integer at its front. It names the parts and not how they are found, so it can be
read without knowing the reader. -/
structure LeadingParts (text : String) (blanks : List Char) (sign : Sign) (ds rest : List Char) :
    Prop where
  text_eq : text.toList = blanks ++ (sign.chars ++ ds ++ rest)
  blanks_blank : ∀ c ∈ blanks, Text.isBlank c = true
  digits : Digits ds
  rest_ends : ∀ c, rest.head? = some c → isDigit c = false

theorem denotes_sign (sign : Sign) {ds : List Char} (h : Digits ds) :
    Denotes (sign.chars ++ ds) (sign.apply (ofDigits ds)) := by
  cases sign with
  | none => exact .plain h
  | plus => exact .plus h
  | minus => exact .minus h

/-- What denotes an integer is a sign or none, and digits. -/
theorem exists_sign_of_denotes {numeral : List Char} {z : Int} (h : Denotes numeral z) :
    ∃ (sign : Sign) (ds : List Char), numeral = sign.chars ++ ds ∧ Digits ds := by
  cases h with
  | plain h => exact ⟨.none, _, rfl, h⟩
  | plus h => exact ⟨.plus, _, rfl, h⟩
  | minus h => exact ⟨.minus, _, rfl, h⟩

section

variable {text : String} {blanks ds rest : List Char} {sign : Sign}

/--
**The integer at the front is read if it fits 64 bits**, and nothing is if it does not.

There is no cutting and no wrapping here: a number that is too large is as good as none.
-/
theorem leadingInt?_of_parts (h : LeadingParts text blanks sign ds rest) :
    (leadingInt? text).map Int64.toInt
      = if -2 ^ 63 ≤ sign.apply (ofDigits ds) ∧ sign.apply (ofDigits ds) < 2 ^ 63
        then some (sign.apply (ofDigits ds)) else none := by
  have hdenotes := denotes_sign sign h.digits
  rw [leadingInt?_of_numeral h.text_eq h.blanks_blank hdenotes h.rest_ends]
  -- the digits stand for one integer, and whether it fits is all that is left
  by_cases hfits : -2 ^ 63 ≤ sign.apply (ofDigits ds) ∧ sign.apply (ofDigits ds) < 2 ^ 63
  · have hread := readInt64_eq_ok_iff.mpr ⟨hdenotes, hfits.1, hfits.2⟩
    rw [if_pos hfits, hread]
    exact congrArg some (Int64.toInt_ofInt_of_le hfits.1 hfits.2)
  · rw [if_neg hfits]
    cases hread : readInt64 (sign.chars ++ ds) with
    | error why => rfl
    | ok z =>
        -- the reader reads nothing but what the characters stand for
        obtain ⟨hz, hlo, hhi⟩ := readInt64_eq_ok_iff.mp hread
        obtain rfl := hz.unique hdenotes
        exact absurd ⟨hlo, hhi⟩ hfits

/-- Where something is read, an integer stands at the front. -/
theorem exists_parts {n : Int64} (h : leadingInt? text = some n) :
    ∃ blanks sign ds rest, LeadingParts text blanks sign ds rest := by
  obtain ⟨blanks, numeral, rest, htext, hblanks, hdenotes, hrest⟩ := leadingInt?_eq_some_iff.mp h
  obtain ⟨sign, ds, rfl, hds⟩ := exists_sign_of_denotes hdenotes
  exact ⟨blanks, sign, ds, rest, htext, hblanks, hds, hrest⟩

/-- A text with an integer at its front begins with a blank, a sign or a digit. -/
theorem LeadingParts.head (h : LeadingParts text blanks sign ds rest) :
    ∃ c, text.toList.head? = some c
      ∧ (Text.isBlank c = true ∨ c = '+' ∨ c = '-' ∨ isDigit c = true) := by
  rw [h.text_eq]
  cases blanks with
  | cons c blanks => exact ⟨c, rfl, .inl (h.blanks_blank c List.mem_cons_self)⟩
  | nil =>
      cases sign with
      | plus => exact ⟨'+', rfl, .inr (.inl rfl)⟩
      | minus => exact ⟨'-', rfl, .inr (.inr (.inl rfl))⟩
      | none =>
          obtain ⟨d, ds, rfl⟩ := List.exists_cons_of_ne_nil h.digits.1
          exact ⟨d, rfl, .inr (.inr (.inr (h.digits.2 d List.mem_cons_self)))⟩

theorem leadingInt?_eq_none (h : ¬ ∃ blanks sign ds rest, LeadingParts text blanks sign ds rest) :
    leadingInt? text = none := by
  cases hread : leadingInt? text with
  | none => rfl
  | some n => exact absurd (exists_parts hread) h

/-- The decimal text of an integer is read at the front of any text. -/
theorem leadingInt?_intChars {n : Int64}
    (htext : text.toList = blanks ++ (intChars n.toInt ++ rest))
    (hblanks : ∀ c ∈ blanks, Text.isBlank c = true)
    (hrest : ∀ c, rest.head? = some c → isDigit c = false) : leadingInt? text = some n :=
  leadingInt?_eq_some_iff.mpr
    ⟨blanks, intChars n.toInt, rest, htext, hblanks, denotes_intChars n.toInt, hrest⟩

end

/-! ## Counted in octets -/

/-- The integer at the front of a text, found by counting octets: one for a sign, and as many as are
digits behind it. None where the text cannot be cut behind so many octets, which would be a fault
that nobody catches. -/
def leadingIntByOctets? (text : String) : Option (Option Int64) := do
  let cs := Text.trimStart text.toList
  let signSize := if cs.head? = some '+' ∨ cs.head? = some '-' then 1 else 0
  let behindSign ← Utf8.cut? signSize cs
  let digitCount := ((Utf8.encodeChars behindSign.2).takeWhile Json.isDigit).length
  if digitCount = 0 then return none
  else
    let numeral ← Utf8.cut? (signSize + digitCount) cs
    return ((readInt64 numeral.1).toOption).map Int64.ofInt

theorem isDigit_octet_iff {b : UInt8} :
    Json.isDigit b = true ↔ 0x30 ≤ b.toNat ∧ b.toNat ≤ 0x39 := by
  unfold Json.isDigit
  simp only [Bool.and_eq_true, decide_eq_true_eq, UInt8.le_iff_toNat_le]
  exact Iff.rfl

/-- A character that is no digit does not begin with the octet of one. -/
theorem exists_octet_of_not_isDigit {c : Char} (h : isDigit c = false) :
    ∃ b bs, String.utf8EncodeChar c = b :: bs ∧ Json.isDigit b = false := by
  have hne : String.utf8EncodeChar c ≠ [] := by
    have hpos := c.utf8Size_pos
    rw [← String.length_utf8EncodeChar] at hpos
    exact List.ne_nil_of_length_pos hpos
  obtain ⟨b, bs, hoctets⟩ := List.exists_cons_of_ne_nil hne
  refine ⟨b, bs, hoctets, ?_⟩
  rw [← Bool.not_eq_true, isDigit_octet_iff]
  rw [← Bool.not_eq_true, isDigit_iff] at h
  -- beyond ASCII every octet of a character is high
  by_cases hascii : c.toNat < 0x80
  · rw [Utf8.encodeChar_ascii hascii] at hoctets
    have hb : b.toNat = c.toNat := by
      rw [← (List.cons.inj hoctets).1]
      exact Utf8.toNat_toUInt8 hascii
    rwa [hb]
  · have hhigh : 0x80 ≤ b.toNat :=
      Utf8.le_of_mem_encodeChar (Nat.le_of_not_lt hascii) (hoctets ▸ List.mem_cons_self)
    omega

/--
**The digits among the octets in front are the octets of the digits in front.**

No octet of a character beyond ASCII looks like a digit, so counting digits in octets counts
characters.
-/
theorem takeWhile_isDigit_encodeChars (cs : List Char) :
    (Utf8.encodeChars cs).takeWhile Json.isDigit = Utf8.encodeChars (cs.takeWhile isDigit) := by
  induction cs with
  | nil => rfl
  | cons c cs ih =>
      rw [Utf8.encodeChars_cons]
      cases hdigit : isDigit c with
      | true =>
          have hrange := isDigit_iff.mp hdigit
          have hascii : c.toNat < 0x80 := by omega
          have hoctet : Json.isDigit c.toUInt8 = true := by
            rw [isDigit_octet_iff, Utf8.toNat_toUInt8 hascii]
            exact hrange
          rw [List.takeWhile_cons_of_pos hdigit, Utf8.encodeChars_cons,
            Utf8.encodeChar_ascii hascii, List.singleton_append,
            List.takeWhile_cons_of_pos hoctet, ih]
          rfl
      | false =>
          obtain ⟨b, bs, hoctets, hb⟩ := exists_octet_of_not_isDigit hdigit
          rw [hoctets, List.cons_append, List.takeWhile_cons_of_neg (by simp [hb]),
            List.takeWhile_cons_of_neg (by simp [hdigit])]
          rfl

/-- A sign is one octet. -/
theorem size_splitSign (cs : List Char) :
    Utf8.size (splitSign cs).1 = if cs.head? = some '+' ∨ cs.head? = some '-' then 1 else 0 := by
  unfold splitSign
  split
  · rfl
  · rfl
  · rename_i hplus hminus
    cases cs with
    | nil => rfl
    | cons c cs =>
        have hnot : ¬ ((c :: cs).head? = some '+' ∨ (c :: cs).head? = some '-') := by
          rintro (hc | hc)
          · exact hplus cs (by rw [Option.some.inj hc])
          · exact hminus cs (by rw [Option.some.inj hc])
        rw [if_neg hnot]
        rfl

/--
**Counting octets never ends inside a character**, and finds the integer that is there.

The end of the integer is found by counting in octets and the text is cut there. A cut inside a
character would fail, whatever the user has typed.
-/
theorem leadingIntByOctets?_eq (text : String) :
    leadingIntByOctets? text = some (leadingInt? text) := by
  obtain ⟨sign, rest, hsplit⟩ : ∃ sign rest,
      splitSign (Text.trimStart text.toList) = (sign, rest) := ⟨_, _, rfl⟩
  have hchars : sign ++ rest = Text.trimStart text.toList := by
    have happend := splitSign_append (Text.trimStart text.toList)
    rwa [hsplit] at happend
  have hsign := size_splitSign (Text.trimStart text.toList)
  rw [hsplit] at hsign
  -- the sign, then the digits behind it
  have hbehind : Utf8.cut? (Utf8.size sign) (Text.trimStart text.toList) = some (sign, rest) := by
    rw [← hchars, Utf8.cut?_append]
  have hnumeral : Utf8.cut? (Utf8.size sign + Utf8.size (rest.takeWhile isDigit))
      (Text.trimStart text.toList)
        = some (sign ++ rest.takeWhile isDigit, rest.dropWhile isDigit) := by
    have hcut := Utf8.cut?_append (sign ++ rest.takeWhile isDigit) (rest.dropWhile isDigit)
    rwa [List.append_assoc, List.takeWhile_append_dropWhile, hchars, Utf8.size_append] at hcut
  have hcount : ((Utf8.encodeChars rest).takeWhile Json.isDigit).length
      = Utf8.size (rest.takeWhile isDigit) := by
    rw [takeWhile_isDigit_encodeChars]
    rfl
  -- both readers now go by the same sign and the same digits
  rw [leadingInt?_of_split hsplit]
  unfold leadingIntByOctets?
  dsimp only
  rw [← hsign, hbehind]
  simp only [Option.bind_eq_bind, Option.bind_some, Option.pure_def, hcount, hnumeral]
  cases hds : rest.takeWhile isDigit with
  | nil => rfl
  | cons d ds =>
      -- there are digits just when their octets are counted
      have hpos : Utf8.size (d :: ds) ≠ 0 := by
        have hd := d.utf8Size_pos
        rw [Utf8.size_cons]
        omega
      rw [if_neg hpos, if_neg (List.cons_ne_nil d ds)]

/--
**The leading integer of a text is read exactly.**

Whatever parts a text with an integer at its front is put together from, blanks of any kind, a sign
or none, digits with any number of zeros in front and a rest that does not go on with a digit, the
signed value of the digits is read if it fits 64 bits, and nothing is if it does not. A text that
has no such parts reads as nothing. In either case counting octets finds the same and never cuts
inside a character. So the decimal text of every 64-bit integer reads as that integer, behind
any blanks and in front of any such rest.
-/
theorem leading_integer_is_read_exactly (text : String) :
    (∀ blanks sign ds rest, LeadingParts text blanks sign ds rest →
      (leadingInt? text).map Int64.toInt
        = if -2 ^ 63 ≤ sign.apply (ofDigits ds) ∧ sign.apply (ofDigits ds) < 2 ^ 63
          then some (sign.apply (ofDigits ds)) else none)
    ∧ ((¬ ∃ blanks sign ds rest, LeadingParts text blanks sign ds rest) → leadingInt? text = none)
    ∧ leadingIntByOctets? text = some (leadingInt? text)
    ∧ ∀ (n : Int64) (blanks rest : List Char),
        text.toList = blanks ++ (intChars n.toInt ++ rest) →
        (∀ c ∈ blanks, Text.isBlank c = true) →
        (∀ c, rest.head? = some c → isDigit c = false) → leadingInt? text = some n := by
  refine ⟨?_, leadingInt?_eq_none, leadingIntByOctets?_eq text, ?_⟩
  · intro blanks sign ds rest hparts
    exact leadingInt?_of_parts hparts
  · intro n blanks rest htext hblanks hrest
    exact leadingInt?_intChars htext hblanks hrest

/-- A wide blank, a sign, zeros in front, and characters of more than an octet behind. -/
def widePort : String := "\u3000+0080é1"

/-- One more than the largest 64-bit integer. -/
def beyondInt64 : String := "9223372036854775808"

theorem leading_integer_is_read_exactly_edges :
    LeadingParts widePort ['\u3000'] .plus ['0', '0', '8', '0'] ['é', '1']
      ∧ (leadingInt? widePort).map Int64.toInt = some 80
      ∧ LeadingParts beyondInt64 [] .none beyondInt64.toList []
      ∧ (leadingInt? beyondInt64).map Int64.toInt = none
      ∧ leadingInt? "-9223372036854775808.5" = some (-9223372036854775808)
      ∧ (¬ ∃ blanks sign ds rest, LeadingParts "é80" blanks sign ds rest)
      ∧ leadingInt? "é80" = none := by
  have hwide : LeadingParts widePort ['\u3000'] .plus ['0', '0', '8', '0'] ['é', '1'] :=
    ⟨by decide, List.forall_mem_singleton.mpr (by decide),
      ⟨List.cons_ne_nil _ _, List.all_eq_true.mp (by decide)⟩,
      fun c hc => Option.some.inj hc ▸ by decide⟩
  have hbeyond : LeadingParts beyondInt64 [] .none beyondInt64.toList [] :=
    ⟨by decide, nofun, ⟨by decide, List.all_eq_true.mp (by decide)⟩, nofun⟩
  have hnone : ¬ ∃ blanks sign ds rest, LeadingParts "é80" blanks sign ds rest := by
    rintro ⟨_, _, _, _, hparts⟩
    obtain ⟨c, hc, hkind⟩ := hparts.head
    obtain rfl := Option.some.inj hc
    exact absurd hkind (by decide)
  obtain ⟨hread, -⟩ := leading_integer_is_read_exactly widePort
  obtain ⟨hrefused, -⟩ := leading_integer_is_read_exactly beyondInt64
  obtain ⟨-, -, -, hlow⟩ := leading_integer_is_read_exactly "-9223372036854775808.5"
  obtain ⟨-, hnothing, -⟩ := leading_integer_is_read_exactly "é80"
  exact ⟨hwide, (hread _ _ _ _ hwide).trans (by decide), hbeyond,
    (hrefused _ _ _ _ hbeyond).trans (by decide),
    hlow (-9223372036854775808) [] ['.', '5'] (by decide) nofun
      (fun c hc => Option.some.inj hc ▸ by decide),
    hnone, hnothing hnone⟩

end DeviceSetup
