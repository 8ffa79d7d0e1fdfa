import Mathlib
import DeviceSetup.Text.Hex

/-!
# Octets and their digits

Octets are read back from their digits (`decode?_encode`). Digits are written in lower case and read
in either, so the other way round only the case is lost: digits are read as the octets whose
digits they are in lower case (`decodeDigits?_eq_some_iff`).
-/

namespace DeviceSetup

namespace Hex

/-- The digits that are written. -/
def lowerDigits : List Char := "0123456789abcdef".toList

theorem digitValue?_digit {n : Nat} (h : n < 16) : digitValue? (digit n) = some n := by
  have hall : ∀ n < 16, digitValue? (digit n) = some n := by decide
  exact hall n h

theorem digit_mem_lowerDigits {n : Nat} (h : n < 16) : digit n ∈ lowerDigits := by
  have hall : ∀ n < 16, digit n ∈ lowerDigits := by decide
  exact hall n h

theorem digits_cons (b : UInt8) (bs : Bytes) : digits (b :: bs) = pair b ++ digits bs := rfl

theorem decodeDigits?_digits (bs : Bytes) : decodeDigits? (digits bs) = some bs := by
  induction bs with
  | nil => rfl
  | cons b bs ih =>
      have hb := b.toNat_lt
      -- the two digits are the halves of the octet
      have hvalue : b.toNat / 16 * 16 + b.toNat % 16 = b.toNat := by omega
      have hdigits : digits (b :: bs) = digit (b.toNat / 16) :: digit (b.toNat % 16) :: digits bs :=
        rfl
      rw [hdigits, decodeDigits?]
      simp only [bind, Option.bind, digitValue?_digit (show b.toNat / 16 < 16 by omega),
        digitValue?_digit (show b.toNat % 16 < 16 by omega), ih, hvalue, UInt8.ofNat_toNat]
      rfl

/-- **Octets are read back from their digits.** -/
theorem decode?_encode (bs : Bytes) : decode? (encode bs) = some bs := by
  unfold decode? encode
  rw [String.toList_ofList, decodeDigits?_digits]

theorem mem_lowerDigits {bs : Bytes} {c : Char} (h : c ∈ digits bs) : c ∈ lowerDigits := by
  obtain ⟨b, -, hc⟩ := List.mem_flatMap.mp h
  have hb := b.toNat_lt
  rcases List.mem_pair.mp hc with rfl | rfl
  · exact digit_mem_lowerDigits (by omega)
  · exact digit_mem_lowerDigits (by omega)

theorem mem_lowerDigits_of_encode {bs : Bytes} {c : Char} (h : c ∈ (encode bs).toList) :
    c ∈ lowerDigits := by
  unfold encode at h
  rw [String.toList_ofList] at h
  exact mem_lowerDigits h

/-! ## Digits in either case -/

/-- The digits that are read. -/
def readDigits : List Char := "0123456789abcdefABCDEF".toList

/-- A digit in either case. -/
def IsDigit (c : Char) : Prop := c ∈ readDigits

instance (c : Char) : Decidable (IsDigit c) :=
  inferInstanceAs (Decidable (c ∈ readDigits))

/-- A digit has a value, and its lower case is what the value is written as. -/
theorem exists_value {c : Char} (h : IsDigit c) :
    ∃ v < 16, digitValue? c = some v ∧ digit v = c.toLower := by
  have hall : ∀ c ∈ readDigits, ∃ v < 16, digitValue? c = some v ∧ digit v = c.toLower :=
    List.all_iff_forall_prop.mp (by decide)
  exact hall c h

theorem digitValue?_toLower {c : Char} (h : IsDigit c) : digitValue? c.toLower = digitValue? c := by
  obtain ⟨v, hv, hvalue, hlower⟩ := exists_value h
  rw [← hlower, digitValue?_digit hv, hvalue]

/-- Only digits have a value. -/
theorem isDigit_of_digitValue? {c : Char} {v : Nat} (h : digitValue? c = some v) : IsDigit c := by
  have hdecimal : ∀ n ≤ 0x39, 0x30 ≤ n → Char.ofNat n ∈ readDigits := by decide
  have hlower : ∀ n ≤ 0x66, 0x61 ≤ n → Char.ofNat n ∈ readDigits := by decide
  have hupper : ∀ n ≤ 0x46, 0x41 ≤ n → Char.ofNat n ∈ readDigits := by decide
  unfold IsDigit
  rw [← Char.ofNat_toNat c]
  unfold digitValue? at h
  split at h
  · rename_i hc
    exact hdecimal _ hc.2 hc.1
  split at h
  · rename_i hc
    exact hlower _ hc.2 hc.1
  split at h
  · rename_i hc
    exact hupper _ hc.2 hc.1
  · cases h

theorem decodeDigits?_toLower {ds : List Char} (h : ∀ c ∈ ds, IsDigit c) :
    decodeDigits? (ds.map Char.toLower) = decodeDigits? ds := by
  -- two digits at a time, as they are read
  fun_induction decodeDigits? ds with
  | case1 => rfl
  | case2 c => rfl
  | case3 high low rest ih =>
      have hrest := ih fun c hc => h c (List.mem_cons_of_mem _ (List.mem_cons_of_mem _ hc))
      have hhigh := digitValue?_toLower (h high List.mem_cons_self)
      have hlow := digitValue?_toLower (h low (List.mem_cons_of_mem _ List.mem_cons_self))
      rw [List.map_cons, List.map_cons, decodeDigits?, hhigh, hlow, hrest]

/-- Digits that are read are digits, and in lower case those of the octets. The induction is that of
the reader, two digits at a time. -/
theorem digits_of_decodeDigits? {ds : List Char} {bs : Bytes} (h : decodeDigits? ds = some bs) :
    (∀ c ∈ ds, IsDigit c) ∧ ds.map Char.toLower = digits bs := by
  fun_induction decodeDigits? ds generalizing bs with
  | case1 =>
      cases h
      exact ⟨nofun, rfl⟩
  | case2 c => cases h
  | case3 high low rest ih =>
      simp only [Option.bind_eq_bind, Option.bind_eq_some_iff] at h
      obtain ⟨x, hx, y, hy, bs', hrest, heq⟩ := h
      cases heq
      obtain ⟨hall, hdigits⟩ := ih hrest
      have hhigh := isDigit_of_digitValue? hx
      have hlow := isDigit_of_digitValue? hy
      refine ⟨?_, ?_⟩
      · intro c hc
        rcases List.mem_cons.mp hc with rfl | hc
        · exact hhigh
        rcases List.mem_cons.mp hc with rfl | hc
        · exact hlow
        · exact hall c hc
      · obtain ⟨v, hv, hvalue, hv'⟩ := exists_value hhigh
        obtain ⟨w, hw, hwalue, hw'⟩ := exists_value hlow
        obtain rfl : v = x := Option.some.inj (hvalue.symm.trans hx)
        obtain rfl : w = y := Option.some.inj (hwalue.symm.trans hy)
        -- the octet takes both digits without being cut
        have hoctet : (UInt8.ofNat (v * 16 + w)).toNat = v * 16 + w := by
          rw [UInt8.toNat_ofNat']
          omega
        have hpair : pair (UInt8.ofNat (v * 16 + w)) = [high.toLower, low.toLower] := by
          unfold pair
          rw [hoctet, show (v * 16 + w) / 16 = v by omega, show (v * 16 + w) % 16 = w by omega, hv',
            hw']
        rw [List.map_cons, List.map_cons, hdigits, digits_cons, hpair]
        rfl

/-- **Digits in either case are read as the octets whose digits they are.** So two rows of digits
are read as the same octets just when they differ in case alone. -/
theorem decodeDigits?_eq_some_iff {ds : List Char} {bs : Bytes} :
    decodeDigits? ds = some bs ↔ (∀ c ∈ ds, IsDigit c) ∧ ds.map Char.toLower = digits bs := by
  constructor
  · exact digits_of_decodeDigits?
  · rintro ⟨hall, hdigits⟩
    rw [← decodeDigits?_toLower hall, hdigits, decodeDigits?_digits]

theorem length_digits (bs : Bytes) : (digits bs).length = 2 * bs.length := by
  induction bs with
  | nil => rfl
  | cons b bs ih =>
      rw [digits_cons, List.length_append, ih, List.length_cons]
      show 2 + 2 * bs.length = _
      omega

/-- Digits are read whenever their number is even. -/
theorem exists_octets {ds : List Char} (hall : ∀ c ∈ ds, IsDigit c) {n : Nat}
    (hlength : ds.length = 2 * n) : ∃ bs, decodeDigits? ds = some bs := by
  induction n generalizing ds with
  | zero =>
      obtain rfl := List.length_eq_zero_iff.mp hlength
      exact ⟨[], rfl⟩
  | succ n ih =>
      obtain ⟨high, low, rest, rfl⟩ : ∃ high low rest, ds = high :: low :: rest := by
        match ds, hlength with
        | high :: low :: rest, _ => exact ⟨high, low, rest, rfl⟩
      obtain ⟨v, -, hv, -⟩ := exists_value (hall high List.mem_cons_self)
      obtain ⟨w, -, hw, -⟩ := exists_value (hall low (List.mem_cons_of_mem _ List.mem_cons_self))
      obtain ⟨bs, hbs⟩ : ∃ bs, decodeDigits? rest = some bs := by
        refine ih (fun c hc => hall c (List.mem_cons_of_mem _ (List.mem_cons_of_mem _ hc))) ?_
        simp only [List.length_cons] at hlength
        omega
      refine ⟨UInt8.ofNat (v * 16 + w) :: bs, ?_⟩
      rw [decodeDigits?, hv, hw, hbs]
      rfl

/-! ## Pairs of digits -/

/-- The octet that two digits stand for. A reader that cuts a text into pairs first reads each pair
like this. -/
def octet? : List Char → Option UInt8
  | [high, low] => do return UInt8.ofNat ((← digitValue? high) * 16 + (← digitValue? low))
  | _ => none

/-- Characters in pairs. -/
def pairs : List Char → List (List Char)
  | high :: low :: rest => [high, low] :: pairs rest
  | _ => []

/-- Digits are read pair by pair. -/
theorem decodeDigits?_eq_mapM {ds : List Char} {n : Nat} (h : ds.length = 2 * n) :
    decodeDigits? ds = (pairs ds).mapM octet? := by
  fun_induction decodeDigits? ds generalizing n with
  | case1 => rfl
  | case2 c =>
      simp only [List.length_cons, List.length_nil] at h
      omega
  | case3 high low rest ih =>
      have hrest : rest.length = 2 * (n - 1) := by
        simp only [List.length_cons] at h
        omega
      rw [ih hrest, pairs, List.mapM_cons, octet?]
      cases digitValue? high with
      | none => rfl
      | some x =>
          cases digitValue? low with
          | none => rfl
          | some y => rfl

end Hex

end DeviceSetup
