import DeviceSetup.Number.Words

/-!
# Octets and results in turn

What the readers of all formats share: octets off the front of the input, numbers of a fixed
width, and a reading that goes on from the result of another.
-/

namespace DeviceSetup

/-! ## Octets off the front -/

theorem splitOctets?_append (xs ys : Bytes) :
    splitOctets? xs.length (xs ++ ys) = some (xs, ys) := by
  unfold splitOctets?
  rw [if_pos (by simp), List.take_left, List.drop_left]

/-- Octets are split off just when there are so many of them, and then nothing is lost. -/
theorem splitOctets?_eq_some_iff {n : Nat} {bs content rest : Bytes} :
    splitOctets? n bs = some (content, rest) ↔ content.length = n ∧ bs = content ++ rest := by
  constructor
  · intro h
    unfold splitOctets? at h
    split at h
    · rename_i hle
      cases h
      exact ⟨List.length_take_of_le hle, (List.take_append_drop n bs).symm⟩
    · cases h
  · rintro ⟨rfl, rfl⟩
    exact splitOctets?_append content rest

theorem splitOctets?_eq_some {n : Nat} {bs content rest : Bytes}
    (h : splitOctets? n bs = some (content, rest)) :
    content.length = n ∧ bs.length = n + rest.length := by
  obtain ⟨rfl, rfl⟩ := splitOctets?_eq_some_iff.mp h
  exact ⟨rfl, List.length_append⟩

/-! ## Numbers in octets -/

theorem length_bigEndian (width n : Nat) : (bigEndian width n).length = width := by
  unfold bigEndian
  rw [List.length_reverse, length_littleEndian]

theorem ofBigEndian_bigEndian {width n : Nat} (h : n < Nat.pow 256 width) :
    ofBigEndian (bigEndian width n) = n := by
  unfold ofBigEndian bigEndian
  rw [List.reverse_reverse, ofLittleEndian_littleEndian, Nat.mod_eq_of_lt h]

/-- What so many octets can hold. -/
theorem ofLittleEndian_lt (bs : Bytes) : ofLittleEndian bs < Nat.pow 256 bs.length := by
  induction bs with
  | nil => decide
  | cons b bs ih =>
      have hb := b.toNat_lt
      rw [Nat.pow_eq] at ih
      rw [ofLittleEndian, List.length_cons, Nat.pow_eq, Nat.pow_succ]
      omega

theorem ofBigEndian_lt (bs : Bytes) : ofBigEndian bs < Nat.pow 256 bs.length := by
  have h := ofLittleEndian_lt bs.reverse
  rwa [List.length_reverse] at h

/-- Octets are written again as they were read. So a number of a fixed width and its octets are
the same, in both directions. -/
theorem littleEndian_ofLittleEndian (bs : Bytes) :
    littleEndian bs.length (ofLittleEndian bs) = bs := by
  induction bs with
  | nil => rfl
  | cons b bs ih =>
      have hb := b.toNat_lt
      have hlow : (b.toNat + 256 * ofLittleEndian bs) % 256 = b.toNat := by omega
      have hhigh : (b.toNat + 256 * ofLittleEndian bs) / 256 = ofLittleEndian bs := by omega
      rw [List.length_cons, littleEndian, ofLittleEndian, hlow, hhigh, ih, UInt8.ofNat_toNat]

/-! ## Results in turn -/

/-- A reading that came to something got through its first half. -/
theorem exists_of_bind_eq_ok {ε α β : Type} {x : Except ε α} {f : α → Except ε β} {b : β}
    (h : (x >>= f) = .ok b) : ∃ a, x = .ok a ∧ f a = .ok b := by
  cases x with
  | error e => cases h
  | ok a => exact ⟨a, rfl, h⟩

theorem map_eq_ok_iff {ε α β : Type} {x : Except ε α} {f : α → β} {b : β} :
    x.map f = .ok b ↔ ∃ a, x = .ok a ∧ f a = b := by
  cases x <;> simp [Except.map]

theorem eq_ok_of_toOption {ε α : Type} {x : Except ε α} {a : α} (h : x.toOption = some a) :
    x = .ok a := by
  cases x with
  | error why => cases h
  | ok b => exact congrArg Except.ok (Option.some.inj h)

theorem exists_error_of_toOption {ε α : Type} {x : Except ε α} (h : x.toOption = none) :
    ∃ why, x = .error why := by
  cases x with
  | error why => exact ⟨why, rfl⟩
  | ok b => cases h

end DeviceSetup
