import DeviceSetup.Text.Utf8

/-!
# Numbers as octets

Natural numbers in a fixed number of octets, lowest first or highest first.
-/

namespace DeviceSetup

-- powers with a fixed exponent are those of the core library, also beside a library with its own
attribute [default_instance 20000] instPowNat

/-- The lowest `width` octets of a number, lowest first. -/
def littleEndian : Nat → Nat → Bytes
  | 0, _ => []
  | width + 1, n => UInt8.ofNat (n % 256) :: littleEndian width (n / 256)

/-- The number whose octets these are, lowest first. -/
def ofLittleEndian : Bytes → Nat
  | [] => 0
  | b :: rest => b.toNat + 256 * ofLittleEndian rest

/-- The lowest `width` octets of a number, highest first. -/
def bigEndian (width n : Nat) : Bytes :=
  (littleEndian width n).reverse

/-- The number whose octets these are, highest first. -/
def ofBigEndian (bs : Bytes) : Nat :=
  ofLittleEndian bs.reverse

/-- The integer whose lowest `bits` bits in two's complement are those of `n`. -/
def ofTwosComplement (bits n : Nat) : Int :=
  if n < Nat.pow 2 (bits - 1) then n else (n : Int) - Nat.pow 2 bits

/-- The two's complement of an integer in `bits` bits. -/
def toTwosComplement (bits : Nat) (n : Int) : Nat :=
  (n % Nat.pow 2 bits).toNat

/-- The first `n` octets and the rest, if there are as many. -/
def splitOctets? (n : Nat) (bs : Bytes) : Option (Bytes × Bytes) :=
  if n ≤ bs.length then some (bs.take n, bs.drop n) else none

@[simp] theorem length_littleEndian (width n : Nat) : (littleEndian width n).length = width := by
  induction width generalizing n with
  | zero => rfl
  | succ width ih => simp [littleEndian, ih]

/-- Octets read back the number they were written from, as far as they hold it. -/
theorem ofLittleEndian_littleEndian (width n : Nat) :
    ofLittleEndian (littleEndian width n) = n % Nat.pow 256 width := by
  induction width generalizing n with
  | zero => simp [littleEndian, ofLittleEndian, Nat.mod_one]
  | succ width ih =>
    have h : n % Nat.pow 256 (width + 1) = n % 256 + 256 * (n / 256 % Nat.pow 256 width) := by
      rw [Nat.pow_eq, Nat.pow_eq, Nat.pow_succ, Nat.mul_comm, Nat.mod_mul]
    simp only [littleEndian, ofLittleEndian, ih, h]
    congr 1
    simp

end DeviceSetup
