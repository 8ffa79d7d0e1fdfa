import Mathlib
import DeviceSetup.Bridge.Binary
import DeviceSetup.Proofs.Octets
import DeviceSetup.Proofs.Utf8RoundTrip

/-!
# The binary form has one spelling

`Reads get put Fits` ties a reader to a writer, in both directions at once: what was written
is read back whatever follows it, and nothing is read but what was written. Numbers have a
fixed width, so `Fits` is what the octets can hold; `Reads` says that a reader never gives
anything else.

Composite readers go on from the result of simpler ones. `Reads.bind_eq_ok_iff` takes such a
reading apart, `Reads.bind_put` carries it out on what was written.
-/

namespace DeviceSetup.Binary

/-- A reader takes exactly what the writer puts down for the values that fit. Being an equivalence,
it carries over to composite readers without a second proof for the way back. -/
def Reads {α : Type} (get : Reader α) (put : α → Bytes) (Fits : α → Prop) : Prop :=
  ∀ bs x rest, get bs = .ok (x, rest) ↔ Fits x ∧ bs = put x ++ rest

section Laws

variable {α β : Type} {get : Reader α} {put : α → Bytes} {Fits : α → Prop} {x : α}

theorem Reads.get_put (h : Reads get put Fits) (hx : Fits x) (rest : Bytes) :
    get (put x ++ rest) = .ok (x, rest) :=
  (h _ x rest).mpr ⟨hx, rfl⟩

theorem Reads.bind_put (h : Reads get put Fits) (hx : Fits x) (rest : Bytes)
    (next : α × Bytes → Except Fault β) : (get (put x ++ rest) >>= next) = next (x, rest) := by
  rw [h.get_put hx rest]
  rfl

/-- A reading that goes on from a simpler one has taken what the simpler one was written as. -/
theorem Reads.bind_eq_ok_iff (h : Reads get put Fits) {bs : Bytes}
    {next : α × Bytes → Except Fault β} {out : β} :
    (get bs >>= next) = .ok out
      ↔ ∃ x rest, Fits x ∧ bs = put x ++ rest ∧ next (x, rest) = .ok out := by
  constructor
  · intro hbind
    obtain ⟨⟨x, rest⟩, hget, hnext⟩ := exists_of_bind_eq_ok hbind
    obtain ⟨hx, hbs⟩ := (h bs x rest).mp hget
    exact ⟨x, rest, hx, hbs, hnext⟩
  · rintro ⟨x, rest, hx, rfl, hnext⟩
    rw [h.bind_put hx rest, hnext]

end Laws

/-! ## Octets and numbers -/

theorem getOctets_eq_ok_iff {count : Nat} {bs content rest : Bytes} :
    getOctets count bs = .ok (content, rest) ↔ content.length = count ∧ bs = content ++ rest := by
  rw [← splitOctets?_eq_some_iff]
  unfold getOctets
  cases splitOctets? count bs <;> simp

theorem reads_nat (width : Nat) :
    Reads (getNat width) (putNat width) (fun n => n < Nat.pow 256 width) := by
  intro bs n rest
  constructor
  · intro h
    obtain ⟨⟨content, rest'⟩, hcontent, hn⟩ := exists_of_bind_eq_ok h
    cases hn
    obtain ⟨rfl, rfl⟩ := getOctets_eq_ok_iff.mp hcontent
    -- as many octets as the width were read, and they are written again as they were
    exact ⟨ofLittleEndian_lt content, by rw [putNat, littleEndian_ofLittleEndian]⟩
  · rintro ⟨hn, rfl⟩
    have hoctets : getOctets width (putNat width n ++ rest) = .ok (putNat width n, rest) :=
      getOctets_eq_ok_iff.mpr ⟨length_littleEndian width n, rfl⟩
    unfold getNat
    rw [hoctets]
    show Except.ok (ofLittleEndian (littleEndian width n), rest) = _
    rw [ofLittleEndian_littleEndian, Nat.mod_eq_of_lt hn]

/-- The lengths and the indices that eight octets hold. A longer text could not be written: its
length would be cut off, and another text read back. -/
def FitsSize (n : Nat) : Prop := n < 2 ^ 64

theorem reads_size : Reads getSize putSize FitsSize :=
  reads_nat 8

theorem reads_variant {count : Nat} (hcount : count ≤ 2 ^ 32) :
    Reads (getVariant count) putVariant (fun n => n < count) := by
  intro bs n rest
  unfold getVariant
  rw [(reads_nat 4).bind_eq_ok_iff]
  constructor
  · -- numbers beyond the last alternative are read and then refused
    rintro ⟨m, rest', -, rfl, hm⟩
    dsimp only at hm
    split at hm
    · rename_i hlt
      cases hm
      exact ⟨hlt, rfl⟩
    · cases hm
  · rintro ⟨hn, rfl⟩
    refine ⟨n, rest, Nat.lt_of_lt_of_le hn hcount, rfl, ?_⟩
    dsimp only
    rw [if_pos hn]
    rfl

/-- Past the last alternative nothing is read, and no reader goes on. -/
theorem bind_variant_beyond {α : Type} {count n : Nat} (hcount : count ≤ n) (hn : n < 2 ^ 32)
    (rest : Bytes) (next : Nat × Bytes → Except Fault α) :
    (getVariant count (putVariant n ++ rest) >>= next) = .error (.badVariant n count) := by
  have hvariant : getVariant count (putVariant n ++ rest) = .error (.badVariant n count) := by
    unfold getVariant
    rw [putVariant, (reads_nat 4).bind_put hn]
    dsimp only
    rw [if_neg (Nat.not_lt.mpr hcount)]
    rfl
  rw [hvariant]
  rfl

/-! ## Truth values and texts -/

theorem reads_bool : Reads getBool putBool (fun _ => True) := by
  intro bs b rest
  have hput (b : Bool) : putBool b = putNat 1 b.toNat := by cases b <;> decide
  unfold getBool
  rw [(reads_nat 1).bind_eq_ok_iff]
  constructor
  · rintro ⟨n, rest', -, rfl, hn⟩
    dsimp only at hn
    split at hn
    · cases hn
      exact ⟨trivial, by rw [hput]; rfl⟩
    · cases hn
      exact ⟨trivial, by rw [hput]; rfl⟩
    · cases hn
  · rintro ⟨-, rfl⟩
    refine ⟨b.toNat, rest, by cases b <;> decide, by rw [hput], ?_⟩
    cases b <;> rfl

theorem reads_bytes : Reads getBytes putBytes (fun content => FitsSize content.length) := by
  intro bs content rest
  unfold getBytes
  rw [reads_size.bind_eq_ok_iff]
  constructor
  · rintro ⟨n, rest', hn, rfl, hcontent⟩
    obtain ⟨rfl, rfl⟩ := getOctets_eq_ok_iff.mp hcontent
    exact ⟨hn, by rw [putBytes, List.append_assoc]⟩
  · rintro ⟨hlength, rfl⟩
    refine ⟨content.length, content ++ rest, hlength, by rw [putBytes, List.append_assoc], ?_⟩
    exact getOctets_eq_ok_iff.mpr ⟨rfl, rfl⟩

/-- The texts whose length eight octets hold. -/
def FitsText (s : String) : Prop := FitsSize (Utf8.encode s).length

theorem reads_text : Reads getText putText FitsText := by
  intro bs s rest
  unfold getText
  rw [reads_bytes.bind_eq_ok_iff]
  constructor
  · rintro ⟨content, rest', hlength, rfl, hs⟩
    dsimp only at hs
    cases hdecode : Utf8.decode content with
    | error f =>
        rw [hdecode] at hs
        cases hs
    | ok s' =>
        rw [hdecode] at hs
        cases hs
        -- the text has no other octets than those that were read
        obtain rfl := Utf8.decode_eq_ok_iff.mp hdecode
        exact ⟨hlength, rfl⟩
  · rintro ⟨hs, rfl⟩
    refine ⟨Utf8.encode s, rest, hs, rfl, ?_⟩
    dsimp only
    rw [Utf8.decode_encode]
    rfl

end DeviceSetup.Binary
