import Mathlib
import DeviceSetup.Payload.MessagePack
import DeviceSetup.Proofs.Lookup
import DeviceSetup.Proofs.Octets
import DeviceSetup.Proofs.Utf8RoundTrip

/-!
# Payloads survive MessagePack

Every writer puts down a mark, or a mark and a length, and then the content; the reader of
items tells from the mark how to go on. So each statement is about what was written with
anything behind it, and the reader gives that rest back untouched.

The format has 32 bits for a length. `Packable` is the condition that every length in a
payload fits; without it the mark would name another length than the content has.
-/

namespace DeviceSetup

/-! ## Numbers with a sign -/

/-- A number that fits is the same after it was written with its sign and read again. -/
theorem ofTwosComplement_toTwosComplement (bits : Nat) {n : Int} (hlo : -(2 ^ bits : Nat) ≤ n)
    (hhi : n < (2 ^ bits : Nat)) :
    ofTwosComplement (bits + 1) (toTwosComplement (bits + 1) n) = n := by
  unfold ofTwosComplement toTwosComplement
  have hpow : Nat.pow 2 (bits + 1) = 2 * 2 ^ bits := by rw [Nat.pow_eq, Nat.pow_succ, Nat.mul_comm]
  rw [Nat.add_sub_cancel, hpow, Nat.pow_eq]
  generalize 2 ^ bits = half at hlo hhi
  rcases Int.lt_or_le n 0 with hneg | hpos
  · -- a negative number is written as the number that lies one turn above it
    have hmod : n % (2 * half : Nat) = n + (2 * half : Nat) := by
      rw [← Int.add_emod_right]
      exact Int.emod_eq_of_lt (by omega) (by omega)
    rw [hmod, if_neg (by omega)]
    omega
  · have hmod : n % (2 * half : Nat) = n := Int.emod_eq_of_lt hpos (by omega)
    rw [hmod, if_pos (by omega)]
    omega

theorem toTwosComplement_lt (bits : Nat) (n : Int) : toTwosComplement bits n < Nat.pow 2 bits := by
  unfold toTwosComplement
  have hpos : (0 : Int) < (Nat.pow 2 bits : Nat) := by
    exact_mod_cast Nat.pow_pos (by decide : 0 < 2)
  have hlt := Int.emod_lt_of_pos n hpos
  have hnonneg := Int.emod_nonneg n (ne_of_gt hpos)
  omega

namespace MessagePack

/-! ## Items -/

theorem word_append {width n : Nat} (h : n < Nat.pow 256 width) (rest : Bytes) :
    word width (bigEndian width n ++ rest) = .ok (n, rest) := by
  have hsplit := splitOctets?_append (bigEndian width n) rest
  rw [length_bigEndian] at hsplit
  unfold word
  rw [hsplit]
  dsimp only
  rw [ofBigEndian_bigEndian h]

theorem octets_append (content rest : Bytes) :
    octets content.length (content ++ rest) = .ok (content, rest) := by
  unfold octets
  rw [splitOctets?_append]

theorem naturalItem_append {width n : Nat} (h : n < Nat.pow 256 width) (rest : Bytes) :
    naturalItem width (bigEndian width n ++ rest) = .ok (.natural n, rest) := by
  unfold naturalItem
  rw [word_append h]
  rfl

/-- The width comes in octets and the bounds in bits, of which the sign takes one. -/
theorem integerItem_append (bits : Nat) {width : Nat} {n : Int} (hbits : 8 * width = bits + 1)
    (hlo : -(2 ^ bits : Nat) ≤ n) (hhi : n < (2 ^ bits : Nat)) (rest : Bytes) :
    integerItem width (bigEndian width (toTwosComplement (8 * width) n) ++ rest)
      = .ok (.integer n, rest) := by
  have hpow : Nat.pow 256 width = Nat.pow 2 (8 * width) := by
    rw [Nat.pow_eq, Nat.pow_eq, Nat.pow_mul]
  unfold integerItem
  rw [word_append (by rw [hpow]; exact toTwosComplement_lt _ _)]
  rw [hbits]
  exact congrArg (fun m => Except.ok (Item.integer m, rest))
    (ofTwosComplement_toTwosComplement bits hlo hhi)

theorem stringItem_append {width : Nat} {content : Bytes}
    (h : content.length < Nat.pow 256 width) (rest : Bytes) :
    stringItem width (bigEndian width content.length ++ content ++ rest)
      = .ok (.string content, rest) := by
  unfold stringItem
  rw [List.append_assoc, word_append h]
  simp only [bind, Except.bind, octets_append]
  rfl

theorem binaryItem_append {width : Nat} {content : Bytes}
    (h : content.length < Nat.pow 256 width) (rest : Bytes) :
    binaryItem width (bigEndian width content.length ++ content ++ rest)
      = .ok (.binary content, rest) := by
  unfold binaryItem
  rw [List.append_assoc, word_append h]
  simp only [bind, Except.bind, octets_append]
  rfl

/-- A mark between those of short strings and those of negative numbers. -/
theorem item_marked {b : UInt8} (hlo : 0xC0 ≤ b.toNat) (hhi : b.toNat < 0xE0) (rest : Bytes) :
    item (b :: rest) = markedItem b.toNat rest := by
  unfold item
  dsimp only
  rw [if_neg (by omega), if_neg (by omega), if_neg (by omega), if_neg (by omega), if_pos hhi]

/-- A natural is written in the shortest form that holds it, and each form is read as the same
item. -/
theorem item_writeNat {n : Nat} (h : n < 2 ^ 64) (rest : Bytes) :
    item (writeNat n ++ rest) = .ok (.natural n, rest) := by
  unfold writeNat
  split
  · -- a small number is its own mark; the others follow a mark that names their width
    rename_i h7
    rw [List.cons_append, List.nil_append, item, Utf8.toNat_octet (by omega), if_pos (by omega)]
  split
  · exact (item_marked (by decide) (by decide) _).trans (naturalItem_append (by simpa) rest)
  split
  · exact (item_marked (by decide) (by decide) _).trans (naturalItem_append (by simpa) rest)
  split
  · exact (item_marked (by decide) (by decide) _).trans (naturalItem_append (by simpa) rest)
  · exact (item_marked (by decide) (by decide) _).trans (naturalItem_append (by simpa) rest)

/-- The item that an integer is read as. Nothing tells a number that was signed and not negative
from one without a sign, so those come back as naturals. -/
def intItem (n : Int) : Item :=
  if 0 ≤ n then .natural n.toNat else .integer n

theorem item_writeInt {n : Int} (hlo : -2 ^ 63 ≤ n) (hhi : n < 2 ^ 63) (rest : Bytes) :
    item (writeInt n ++ rest) = .ok (intItem n, rest) := by
  unfold writeInt intItem
  split
  · exact item_writeNat (by omega) rest
  split
  · rename_i hneg h5
    -- a small negative number is its own mark
    have hcode : toTwosComplement 8 n = (n + 256).toNat := by
      unfold toTwosComplement
      have hmod : n % (Nat.pow 2 8 : Nat) = n + 256 := by
        rw [← Int.add_emod_right]
        exact Int.emod_eq_of_lt (by simp; omega) (by simp; omega)
      rw [hmod]
    rw [List.cons_append, List.nil_append, item, hcode, Utf8.toNat_octet (by omega)]
    dsimp only
    rw [if_neg (by omega), if_neg (by omega), if_neg (by omega), if_neg (by omega),
      if_neg (by omega), ← hcode,
      ofTwosComplement_toTwosComplement 7 (by simp; omega) (by simp; omega)]
  split
  · exact (item_marked (by decide) (by decide) _).trans
      (integerItem_append 7 rfl (by simp; omega) (by simp; omega) rest)
  split
  · exact (item_marked (by decide) (by decide) _).trans
      (integerItem_append 15 rfl (by simp; omega) (by simp; omega) rest)
  split
  · exact (item_marked (by decide) (by decide) _).trans
      (integerItem_append 31 rfl (by simp; omega) (by simp; omega) rest)
  · exact (item_marked (by decide) (by decide) _).trans
      (integerItem_append 63 rfl (by simp; omega) (by simp; omega) rest)

/-- A text as any of its four marks announces it. -/
theorem item_string {content : Bytes} (h : content.length < 2 ^ 32) (rest : Bytes) :
    item (stringHeader content.length ++ content ++ rest) = .ok (.string content, rest) := by
  unfold stringHeader
  split
  · rename_i h5
    -- a short text has its length inside the mark
    rw [List.cons_append, List.nil_append, List.cons_append, item, Utf8.toNat_octet (by omega)]
    dsimp only
    rw [if_neg (by omega), if_neg (by omega), if_neg (by omega), if_pos (by omega),
      Nat.add_sub_cancel_left, octets_append]
    rfl
  split
  · exact (item_marked (by decide) (by decide) _).trans (stringItem_append (by simpa) rest)
  split
  · exact (item_marked (by decide) (by decide) _).trans (stringItem_append (by simpa) rest)
  · exact (item_marked (by decide) (by decide) _).trans (stringItem_append (by simpa) rest)

theorem item_binary {content : Bytes} (h : content.length < 2 ^ 32) (rest : Bytes) :
    item (binaryHeader content.length ++ content ++ rest) = .ok (.binary content, rest) := by
  unfold binaryHeader
  split
  · exact (item_marked (by decide) (by decide) _).trans (binaryItem_append (by simpa) rest)
  split
  · exact (item_marked (by decide) (by decide) _).trans (binaryItem_append (by simpa) rest)
  · exact (item_marked (by decide) (by decide) _).trans (binaryItem_append (by simpa) rest)

theorem item_mapHeader {length : Nat} (h : length < 2 ^ 32) (rest : Bytes) :
    item (mapHeader length ++ rest) = .ok (.map length, rest) := by
  unfold mapHeader
  split
  · rename_i h4
    rw [List.cons_append, List.nil_append, item, Utf8.toNat_octet (by omega)]
    dsimp only
    rw [if_neg (by omega), if_pos (by omega), Nat.add_sub_cancel_left]
  split
  · -- the reader of this mark has no name of its own, so it is spelled out here
    have hread : markedItem 0xDE (bigEndian 2 length ++ rest)
        = (word 2 (bigEndian 2 length ++ rest)).map fun x => (Item.map x.1, x.2) := rfl
    rw [word_append (by simpa)] at hread
    exact (item_marked (by decide) (by decide) _).trans hread
  · have hread : markedItem 0xDF (bigEndian 4 length ++ rest)
        = (word 4 (bigEndian 4 length ++ rest)).map fun x => (Item.map x.1, x.2) := rfl
    rw [word_append (by simpa)] at hread
    exact (item_marked (by decide) (by decide) _).trans hread

/-! ## Texts and maps -/

/-- A name is written as a text and read as one. -/
theorem text_writeString {s : String} (h : (Utf8.encode s).length < 2 ^ 32) (rest : Bytes) :
    text (writeString s ++ rest) = .ok (s, rest) := by
  unfold text writeString
  rw [item_string h]
  simp only [bind, Except.bind, Utf8.decode_encode]
  rfl

/-- Entries are read one after the other, for any values that are read back from what was written
of them. What was read before is kept in reverse. -/
theorem entriesLoop_append {α : Type} {value : Reader α} {write : α → Bytes}
    {entries : List (String × α)} (hkeys : ∀ e ∈ entries, (Utf8.encode e.1).length < 2 ^ 32)
    (hvalues : ∀ e ∈ entries, ∀ rest, value (write e.2 ++ rest) = .ok (e.2, rest))
    (done : List (String × α)) (rest : Bytes) :
    entriesLoop value entries.length done
        ((entries.flatMap fun e => writeString e.1 ++ write e.2) ++ rest)
      = .ok (done.reverse ++ entries, rest) := by
  induction entries generalizing done with
  | nil => simp [entriesLoop]
  | cons e entries ih =>
      have hkey := hkeys e List.mem_cons_self
      have hvalue := hvalues e List.mem_cons_self
      rw [List.length_cons, entriesLoop, List.flatMap_cons, List.append_assoc, List.append_assoc,
        text_writeString hkey]
      simp only [bind, Except.bind, hvalue]
      rw [ih (fun e' he' => hkeys e' (List.mem_cons_of_mem _ he'))
        (fun e' he' => hvalues e' (List.mem_cons_of_mem _ he')),
        List.reverse_cons, List.append_assoc]
      rfl

/-- A map of anything that is read back is read back. Payloads need it twice, since their values
are in maps themselves. -/
theorem map_writeMap {α : Type} (value : Reader α) (write : α → Bytes)
    (entries : List (String × α)) (hlength : entries.length < 2 ^ 32)
    (hkeys : ∀ e ∈ entries, (Utf8.encode e.1).length < 2 ^ 32)
    (hvalues : ∀ e ∈ entries, ∀ rest, value (write e.2 ++ rest) = .ok (e.2, rest))
    (rest : Bytes) :
    map value (Payload.writeMap (entries.map fun e => (e.1, write e.2)) ++ rest)
      = .ok (entries, rest) := by
  unfold map Payload.writeMap
  rw [List.append_assoc, List.length_map, item_mapHeader hlength, List.flatMap_map]
  exact entriesLoop_append hkeys hvalues [] rest

end MessagePack

/-! ## Payloads -/

/-- A text or octets have a length of 32 bits. -/
def Value.Packable : Value → Prop
  | .text s => (Utf8.encode s).length < 2 ^ 32
  | .bytes bs => bs.length < 2 ^ 32
  | .bool _ | .int _ => True

/-- The entries can be counted, and their names measured, in 32 bits. -/
def Dict.Packable {α : Type} (P : α → Prop) (d : Dict α) : Prop :=
  d.entries.length < 2 ^ 32 ∧ ∀ e ∈ d.entries, (Utf8.encode e.1).length < 2 ^ 32 ∧ P e.2

/-- Every length in a payload takes no more than 32 bits: of the maps, of the names in them, and of
the values. -/
def Payload.Packable (p : Payload) : Prop :=
  p.settings.Packable (Dict.Packable Value.Packable)

/-- Both items that an integer can be read as come to the integer. -/
theorem Value.ofItem_intItem (n : Int64) :
    Value.ofItem (MessagePack.intItem n.toInt) = .ok (.int n) := by
  have hhi := n.toInt_lt
  unfold MessagePack.intItem
  split
  · rename_i hpos
    simp only [ofItem]
    rw [if_pos (by omega), Int.toNat_of_nonneg hpos, Int64.ofInt_toInt]
  · simp only [ofItem, Int64.ofInt_toInt]

/-- A value of any kind is read back, with the rest untouched. -/
theorem Value.itemReader_toMessagePack {x : Value} (h : x.Packable) (rest : Bytes) :
    Value.itemReader (x.toMessagePack ++ rest) = .ok (x, rest) := by
  unfold itemReader
  cases x with
  | text s =>
      simp only [toMessagePack, MessagePack.writeString]
      rw [MessagePack.item_string h]
      simp only [bind, Except.bind, ofItem, Utf8.decode_encode]
      rfl
  | bool b => cases b <;> rfl
  | int n =>
      simp only [toMessagePack]
      rw [MessagePack.item_writeInt n.le_toInt n.toInt_lt]
      simp only [bind, Except.bind, ofItem_intItem]
      rfl
  | bytes bs =>
      simp only [toMessagePack, MessagePack.writeBinary]
      rw [MessagePack.item_binary h]
      rfl

theorem Payload.map_values {values : Dict Value} (h : values.Packable Value.Packable)
    (rest : Bytes) :
    MessagePack.map Value.itemReader
        (writeMap (values.entries.map fun e => (e.1, e.2.toMessagePack)) ++ rest)
      = .ok (values.entries, rest) :=
  MessagePack.map_writeMap _ _ _ h.1 (fun e he => (h.2 e he).1)
    (fun e he => Value.itemReader_toMessagePack (h.2 e he).2) rest

/--
**A payload survives MessagePack**, whatever follows it.

The reader stops where the payload ends and does not look behind it. So a body with something
appended is taken for the payload in front.
-/
theorem Payload.ofMessagePack_append {p : Payload} (h : p.Packable) (rest : Bytes) :
    ofMessagePack (p.toMessagePack ++ rest) = .ok p := by
  have hread := MessagePack.map_writeMap (MessagePack.map Value.itemReader)
    (fun entries => writeMap (entries.map fun e => (e.1, e.2.toMessagePack)))
    (p.settings.entries.map fun e => (e.1, e.2.entries))
    (by rw [List.length_map]; exact h.1)
    (by
      intro e he
      obtain ⟨d, hd, rfl⟩ := List.mem_map.mp he
      exact (h.2 d hd).1)
    (by
      intro e he rest'
      obtain ⟨d, hd, rfl⟩ := List.mem_map.mp he
      exact map_values (h.2 d hd).2 rest')
    rest
  -- the writer maps over the dictionaries at once, where the lemma has a writer of their entries
  have hwritten : p.toMessagePack
      = writeMap ((p.settings.entries.map fun e => (e.1, e.2.entries)).map
          fun e => (e.1, writeMap (e.2.map fun e => (e.1, e.2.toMessagePack)))) := by
    rw [List.map_map]
    rfl
  unfold ofMessagePack
  rw [hwritten, hread]
  exact congrArg Except.ok (ofEntries_entries p)

end DeviceSetup
