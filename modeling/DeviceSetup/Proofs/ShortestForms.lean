import Mathlib
import DeviceSetup.Proofs.MessagePackRoundTrip
import DeviceSetup.WireFormat

/-!
# MessagePack in its shortest form

MessagePack has several forms for most items: a number or a length may be written in more
octets than it needs, and a number that is not negative with a sign. The reader takes all of
them. `Form` lists what a reading may be of and how many octets it takes off the input
(`form_of_item`), and the writer is never above that (`Shortest`).

A written payload is its items one after the other, each in its shortest form, and is read
back whatever follows it.
-/

namespace DeviceSetup

/-- The numbers that fit some bits and a sign. One octet has seven bits and a sign, and so on. -/
def FitsSigned (bits : Nat) (n : Int) : Prop :=
  -(Nat.pow 2 bits : Int) ≤ n ∧ n < Nat.pow 2 bits

theorem fitsSigned_ofTwosComplement {bits n : Nat} (h : n < Nat.pow 2 (bits + 1)) :
    FitsSigned bits (ofTwosComplement (bits + 1) n) := by
  have hpow : Nat.pow 2 (bits + 1) = 2 * Nat.pow 2 bits := by
    rw [Nat.pow_eq, Nat.pow_eq, Nat.pow_succ, Nat.mul_comm]
  unfold FitsSigned ofTwosComplement
  rw [Nat.add_sub_cancel]
  rw [hpow] at h ⊢
  generalize Nat.pow 2 bits = half at h ⊢
  split <;> omega

namespace MessagePack

/-! ## What a reading takes -/

/-- Whether payloads are made of such items. -/
def Item.inPayload : Item → Bool
  | .bool _ | .natural _ | .integer _ | .string _ | .binary _ | .map _ => true
  | .nil | .float _ | .list _ | .extension => false

/--
The forms of an item, with the number of octets that each takes.

Several forms may be of one item, and the writer has to choose the least of them. Of the items that
no payload has nothing is said, since nothing is asked of them.
-/
inductive Form : Item → Nat → Prop where
  | bool (b : Bool) : Form (.bool b) 1
  | smallNatural {n : Nat} (h : n < 2 ^ 7) : Form (.natural n) 1
  | natural {width n : Nat} (hwidth : width ∈ [1, 2, 4, 8]) (h : n < Nat.pow 256 width) :
      Form (.natural n) (1 + width)
  | smallInteger {n : Int} (hlo : -2 ^ 5 ≤ n) (hhi : n < 0) : Form (.integer n) 1
  | integer {width : Nat} {n : Int} (hwidth : width ∈ [1, 2, 4, 8])
      (h : FitsSigned (8 * width - 1) n) : Form (.integer n) (1 + width)
  | smallString {content : Bytes} (h : content.length < 2 ^ 5) :
      Form (.string content) (1 + content.length)
  | string {width : Nat} {content : Bytes} (hwidth : width ∈ [1, 2, 4])
      (h : content.length < Nat.pow 256 width) :
      Form (.string content) (1 + (width + content.length))
  | binary {width : Nat} {content : Bytes} (hwidth : width ∈ [1, 2, 4])
      (h : content.length < Nat.pow 256 width) :
      Form (.binary content) (1 + (width + content.length))
  | smallMap {length : Nat} (h : length < 2 ^ 4) : Form (.map length) 1
  | map {width length : Nat} (hwidth : width ∈ [2, 4]) (h : length < Nat.pow 256 width) :
      Form (.map length) (1 + width)
  | other {found : Item} (h : found.inPayload = false) (count : Nat) : Form found count

section Readings

variable {width n length : Nat} {bs bs' rest content : Bytes} {found : Item}

/-- A number off the front fits its width, and so many octets are gone. -/
theorem word_ok (h : word width bs = .ok (n, rest)) :
    n < Nat.pow 256 width ∧ bs.length = width + rest.length := by
  unfold word at h
  split at h
  · rename_i octets rest' hsplit
    cases h
    obtain ⟨hlength, hrest⟩ := splitOctets?_eq_some hsplit
    have hlt := ofBigEndian_lt octets
    rw [hlength] at hlt
    exact ⟨hlt, hrest⟩
  · cases h

theorem octets_ok (h : octets length bs = .ok (content, rest)) :
    content.length = length ∧ bs.length = length + rest.length := by
  unfold octets at h
  split at h
  · rename_i split hsplit
    cases h
    exact splitOctets?_eq_some hsplit
  · cases h

/-- A reading that follows its mark: one octet of the form is the mark, and the others are those
that were taken. -/
def Takes (found : Item) (bs rest : Bytes) : Prop :=
  ∃ count, Form found (1 + count) ∧ bs.length = count + rest.length

theorem takes_mark (h : Form found 1) : Takes found bs bs :=
  ⟨0, h, (Nat.zero_add _).symm⟩

theorem naturalItem_takes (hwidth : width ∈ [1, 2, 4, 8])
    (h : naturalItem width bs = .ok (found, rest)) : Takes found bs rest := by
  obtain ⟨⟨n, rest'⟩, hword, hfound⟩ := exists_of_bind_eq_ok h
  cases hfound
  obtain ⟨hn, hlength⟩ := word_ok hword
  exact ⟨width, .natural hwidth hn, hlength⟩

theorem integerItem_takes (hwidth : width ∈ [1, 2, 4, 8])
    (h : integerItem width bs = .ok (found, rest)) : Takes found bs rest := by
  obtain ⟨⟨n, rest'⟩, hword, hfound⟩ := exists_of_bind_eq_ok h
  cases hfound
  obtain ⟨hn, hlength⟩ := word_ok hword
  -- no width is zero, so there is a bit to spare for the sign
  have hbits : 8 * width - 1 + 1 = 8 * width := by
    have hpos : ∀ w ∈ [1, 2, 4, 8], 0 < w := by decide
    have := hpos width hwidth
    omega
  have hpow : Nat.pow 256 width = Nat.pow 2 (8 * width) := by
    rw [Nat.pow_eq, Nat.pow_eq, Nat.pow_mul]
  rw [hpow, ← hbits] at hn
  have hfits := fitsSigned_ofTwosComplement hn
  rw [hbits] at hfits
  exact ⟨width, .integer hwidth hfits, hlength⟩

/-- A length and so many octets. -/
theorem word_octets_ok (hword : word width bs = .ok (length, content))
    (hcontent : octets length content = .ok (bs', rest)) :
    bs'.length < Nat.pow 256 width ∧ bs.length = width + bs'.length + rest.length := by
  obtain ⟨hlt, hlength⟩ := word_ok hword
  obtain ⟨heq, hrest⟩ := octets_ok hcontent
  rw [← heq] at hlt
  exact ⟨hlt, by omega⟩

theorem stringItem_takes (hwidth : width ∈ [1, 2, 4])
    (h : stringItem width bs = .ok (found, rest)) : Takes found bs rest := by
  obtain ⟨⟨length, bs'⟩, hword, h⟩ := exists_of_bind_eq_ok h
  obtain ⟨⟨content, rest'⟩, hcontent, hfound⟩ := exists_of_bind_eq_ok h
  cases hfound
  obtain ⟨hlt, hlength⟩ := word_octets_ok hword hcontent
  exact ⟨width + content.length, .string hwidth hlt, hlength⟩

theorem binaryItem_takes (hwidth : width ∈ [1, 2, 4])
    (h : binaryItem width bs = .ok (found, rest)) : Takes found bs rest := by
  obtain ⟨⟨length, bs'⟩, hword, h⟩ := exists_of_bind_eq_ok h
  obtain ⟨⟨content, rest'⟩, hcontent, hfound⟩ := exists_of_bind_eq_ok h
  cases hfound
  obtain ⟨hlt, hlength⟩ := word_octets_ok hword hcontent
  exact ⟨width + content.length, .binary hwidth hlt, hlength⟩

theorem map_takes (hwidth : width ∈ [2, 4])
    (h : ((word width bs).map fun x => (Item.map x.1, x.2)) = .ok (found, rest)) :
    Takes found bs rest := by
  obtain ⟨⟨length, rest'⟩, hword, hfound⟩ := map_eq_ok_iff.mp h
  cases hfound
  obtain ⟨hlt, hlength⟩ := word_ok hword
  exact ⟨width, .map hwidth hlt, hlength⟩

/-- A number that makes an item of which nothing is said. -/
theorem other_takes (make : Nat → Item) (hmake : ∀ n, (make n).inPayload = false)
    (h : ((word width bs).map fun x => (make x.1, x.2)) = .ok (found, rest)) :
    Takes found bs rest := by
  obtain ⟨⟨n, rest'⟩, hword, hfound⟩ := map_eq_ok_iff.mp h
  cases hfound
  exact ⟨width, .other (hmake n) _, (word_ok hword).2⟩

theorem markedItem_takes {mark : Nat} (h : markedItem mark bs = .ok (found, rest)) :
    Takes found bs rest := by
  unfold markedItem at h
  -- one case for each mark, by what stands behind it
  split at h
  case h_2 | h_3 =>
    cases h
    exact takes_mark (.bool _)
  case h_4 | h_5 | h_6 => exact binaryItem_takes (by decide) h
  case h_12 | h_13 | h_14 | h_15 => exact naturalItem_takes (by decide) h
  case h_16 | h_17 | h_18 | h_19 => exact integerItem_takes (by decide) h
  case h_25 | h_26 | h_27 => exact stringItem_takes (by decide) h
  case h_30 | h_31 => exact map_takes (by decide) h
  -- no payload has these
  case h_7 | h_8 | h_9 => exact other_takes (fun _ => .extension) (fun _ => rfl) h
  case h_10 => exact other_takes (fun n => .float (.ofBits32 n)) (fun _ => rfl) h
  case h_11 => exact other_takes (fun n => .float (.ofBits64 n)) (fun _ => rfl) h
  case h_28 | h_29 => exact other_takes .list (fun _ => rfl) h
  case h_1 | h_20 | h_21 | h_22 | h_23 | h_24 =>
    cases h
    exact takes_mark (.other rfl 1)
  case h_32 => cases h

/-- **What a reading may be of, and how many octets it takes.** Since a reading is of some form,
what is least among the forms is least among all octets that are read. -/
theorem form_of_item (h : item bs = .ok (found, rest)) :
    ∃ count, Form found count ∧ bs.length = count + rest.length := by
  cases bs with
  | nil => cases h
  | cons b bs =>
      have hmark : Takes found bs rest →
          ∃ count, Form found count ∧ (b :: bs).length = count + rest.length := by
        rintro ⟨count, hform, hlength⟩
        exact ⟨1 + count, hform, by rw [List.length_cons]; omega⟩
      have hb := b.toNat_lt
      unfold item at h
      dsimp only at h
      -- the first octet is a small number, or a kind with a small length, or a mark
      split at h
      · cases h
        exact hmark (takes_mark (.smallNatural (by assumption)))
      split at h
      · cases h
        exact hmark (takes_mark (.smallMap (by omega)))
      split at h
      · cases h
        exact hmark (takes_mark (.other rfl 1))
      split at h
      · obtain ⟨⟨content, rest'⟩, hcontent, hfound⟩ := map_eq_ok_iff.mp h
        have hfound : (Item.string content, rest') = (found, rest) := hfound
        cases hfound
        obtain ⟨heq, hlength⟩ := octets_ok hcontent
        exact hmark ⟨content.length, .smallString (by omega), by omega⟩
      split at h
      · exact hmark (markedItem_takes h)
      · cases h
        have hvalue : ofTwosComplement 8 b.toNat = (b.toNat : Int) - 256 := by
          unfold ofTwosComplement
          rw [if_neg (by simp; omega)]
          rfl
        exact hmark (takes_mark (.smallInteger (by omega) (by omega)))

end Readings

/-! ## The shortest form -/

/-- The item that stands for a number however it is written: with a sign only if it needs one. -/
def Item.unsigned : Item → Item
  | .integer n => intItem n
  | found => found

/-- The octets are read as the item whatever follows, and no fewer octets are. A number with a sign
that it does not need counts as the same number. -/
structure Shortest (found : Item) (bs : Bytes) : Prop where
  reads : ∀ rest, item (bs ++ rest) = .ok (found, rest)
  least : ∀ bs' rest found', item bs' = .ok (found', rest) → found'.unsigned = found →
    bs.length + rest.length ≤ bs'.length

/-- It is enough to compare with the forms. -/
theorem shortest_of_form {found : Item} {bs : Bytes}
    (hreads : ∀ rest, item (bs ++ rest) = .ok (found, rest))
    (hform : ∀ found' count, Form found' count → found'.unsigned = found → bs.length ≤ count) :
    Shortest found bs := by
  refine ⟨hreads, fun bs' rest found' h hfound => ?_⟩
  obtain ⟨count, hcount, hlength⟩ := form_of_item h
  have hle := hform found' count hcount hfound
  omega

/-- What the widths of numbers and lengths hold. -/
theorem width_cases {width n : Nat} (hwidth : width ∈ [1, 2, 4, 8]) (h : n < Nat.pow 256 width) :
    width = 1 ∧ n < 2 ^ 8 ∨ width = 2 ∧ n < 2 ^ 16 ∨ width = 4 ∧ n < 2 ^ 32 ∨ width = 8 := by
  simp only [List.mem_cons, List.not_mem_nil, or_false] at hwidth
  rcases hwidth with rfl | rfl | rfl | rfl
  · exact .inl ⟨rfl, h⟩
  · exact .inr (.inl ⟨rfl, h⟩)
  · exact .inr (.inr (.inl ⟨rfl, h⟩))
  · exact .inr (.inr (.inr rfl))

theorem signed_width_cases {width : Nat} {n : Int} (hwidth : width ∈ [1, 2, 4, 8])
    (h : FitsSigned (8 * width - 1) n) :
    width = 1 ∧ -2 ^ 7 ≤ n ∧ n < 2 ^ 7 ∨ width = 2 ∧ -2 ^ 15 ≤ n ∧ n < 2 ^ 15 ∨
      width = 4 ∧ -2 ^ 31 ≤ n ∧ n < 2 ^ 31 ∨ width = 8 := by
  simp only [List.mem_cons, List.not_mem_nil, or_false] at hwidth
  rcases hwidth with rfl | rfl | rfl | rfl
  · exact .inl ⟨rfl, h⟩
  · exact .inr (.inl ⟨rfl, h⟩)
  · exact .inr (.inr (.inl ⟨rfl, h⟩))
  · exact .inr (.inr (.inr rfl))

theorem length_writeNat (n : Nat) : (writeNat n).length
    = if n < 2 ^ 7 then 1 else if n < 2 ^ 8 then 2 else if n < 2 ^ 16 then 3
      else if n < 2 ^ 32 then 5 else 9 := by
  unfold writeNat
  split_ifs <;> simp only [List.length_cons, List.length_nil, length_bigEndian]

theorem writeInt_of_nonneg {n : Int} (h : 0 ≤ n) : writeInt n = writeNat n.toNat := if_pos h

theorem length_writeInt_of_neg {n : Int} (h : n < 0) : (writeInt n).length
    = if -2 ^ 5 ≤ n then 1 else if -2 ^ 7 ≤ n then 2 else if -2 ^ 15 ≤ n then 3
      else if -2 ^ 31 ≤ n then 5 else 9 := by
  unfold writeInt
  rw [if_neg (by omega)]
  split_ifs <;> simp only [List.length_cons, List.length_nil, length_bigEndian]

theorem length_stringHeader (length : Nat) : (stringHeader length).length
    = if length < 2 ^ 5 then 1 else if length < 2 ^ 8 then 2 else if length < 2 ^ 16 then 3
      else 5 := by
  unfold stringHeader
  split_ifs <;> simp only [List.length_cons, List.length_nil, length_bigEndian]

theorem length_binaryHeader (length : Nat) : (binaryHeader length).length
    = if length < 2 ^ 8 then 2 else if length < 2 ^ 16 then 3 else 5 := by
  unfold binaryHeader
  split_ifs <;> simp only [List.length_cons, length_bigEndian]

theorem length_mapHeader (length : Nat) : (mapHeader length).length
    = if length < 2 ^ 4 then 1 else if length < 2 ^ 16 then 3 else 5 := by
  unfold mapHeader
  split_ifs <;> simp only [List.length_cons, List.length_nil, length_bigEndian]

theorem intItem_of_nonneg {n : Int} (h : 0 ≤ n) : intItem n = .natural n.toNat := if_pos h

theorem intItem_of_neg {n : Int} (h : n < 0) : intItem n = .integer n := if_neg (by omega)

/-- An item that is no number stands for itself alone. -/
theorem eq_of_unsigned {found found₀ : Item} (h : found.unsigned = found₀)
    (hint : ∀ n, intItem n ≠ found₀) : found = found₀ := by
  cases found with
  | integer n => exact absurd h (hint n)
  | nil | bool | natural | float | string | binary | list | map | extension => exact h

/-- A number is written with a sign, or without one if it is not negative. -/
theorem eq_of_unsigned_int {found : Item} {n : Int} (h : found.unsigned = intItem n) :
    found = .integer n ∨ 0 ≤ n ∧ found = .natural n.toNat := by
  rcases Int.lt_or_le n 0 with hneg | hpos
  · rw [intItem_of_neg hneg] at h
    left
    cases found with
    | integer m =>
        rcases Int.lt_or_le m 0 with hm | hm
        · rwa [Item.unsigned, intItem_of_neg hm] at h
        · rw [Item.unsigned, intItem_of_nonneg hm] at h
          cases h
    | nil | bool | natural | float | string | binary | list | map | extension => exact h
  · rw [intItem_of_nonneg hpos] at h
    cases found with
    | integer m =>
        left
        rcases Int.lt_or_le m 0 with hm | hm
        · rw [Item.unsigned, intItem_of_neg hm] at h
          cases h
        · rw [Item.unsigned, intItem_of_nonneg hm, Item.natural.injEq] at h
          rw [show m = n by omega]
    | nil | bool | natural | float | string | binary | list | map | extension =>
        exact .inr ⟨hpos, h⟩

theorem intItem_ne {found : Item} (hnatural : ∀ n, found ≠ .natural n)
    (hinteger : ∀ n, found ≠ .integer n) (n : Int) : intItem n ≠ found := by
  intro h
  rcases Int.lt_or_le n 0 with hneg | hpos
  · exact hinteger n (h ▸ intItem_of_neg hneg)
  · exact hnatural n.toNat (h ▸ intItem_of_nonneg hpos)

theorem shortest_bool (b : Bool) : Shortest (.bool b) (writeBool b) := by
  refine shortest_of_form (fun rest => by cases b <;> rfl) fun found count hform hfound => ?_
  obtain rfl := eq_of_unsigned hfound (intItem_ne (fun _ => nofun) fun _ => nofun)
  cases hform with
  | bool => exact Nat.le_refl 1
  | other h => cases h

/-- A number is written in the least octets that hold it. -/
theorem shortest_int {n : Int} (hlo : -2 ^ 63 ≤ n) (hhi : n < 2 ^ 63) :
    Shortest (intItem n) (writeInt n) := by
  refine shortest_of_form (item_writeInt hlo hhi) fun found count hform hfound => ?_
  rcases Int.lt_or_le n 0 with hneg | hpos
  · -- a negative number has a sign in every form
    obtain rfl : found = .integer n :=
      (eq_of_unsigned_int hfound).resolve_right fun h => absurd h.1 (by omega)
    rw [length_writeInt_of_neg hneg]
    cases hform with
    | smallInteger hlo hhi => rw [if_pos hlo]
    | integer hwidth h =>
        have hcases := signed_width_cases hwidth h
        split_ifs <;> omega
    | other h => cases h
  · -- without a sign, a width holds one bit more
    rw [writeInt_of_nonneg hpos, length_writeNat]
    rcases eq_of_unsigned_int hfound with rfl | ⟨-, rfl⟩
    · cases hform with
      | smallInteger hlo hhi => omega
      | integer hwidth h =>
          have hcases := signed_width_cases hwidth h
          split_ifs <;> omega
      | other h => cases h
    · cases hform with
      | smallNatural h => rw [if_pos h]
      | natural hwidth h =>
          have hcases := width_cases hwidth h
          split_ifs <;> omega
      | other h => cases h

/-- The content is the same in every form, so the lengths of the headers decide. -/
theorem shortest_string {content : Bytes} (hlength : content.length < 2 ^ 32) :
    Shortest (.string content) (stringHeader content.length ++ content) := by
  refine shortest_of_form (item_string hlength) fun found count hform hfound => ?_
  obtain rfl := eq_of_unsigned hfound (intItem_ne (fun _ => nofun) fun _ => nofun)
  rw [List.length_append, length_stringHeader]
  cases hform with
  | smallString h => split_ifs; omega
  | string hwidth h =>
      have hcases := width_cases (List.mem_append_left [8] hwidth) h
      split_ifs <;> omega
  | other h => cases h

theorem shortest_binary {content : Bytes} (hlength : content.length < 2 ^ 32) :
    Shortest (.binary content) (binaryHeader content.length ++ content) := by
  refine shortest_of_form (item_binary hlength) fun found count hform hfound => ?_
  obtain rfl := eq_of_unsigned hfound (intItem_ne (fun _ => nofun) fun _ => nofun)
  rw [List.length_append, length_binaryHeader]
  cases hform with
  | binary hwidth h =>
      have hcases := width_cases (List.mem_append_left [8] hwidth) h
      split_ifs <;> omega
  | other h => cases h

theorem shortest_map {length : Nat} (hlength : length < 2 ^ 32) :
    Shortest (.map length) (mapHeader length) := by
  refine shortest_of_form (item_mapHeader hlength) fun found count hform hfound => ?_
  obtain rfl := eq_of_unsigned hfound (intItem_ne (fun _ => nofun) fun _ => nofun)
  rw [length_mapHeader]
  cases hform with
  | smallMap h => split_ifs; omega
  | map hwidth h =>
      have hcases := width_cases (List.mem_cons_of_mem 1 (List.mem_append_left [8] hwidth)) h
      -- a map has no header with a length of one octet
      have hlong := List.mem_pair.mp hwidth
      split_ifs <;> omega
  | other h => cases h

/-- The octets are the items one after the other, each in its shortest form. There is no shorter way
to write these items in this order. -/
def Spells (items : List Item) (bs : Bytes) : Prop :=
  ∃ parts, List.Forall₂ Shortest items parts ∧ bs = parts.flatten

theorem spells_nil : Spells [] [] :=
  ⟨[], .nil, rfl⟩

theorem Spells.cons {found : Item} {bs : Bytes} (h : Shortest found bs) {items : List Item}
    {rest : Bytes} (hrest : Spells items rest) : Spells (found :: items) (bs ++ rest) := by
  obtain ⟨parts, hparts, rfl⟩ := hrest
  exact ⟨bs :: parts, .cons h hparts, rfl⟩

theorem Spells.append {items more : List Item} {bs rest : Bytes} (h : Spells items bs)
    (hrest : Spells more rest) : Spells (items ++ more) (bs ++ rest) := by
  obtain ⟨parts, hparts, rfl⟩ := h
  obtain ⟨parts', hparts', rfl⟩ := hrest
  exact ⟨parts ++ parts', List.rel_append hparts hparts', List.flatten_append.symm⟩

theorem spells_flatMap {α : Type} {items : α → List Item} {write : α → Bytes} {xs : List α}
    (h : ∀ x ∈ xs, Spells (items x) (write x)) :
    Spells (xs.flatMap items) (xs.flatMap write) := by
  induction xs with
  | nil => exact spells_nil
  | cons x xs ih =>
      rw [List.flatMap_cons, List.flatMap_cons]
      exact (h x List.mem_cons_self).append (ih fun y hy => h y (List.mem_cons_of_mem _ hy))

end MessagePack

/-! ## Payloads -/

open MessagePack (Item Spells)

/-- The item of a value. -/
def Value.item : Value → Item
  | .text s => .string (Utf8.encode s)
  | .bool b => .bool b
  | .int n => MessagePack.intItem n.toInt
  | .bytes bs => .binary bs

/-- The items of a dictionary: a header, and for each entry its name and what stands under it. -/
def Dict.items {α : Type} (items : α → List Item) (d : Dict α) : List Item :=
  .map d.entries.length :: d.entries.flatMap fun e => .string (Utf8.encode e.1) :: items e.2

/-- The items of a payload. -/
def Payload.items (p : Payload) : List Item :=
  p.settings.items fun values => values.items fun x => [x.item]

theorem Value.shortest_item {x : Value} (h : x.Packable) :
    MessagePack.Shortest x.item x.toMessagePack := by
  cases x with
  | text s => exact MessagePack.shortest_string h
  | bool b => exact MessagePack.shortest_bool b
  | int n => exact MessagePack.shortest_int n.le_toInt n.toInt_lt
  | bytes bs => exact MessagePack.shortest_binary h

/-- The items of a dictionary, given those of its values. Payloads need it twice, for settings and
for the values in them. -/
theorem Dict.spells_items {α : Type} {P : α → Prop} (items : α → List Item) (write : α → Bytes)
    {d : Dict α} (h : d.Packable P) (hvalues : ∀ x, P x → Spells (items x) (write x)) :
    Spells (d.items items) (Payload.writeMap (d.entries.map fun e => (e.1, write e.2))) := by
  unfold Dict.items Payload.writeMap
  rw [List.length_map, List.flatMap_map]
  refine .cons (MessagePack.shortest_map h.1) (MessagePack.spells_flatMap fun e he => ?_)
  obtain ⟨hname, hvalue⟩ := h.2 e he
  exact .cons (MessagePack.shortest_string hname) (hvalues e.2 hvalue)

theorem Payload.spells_items {p : Payload} (h : p.Packable) : Spells p.items p.toMessagePack := by
  have hvalue : ∀ x : Value, x.Packable → Spells [x.item] x.toMessagePack := by
    intro x hx
    have hspells := MessagePack.Spells.cons (Value.shortest_item hx) MessagePack.spells_nil
    rwa [List.append_nil] at hspells
  have hvalues : ∀ values : Dict Value, values.Packable Value.Packable →
      Spells (values.items fun x => [x.item])
        (writeMap (values.entries.map fun e => (e.1, e.2.toMessagePack))) := by
    intro values hvalues
    exact Dict.spells_items (fun x => [x.item]) Value.toMessagePack hvalues hvalue
  unfold items toMessagePack
  exact Dict.spells_items (fun values => values.items fun x => [x.item])
    (fun values => writeMap (values.entries.map fun e => (e.1, e.2.toMessagePack))) h hvalues

/-- What follows a payload is not looked at. -/
theorem WireFormat.messagePack_append {p : Payload} (h : p.Packable) (rest : Bytes) :
    messagePack.decode (messagePack.encode p ++ rest) = .ok p := by
  unfold decode encode
  dsimp only
  rw [Payload.ofMessagePack_append h rest]
  rfl

/-! ## Lengths -/

namespace Payload

/-- A written text is longer than its content. -/
theorem length_le_writeString (s : String) :
    (Utf8.encode s).length < (MessagePack.writeString s).length := by
  unfold MessagePack.writeString
  rw [List.length_append, MessagePack.length_stringHeader]
  split_ifs <;> omega

/-- What a written map is not shorter than. -/
theorem length_le_writeMap (entries : List (String × Bytes)) :
    entries.length ≤ (writeMap entries).length ∧ ∀ e ∈ entries,
      (Utf8.encode e.1).length ≤ (writeMap entries).length ∧
        e.2.length ≤ (writeMap entries).length := by
  -- without the header, which has no part in the induction
  have hcontent : ∀ entries : List (String × Bytes),
      entries.length ≤ (entries.flatMap fun e => MessagePack.writeString e.1 ++ e.2).length ∧
        ∀ e ∈ entries, (Utf8.encode e.1).length + e.2.length
          ≤ (entries.flatMap fun e => MessagePack.writeString e.1 ++ e.2).length := by
    intro entries
    induction entries with
    | nil => simp
    | cons d entries ih =>
        have hname := length_le_writeString d.1
        rw [List.flatMap_cons, List.length_append, List.length_append, List.length_cons]
        refine ⟨by omega, List.forall_mem_cons.mpr ⟨by omega, fun e he => ?_⟩⟩
        have hle := ih.2 e he
        omega
  unfold writeMap
  rw [List.length_append]
  obtain ⟨hcount, heach⟩ := hcontent entries
  refine ⟨by omega, fun e he => ?_⟩
  have hle := heach e he
  omega

/-- **Octets that can be counted in 32 bits hold nothing that cannot.** So a payload that was
received needs no other condition on lengths than that of its body. -/
theorem packable_of_length_lt {p : Payload} (h : p.toMessagePack.length < 2 ^ 32) : p.Packable := by
  obtain ⟨hcount, hentries⟩ := length_le_writeMap (p.settings.entries.map fun e =>
    (e.1, writeMap (e.2.entries.map fun e => (e.1, e.2.toMessagePack))))
  rw [List.length_map] at hcount
  refine ⟨Nat.lt_of_le_of_lt hcount h, fun e he => ?_⟩
  obtain ⟨hname, hvalues⟩ := hentries _ (List.mem_map_of_mem he)
  obtain ⟨hcount', hentries'⟩ := length_le_writeMap
    (e.2.entries.map fun e => (e.1, e.2.toMessagePack))
  rw [List.length_map] at hcount'
  have hsetting := Nat.lt_of_le_of_lt hvalues h
  refine ⟨Nat.lt_of_le_of_lt hname h, Nat.lt_of_le_of_lt hcount' hsetting, fun v hv => ?_⟩
  obtain ⟨hname', hvalue⟩ := hentries' _ (List.mem_map_of_mem hv)
  have hv := Nat.lt_of_le_of_lt hvalue hsetting
  refine ⟨Nat.lt_of_le_of_lt hname' hsetting, ?_⟩
  cases hx : v.2 with
  | text s =>
      rw [hx] at hv
      exact Nat.lt_trans (length_le_writeString s) hv
  | bytes bs =>
      rw [hx, Value.toMessagePack, MessagePack.writeBinary, List.length_append] at hv
      exact Nat.lt_of_le_of_lt (Nat.le_add_left _ _) hv
  | bool b => trivial
  | int n => trivial

/--
**A payload survives MessagePack**, whatever follows it; and it is written as its items one
after the other, each in the fewest octets that are read as it.

The reader takes longer forms too, as other writers may use them. What this writer puts down can be
compared octet by octet: there is one way to write a payload.
-/
theorem messagePack_round_trip {p : Payload} (h : p.Packable) :
    (∀ rest, WireFormat.messagePack.decode (WireFormat.messagePack.encode p ++ rest) = .ok p) ∧
      Spells p.items (WireFormat.messagePack.encode p) := by
  exact ⟨WireFormat.messagePack_append h, spells_items h⟩

/-- Integers on both sides of the limits of their forms, octets and a text. -/
def limitsPayload : Payload :=
  .ofEntries [("limits", [("a", .int 127), ("b", .int 128), ("c", .int (-32)), ("d", .int (-33)),
    ("e", .int (-9223372036854775808)), ("f", .int 9223372036854775807), ("g", .bytes [0, 255]),
    ("h", .text "é")]), ("none", [])]

theorem messagePack_round_trip_limits :
    limitsPayload.Packable ∧
      (∀ rest, WireFormat.messagePack.decode (WireFormat.messagePack.encode limitsPayload ++ rest)
        = .ok limitsPayload) ∧
      Spells limitsPayload.items (WireFormat.messagePack.encode limitsPayload) := by
  have hpackable : limitsPayload.Packable := packable_of_length_lt (by decide)
  exact ⟨hpackable, messagePack_round_trip hpackable⟩

end Payload

end DeviceSetup
