import Mathlib
import DeviceSetup.Json.Reader
import DeviceSetup.Json.Record
import DeviceSetup.Proofs.JsonRoundTrip
import DeviceSetup.Proofs.Octets

/-!
# Lists, trees and records survive JSON

What is written is read back item by item and field by field, with anything behind it. An item of
a list must not look like the end of the list, so a written value is also known to begin a value
(`BeginsValue`), and to be UTF-8 throughout (`IsText`). `Written` holds the three together for a
value that is read as a tree.

The other way round, what every reading of an item or a field gives holds of all that is read:
`forall_mem_of_list` for lists, `RecordRule.of_reader` for records.
-/

namespace DeviceSetup.Json

/-! ## Octets of a text -/

/-- The octets are UTF-8. A schema is read from a text, so only octets of which there is a text
can be handed to the reader as one. -/
def IsText (bs : Bytes) : Prop :=
  ∃ cs, bs = Utf8.encodeChars cs

theorem isText_append {bs bs' : Bytes} (h : IsText bs) (h' : IsText bs') : IsText (bs ++ bs') := by
  obtain ⟨cs, rfl⟩ := h
  obtain ⟨cs', rfl⟩ := h'
  exact ⟨cs ++ cs', (Utf8.encodeChars_append cs cs').symm⟩

theorem isText_char (c : Char) : IsText (String.utf8EncodeChar c) :=
  ⟨[c], by simp [Utf8.encodeChars]⟩

theorem isText_ascii {cs : List Char} (h : ∀ c ∈ cs, c.toNat < 0x80) : IsText (ascii cs) :=
  ⟨cs, (Utf8.encodeChars_ascii h).symm⟩

theorem isText_flatMap {α : Type} {xs : List α} {f : α → Bytes} (h : ∀ x ∈ xs, IsText (f x)) :
    IsText (xs.flatMap f) := by
  induction xs with
  | nil => exact ⟨[], rfl⟩
  | cons x xs ih =>
      rw [List.flatMap_cons]
      exact isText_append (h x List.mem_cons_self)
        (ih fun y hy => h y (List.mem_cons_of_mem _ hy))

/-- A backslash and another mark. Seven of the characters that are escaped are written so. -/
theorem isText_escape {c : Char} (hc : c.toNat < 0x80) : IsText (ascii ['\\', c]) := by
  refine isText_ascii fun d hd => ?_
  rcases List.mem_pair.mp hd with rfl | rfl
  · decide
  · exact hc

theorem isText_escapeChar (c : Char) : IsText (escapeChar c) := by
  unfold escapeChar
  split
  · exact isText_escape (by decide)
  split
  · exact isText_escape (by decide)
  split
  · exact isText_escape (by decide)
  split
  · exact isText_escape (by decide)
  split
  · exact isText_escape (by decide)
  split
  · exact isText_escape (by decide)
  split
  · exact isText_escape (by decide)
  split
  · rename_i hcontrol
    -- another control is written with four hexadecimal digits, two of them zeros
    have hdigit : ∀ d < 16, (Hex.digit d).toNat < 0x80 := by decide
    have hhigh := hdigit (c.toNat / 16) (by omega)
    have hlow := hdigit (c.toNat % 16) (by omega)
    refine isText_ascii ?_
    rw [List.forall_mem_cons, List.forall_mem_cons, List.forall_mem_cons, List.forall_mem_cons,
      List.forall_mem_cons, List.forall_mem_singleton]
    exact ⟨by decide, by decide, by decide, by decide, hhigh, hlow⟩
  · exact isText_char c

/-- An ASCII mark and what stands behind it. -/
theorem isText_cons {c : Char} (hc : c.toNat < 0x80) {bs : Bytes} (h : IsText bs) :
    IsText (c.toUInt8 :: bs) := by
  have hmark : IsText (ascii [c]) := isText_ascii fun d hd => List.mem_singleton.mp hd ▸ hc
  exact isText_append hmark h

theorem isText_between {c d : Char} (hc : c.toNat < 0x80) (hd : d.toNat < 0x80) {bs : Bytes}
    (h : IsText bs) : IsText (c.toUInt8 :: bs ++ [d.toUInt8]) :=
  isText_append (isText_cons hc h) (isText_cons hd ⟨[], rfl⟩)

theorem isText_writeString (s : String) : IsText (writeString s) :=
  isText_between (by decide) (by decide) (isText_flatMap fun c _ => isText_escapeChar c)

theorem isText_commas {xs : List Bytes} (h : ∀ x ∈ xs, IsText x) : IsText (commas xs) := by
  cases xs with
  | nil => exact ⟨[], rfl⟩
  | cons x xs =>
      rw [commas_cons]
      refine isText_append (h x List.mem_cons_self) (isText_flatMap fun y hy => ?_)
      exact isText_cons (by decide) (h y (List.mem_cons_of_mem _ hy))

theorem isText_writeList {xs : List Bytes} (h : ∀ x ∈ xs, IsText x) : IsText (writeList xs) :=
  isText_between (by decide) (by decide) (isText_commas h)

/-- An object is a text if its values are; its names always are. -/
theorem isText_writeObject {ms : List (String × Bytes)} (h : ∀ m ∈ ms, IsText m.2) :
    IsText (writeObject ms) := by
  refine isText_between (by decide) (by decide) (isText_commas fun x hx => ?_)
  obtain ⟨m, hm, rfl⟩ := List.mem_map.mp hx
  exact isText_append (isText_writeString m.1) (isText_cons (by decide) (h m hm))

/-! ## Lists -/

/-- The octets begin a value: neither with a blank nor with the end of a list. Before every item a
reader looks for the end of the list first, so an item that began so would never be read. -/
def BeginsValue : Bytes → Prop
  | [] => False
  | b :: _ => isBlank b = false ∧ b ≠ ']'.toUInt8

theorem beginsValue_writeString (s : String) : BeginsValue (writeString s) := ⟨rfl, by decide⟩

theorem beginsValue_writeList (xs : List Bytes) : BeginsValue (writeList xs) := ⟨rfl, by decide⟩

theorem beginsValue_writeObject (ms : List (String × Bytes)) : BeginsValue (writeObject ms) :=
  ⟨rfl, by decide⟩

/-- The first item is found where the list begins. -/
theorem nextItem_first {bs : Bytes} (h : BeginsValue bs) (rest : Bytes) :
    nextItem true (bs ++ rest) = .ok (some (bs ++ rest)) := by
  cases bs with
  | nil => cases h
  | cons b bs =>
      unfold nextItem
      rw [List.cons_append, skipBlank_cons h.1]
      dsimp only
      rw [if_neg h.2, if_pos rfl]

/-- Any further item is found behind a comma. -/
theorem nextItem_comma {bs : Bytes} (h : BeginsValue bs) (rest : Bytes) :
    nextItem false (','.toUInt8 :: (bs ++ rest)) = .ok (some (bs ++ rest)) := by
  cases bs with
  | nil => cases h
  | cons b bs =>
      unfold nextItem
      rw [skipBlank_cons rfl]
      dsimp only
      rw [if_neg (by decide), if_neg Bool.false_ne_true, if_pos rfl, List.cons_append,
        skipBlank_cons h.1]
      dsimp only
      rw [if_neg h.2]

theorem endsNumber_bracket (rest : Bytes) : EndsNumber (']'.toUInt8 :: rest) := by
  refine ⟨?_, ?_, ?_, ?_⟩ <;> decide

section Items

variable {α β : Type} {item : Reader β} {write : α → Bytes} {f : α → β}

/-- The items behind the first, each with its comma. The loop that reads items treats the first one
apart, so the induction is on these. -/
def restItems (write : α → Bytes) (xs : List α) : Bytes :=
  (xs.map write).flatMap fun y => ','.toUInt8 :: y

theorem restItems_cons (x : α) (xs : List α) :
    restItems write (x :: xs) = ','.toUInt8 :: (write x ++ restItems write xs) := rfl

/-- Every item takes up an octet at least, so the length of the octets is fuel enough. -/
theorem length_le_restItems (write : α → Bytes) (xs : List α) :
    xs.length ≤ (restItems write xs).length := by
  induction xs with
  | nil => exact Nat.zero_le _
  | cons x xs ih =>
      rw [restItems_cons, List.length_cons, List.length_cons, List.length_append]
      omega

/-- Behind an item stands a comma or the end of the list. Either ends a number, which has no end
of its own. -/
theorem endsNumber_restItems (xs : List α) (rest : Bytes) :
    EndsNumber (restItems write xs ++ ']'.toUInt8 :: rest) := by
  cases xs with
  | nil => exact endsNumber_bracket rest
  | cons x xs => exact endsNumber_comma _

/-- One item, once it has been found. This is the step of the loop; what was read before it is
carried along in `done`, the last item first. -/
theorem itemsLoop_item {fuel : Nat} {first : Bool} {done : List β} {bs rest : Bytes} {x : α}
    (hnext : nextItem first bs = .ok (some (write x ++ rest)))
    (hitem : Reads item (write x) (f x)) (hrest : EndsNumber rest) :
    itemsLoop item (fuel + 1) first done bs = itemsLoop item fuel false (f x :: done) rest := by
  rw [itemsLoop]
  simp only [bind, Except.bind, hnext, hitem rest hrest]

theorem itemsLoop_restItems {xs : List α} (hitem : ∀ x ∈ xs, Reads item (write x) (f x))
    (hbegins : ∀ x ∈ xs, BeginsValue (write x)) {fuel : Nat} (hfuel : xs.length < fuel)
    (done : List β) (rest : Bytes) :
    itemsLoop item fuel false done (restItems write xs ++ ']'.toUInt8 :: rest)
      = .ok (done.reverse ++ xs.map f, rest) := by
  induction xs generalizing fuel done with
  | nil =>
      obtain ⟨fuel, rfl⟩ := Nat.exists_eq_add_one.mpr hfuel
      rw [List.map_nil, List.append_nil]
      rfl
  | cons x xs ih =>
      -- the item behind the comma is read, and the rest is a list of the same form
      obtain ⟨fuel, rfl⟩ : ∃ k, fuel = k + 1 := ⟨fuel - 1, by omega⟩
      rw [restItems_cons, List.cons_append, List.append_assoc,
        itemsLoop_item (nextItem_comma (hbegins x List.mem_cons_self) _)
          (hitem x List.mem_cons_self) (endsNumber_restItems xs rest),
        ih (fun y hy => hitem y (List.mem_cons_of_mem _ hy))
          (fun y hy => hbegins y (List.mem_cons_of_mem _ hy))
          (by rw [List.length_cons] at hfuel; omega)]
      simp only [List.reverse_cons, List.append_assoc, List.map_cons]
      rfl

/-- **Items that were written are read back.** The writer may differ from item to item, and the
reader too in what it makes of one: all that is asked is that each item alone is read back. -/
theorem items_commas {xs : List α} (hitem : ∀ x ∈ xs, Reads item (write x) (f x))
    (hbegins : ∀ x ∈ xs, BeginsValue (write x)) (rest : Bytes) :
    items item (commas (xs.map write) ++ ']'.toUInt8 :: rest) = .ok (xs.map f, rest) := by
  cases xs with
  | nil => rfl
  | cons x xs =>
      -- the first item has no comma before it
      have hcommas : commas ((x :: xs).map write) = write x ++ restItems write xs := commas_cons _ _
      have hfuel : xs.length
          < (write x ++ (restItems write xs ++ ']'.toUInt8 :: rest)).length := by
        have hle := length_le_restItems write xs
        simp only [List.length_append, List.length_cons]
        omega
      unfold items
      rw [hcommas, List.append_assoc,
        itemsLoop_item (nextItem_first (hbegins x List.mem_cons_self) _)
          (hitem x List.mem_cons_self) (endsNumber_restItems xs rest),
        itemsLoop_restItems (fun y hy => hitem y (List.mem_cons_of_mem _ hy))
          (fun y hy => hbegins y (List.mem_cons_of_mem _ hy)) hfuel]
      rfl

theorem writeList_append (xs : List Bytes) (rest : Bytes) :
    writeList xs ++ rest = '['.toUInt8 :: (commas xs ++ ']'.toUInt8 :: rest) := by
  simp [writeList]

theorem writeObject_append (ms : List (String × Bytes)) (rest : Bytes) :
    writeObject ms ++ rest
      = '\x7b'.toUInt8 :: (commas (ms.map writeMember) ++ '\x7d'.toUInt8 :: rest) := by
  simp [writeObject]

theorem opening_bracket (rest : Bytes) : opening ('['.toUInt8 :: rest) = .ok (.list, rest) := rfl

/--
**A list is read back from its written items**, one bracket deeper than they are.

Items have to begin like values: the reader looks for the closing bracket in front of each, and what
begins with one would end the list.
-/
theorem reads_writeList {depth : Nat} {item : Nat → Reader β} {xs : List α}
    (hitem : ∀ x ∈ xs, Reads (item depth) (write x) (f x))
    (hbegins : ∀ x ∈ xs, BeginsValue (write x)) :
    Reads (list (depth + 1) item) (writeList (xs.map write)) (xs.map f) := by
  intro rest _
  unfold list
  rw [writeList_append, opening_bracket]
  simp only [bind, Except.bind]
  exact items_commas hitem hbegins rest

end Items

/-! ## Trees -/

/--
The octets are what a tree is written as, where `depth` brackets may still be opened.

The three facts go together because a list needs all of them of its items: that each is read
back, that it does not look like the end of the list, and that it is part of a text.
-/
structure Written (depth : Nat) (t : Tree) (bs : Bytes) : Prop where
  reads : Reads (tree depth) bs t
  begins : BeginsValue bs
  isText : IsText bs

theorem written_string (depth : Nat) (s : String) :
    Written depth (.scalar (.string s)) (writeString s) where
  reads rest _ := by
    cases depth with
    | zero => simp only [tree, bind, Except.bind, opening_writeString]; rfl
    | succ depth => simp only [tree, bind, Except.bind, opening_writeString]; rfl
  begins := beginsValue_writeString s
  isText := isText_writeString s

theorem written_list {depth : Nat} {α : Type} {xs : List α} {t : α → Tree} {write : α → Bytes}
    (h : ∀ x ∈ xs, Written depth (t x) (write x)) :
    Written (depth + 1) (.list (xs.map t)) (writeList (xs.map write)) where
  reads rest _ := by
    simp only [tree, bind, Except.bind, writeList_append, opening_bracket,
      items_commas (fun x hx => (h x hx).reads) (fun x hx => (h x hx).begins) rest]
    rfl
  begins := beginsValue_writeList _
  isText := isText_writeList fun bs hbs => by
    obtain ⟨x, hx, rfl⟩ := List.mem_map.mp hbs
    exact (h x hx).isText

theorem written_object {depth : Nat} {ms : List (String × (Tree × Bytes))}
    (h : ∀ m ∈ ms, Written depth m.2.1 m.2.2) :
    Written (depth + 1) (.object (ms.map fun m => (m.1, m.2.1)))
      (writeObject (ms.map fun m => (m.1, m.2.2))) where
  reads rest _ := by
    -- an object needs no more of its values than that they are read back
    have hmembers := members_commas (fun m hm => (h m hm).reads) rest
    simp only [tree, bind, Except.bind, writeObject_append, opening_brace, List.map_map]
    rw [show (writeMember ∘ fun m : String × (Tree × Bytes) => (m.1, m.2.2))
      = fun m => writeMember (m.1, m.2.2) from rfl, hmembers]
    rfl
  begins := beginsValue_writeObject _
  isText := isText_writeObject fun m hm => by
    obtain ⟨m', hm', rfl⟩ := List.mem_map.mp hm
    exact (h m' hm').isText

/-! ## Records -/

namespace RecordRule

variable {σ α : Type} {rule : RecordRule σ α} {depth : Nat}

/-- One field of an object, once its key has been found. It must be a field of the rule that has
not been given before: what is unknown is passed over, and what is given twice is refused. -/
theorem readNames_field {fuel : Nat} {first : Bool} {made made' : σ} {bs value rest : Bytes}
    {key : String} {field : FieldRule σ}
    (hkey : nextKey first bs = .ok (some (key, ':'.toUInt8 :: (value ++ rest))))
    (hfield : rule.fields.find? (·.name = key) = some field) (hnew : field.given made = false)
    (hread : field.read depth made (value ++ rest) = .ok (made', rest)) :
    rule.readNames depth (fuel + 1) first made bs = rule.readNames depth fuel false made' rest := by
  rw [readNames]
  simp only [bind, Except.bind, hkey, hfield, hnew, colon_cons, hread]
  rfl

/-- Written fields that take a record in the making from one state to another, in this order. Each
is known to the rule and not given yet, and is read whatever stands behind it. -/
inductive Takes (rule : RecordRule σ α) (depth : Nat) : σ → List (String × Bytes) → σ → Prop where
  | none (made : σ) : Takes rule depth made [] made
  | field {made made₁ made' : σ} {key : String} {value : Bytes} {ms : List (String × Bytes)}
      {field : FieldRule σ} (hfield : rule.fields.find? (·.name = key) = some field)
      (hnew : field.given made = false)
      (hread : ∀ rest, EndsNumber rest → field.read depth made (value ++ rest) = .ok (made₁, rest))
      (hrest : Takes rule depth made₁ ms made') : Takes rule depth made ((key, value) :: ms) made'

/-- Fields behind the first are read one after the other, up to the end of the object. -/
theorem readNames_restMembers {made made' : σ} {ms : List (String × Bytes)}
    (h : rule.Takes depth made ms made') {fuel : Nat} (hfuel : ms.length < fuel) (rest : Bytes) :
    rule.readNames depth fuel false made (restMembers id ms ++ '\x7d'.toUInt8 :: rest)
      = .ok (made', '\x7d'.toUInt8 :: rest) := by
  -- along the fields, while the record in the making grows
  induction h generalizing fuel with
  | none made =>
      obtain ⟨fuel, rfl⟩ := Nat.exists_eq_add_one.mpr hfuel
      rfl
  | @field made made₁ made' key value ms field hfield hnew hread _ ih =>
      obtain ⟨fuel, rfl⟩ : ∃ k, fuel = k + 1 := ⟨fuel - 1, by omega⟩
      rw [restMembers_cons, List.cons_append, List.append_assoc]
      dsimp only [id]
      rw [readNames_field (nextKey_comma key value _) hfield hnew
          (hread _ (endsNumber_restMembers ms rest)),
        ih (by rw [List.length_cons] at hfuel; omega)]

/-- **A record is read back from its written fields**, if they leave nothing missing. What makes
the record complete is asked once, at the end, and not field by field. -/
theorem reads_of_takes {made : σ} {ms : List (String × Bytes)} {x : α}
    (h : rule.Takes depth rule.empty ms made) (hfinish : rule.finish made = .ok x) :
    Reads (rule.reader (depth + 1)) (writeObject ms) x := by
  intro rest _
  have hnames : ∀ bs, bs = commas (ms.map writeMember) ++ '\x7d'.toUInt8 :: rest →
      rule.readNames depth (bs.length + 1) true rule.empty bs
        = .ok (made, '\x7d'.toUInt8 :: rest) := by
    -- again the first field stands apart, since no comma comes before it
    rintro bs rfl
    cases h with
    | none => rfl
    | @field _ _ _ key value ms _ hfield hnew hread hms =>
        have hcommas : commas (((key, value) :: ms).map writeMember)
            = writeMember (key, value) ++ restMembers id ms := commas_cons _ _
        have hfuel : ms.length < (writeMember (key, value)
            ++ (restMembers id ms ++ '\x7d'.toUInt8 :: rest)).length := by
          have hle := length_le_restMembers id ms
          simp only [List.length_append, List.length_cons]
          omega
        rw [hcommas, List.append_assoc, readNames_field (nextKey_first key value _) hfield hnew
          (hread _ (endsNumber_restMembers ms rest)), readNames_restMembers hms hfuel]
  unfold reader
  rw [writeObject_append]
  simp only [bind, Except.bind, opening_brace, hnames _ rfl, hfinish]
  rfl

end RecordRule

/-! ## What holds of all that is read -/

/-- What is read from a whole text was read from its octets; only blanks stood behind it. -/
theorem exists_rest_of_parse {α : Type} {reader : Reader α} {source : Bytes} {x : α}
    (h : parse reader source = .ok x) : ∃ rest, reader source = .ok (x, rest) := by
  unfold parse at h
  split at h
  · cases h
  · rename_i y rest hread
    split at h
    · cases h
      exact ⟨rest, hread⟩
    · cases h

section

variable {α : Type} {P : α → Prop}

/-- What holds of every item that can be read holds of all items that are read, and of those that
were read before. The induction is on the fuel, which goes down with every item. -/
theorem forall_mem_of_itemsLoop {item : Reader α}
    (hitem : ∀ bs x rest, item bs = .ok (x, rest) → P x) {fuel : Nat} {first : Bool}
    {done xs : List α} {bs rest : Bytes} (hdone : ∀ x ∈ done, P x)
    (h : itemsLoop item fuel first done bs = .ok (xs, rest)) : ∀ x ∈ xs, P x := by
  induction fuel generalizing first done bs with
  | zero => cases h
  | succ fuel ih =>
      rw [itemsLoop] at h
      obtain ⟨next, -, h⟩ := exists_of_bind_eq_ok h
      cases next with
      | none =>
          obtain ⟨rest', -, h⟩ := exists_of_bind_eq_ok h
          cases h
          simpa using hdone
      | some bs' =>
          obtain ⟨⟨x, bs''⟩, hx, h⟩ := exists_of_bind_eq_ok h
          refine ih (fun y hy => ?_) h
          rcases List.mem_cons.mp hy with rfl | hy
          · exact hitem bs' y bs'' hx
          · exact hdone y hy

/-- **What holds of every item that can be read holds of a list that is read.** Nothing is known of
the octets here: they may be anything that the reader takes. -/
theorem forall_mem_of_list {depth : Nat} {item : Nat → Reader α}
    (hitem : ∀ depth bs x rest, item depth bs = .ok (x, rest) → P x) {xs : List α}
    {bs rest : Bytes} (h : list depth item bs = .ok (xs, rest)) : ∀ x ∈ xs, P x := by
  unfold list at h
  obtain ⟨⟨found, bs'⟩, -, h⟩ := exists_of_bind_eq_ok h
  cases found with
  | list =>
      cases depth with
      | zero => cases h
      | succ depth => exact forall_mem_of_itemsLoop (hitem depth) (by simp) h
  | scalar s => cases h
  | object => cases h

end

namespace RecordRule

variable {σ α : Type} {rule : RecordRule σ α} {I : σ → Prop} {depth : Nat}

/-- Every field keeps what is known of a record in the making. This is the invariant of reading a
record, whichever of its fields come and in whichever order. -/
def Keeps (rule : RecordRule σ α) (I : σ → Prop) : Prop :=
  ∀ field ∈ rule.fields, ∀ depth made bs made' rest,
    I made → field.read depth made bs = .ok (made', rest) → I made'

/-- Reading fields by position keeps the invariant. -/
theorem of_readPositions (hkeeps : rule.Keeps I) {fields : List (FieldRule σ)}
    (hfields : ∀ field ∈ fields, field ∈ rule.fields) {index : Nat} {made made' : σ}
    {bs rest : Bytes} (hmade : I made)
    (h : rule.readPositions depth index made fields bs = .ok (made', rest)) : I made' := by
  induction fields generalizing index made bs with
  | nil =>
      rw [readPositions] at h
      obtain ⟨rest', -, h⟩ := exists_of_bind_eq_ok h
      cases h
      exact hmade
  | cons field fields ih =>
      rw [readPositions] at h
      obtain ⟨next, -, h⟩ := exists_of_bind_eq_ok h
      have hrest : ∀ field ∈ fields, field ∈ rule.fields := fun g hg =>
        hfields g (List.mem_cons_of_mem _ hg)
      -- a list may end early where the fields left over have defaults
      cases next with
      | none =>
          dsimp only at h
          split at h
          · exact ih hrest hmade h
          · cases h
      | some bs' =>
          obtain ⟨⟨made₁, bs''⟩, hread, h⟩ := exists_of_bind_eq_ok h
          have hmade₁ := hkeeps field (hfields field List.mem_cons_self) depth made bs' made₁ bs''
            hmade hread
          exact ih hrest hmade₁ h

/-- Reading fields by name keeps the invariant. -/
theorem of_readNames (hkeeps : rule.Keeps I) {fuel : Nat} {first : Bool} {made made' : σ}
    {bs rest : Bytes} (hmade : I made)
    (h : rule.readNames depth fuel first made bs = .ok (made', rest)) : I made' := by
  induction fuel generalizing first made bs with
  | zero => cases h
  | succ fuel ih =>
      rw [readNames] at h
      obtain ⟨next, -, h⟩ := exists_of_bind_eq_ok h
      cases next with
      | none =>
          cases h
          exact hmade
      | some found =>
          obtain ⟨key, bs'⟩ := found
          dsimp only at h
          cases hfield : rule.fields.find? (·.name = key) with
          | none =>
              rw [hfield] at h
              -- the value of an unknown field is passed over, and the record stays as it is
              obtain ⟨bs₁, -, h⟩ := exists_of_bind_eq_ok h
              obtain ⟨bs₂, -, h⟩ := exists_of_bind_eq_ok h
              exact ih hmade h
          | some field =>
              rw [hfield] at h
              dsimp only at h
              split at h
              · cases h
              · obtain ⟨bs₁, -, h⟩ := exists_of_bind_eq_ok h
                obtain ⟨⟨made₁, bs₂⟩, hread, h⟩ := exists_of_bind_eq_ok h
                exact ih (hkeeps field (List.mem_of_find?_eq_some hfield) depth made bs₁ made₁ bs₂
                  hmade hread) h

/-- **What every field keeps of a record in the making is known of the record.** A record may be
written as an object or as a list of its fields, and the invariant holds either way. -/
theorem of_reader (hkeeps : rule.Keeps I) (hempty : I rule.empty) {P : α → Prop}
    (hfinish : ∀ made x, I made → rule.finish made = .ok x → P x) {x : α} {bs rest : Bytes}
    (h : rule.reader depth bs = .ok (x, rest)) : P x := by
  unfold reader at h
  obtain ⟨⟨found, bs'⟩, -, h⟩ := exists_of_bind_eq_ok h
  cases found with
  | scalar s => cases h
  | list =>
      cases depth with
      | zero => cases h
      | succ depth =>
          obtain ⟨⟨made, bs''⟩, hread, h⟩ := exists_of_bind_eq_ok h
          dsimp only at h
          cases hmade : rule.finish made with
          | error name =>
              rw [hmade] at h
              cases h
          | ok y =>
              rw [hmade] at h
              cases h
              exact hfinish made x (of_readPositions hkeeps (fun _ hf => hf) hempty hread) hmade
  | object =>
      cases depth with
      | zero => cases h
      | succ depth =>
          obtain ⟨⟨made, bs''⟩, hread, h⟩ := exists_of_bind_eq_ok h
          dsimp only at h
          cases hmade : rule.finish made with
          | error name =>
              rw [hmade] at h
              cases h
          | ok y =>
              rw [hmade] at h
              obtain ⟨rest', -, h⟩ := exists_of_bind_eq_ok h
              cases h
              exact hfinish made x (of_readNames hkeeps hempty hread) hmade

end RecordRule

end DeviceSetup.Json
