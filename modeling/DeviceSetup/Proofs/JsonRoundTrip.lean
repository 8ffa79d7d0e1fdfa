import Mathlib
import DeviceSetup.Payload.Json
import DeviceSetup.Proofs.JsonLexemes
import DeviceSetup.Proofs.Lookup

/-!
# Payloads survive JSON

A reader reads what was written with anything behind it that does not go on with a number.
This is kept from values to objects: the members of an object are read one after the other,
each up to the comma or the bracket behind it. JSON has no octets, so a payload comes back
with its octets as hexadecimal text, and unchanged if it has none.
-/

namespace DeviceSetup.Json

/-- A reader takes exactly these octets off the front, for this value. It is stated with anything
behind the octets, so that values can be put together to objects. -/
def Reads {α : Type} (reader : Reader α) (bs : Bytes) (x : α) : Prop :=
  ∀ rest, EndsNumber rest → reader (bs ++ rest) = .ok (x, rest)

theorem skipBlank_cons {b : UInt8} (h : isBlank b = false) (rest : Bytes) :
    skipBlank (b :: rest) = b :: rest := by
  simp [skipBlank, h]

/-! ## Scalars -/

theorem opening_writeString (s : String) (rest : Bytes) :
    opening (writeString s ++ rest) = .ok (.scalar (.string s), rest) := by
  have hshape : writeString s ++ rest
      = '"'.toUInt8 :: (s.toList.flatMap escapeChar ++ '"'.toUInt8 :: rest) := by
    simp [writeString]
  unfold opening
  rw [hshape, skipBlank_cons rfl]
  dsimp only
  rw [if_pos rfl, string_writeString]
  rfl

theorem opening_writeBool (b : Bool) (rest : Bytes) :
    opening (writeBool b ++ rest) = .ok (.scalar (.bool b), rest) := by
  cases b <;> rfl

theorem opening_brace (rest : Bytes) : opening ('\x7b'.toUInt8 :: rest) = .ok (.object, rest) := rfl

/-- What begins with a digit is a number. -/
theorem opening_digitOctets (n : Nat) (rest : Bytes) :
    opening (digitOctets n ++ rest)
      = (number false (digitOctets n ++ rest)).map fun p => (.scalar (.number p.1), p.2) := by
  have hne : digitOctets n ≠ [] := by
    rw [digitOctets_eq]
    split <;> simp
  obtain ⟨b, ds, heq⟩ := List.exists_cons_of_ne_nil hne
  have hb : isDigit b = true := isDigit_of_mem b (heq ▸ List.mem_cons_self)
  -- a digit is none of the marks that are tried first
  have hmarks : ∀ b : UInt8, isDigit b = true → isBlank b = false ∧ b ≠ '"'.toUInt8 ∧
      b ≠ '['.toUInt8 ∧ b ≠ '\x7b'.toUInt8 ∧ b ≠ '-'.toUInt8 := by
    decide +kernel
  obtain ⟨hblank, hquote, hlist, hobject, hminus⟩ := hmarks b hb
  unfold opening
  rw [heq, List.cons_append, skipBlank_cons hblank]
  dsimp only
  rw [if_neg hquote, if_neg hlist, if_neg hobject, if_neg hminus, if_pos hb]

theorem opening_minusOctet (rest : Bytes) :
    opening ('-'.toUInt8 :: rest)
      = (number true rest).map fun p => (.scalar (.number p.1), p.2) := by
  unfold opening
  rw [skipBlank_cons rfl]
  dsimp only
  rw [if_neg (by decide), if_neg (by decide), if_neg (by decide), if_pos rfl]

theorem opening_digits {n : Nat} (h : n ≤ maxWord) {rest : Bytes} (hrest : EndsNumber rest) :
    opening (digitOctets n ++ rest) = .ok (.scalar (.number (.natural n)), rest) := by
  rw [opening_digitOctets, number_natural h hrest]
  rfl

theorem opening_minus {n : Nat} (hpos : 0 < n) (h : n ≤ 2 ^ 63) {rest : Bytes}
    (hrest : EndsNumber rest) :
    opening ('-'.toUInt8 :: digitOctets n ++ rest)
      = .ok (.scalar (.number (.negative (-(n : Int)))), rest) := by
  rw [List.cons_append, opening_minusOctet, number_negative hpos h hrest]
  rfl

/-! ## Objects -/

theorem commas_cons (x : Bytes) (xs : List Bytes) :
    commas (x :: xs) = x ++ xs.flatMap fun y => ','.toUInt8 :: y := by
  induction xs generalizing x with
  | nil => simp [commas]
  | cons y xs ih => rw [commas, ih, List.flatMap_cons, List.cons_append]

theorem endsNumber_comma (rest : Bytes) : EndsNumber (','.toUInt8 :: rest) := by
  refine ⟨?_, ?_, ?_, ?_⟩ <;> decide

theorem endsNumber_brace (rest : Bytes) : EndsNumber ('\x7d'.toUInt8 :: rest) := by
  refine ⟨?_, ?_, ?_, ?_⟩ <;> decide

theorem writeMember_append (key : String) (bs rest : Bytes) :
    writeMember (key, bs) ++ rest = '"'.toUInt8 ::
      (key.toList.flatMap escapeChar ++ '"'.toUInt8 :: (':'.toUInt8 :: (bs ++ rest))) := by
  simp [writeMember, writeString]

theorem nextKey_first (key : String) (bs rest : Bytes) :
    nextKey true (writeMember (key, bs) ++ rest)
      = .ok (some (key, ':'.toUInt8 :: (bs ++ rest))) := by
  unfold nextKey
  rw [writeMember_append, skipBlank_cons rfl]
  dsimp only
  rw [if_neg (by decide), if_pos rfl, if_pos rfl, string_writeString]
  rfl

theorem nextKey_comma (key : String) (bs rest : Bytes) :
    nextKey false (','.toUInt8 :: (writeMember (key, bs) ++ rest))
      = .ok (some (key, ':'.toUInt8 :: (bs ++ rest))) := by
  unfold nextKey
  rw [writeMember_append, skipBlank_cons rfl]
  dsimp only
  rw [if_neg (by decide), if_neg (by decide), if_pos rfl, skipBlank_cons rfl]
  dsimp only
  rw [if_pos rfl, string_writeString]
  rfl

theorem colon_cons (rest : Bytes) : colon (':'.toUInt8 :: rest) = .ok rest := rfl

section Members

variable {α β : Type} {value : Reader β} {write : α → Bytes} {f : α → β}

/-- The members behind the first, each with its comma. As with the items of a list, the first one is
read apart. -/
def restMembers (write : α → Bytes) (ms : List (String × α)) : Bytes :=
  (ms.map fun m => writeMember (m.1, write m.2)).flatMap fun y => ','.toUInt8 :: y

theorem restMembers_cons (m : String × α) (ms : List (String × α)) :
    restMembers write (m :: ms)
      = ','.toUInt8 :: (writeMember (m.1, write m.2) ++ restMembers write ms) := rfl

theorem length_le_restMembers (write : α → Bytes) (ms : List (String × α)) :
    ms.length ≤ (restMembers write ms).length := by
  induction ms with
  | nil => exact Nat.zero_le _
  | cons m ms ih =>
      rw [restMembers_cons, List.length_cons, List.length_cons, List.length_append]
      omega

theorem endsNumber_restMembers (ms : List (String × α)) (rest : Bytes) :
    EndsNumber (restMembers write ms ++ '\x7d'.toUInt8 :: rest) := by
  cases ms with
  | nil => exact endsNumber_brace rest
  | cons m ms => exact endsNumber_comma _

/-- One member, once its key has been found. -/
theorem membersLoop_member {fuel : Nat} {first : Bool} {done : List (String × β)} {bs : Bytes}
    {key : String} {x : α} {rest : Bytes}
    (hkey : nextKey first bs = .ok (some (key, ':'.toUInt8 :: (write x ++ rest))))
    (hvalue : Reads value (write x) (f x)) (hrest : EndsNumber rest) :
    membersLoop value (fuel + 1) first done bs
      = membersLoop value fuel false ((key, f x) :: done) rest := by
  rw [membersLoop]
  simp only [bind, Except.bind, hkey, colon_cons, hvalue rest hrest]

theorem membersLoop_restMembers {ms : List (String × α)}
    (hvalue : ∀ m ∈ ms, Reads value (write m.2) (f m.2)) {fuel : Nat} (hfuel : ms.length < fuel)
    (done : List (String × β)) (rest : Bytes) :
    membersLoop value fuel false done (restMembers write ms ++ '\x7d'.toUInt8 :: rest)
      = .ok (done.reverse ++ ms.map (Prod.map id f), rest) := by
  induction ms generalizing fuel done with
  | nil =>
      obtain ⟨fuel, rfl⟩ := Nat.exists_eq_add_one.mpr hfuel
      rw [List.map_nil, List.append_nil]
      rfl
  | cons m ms ih =>
      -- one member is read, and the others are the members behind it
      obtain ⟨fuel, rfl⟩ : ∃ k, fuel = k + 1 := ⟨fuel - 1, by omega⟩
      rw [restMembers_cons, List.cons_append, List.append_assoc,
        membersLoop_member (nextKey_comma _ _ _) (hvalue m List.mem_cons_self)
          (endsNumber_restMembers ms rest),
        ih (fun m' hm' => hvalue m' (List.mem_cons_of_mem _ hm'))
          (by rw [List.length_cons] at hfuel; omega)]
      simp only [List.reverse_cons, List.append_assoc, List.map_cons]
      rfl

/--
**Members that were written are read back**, in order and with repeated names.

The loop has fuel for as many members as there are octets, so it never runs out here.
-/
theorem members_commas {ms : List (String × α)}
    (hvalue : ∀ m ∈ ms, Reads value (write m.2) (f m.2)) (rest : Bytes) :
    members value (commas (ms.map fun m => writeMember (m.1, write m.2)) ++ '\x7d'.toUInt8 :: rest)
      = .ok (ms.map (Prod.map id f), rest) := by
  cases ms with
  | nil => rfl
  | cons m ms =>
      have hcommas : commas ((m :: ms).map fun m => writeMember (m.1, write m.2))
          = writeMember (m.1, write m.2) ++ restMembers write ms := commas_cons _ _
      -- every member takes up octets, so there is fuel for all of them
      have hfuel : ms.length < (writeMember (m.1, write m.2)
          ++ (restMembers write ms ++ '\x7d'.toUInt8 :: rest)).length := by
        have hle := length_le_restMembers write ms
        simp only [List.length_append, List.length_cons]
        omega
      unfold members
      rw [hcommas, List.append_assoc,
        membersLoop_member (nextKey_first _ _ _) (hvalue m List.mem_cons_self)
          (endsNumber_restMembers ms rest),
        membersLoop_restMembers (fun m' hm' => hvalue m' (List.mem_cons_of_mem _ hm')) hfuel]
      rfl

theorem reads_writeObject {depth : Nat} {value : Nat → Reader β} {ms : List (String × α)}
    (hvalue : ∀ m ∈ ms, Reads (value depth) (write m.2) (f m.2)) :
    Reads (object (depth + 1) value) (writeObject (ms.map fun m => (m.1, write m.2)))
      (ms.map (Prod.map id f)) := by
  intro rest _
  have hshape : writeObject (ms.map fun m => (m.1, write m.2)) ++ rest = '\x7b'.toUInt8 ::
      (commas (ms.map fun m => writeMember (m.1, write m.2)) ++ '\x7d'.toUInt8 :: rest) := by
    simp [writeObject, Function.comp_def]
  unfold object
  rw [hshape, opening_brace]
  simp only [bind, Except.bind]
  exact members_commas hvalue rest

end Members

theorem parse_of_reads {α : Type} {reader : Reader α} {bs : Bytes} {x : α}
    (h : Reads reader bs x) : parse reader bs = .ok x := by
  have hread := h [] trivial
  rw [List.append_nil] at hread
  unfold parse
  rw [hread]
  rfl

end DeviceSetup.Json

namespace DeviceSetup

/-! ## Values and payloads -/

/-- The value with octets as hexadecimal text. This is all that JSON loses of a value. -/
def Value.hexed : Value → Value
  | .bytes bs => .text (Hex.encode bs)
  | x => x

/-- The payload with octets as hexadecimal text. -/
def Payload.hexed (p : Payload) : Payload :=
  ⟨p.settings.map fun values => values.map Value.hexed⟩

namespace Value

theorem reader_of_opening {depth : Nat} {bs rest : Bytes} {s : Json.Scalar} {x : Value}
    (hopening : Json.opening bs = .ok (.scalar s, rest)) (hvalue : ofScalar s = .ok x) :
    reader depth bs = .ok (x, rest) := by
  unfold reader
  simp only [bind, Except.bind, hopening, hvalue]
  rfl

theorem reads_int (depth : Nat) (n : Int64) :
    Json.Reads (reader depth) (Value.int n).toJson (.int n) := by
  intro rest hrest
  -- the sign decides which of the two kinds of number is read
  have hlo := n.le_toInt
  have hhi := n.toInt_lt
  have hback : Int64.ofInt n.toInt = n := Int64.ofInt_toInt n
  unfold toJson Json.writeInt
  dsimp only
  generalize n.toInt = k at hlo hhi hback
  cases k with
  | ofNat k =>
      have hlt : k < 2 ^ 63 := Int.ofNat_lt.mp hhi
      have hfits : k ≤ Json.maxWord := by
        unfold Json.maxWord
        omega
      refine reader_of_opening (Json.opening_digits hfits hrest) ?_
      unfold ofScalar ofNumber
      dsimp only
      rw [if_pos hlt]
      exact congrArg (fun m => Except.ok (Value.int m)) hback
  | negSucc k =>
      refine reader_of_opening (Json.opening_minus (Nat.succ_pos k) (by omega) hrest) ?_
      exact congrArg (fun m => Except.ok (Value.int m)) hback

/-- A value is read back from JSON, its octets as text. -/
theorem reads_toJson (depth : Nat) (x : Value) : Json.Reads (reader depth) x.toJson x.hexed := by
  cases x with
  | text s => exact fun rest _ => reader_of_opening (Json.opening_writeString s rest) rfl
  | bool b => exact fun rest _ => reader_of_opening (Json.opening_writeBool b rest) rfl
  | int n => exact reads_int depth n
  | bytes bs => exact fun rest _ => reader_of_opening (Json.opening_writeString _ rest) rfl

end Value

namespace Payload

theorem reads_toJson (p : Payload) : Json.Reads reader p.toJson p.hexed := by
  intro rest hrest
  -- values two levels deep, objects of them one level deep, and the object of those
  have hvalues : ∀ m ∈ p.settings.entries,
      Json.Reads (Json.object 126 Value.reader) (valuesToJson m.2)
        (m.2.entries.map (Prod.map id Value.hexed)) :=
    fun m _ => Json.reads_writeObject fun e _ => Value.reads_toJson 125 e.2
  have hobject : Json.Reads (Json.object 127 fun depth => Json.object depth Value.reader) p.toJson
      (p.settings.entries.map
        (Prod.map id fun values => values.entries.map (Prod.map id Value.hexed))) :=
    Json.reads_writeObject hvalues
  have hentries : p.settings.entries.map
      (Prod.map id fun values : Dict Value => values.entries.map (Prod.map id Value.hexed))
        = p.hexed.settings.entries.map fun e => (e.1, e.2.entries) := by
    rw [show p.hexed.settings.entries
      = p.settings.entries.map (Prod.map id fun values => values.map Value.hexed) from rfl,
      List.map_map]
    rfl
  unfold reader
  rw [show Json.maxDepth = 127 from rfl]
  simp only [bind, Except.bind, hobject rest hrest, hentries, ofEntries_entries]
  rfl

/--
**A payload is read back from JSON, its octets as text.**

Names come back in the order of the dictionary, which is the order they were written in.
-/
theorem ofJson_toJson (p : Payload) : ofJson p.toJson = .ok p.hexed :=
  Json.parse_of_reads (reads_toJson p)

/-- No octets, no change. -/
theorem hexed_eq_self {p : Payload}
    (h : ∀ setting name bs, p.get? setting name ≠ some (.bytes bs)) : p.hexed = p := by
  have hvalue : ∀ x : Value, (∀ bs, x ≠ .bytes bs) → x.hexed = x := by
    intro x hx
    cases x with
    | bytes bs => exact absurd rfl (hx bs)
    | text s => rfl
    | bool b => rfl
    | int n => rfl
  unfold hexed
  rw [Dict.map_eq_self fun s hs => Dict.map_eq_self fun e he => hvalue e.2 fun bs hbytes =>
    h s.1 e.1 bs (hbytes ▸ get?_of_mem hs he)]

end Payload

end DeviceSetup
