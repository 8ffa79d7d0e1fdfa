import Mathlib
import DeviceSetup.Device.Launch
import DeviceSetup.Proofs.HexText
import DeviceSetup.Proofs.TextCuts

/-!
# Device ids and their spellings

The octets of a device id have one row of digits, and many texts that spell it: separators may stand
anywhere, and letters may be of either case. `Respells` says so without reading a text, and a
text is read as an id just when it spells its digits (`parse?_eq_some_iff`).

Reading goes by octets: the digits are counted in octets and cut into pairs by octets, although a
text may hold characters of several. Whatever is not a digit is refused before the first cut, and
digits are an octet each, so every cut falls between characters (`parseByOctets?_eq`).
-/

namespace DeviceSetup.DeviceId

/-! ## Spellings -/

/-- A text spells some digits: with separators anywhere, and each digit in either case. A text may
thus begin or end with a separator, and have several in a row. -/
inductive Respells : List Char → List Char → Prop where
  | done : Respells [] []
  | separator {c : Char} {ds cs : List Char} (hc : c = ':' ∨ c = '-') (h : Respells ds cs) :
      Respells ds (c :: cs)
  | digit {c d : Char} {ds cs : List Char} (hc : c = d ∨ c = d.toUpper) (h : Respells ds cs) :
      Respells (d :: ds) (c :: cs)

theorem isSeparator_iff {c : Char} : isSeparator c = true ↔ c = ':' ∨ c = '-' := by
  unfold isSeparator
  simp

theorem not_isSeparator_of_isDigit {c : Char} (h : Hex.IsDigit c) : isSeparator c = false := by
  have hall : ∀ c ∈ Hex.readDigits, isSeparator c = false :=
    List.all_iff_forall_prop.mp (by decide)
  exact hall c h

/-- A digit is the lower case of itself, or the upper case of that. -/
theorem eq_or_toUpper_of_isDigit {c : Char} (h : Hex.IsDigit c) :
    c = c.toLower ∨ c = c.toLower.toUpper := by
  have hall : ∀ c ∈ Hex.readDigits, c = c.toLower ∨ c = c.toLower.toUpper :=
    List.all_iff_forall_prop.mp (by decide)
  exact hall c h

/-- Either case of a digit that is written is a digit, with that lower case. -/
theorem isDigit_of_eq_or_toUpper {c d : Char} (hd : d ∈ Hex.lowerDigits)
    (hc : c = d ∨ c = d.toUpper) : Hex.IsDigit c ∧ c.toLower = d := by
  have hlower : ∀ d ∈ Hex.lowerDigits, Hex.IsDigit d ∧ d.toLower = d :=
    List.all_iff_forall_prop.mp (by decide)
  have hupper : ∀ d ∈ Hex.lowerDigits, Hex.IsDigit d.toUpper ∧ d.toUpper.toLower = d :=
    List.all_iff_forall_prop.mp (by decide)
  rcases hc with rfl | rfl
  · exact hlower c hd
  · exact hupper d hd

theorem respells_self (ds : List Char) : Respells ds ds := by
  induction ds with
  | nil => exact .done
  | cons d ds ih => exact .digit (.inl rfl) ih

/-- A spelling without its separators is the digits, each in either case. -/
theorem Respells.digits {ds cs : List Char} (h : Respells ds cs)
    (hds : ∀ d ∈ ds, d ∈ Hex.lowerDigits) :
    (∀ c ∈ cs.filter (!isSeparator ·), Hex.IsDigit c)
      ∧ (cs.filter (!isSeparator ·)).map Char.toLower = ds := by
  induction h with
  | done => exact ⟨nofun, rfl⟩
  | @separator c ds cs hc _ ih =>
      -- a separator is dropped before the digits are looked at
      rw [List.filter_cons_of_neg (by simp [isSeparator_iff.mpr hc])]
      exact ih hds
  | @digit c d ds cs hc _ ih =>
      obtain ⟨hall, hdigits⟩ := ih fun d hd => hds d (List.mem_cons_of_mem _ hd)
      obtain ⟨hdigit, hlower⟩ := isDigit_of_eq_or_toUpper (hds d List.mem_cons_self) hc
      rw [List.filter_cons_of_pos (by simp [not_isSeparator_of_isDigit hdigit]), List.map_cons,
        hdigits, hlower]
      exact ⟨List.forall_mem_cons.mpr ⟨hdigit, hall⟩, rfl⟩

/-- What is digits but for separators spells those digits. -/
theorem respells_of_digits {cs : List Char} (h : ∀ c ∈ cs.filter (!isSeparator ·), Hex.IsDigit c) :
    Respells ((cs.filter (!isSeparator ·)).map Char.toLower) cs := by
  induction cs with
  | nil => exact .done
  | cons c cs ih =>
      cases hsep : isSeparator c with
      | true =>
          rw [List.filter_cons_of_neg (by simp [hsep])] at h ⊢
          exact .separator (isSeparator_iff.mp hsep) (ih h)
      | false =>
          rw [List.filter_cons_of_pos (by simp [hsep])] at h ⊢
          obtain ⟨hc, hrest⟩ := List.forall_mem_cons.mp h
          exact .digit (eq_or_toUpper_of_isDigit hc) (ih hrest)

/-! ## Reading -/

theorem parse?_of_length {text : String} (h : (digits text).length = length) :
    parse? text = Hex.decodeDigits? (digits text) := if_pos h

theorem parse?_eq_some_of_digits {text : String} {bs : Bytes} (hbs : bs.length = 6)
    (h : (digits text).map Char.toLower = Hex.digits bs)
    (hall : ∀ c ∈ digits text, Hex.IsDigit c) : parse? text = some bs := by
  have hlength : (digits text).length = length := by
    -- each octet has two digits, so six octets have the length that is asked for
    have hcount := congrArg List.length h
    rw [List.length_map, Hex.length_digits, hbs] at hcount
    exact hcount
  rw [parse?_of_length hlength]
  exact Hex.decodeDigits?_eq_some_iff.mpr ⟨hall, h⟩

theorem digits_of_parse? {text : String} {bs : Bytes} (h : parse? text = some bs) :
    bs.length = 6 ∧ (∀ c ∈ digits text, Hex.IsDigit c)
      ∧ (digits text).map Char.toLower = Hex.digits bs := by
  by_cases hlength : (digits text).length = length
  · rw [parse?_of_length hlength] at h
    obtain ⟨hall, hdigits⟩ := Hex.digits_of_decodeDigits? h
    have hcount := congrArg List.length hdigits
    rw [List.length_map, Hex.length_digits, hlength] at hcount
    have htwelve : length = 12 := rfl
    exact ⟨by omega, hall, hdigits⟩
  · have hnone : parse? text = none := if_neg hlength
    rw [hnone] at h
    cases h

/--
**A text is read as an id just when it spells its digits.**

Separators may stand anywhere between the digits and digits may be of either case. So an id has many
spellings, but every text spells one id at most.
-/
theorem parse?_eq_some_iff {text : String} {bs : Bytes} :
    parse? text = some bs ↔ bs.length = 6 ∧ Respells (Hex.digits bs) text.toList := by
  constructor
  · intro h
    obtain ⟨hbs, hall, hdigits⟩ := digits_of_parse? h
    rw [← hdigits]
    exact ⟨hbs, respells_of_digits hall⟩
  · rintro ⟨hbs, h⟩
    obtain ⟨hall, hdigits⟩ := h.digits fun d hd => Hex.mem_lowerDigits hd
    exact parse?_eq_some_of_digits hbs hdigits hall

/-- **A text is read just when twelve digits are left without its separators.** This names no
octets, so it can be told from the text alone. -/
theorem isSome_parse?_iff {text : String} :
    (parse? text).isSome = true
      ↔ (digits text).length = 12 ∧ ∀ c ∈ digits text, Hex.IsDigit c := by
  constructor
  · intro h
    obtain ⟨bs, hbs⟩ := Option.isSome_iff_exists.mp h
    obtain ⟨hsix, hall, hdigits⟩ := digits_of_parse? hbs
    have hcount := congrArg List.length hdigits
    rw [List.length_map, Hex.length_digits, hsix] at hcount
    exact ⟨hcount, hall⟩
  · rintro ⟨hlength, hall⟩
    -- an even number of digits can be read as octets
    obtain ⟨bs, hbs⟩ := Hex.exists_octets hall (n := 6) hlength
    rw [parse?_of_length hlength, hbs]
    rfl

/-! ## Cut by octets -/

/-- The octets that a text names, its digits counted and cut in pairs by octets. None where a cut
does not fall between characters: cutting a text there is a fault that cannot be caught. -/
def parseByOctets? (text : String) : Option (Option Bytes) :=
  if Utf8.size (digits text) = length ∧ ∀ c ∈ digits text, Hex.IsDigit c then
    ((List.range' 0 6 2).mapM fun i => Utf8.slice? i (i + 2) (digits text)).map
      fun pairs => pairs.mapM Hex.octet?
  else some none

theorem toNat_of_isDigit {c : Char} (h : Hex.IsDigit c) : c.toNat < 0x80 := by
  have hall : ∀ c ∈ Hex.readDigits, c.toNat < 0x80 := List.all_iff_forall_prop.mp (by decide)
  exact hall c h

/-- Two octets at a time, ASCII is cut two characters at a time. -/
theorem mapM_slice? {ds : List Char} (hascii : ∀ c ∈ ds, c.toNat < 0x80) {n : Nat}
    (hlength : ds.length = 2 * n) (front : List Char) :
    ((List.range' (Utf8.size front) n 2).mapM fun i => Utf8.slice? i (i + 2) (front ++ ds))
      = some (Hex.pairs ds) := by
  -- each pair moves over to what is in front
  induction n generalizing ds front with
  | zero =>
      obtain rfl := List.length_eq_zero_iff.mp hlength
      rfl
  | succ n ih =>
      match ds, hlength with
      | high :: low :: rest, hlength =>
          have hrest : ∀ c ∈ rest, c.toNat < 0x80 := fun c hc =>
            hascii c (List.mem_cons_of_mem _ (List.mem_cons_of_mem _ hc))
          have hpair : Utf8.size [high, low] = 2 := by
            refine Utf8.size_ascii fun c hc => hascii c ?_
            exact List.mem_append_left rest hc
          -- the pair is cut off behind what is in front, and then it is in front itself
          have hslice := Utf8.slice?_append front [high, low] rest
          have hnext := ih hrest (by simp only [List.length_cons] at hlength; omega)
            (front ++ [high, low])
          rw [Utf8.size_append, hpair, List.append_assoc] at hnext
          rw [hpair] at hslice
          rw [List.range'_succ, List.mapM_cons]
          simp only [List.cons_append, List.nil_append] at hslice hnext
          rw [hslice, hnext]
          rfl

/--
**No cut falls inside a character**, and what is read is the same.

A cut inside a character would be an error that no caller expects. Texts with characters of
several octets never come to a cut, since they are refused for what is no digit in them.
-/
theorem parseByOctets?_eq (text : String) : parseByOctets? text = some (parse? text) := by
  by_cases hall : ∀ c ∈ digits text, Hex.IsDigit c
  · have hascii : ∀ c ∈ digits text, c.toNat < 0x80 := fun c hc => toNat_of_isDigit (hall c hc)
    unfold parseByOctets?
    rw [Utf8.size_ascii hascii]
    by_cases hlength : (digits text).length = length
    · have hslices := mapM_slice? hascii (n := 6) hlength []
      rw [if_pos ⟨hlength, hall⟩, parse?_of_length hlength,
        Hex.decodeDigits?_eq_mapM (n := 6) hlength]
      exact congrArg (Option.map fun pairs => pairs.mapM Hex.octet?) hslices
    · have hnone : parse? text = none := if_neg hlength
      rw [if_neg fun h => hlength h.1, hnone]
  · -- with anything but digits the text is refused before it is cut
    have hnone : parse? text = none := by
      cases hparse : parse? text with
      | none => rfl
      | some bs => exact absurd (digits_of_parse? hparse).2.1 hall
    have hrefused : parseByOctets? text = some none := if_neg fun h => hall h.2
    rw [hrefused, hnone]

/--
**A device id is twelve digits, whatever separates them.**

A text is read as an id just when its characters other than colons and hyphens are twelve
hexadecimal digits. The id then has six octets, and their digits are those of the text in lower
case. The other way round, the digits of any six octets are read back, and so is every
spelling of them, with separators put in anywhere and letters of either case. All this is found by
cutting the text at every second octet, and no cut ever falls inside a character.
-/
theorem device_id_is_twelve_digits (text : String) :
    ((parse? text).isSome = true
        ↔ (digits text).length = 12 ∧ ∀ c ∈ digits text, Hex.IsDigit c)
      ∧ (∀ bs, parse? text = some bs →
          bs.length = 6 ∧ Hex.encode bs = String.ofList ((digits text).map Char.toLower))
      ∧ (∀ bs : Bytes, bs.length = 6 → parse? (Hex.encode bs) = some bs
          ∧ (Respells (Hex.digits bs) text.toList → parse? text = some bs))
      ∧ parseByOctets? text = some (parse? text) := by
  refine ⟨isSome_parse?_iff, ?_, ?_, parseByOctets?_eq text⟩
  · intro bs h
    obtain ⟨hbs, -, hdigits⟩ := digits_of_parse? h
    rw [hdigits]
    exact ⟨hbs, rfl⟩
  · intro bs hbs
    refine ⟨?_, fun h => parse?_eq_some_iff.mpr ⟨hbs, h⟩⟩
    rw [parse?_eq_some_iff, Hex.encode, String.toList_ofList]
    exact ⟨hbs, respells_self (Hex.digits bs)⟩

/-- Separators in every place, two of them in a row, and letters of both cases. -/
def spelledId : String := ":A0b1--C2-d3:E4:f5-"

/-- As many octets as an id has digits, the last two of them one character. -/
def accentedId : String := "a0b1c2d3e4é"

theorem device_id_is_twelve_digits_spelled :
    (Respells (Hex.digits [0xA0, 0xB1, 0xC2, 0xD3, 0xE4, 0xF5]) spelledId.toList
      ∧ parse? spelledId = some [0xA0, 0xB1, 0xC2, 0xD3, 0xE4, 0xF5]
      ∧ Hex.encode [0xA0, 0xB1, 0xC2, 0xD3, 0xE4, 0xF5] = "a0b1c2d3e4f5")
    ∧ Utf8.size (digits accentedId) = 12 ∧ parse? accentedId = none
      ∧ parseByOctets? accentedId = some none := by
  have hspells : Respells (Hex.digits [0xA0, 0xB1, 0xC2, 0xD3, 0xE4, 0xF5]) spelledId.toList :=
    (parse?_eq_some_iff.mp (by decide)).2
  obtain ⟨-, hencode, hback, -⟩ := device_id_is_twelve_digits spelledId
  have hparse := (hback [0xA0, 0xB1, 0xC2, 0xD3, 0xE4, 0xF5] rfl).2 hspells
  obtain ⟨hsome, -, -, hoctets⟩ := device_id_is_twelve_digits accentedId
  have hnone : parse? accentedId = none := by
    refine Option.not_isSome_iff_eq_none.mp fun h => ?_
    have hlength : (digits accentedId).length = 11 := by decide
    have htwelve := (hsome.mp h).1
    omega
  rw [hnone] at hoctets
  exact ⟨⟨hspells, hparse, (hencode _ hparse).2.trans (by decide)⟩, by decide, hnone, hoctets⟩

end DeviceSetup.DeviceId
