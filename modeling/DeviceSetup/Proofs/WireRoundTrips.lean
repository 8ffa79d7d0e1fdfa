import Mathlib
import DeviceSetup.Proofs.HexText
import DeviceSetup.Proofs.JsonRoundTrip
import DeviceSetup.Proofs.ShortestForms

/-!
# What comes back over the wire

A payload that is written in a format and read again comes back as it was, but for the
octets, which JSON has no form for: they come back as the text of their hexadecimal digits.
So the two formats agree on a payload exactly if it holds no octets, and the octets can
still be told from the text.
-/

namespace DeviceSetup

/-! ## Payloads with octets as text -/

namespace Payload

/-- Each value is changed by itself, and stays where it was. -/
theorem get?_hexed (p : Payload) (setting name : String) :
    p.hexed.get? setting name = (p.get? setting name).map Value.hexed := by
  rw [get?_eq, get?_eq]
  unfold setting? hexed
  rw [Dict.get?_map]
  cases p.settings.get? setting with
  | none => rfl
  | some values => exact Dict.get?_map Value.hexed values name

/-- **Only octets are changed, and they always are.** A text is never octets, so the change shows
in the type of the value. -/
theorem hexed_eq_self_iff {p : Payload} :
    p.hexed = p ↔ ∀ setting name bs, p.get? setting name ≠ some (.bytes bs) := by
  refine ⟨fun h setting name bs hbytes => ?_, hexed_eq_self⟩
  -- the octets would be found as text
  have hget := get?_hexed p setting name
  rw [h, hbytes] at hget
  cases hget

end Payload

/-! ## Both formats -/

namespace WireFormat

/-- The payload that is read where `p` was written. With it what is proved about coming back need
not tell the formats apart. -/
def readBack (format : WireFormat) (p : Payload) : Payload :=
  match format with
  | .json => p.hexed
  | .messagePack => p

/--
**What is read where a payload was written**, provided that its lengths fit MessagePack.

No such condition is needed for JSON, which has no lengths in it.
-/
theorem decode_encode_readBack {p : Payload} (format : WireFormat)
    (hsize : format = .messagePack → p.Packable) :
    format.decode (format.encode p) = .ok (format.readBack p) := by
  cases format with
  | json =>
      unfold decode encode
      dsimp only
      rw [Payload.ofJson_toJson]
      rfl
  | messagePack =>
      have hread := messagePack_append (hsize rfl) []
      rwa [List.append_nil] at hread

/-- A value comes back as it was, or it was octets and comes back as text. -/
theorem get?_readBack (format : WireFormat) (p : Payload) (setting name : String) :
    (format.readBack p).get? setting name = p.get? setting name ∨
      ∃ bs, p.get? setting name = some (.bytes bs) ∧
        (format.readBack p).get? setting name = some (.text (Hex.encode bs)) := by
  cases format with
  | messagePack => exact .inl rfl
  | json =>
      have hget : (WireFormat.json.readBack p).get? setting name
          = (p.get? setting name).map Value.hexed := Payload.get?_hexed p setting name
      rw [hget]
      cases p.get? setting name with
      | none => exact .inl rfl
      | some x =>
          cases x with
          | bytes bs => exact .inr ⟨bs, rfl, rfl⟩
          | text s => exact .inl rfl
          | bool b => exact .inl rfl
          | int n => exact .inl rfl

end WireFormat

namespace Payload

/--
**A payload survives JSON up to its octets**, which come back as lower-case hexadecimal text; so
JSON and MessagePack give back the same just for the payloads without octets.

The octets are not lost, but whoever reads them has to know that the text stands for octets:
nothing in the JSON says so.
-/
theorem json_round_trip (p : Payload) :
    WireFormat.json.decode (WireFormat.json.encode p) = .ok p.hexed ∧
    (∀ setting name, p.hexed.get? setting name = (p.get? setting name).map Value.hexed) ∧
    (∀ bs, Hex.decode? (Hex.encode bs) = some bs ∧
      ∀ c ∈ (Hex.encode bs).toList, c ∈ Hex.lowerDigits) ∧
    (p.Packable → (WireFormat.json.decode (WireFormat.json.encode p)
        = WireFormat.messagePack.decode (WireFormat.messagePack.encode p) ↔
      ∀ setting name bs, p.get? setting name ≠ some (.bytes bs))) := by
  have hjson := WireFormat.decode_encode_readBack (p := p) .json nofun
  refine ⟨hjson, get?_hexed p,
    fun bs => ⟨Hex.decode?_encode bs, fun c hc => Hex.mem_lowerDigits_of_encode hc⟩,
    fun hpackable => ?_⟩
  -- MessagePack gives back the payload itself, so the question is what JSON changed
  have hpack := WireFormat.decode_encode_readBack .messagePack fun _ => hpackable
  rw [hjson, hpack, Except.ok.injEq]
  exact hexed_eq_self_iff

/-- Quotes, backslashes, controls and signs beyond 16 bits, an integer at the limit, and octets. -/
def escapesPayload : Payload :=
  .ofEntries [("a\"b\\", [("id", .bytes [0, 171]), ("n", .int (-9223372036854775808)),
    ("t", .text "\u0000\n\u001f😀")])]

theorem json_round_trip_escapes :
    escapesPayload.Packable ∧
    WireFormat.json.decode (WireFormat.json.encode escapesPayload)
      = .ok (.ofEntries [("a\"b\\", [("id", .text "00ab"), ("n", .int (-9223372036854775808)),
          ("t", .text "\u0000\n\u001f😀")])]) ∧
    WireFormat.json.decode (WireFormat.json.encode escapesPayload)
      ≠ WireFormat.messagePack.decode (WireFormat.messagePack.encode escapesPayload) := by
  have hpackable : escapesPayload.Packable := packable_of_length_lt (by decide)
  obtain ⟨hjson, -, -, hagree⟩ := json_round_trip escapesPayload
  have hid : escapesPayload.get? "a\"b\\" "id" = some (.bytes [0, 171]) := by decide
  refine ⟨hpackable, hjson.trans (congrArg Except.ok (by decide)), fun heq => ?_⟩
  exact (hagree hpackable).mp heq _ _ _ hid

end Payload

end DeviceSetup
