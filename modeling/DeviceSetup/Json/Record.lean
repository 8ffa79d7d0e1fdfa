import DeviceSetup.Json.Skip

/-!
# Records in JSON

A record is written as an object of its fields, in any order and with unknown ones
passed over, or as a list of all its fields in order. `σ` is a record in the making.
-/

namespace DeviceSetup.Json

/-- A field: its name, whether a record in the making has it, and how it is read into one. -/
structure FieldRule (σ : Type) where
  name : String
  /-- Whether a list may end before it. -/
  optional : Bool
  given : σ → Bool
  read : Nat → σ → Reader σ

/-- How a record is read. -/
structure RecordRule (σ α : Type) where
  name : String
  fields : List (FieldRule σ)
  empty : σ
  /-- The record, or the name of the first field that is missing. -/
  finish : σ → Except String α

namespace RecordRule

variable {σ α : Type}

/-- Reads the fields of a list in order; `index` of them have been read. -/
def readPositions (rule : RecordRule σ α) (depth : Nat) (index : Nat) (made : σ) :
    List (FieldRule σ) → Reader σ
  | [], bs => return (made, ← closeList bs)
  | field :: fields, bs => do
    match ← nextItem (index = 0) bs with
    | none =>
      if field.optional then rule.readPositions depth (index + 1) made fields bs
      else throw ⟨.wrongLength index rule.name rule.fields.length, afterList bs⟩
    | some bs =>
      let (made, bs) ← field.read depth made bs
      rule.readPositions depth (index + 1) made fields bs

/-- Reads the fields of an object; `fuel` bounds their number. -/
def readNames (rule : RecordRule σ α) (depth : Nat) : Nat → Bool → σ → Reader σ
  | 0, _, _, bs => .error (.on .endInObject bs)
  | fuel + 1, first, made, bs => do
    match ← nextKey first bs with
    | none => return (made, bs)
    | some (key, bs) =>
      match rule.fields.find? (·.name = key) with
      | none => rule.readNames depth fuel false made (← skipValue (← colon bs))
      | some field =>
        if field.given made then throw ⟨.duplicateField key, afterObject bs⟩
        let (made, bs) ← field.read depth made (← colon bs)
        rule.readNames depth fuel false made bs

/-- Reads a record. -/
def reader (rule : RecordRule σ α) (depth : Nat) : Reader α := fun bs => do
  let (found, rest) ← opening bs
  match found, depth with
  | .list, 0 | .object, 0 => throw (.before .tooDeep rest)
  | .list, depth + 1 =>
    let (made, rest) ← rule.readPositions depth 0 rule.empty rule.fields rest
    match rule.finish made with
    | .ok x => return (x, rest)
    | .error name => throw (.before (.missingField name) rest)
  | .object, depth + 1 =>
    let (made, rest) ← rule.readNames depth (rest.length + 1) true rule.empty rest
    match rule.finish made with
    | .ok x => return (x, ← closeObject rest)
    | .error name => throw ⟨.missingField name, afterObject rest⟩
  | found, _ => throw (mismatch found rest s!"struct {rule.name}")

end RecordRule

end DeviceSetup.Json
