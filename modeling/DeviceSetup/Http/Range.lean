import DeviceSetup.Text.Basic
import DeviceSetup.Text.Decimal
import DeviceSetup.Text.Utf8

/-!
# Parts of a file

A request may ask for a part of a file by the first and last octet of it, by the first alone,
or by a number of octets at the end. Of several parts only the first that lies in the file is
given. A list with a malformed item, or with no part in the file, cannot be answered.
-/

namespace DeviceSetup.Http

/-- Some octets of a file, one after the other. -/
structure Span where
  start : Nat
  length : Nat
  deriving Repr, DecidableEq

namespace Span

/-- The whole of a file. -/
def whole (size : Nat) : Span := ⟨0, size⟩

/-- The octets of a span. -/
def take (s : Span) (bs : Bytes) : Bytes :=
  (bs.drop s.start).take s.length

/-- What an item of a list of parts comes to. -/
inductive Item where
  | part (s : Span)
  | outside
  | malformed
  deriving Repr, DecidableEq

/-- The part that an item asks for. -/
def Item.part? : Item → Option Span
  | .part s => some s
  | .outside | .malformed => none

/-- Reads a position or a count: digits alone, for a number of 64 bits. -/
def number? (cs : List Char) : Option Nat :=
  if cs.all Decimal.isDigit then (Decimal.readNat (2 ^ 64 - 1) cs).toOption else none

/-- The last so many octets. -/
def ofCount (size : Nat) (count : List Char) : Item :=
  match number? count with
  | none => .malformed
  | some 0 => .outside
  | some n => .part ⟨size - n, min n size⟩

/-- The octets from one position to another, or to the end. -/
def ofPositions (size : Nat) (first last : List Char) : Item :=
  match number? first with
  | none => .malformed
  | some start =>
    if size ≤ start then .outside
    else if last = [] then .part ⟨start, size - start⟩
    else
      match number? last with
      | none => .malformed
      | some stop =>
        if stop < start then .malformed else .part ⟨start, min stop (size - 1) - start + 1⟩

/-- Reads an item. -/
def item (size : Nat) (cs : List Char) : Item :=
  match cs.span (· ≠ '-') with
  | (_, []) => .malformed
  | (first, _ :: last) =>
    let first := Text.trimChars first
    let last := Text.trimChars last
    if first = [] then ofCount size last else ofPositions size first last

/-- The items of a list of parts; blank ones count for nothing. -/
def items (size : Nat) (cs : List Char) : List Item :=
  (((Text.splitChars ',' cs).map Text.trimChars).filter (· ≠ [])).map (item size)

/-- The part that items ask for, if there is one. -/
def ofItems (items : List Item) : Option Span :=
  if .malformed ∈ items then none else items.findSome? Item.part?

/-- What a list of parts starts with, in whatever case. -/
def unit : String := "bytes="

/-- The part of a file of some size that a header asks for, if there is one. -/
def ofHeader (size : Nat) (value : String) : Option Span :=
  let (start, list) := value.toList.splitAt unit.length
  if Text.lowerAscii (String.ofList start) = unit then ofItems (items size list) else none

end Span

end DeviceSetup.Http
