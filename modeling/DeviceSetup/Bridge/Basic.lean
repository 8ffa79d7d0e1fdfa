import DeviceSetup.App.Update
import DeviceSetup.Bridge.View

/-!
# The bridge

The app behind octets. Every effect takes a slot, and its id is the number of that slot.
An answer frees its slot, whether or not it can be read; the slot freed last is the
first to be taken again.
-/

namespace DeviceSetup

/-- What waits in a slot. -/
inductive Waiting where
  /-- A rendering, to which there is no answer. -/
  | nothing
  | fetch (purpose : Purpose)
  | timer (kind : TimerKind)
  deriving Repr, DecidableEq

/-- What an effect waits for. -/
def Effect.waiting : Effect → Waiting
  | .render => .nothing
  | .fetch purpose _ => .fetch purpose
  | .timer op => .timer op.kind

/-- The slots that are taken, the free ones with the last freed first, and the number of slots. -/
structure Slots where
  taken : List (Nat × Waiting)
  free : List Nat
  size : Nat
  deriving Repr, DecidableEq

namespace Slots

/-- No slots. -/
def empty : Slots := ⟨[], [], 0⟩

/-- Takes a slot. -/
def take (s : Slots) (w : Waiting) : Nat × Slots :=
  match s.free with
  | id :: free => (id, { s with taken := (id, w) :: s.taken, free })
  | [] => (s.size, { s with taken := (s.size, w) :: s.taken, size := s.size + 1 })

/-- What waits in a slot. -/
def get? (s : Slots) (id : Nat) : Option Waiting :=
  (s.taken.find? (·.1 = id)).map Prod.snd

/-- Frees a slot. -/
def release (s : Slots) (id : Nat) : Slots :=
  { s with taken := s.taken.filter (·.1 ≠ id), free := id :: s.free }

end Slots

/-- Why the bridge refuses what the shell sends. -/
inductive BridgeError where
  | badEvent (f : Binary.Fault)
  | badAnswer (f : Binary.Fault)
  /-- There is no answer to a rendering. -/
  | notExpected
  | notFound (id : Nat)
  deriving Repr, DecidableEq

/-- The wording of an error. -/
def BridgeError.message : BridgeError → String
  | .badEvent f => s!"could not deserialize event: {f.message}"
  | .badAnswer f => s!"could not deserialize provided effect output: {f.message}"
  | .notExpected =>
    "could not process response: Attempted to resolve a request that is not expected to be resolved."
  | .notFound id => s!"could not process response: Request with EffectId({id}) not found."

/-- The app and its slots. -/
structure Bridge where
  model : Model
  slots : Slots
  deriving Repr, DecidableEq

namespace Bridge

/-- The bridge at the start. -/
def initial : Bridge := ⟨.initial, .empty⟩

/-- Takes slots for effects, in order; gives the effects with their ids. -/
def takeSlots (slots : Slots) : List Effect → Slots × List (Nat × Effect)
  | [] => (slots, [])
  | e :: rest =>
    let (id, slots) := slots.take e.waiting
    let (slots, others) := takeSlots slots rest
    (slots, (id, e) :: others)

/-- Writes effects with their ids. -/
def putRequests (requests : List (Nat × Effect)) : Bytes :=
  Binary.putList (fun r : Nat × Effect => Binary.putNat 4 r.1 ++ r.2.put) requests

/-- Handles an event; gives the requests in binary. -/
def handle (b : Bridge) (e : Event) : Bridge × Bytes :=
  let (model, effects) := update b.model e
  let (slots, requests) := takeSlots b.slots effects
  (⟨model, slots⟩, putRequests requests)

/-- Takes an event from the shell. -/
def send (b : Bridge) (octets : Bytes) : Bridge × Except BridgeError Bytes :=
  match ShellEvent.get octets with
  | .ok (e, _) =>
    let (b, requests) := b.handle (.shell e)
    (b, .ok requests)
  | .error f => (b, .error (.badEvent f))

/-- Reads the event that an answer comes to. -/
def answerEvent (w : Waiting) (octets : Bytes) : Except BridgeError Event :=
  match w with
  | .nothing => .error .notExpected
  | .fetch purpose =>
    match Http.Answer.get octets with
    | .ok (a, _) => .ok (purpose.event a.outcome)
    | .error f => .error (.badAnswer f)
  | .timer kind =>
    match TimerOutput.get octets with
    | .ok (output, _) => .ok (kind.event output)
    | .error f => .error (.badAnswer f)

/-- Takes the answer to an effect from the shell. -/
def answer (b : Bridge) (id : Nat) (octets : Bytes) : Bridge × Except BridgeError Bytes :=
  match b.slots.get? id with
  | none => (b, .error (.notFound id))
  | some w =>
    let b := { b with slots := b.slots.release id }
    match answerEvent w octets with
    | .ok e =>
      let (b, requests) := b.handle e
      (b, .ok requests)
    | .error e => (b, .error e)

/-- The view in binary. -/
def view (b : Bridge) : Bytes :=
  b.model.view

end Bridge

end DeviceSetup
