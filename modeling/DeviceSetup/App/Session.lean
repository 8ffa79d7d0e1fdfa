import DeviceSetup.App.Update

/-!
# Sessions

A session is a model together with every request it made so far, in order, and which of
them are still unanswered. A step is an event, or the answer to an unanswered
request; the event that an answer comes to is handled in the same step.
-/

namespace DeviceSetup

/-- A request that was made, and whether it still waits for its answer. -/
structure Pending (α : Type) where
  request : α
  unanswered : Bool
  deriving Repr, DecidableEq

/-- An effect with the number of its request among those of its kind. -/
inductive Issued where
  | render
  | fetch (number : Nat) (request : Http.Request)
  | timer (number : Nat) (op : TimerOp)
  deriving Repr, DecidableEq

/-- A model and its requests. -/
structure Session where
  model : Model
  fetches : List (Pending Purpose)
  timers : List (Pending TimerOp)
  deriving Repr, DecidableEq

namespace Session

/-- The session at the start. -/
def initial : Session := ⟨.initial, [], []⟩

/-- Adds a request to the device. -/
def addFetch (s : Session) (purpose : Purpose) : Session :=
  { s with fetches := s.fetches ++ [{ request := purpose, unanswered := true }] }

/-- Adds a request to the clock. -/
def addTimer (s : Session) (op : TimerOp) : Session :=
  { s with timers := s.timers ++ [{ request := op, unanswered := true }] }

/-- Takes note of effects and numbers them. -/
def issue (s : Session) : List Effect → Session × List Issued
  | [] => (s, [])
  | .render :: rest =>
    let (s, issued) := s.issue rest
    (s, .render :: issued)
  | .fetch purpose request :: rest =>
    let (next, issued) := (s.addFetch purpose).issue rest
    (next, .fetch s.fetches.length request :: issued)
  | .timer op :: rest =>
    let (next, issued) := (s.addTimer op).issue rest
    (next, .timer s.timers.length op :: issued)

/-- Handles an event. -/
def send (s : Session) (e : Event) : Session × List Issued :=
  let (model, effects) := update s.model e
  { s with model }.issue effects

/-- The request with a number, if it is unanswered. -/
def unanswered? {α : Type} (requests : List (Pending α)) (number : Nat) : Option α :=
  match requests[number]? with
  | some ⟨request, true⟩ => some request
  | _ => none

/-- Marks a request as answered. -/
def markAnswered {α : Type} (requests : List (Pending α)) (number : Nat) : List (Pending α) :=
  requests.modify number fun r => { r with unanswered := false }

/-- Answers a request to the device; none if it is not waiting for an answer. -/
def answerFetch (s : Session) (number : Nat) (outcome : Http.Outcome) :
    Option (Session × List Issued) :=
  (unanswered? s.fetches number).map fun purpose =>
    { s with fetches := markAnswered s.fetches number }.send (purpose.event outcome)

/-- Answers a request to the clock; none if it is not waiting for an answer. -/
def answerTimer (s : Session) (number : Nat) (output : TimerOutput) :
    Option (Session × List Issued) :=
  (unanswered? s.timers number).map fun op =>
    { s with timers := markAnswered s.timers number }.send (op.kind.event output)

end Session

end DeviceSetup
