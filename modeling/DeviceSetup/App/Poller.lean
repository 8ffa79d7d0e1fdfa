import DeviceSetup.App.Event

/-!
# Polling for scans

The poller keeps the last scan and the combos to merge it into. While it runs, each
completed request, good or bad, arms a timer for the next; at most one timer is armed,
and only that timer is listened to.
-/

namespace DeviceSetup

/-- The state of polling. -/
structure Poller where
  /-- The ids of the combos, in form order. -/
  tracked : List String
  /-- The timer that is armed. -/
  pending : Option Nat
  /-- The number of the last timer that was started. -/
  lastTimer : Nat
  running : Bool
  lastScan : Option (List Network)
  deriving Repr, DecidableEq

namespace Poller

/-- A poller that never ran. -/
def idle : Poller := ⟨[], none, 0, false, none⟩

/-- Takes note of the combos of a form. -/
def track (p : Poller) (form : Form) : Poller :=
  { p with tracked := (form.fields.filter (·.widget.kind = .network)).map (·.id) }

/-- Merges a scan into the first field with an id. -/
def mergeInto (networks : List Network) (form : Form) (id : String) : Form :=
  match form.field? id with
  | some f => form.setWidget id (f.widget.mergeScan networks)
  | none => form

/-- Merges the last scan, if there is one, into every tracked combo. -/
def mergeLast (p : Poller) (form : Form) : Form :=
  match p.lastScan with
  | some networks => p.tracked.foldl (mergeInto networks) form
  | none => form

/-- The request to cancel the armed timer. -/
def cancelling (p : Poller) : List Effect :=
  match p.pending with
  | some id => [.timer (.cancel id .poll)]
  | none => []

/-- Disarms the timer. -/
def disarm (p : Poller) : Poller :=
  { p with pending := none }

/-- Asks for a scan now. -/
def poll (p : Poller) : Poller × List Effect :=
  (p.disarm, p.cancelling ++ [.fetch .scan scanRequest])

/-- Starts polling with a scan now. -/
def start (p : Poller) : Poller × List Effect :=
  { p with running := true }.poll

/-- Stops polling; a request under way arms no timer. -/
def stop (p : Poller) : Poller × List Effect :=
  ({ p.disarm with running := false }, p.cancelling)

/-- Arms a new timer. -/
def schedule (p : Poller) : Poller × List Effect :=
  let id := p.lastTimer + 1
  ({ p with lastTimer := id, pending := some id }, [.timer (.start id .poll pollMillis)])

/-- Takes note of a scan. -/
def keepScan (p : Poller) (result : Except String ScanReport) : Poller :=
  match result with
  | .ok report => { p with lastScan := some report.networks }
  | .error _ => p

/-- Takes the result of a request: a scan is merged, and the next request is scheduled. -/
def scanned (p : Poller) (form : Form) (result : Except String ScanReport) :
    Poller × Form × List Effect :=
  let (form, shown) : Form × List Effect :=
    match result with
    | .ok _ => ((p.keepScan result).mergeLast form, [.render])
    | .error _ => (form, [])
  let kept := p.keepScan result
  if p.running then
    let (next, scheduled) := kept.disarm.schedule
    (next, form, shown ++ kept.cancelling ++ scheduled)
  else (kept, form, shown)

/-- Takes the output of a timer: only the armed timer counts. -/
def timed (p : Poller) (output : TimerOutput) : Poller × List Effect :=
  match output with
  | .fired id .poll =>
    if p.pending = some id then
      if p.running then p.disarm.poll else (p.disarm, [])
    else (p, [])
  | .fired _ .saveTimeout | .cancelled _ _ => (p, [])

end Poller

end DeviceSetup
