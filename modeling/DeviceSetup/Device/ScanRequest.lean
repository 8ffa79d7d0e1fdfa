import DeviceSetup.Device.ScanCache

/-!
# Scan requests side by side

A request holds the cache only for one step at a time: it looks whether a scan is due,
scans without the cache, records the result, and reads the answer. Requests that run side
by side take these steps in any order, so two of them may both find that a scan is due.

A request that runs alone comes to what `ScanCache.refresh` and `ScanCache.answer` say.
-/

namespace DeviceSetup

/-- How far a request has come; each stage is named for its next step. -/
inductive ScanStage (ε : Type) where
  | check
  | scan
  | record (result : Except ε (List Network))
  | read
  | askConnected
  | done (networks : List Network)

/-- A request, with the time at which it started. -/
structure ScanRequest (ε : Type) where
  now : Nat
  stage : ScanStage ε

namespace ScanRequest

variable {ε : Type}

/-- A request that starts now. -/
def start (now : Nat) : ScanRequest ε := ⟨now, .check⟩

/-- One step of a request, with what the scanner would answer at that moment. -/
def step (scanner : Scanner ε) (c : ScanCache) (r : ScanRequest ε) : ScanCache × ScanRequest ε :=
  match r.stage with
  | .check => (c, { r with stage := if c.isDue r.now then .scan else .read })
  | .scan => (c, { r with stage := .record scanner.scan })
  | .record result => (c.record result r.now, { r with stage := .read })
  | .read =>
    match c.networks with
    | some networks => (c, { r with stage := .done networks })
    | none => (c, { r with stage := .askConnected })
  | .askConnected => (c, { r with stage := .done scanner.connected.toList })
  | .done networks => (c, { r with stage := .done networks })

/-- Some steps of a request that runs alone. -/
def run (scanner : Scanner ε) : Nat → ScanCache × ScanRequest ε → ScanCache × ScanRequest ε
  | 0, s => s
  | n + 1, s => run scanner n (step scanner s.1 s.2)

/-- A request that runs alone is answered within five steps. -/
theorem run_start (scanner : Scanner ε) (c : ScanCache) (now : Nat) :
    run scanner 5 (c, start now)
      = (c.refresh scanner now, ⟨now, .done ((c.refresh scanner now).answer scanner)⟩) := by
  obtain ⟨interval, last, networks⟩ := c
  cases hd : ScanCache.isDue ⟨interval, last, networks⟩ now <;> cases hs : scanner.scan <;>
    cases networks <;>
    simp [run, start, step, ScanCache.refresh, ScanCache.record, ScanCache.answer, hd, hs]

end ScanRequest

/-- The cache and the requests under way. -/
structure ScanTraffic (ε : Type) where
  cache : ScanCache
  requests : List (ScanRequest ε)

namespace ScanTraffic

variable {ε : Type}

/-- Nothing cached and no request under way. -/
def initial (interval : Nat := rescanMillis) : ScanTraffic ε := ⟨.empty interval, []⟩

/-- What can happen next: a request starts, or one of those under way takes a step. -/
inductive Move (ε : Type) where
  | arrive (now : Nat)
  | advance (index : Nat) (scanner : Scanner ε)

/-- Makes a move; a step of a request that is not there changes nothing. -/
def move (t : ScanTraffic ε) : Move ε → ScanTraffic ε
  | .arrive now => { t with requests := t.requests ++ [.start now] }
  | .advance index scanner =>
    match t.requests[index]? with
    | none => t
    | some r =>
      let (cache, r) := r.step scanner t.cache
      ⟨cache, t.requests.set index r⟩

end ScanTraffic

end DeviceSetup
