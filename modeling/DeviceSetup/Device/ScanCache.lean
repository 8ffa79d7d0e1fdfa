import DeviceSetup.Network.Json

/-!
# The scan cache

The networks of the last successful scan and when it was made. A scan is due when none
has succeeded, or when the last success is longer ago than the rescan interval. Until
a scan succeeds, the connected access point stands in for it.

Times count from a common start, in any unit, and a cache has its interval in the same one. For
times in milliseconds that is `rescanMillis`.
-/

namespace DeviceSetup

/-- How long a scan stays good, in milliseconds. -/
def rescanMillis : Nat := 30000

/-- What a scanner can be asked. -/
inductive ScannerCall where
  | scan
  | connected
  deriving Repr, DecidableEq

/-- What a scanner would answer. -/
structure Scanner (ε : Type) where
  scan : Except ε (List Network)
  connected : Option Network

/-- The last successful scan. -/
structure ScanCache where
  /-- How long a scan stays good. -/
  interval : Nat
  scannedAt : Option Nat
  networks : Option (List Network)
  deriving Repr, DecidableEq

namespace ScanCache

variable {ε : Type}

/-- A cache before any scan. -/
def empty (interval : Nat := rescanMillis) : ScanCache := ⟨interval, none, none⟩

/-- Whether a scan is due. A time before the last scan counts as no time passed. -/
def isDue (c : ScanCache) (now : Nat) : Bool :=
  match c.scannedAt with
  | none => true
  | some last => c.interval < now - last

/-- Keeps a scan that succeeded; one that failed changes nothing. -/
def record (c : ScanCache) (result : Except ε (List Network)) (now : Nat) : ScanCache :=
  match result with
  | .ok networks => ⟨c.interval, some now, some networks⟩
  | .error _ => c

/-- The cache after a request: a scan is made if one is due. -/
def refresh (c : ScanCache) (scanner : Scanner ε) (now : Nat) : ScanCache :=
  if c.isDue now then c.record scanner.scan now else c

/-- The networks that a request is answered with once the cache is fresh. -/
def answer (c : ScanCache) (scanner : Scanner ε) : List Network :=
  c.networks.getD scanner.connected.toList

/-- What a request asks of the scanner, in order. -/
def calls (c : ScanCache) (scanner : Scanner ε) (now : Nat) : List ScannerCall :=
  (if c.isDue now then [.scan] else [])
    ++ if (c.refresh scanner now).networks.isNone then [.connected] else []

end ScanCache

end DeviceSetup
