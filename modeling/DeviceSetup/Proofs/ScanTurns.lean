import Mathlib
import DeviceSetup.Device.ScanCache

/-!
# Scan requests one after the other

Requests are served in turn, each at its own time and with what the scanner would answer just
then. A turn keeps a record of what was asked of the scanner and what the request was answered
with, so that "the latest successful scan" can be told from the turns alone (`scans`), without
a look into the cache.

The cache is no more than that latest scan (`ScanCache.latest`): one turn keeps it so, and every
answer, every decision to scan and the distance between scans follow. Nothing is assumed about
the times: a request from before the last scan finds no time passed. Nor is anything assumed about
the interval, so times may be counted as finely as a clock can tell them apart.
-/

namespace DeviceSetup

/-- A request that was served: when it came and what the scanner would have answered, then what
the scanner was asked, what the request was answered, and the cache as it was left. -/
structure ScanTurn (ε : Type) where
  now : Nat
  scanner : Scanner ε
  calls : List ScannerCall
  answer : List Network
  cache : ScanCache

namespace ScanTurn

variable {ε : Type}

/-- The scan that a turn made, with its time, if it made one and that succeeded. -/
def scan? (t : ScanTurn ε) : Option (Nat × List Network) :=
  if .scan ∈ t.calls then (t.scanner.scan.toOption).map fun networks => (t.now, networks) else none

/-- The successful scans of some turns, in order. -/
def scans (turns : List (ScanTurn ε)) : List (Nat × List Network) :=
  turns.filterMap scan?

end ScanTurn

namespace ScanCache

variable {ε : Type}

/-- A cache serves a request. -/
def turn (c : ScanCache) (now : Nat) (scanner : Scanner ε) : ScanTurn ε where
  now := now
  scanner := scanner
  calls := c.calls scanner now
  answer := (c.refresh scanner now).answer scanner
  cache := c.refresh scanner now

/-- A cache serves requests in turn. -/
def serve (c : ScanCache) : List (Nat × Scanner ε) → List (ScanTurn ε)
  | [] => []
  | (now, scanner) :: rest => c.turn now scanner :: (c.refresh scanner now).serve rest

/-- The cache that holds the last of some successful scans. Every cache that comes about is one of
these, so nothing below needs another invariant. -/
def latest (interval : Nat) (scans : List (Nat × List Network)) : ScanCache :=
  ⟨interval, scans.getLast?.map Prod.fst, scans.getLast?.map Prod.snd⟩

end ScanCache

/-- What a turn is, told by the successful scans before it. The cache is not part of the telling: it
is one more thing that the scans decide. -/
structure ScanTurn.Follows {ε : Type} (t : ScanTurn ε) (interval : Nat)
    (before : List (Nat × List Network)) : Prop where
  /-- The answer is the latest successful scan, which may be the turn's own; as long as there is
  none, it is the connected access point. -/
  answer : t.answer = match (before ++ t.scan?.toList).getLast? with
    | some last => last.2
    | none => t.scanner.connected.toList
  /-- A scan is asked for just when the latest success, if any, is too long ago. -/
  scans : .scan ∈ t.calls ↔ ∀ last ∈ before.getLast?, last.1 + interval < t.now
  /-- The connected access point is asked for just when no scan has succeeded. -/
  standsIn : .connected ∈ t.calls ↔ before ++ t.scan?.toList = []
  /-- The cache holds the latest successful scan. -/
  cache : t.cache = .latest interval (before ++ t.scan?.toList)
  /-- A scan that fails leaves what was there before. -/
  keeps : ∀ e, t.scanner.scan = .error e → t.cache = .latest interval before

namespace ScanCache

open ScanTurn

variable {ε : Type} (interval : Nat) (before : List (Nat × List Network)) (now : Nat)
  (scanner : Scanner ε)

/-! ## One turn -/

/-- A scan is due when the last one, if there is any, is more than the interval ago. -/
theorem isDue_iff (c : ScanCache) :
    c.isDue now = true ↔ ∀ last ∈ c.scannedAt, last + c.interval < now := by
  unfold isDue
  cases c.scannedAt with
  | none => simp
  | some last =>
      simp only [decide_eq_true_eq, Option.mem_some_iff, forall_eq']
      omega

/-- The scanner is asked to scan just when a scan is due. -/
theorem scan_mem_calls_iff (c : ScanCache) :
    .scan ∈ c.calls scanner now ↔ c.isDue now = true := by
  unfold calls
  cases c.isDue now <;> cases (c.refresh scanner now).networks <;> simp

/-- The connected access point is asked for just when there is still no scan to show. -/
theorem connected_mem_calls_iff (c : ScanCache) :
    .connected ∈ c.calls scanner now ↔ (c.refresh scanner now).networks = none := by
  unfold calls
  cases c.isDue now <;> cases (c.refresh scanner now).networks <;> simp

theorem latest_concat (scan : Nat × List Network) :
    latest interval (before ++ [scan]) = ⟨interval, some scan.1, some scan.2⟩ := by
  unfold latest
  rw [List.getLast?_concat]
  rfl

/-- A turn leaves the latest scan in the cache, which is its own if it made one. -/
theorem refresh_latest :
    (latest interval before).refresh scanner now
      = latest interval (before ++ ((latest interval before).turn now scanner).scan?.toList) := by
  -- a turn that does not scan adds nothing, nor does one whose scan fails
  have hcalls := scan_mem_calls_iff now scanner (latest interval before)
  unfold refresh
  cases hdue : (latest interval before).isDue now with
  | false =>
      have hnot : ScannerCall.scan ∉ (latest interval before).calls scanner now := by
        rw [hcalls, hdue]
        decide
      have hnone : ((latest interval before).turn now scanner).scan? = none := if_neg hnot
      rw [if_neg (by decide), hnone, Option.toList_none, List.append_nil]
  | true =>
      have hscan : ScannerCall.scan ∈ (latest interval before).calls scanner now := by
        rw [hcalls, hdue]
      have hmade : ((latest interval before).turn now scanner).scan?
          = scanner.scan.toOption.map fun networks => (now, networks) := if_pos hscan
      rw [if_pos rfl, hmade]
      cases scanner.scan with
      | error e => exact congrArg (latest interval) (List.append_nil before).symm
      | ok networks => exact (latest_concat interval before (now, networks)).symm

theorem networks_latest_eq_none_iff : (latest interval before).networks = none ↔ before = [] := by
  unfold latest
  rw [Option.map_eq_none_iff, List.getLast?_eq_none_iff]

theorem answer_latest :
    (latest interval before).answer scanner = match before.getLast? with
      | some last => last.2
      | none => scanner.connected.toList := by
  unfold answer latest
  cases before.getLast? <;> rfl

theorem scan?_eq_none_of_error {t : ScanTurn ε} {e : ε} (h : t.scanner.scan = .error e) :
    t.scan? = none := by
  unfold scan?
  rw [h]
  split <;> rfl

/-- A scan that counts was asked for, and has the time of its turn. -/
theorem made_of_scan? {t : ScanTurn ε} {scan : Nat × List Network} (h : t.scan? = some scan) :
    .scan ∈ t.calls ∧ scan.1 = t.now := by
  unfold scan? at h
  split at h
  · rename_i hcalls
    obtain ⟨networks, -, rfl⟩ := Option.map_eq_some_iff.mp h
    exact ⟨hcalls, rfl⟩
  · cases h

/-- **A turn goes by the successful scans before it.** This is the step; the cache it leaves is
again that of the scans up to now. -/
theorem follows_turn : ((latest interval before).turn now scanner).Follows interval before where
  answer := by
    show ((latest interval before).refresh scanner now).answer scanner = _
    rw [refresh_latest, answer_latest]
    rfl
  scans := by
    have hlast : (∀ at' ∈ (latest interval before).scannedAt, at' + interval < now)
        ↔ ∀ last ∈ before.getLast?, last.1 + interval < now := by
      unfold latest
      simp
    have hdue := isDue_iff now (latest interval before)
    exact (scan_mem_calls_iff now scanner _).trans (hdue.trans hlast)
  standsIn := by
    rw [← networks_latest_eq_none_iff, ← refresh_latest]
    exact connected_mem_calls_iff now scanner (latest interval before)
  cache := refresh_latest interval before now scanner
  keeps := by
    intro e he
    show (latest interval before).refresh scanner now = _
    rw [refresh_latest, scan?_eq_none_of_error he]
    simp

/-- Successful scans that are more than the interval apart. -/
def FarApart (interval : Nat) (scans : List (Nat × List Network)) : Prop :=
  scans.Pairwise fun a b => a.1 + interval < b.1

variable {interval : Nat}

/-- One more turn keeps scans far apart, since it scans only when the last one is far enough. -/
theorem FarApart.append_scan? {before : List (Nat × List Network)} {t : ScanTurn ε}
    (h : FarApart interval before) (ht : t.Follows interval before) :
    FarApart interval (before ++ t.scan?.toList) := by
  cases hscan : t.scan? with
  | none => simpa using h
  | some scan =>
      -- the scan was made because it was due
      obtain ⟨hcalls, hnow⟩ := made_of_scan? hscan
      have hlast := ht.scans.mp hcalls
      refine List.pairwise_append.mpr ⟨h, List.pairwise_singleton _ _, ?_⟩
      intro a ha b hb
      obtain rfl := List.mem_singleton.mp hb
      rw [hnow]
      -- every earlier scan is the last one, or before it
      obtain ⟨front, last, rfl⟩ : ∃ front last, before = front ++ [last] :=
        ⟨_, _, (List.dropLast_append_getLast (List.ne_nil_of_mem ha)).symm⟩
      have hdue := hlast last (by rw [List.getLast?_concat]; rfl)
      rcases List.mem_append.mp ha with hfront | hself
      · have hearlier := (List.pairwise_append.mp h).2.2 a hfront last (List.mem_singleton_self _)
        omega
      · obtain rfl := List.mem_singleton.mp hself
        exact hdue

/-! ## All turns -/

/-- Every request has one turn, in the order of the requests. -/
theorem map_serve (c : ScanCache) (requests : List (Nat × Scanner ε)) :
    (c.serve requests).map (fun t => (t.now, t.scanner)) = requests := by
  induction requests generalizing c with
  | nil => rfl
  | cons request rest ih =>
      obtain ⟨now, scanner⟩ := request
      rw [serve, List.map_cons, ih]
      rfl

theorem scans_cons (t : ScanTurn ε) (turns : List (ScanTurn ε)) :
    scans (t :: turns) = t.scan?.toList ++ scans turns := by
  unfold scans
  rw [List.filterMap_cons]
  cases t.scan? <;> rfl

/-- Every turn goes by the scans before the first turn and those of the turns before it. -/
theorem follows_serve {done : List (Nat × List Network)} {requests : List (Nat × Scanner ε)}
    {before after : List (ScanTurn ε)} {t : ScanTurn ε}
    (h : (latest interval done).serve requests = before ++ t :: after) :
    t.Follows interval (done ++ scans before) := by
  -- the scans of each turn move over to those that were done before
  induction requests generalizing done before with
  | nil => simp [serve] at h
  | cons request rest ih =>
      obtain ⟨now, scanner⟩ := request
      rw [serve] at h
      cases before with
      | nil =>
          obtain ⟨rfl, -⟩ := List.cons.inj h
          rw [scans, List.filterMap_nil, List.append_nil]
          exact follows_turn interval done now scanner
      | cons first before =>
          obtain ⟨rfl, hrest⟩ := List.cons.inj h
          rw [refresh_latest] at hrest
          have hfollows := ih hrest
          rwa [List.append_assoc, ← scans_cons] at hfollows

theorem farApart_serve {done : List (Nat × List Network)} (hdone : FarApart interval done)
    (requests : List (Nat × Scanner ε)) :
    FarApart interval (done ++ scans ((latest interval done).serve requests)) := by
  induction requests generalizing done with
  | nil => simpa [serve, scans] using hdone
  | cons request rest ih =>
      obtain ⟨now, scanner⟩ := request
      have hnext := ih (hdone.append_scan? (follows_turn interval done now scanner))
      rw [serve, scans_cons, refresh_latest, ← List.append_assoc]
      exact hnext

/--
**Every request is answered by the latest successful scan.**

Let requests be served in turn from an empty cache with any interval, at any times and with a
scanner that answers each of them as it likes. Every request has its turn. Its answer is the latest
successful scan, its own included, or the connected access point if there is none yet; it scans
just when no scan has succeeded or the last success is more than the rescan interval ago; and a scan
that fails leaves the cache as it was. So successful scans are always more than the interval apart.

However many pages ask, and however often, the radio is not kept busy by them; and a radio that is
busy for once does not empty the list that they show.
-/
theorem every_turn_follows_latest_scan {requests : List (Nat × Scanner ε)}
    {before after : List (ScanTurn ε)} {t : ScanTurn ε}
    (h : (ScanCache.empty interval).serve requests = before ++ t :: after) :
    requests[before.length]? = some (t.now, t.scanner)
      ∧ t.Follows interval (scans before)
      ∧ FarApart interval (scans ((ScanCache.empty interval).serve requests)) := by
  refine ⟨?_, ?_, ?_⟩
  · rw [← map_serve (ScanCache.empty interval) requests, h, List.getElem?_map]
    simp
  · have hfollows : t.Follows interval ([] ++ scans before) := follows_serve h
    exact hfollows
  · have hnone : FarApart interval [] := List.Pairwise.nil
    exact farApart_serve hnone requests

/-- The scanner of a radio that is connected to `Office` and finds `networks`, or is busy. -/
def radio (networks : Option (List Network)) : Scanner String where
  scan := networks.elim (.error "radio busy") .ok
  connected := some ⟨"Office", -50, 1⟩

/-- A scan that fails, one that succeeds, a request exactly at the interval and one just past it
that fails again. -/
def radioRequests : List (Nat × Scanner String) :=
  [(0, radio none), (1000, radio (some [⟨"Home", -60, 6⟩])), (31000, radio (some [])),
    (31001, radio none)]

theorem every_turn_follows_latest_scan_busy :
    ∃ before t, ScanCache.empty.serve radioRequests = before ++ [t]
      ∧ scans before = [(1000, [⟨"Home", -60, 6⟩])]
      ∧ t.now = 31001 ∧ .scan ∈ t.calls ∧ t.answer = [⟨"Home", -60, 6⟩] := by
  have hserve : ScanCache.empty.serve radioRequests
      = ScanCache.empty.serve (radioRequests.take 3)
        ++ [turn ⟨30000, some 1000, some [⟨"Home", -60, 6⟩]⟩ 31001 (radio none)] := rfl
  have hscans : scans (ScanCache.empty.serve (radioRequests.take 3))
      = [(1000, [⟨"Home", -60, 6⟩])] := rfl
  obtain ⟨-, hfollows, -⟩ := every_turn_follows_latest_scan hserve
  rw [hscans] at hfollows
  exact ⟨_, _, hserve, hscans, rfl, hfollows.scans.mpr (by decide), hfollows.answer⟩

end ScanCache

end DeviceSetup
