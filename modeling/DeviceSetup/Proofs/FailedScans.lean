import Mathlib
import DeviceSetup.Proofs.ScanTurns

/-!
# Scans that fail

A scan that succeeds keeps the scanner at rest for the rescan interval. A scan that fails leaves
nothing behind, not even its time, so the next request finds a scan due again, however soon it
comes. The scanner is asked by every request until one of them succeeds.

Requests come in the order of their times here. Then what a turn does within the interval after
another is told by whether a scan has succeeded since (`scan_after_failure_iff`).
-/

namespace DeviceSetup

variable {ε : Type}

namespace ScanTurn

/-- A scan was made, and it failed. -/
def Fails (t : ScanTurn ε) : Prop :=
  .scan ∈ t.calls ∧ ∃ e, t.scanner.scan = .error e

/-- A scan was made, and it succeeded. -/
def Succeeds (t : ScanTurn ε) : Prop :=
  .scan ∈ t.calls ∧ ∃ networks, t.scanner.scan = .ok networks

/-- Within the interval after a failed scan there is no other. This is what the interval promises of
scans, were it kept for failed ones too. -/
def FailuresThrottled (interval : Nat) (turns : List (ScanTurn ε)) : Prop :=
  ∀ before t between u after, turns = before ++ t :: (between ++ u :: after) → t.Fails →
    u.now ≤ t.now + interval → .scan ∉ u.calls

/-- The request after a failed scan comes later than the interval. That is up to those who ask, not
to the device. -/
def FailuresApart (interval : Nat) (turns : List (ScanTurn ε)) : Prop :=
  ∀ before t u after, turns = before ++ t :: u :: after → t.Fails → t.now + interval < u.now

/-- The turns are in the order of their times. -/
def InOrder (turns : List (ScanTurn ε)) : Prop :=
  turns.Pairwise fun t u => t.now ≤ u.now

theorem Fails.scan? {t : ScanTurn ε} (h : t.Fails) : t.scan? = none := by
  obtain ⟨-, e, he⟩ := h
  exact ScanCache.scan?_eq_none_of_error he

theorem Succeeds.scan? {t : ScanTurn ε} (h : t.Succeeds) :
    ∃ networks, t.scan? = some (t.now, networks) := by
  obtain ⟨hcalls, networks, hok⟩ := h
  refine ⟨networks, ?_⟩
  unfold ScanTurn.scan?
  rw [if_pos hcalls, hok]
  rfl

theorem scans_append (turns turns' : List (ScanTurn ε)) :
    scans (turns ++ turns') = scans turns ++ scans turns' :=
  List.filterMap_append

/-- A scan has the time of a turn. -/
theorem exists_turn_of_scan {turns : List (ScanTurn ε)} {scan : Nat × List Network}
    (h : scan ∈ scans turns) : ∃ t ∈ turns, scan.1 = t.now := by
  obtain ⟨t, ht, hscan⟩ := List.mem_filterMap.mp h
  exact ⟨t, ht, (ScanCache.made_of_scan? hscan).2⟩

section Order

variable {before between after : List (ScanTurn ε)} {t u : ScanTurn ε}

theorem InOrder.le (h : InOrder (before ++ t :: (between ++ u :: after))) : t.now ≤ u.now := by
  have hbehind := (List.pairwise_append.mp h).2.1
  exact (List.pairwise_cons.mp hbehind).1 u (by simp)

/-- Scans that were made since a turn are no older than it. -/
theorem InOrder.le_of_mem_scans (h : InOrder (before ++ t :: (between ++ u :: after)))
    {scan : Nat × List Network} (hscan : scan ∈ scans between) : t.now ≤ scan.1 := by
  obtain ⟨m, hm, htime⟩ := exists_turn_of_scan hscan
  have hbehind := (List.pairwise_append.mp h).2.1
  have hle := (List.pairwise_cons.mp hbehind).1 m (List.mem_append_left _ hm)
  omega

end Order

end ScanTurn

namespace ScanCache

open ScanTurn

theorem inOrder_serve {c : ScanCache} {requests : List (Nat × Scanner ε)}
    (h : requests.Pairwise fun a b => a.1 ≤ b.1) : InOrder (c.serve requests) := by
  rw [← map_serve c requests, List.pairwise_map] at h
  exact h

section

variable {interval : Nat} {requests : List (Nat × Scanner ε)}
  {before between after : List (ScanTurn ε)} {t u : ScanTurn ε}

/-- A turn goes by the scans before another turn, that turn's own, and those since. -/
theorem follows_since
    (h : (ScanCache.empty interval).serve requests = before ++ t :: (between ++ u :: after)) :
    t.Follows interval (scans before)
      ∧ u.Follows interval (scans before ++ (t.scan?.toList ++ scans between)) := by
  have hfirst : t.Follows interval ([] ++ scans before) := follows_serve h
  -- the same turns, cut at the later one
  have hsplit : (ScanCache.empty interval).serve requests
      = (before ++ t :: between) ++ u :: after := by
    rw [h]
    simp
  have hsecond : u.Follows interval ([] ++ scans (before ++ t :: between)) := follows_serve hsplit
  rw [List.nil_append, scans_append, scans_cons] at hsecond
  exact ⟨hfirst, hsecond⟩

/-- **After a failed scan only a success since then keeps a request from scanning.** What came
before the failed scan counts no more: it was too long ago then, and time does not go back. -/
theorem scan_after_failure_iff
    (h : (ScanCache.empty interval).serve requests = before ++ t :: (between ++ u :: after))
    (horder : InOrder ((ScanCache.empty interval).serve requests)) (hfails : t.Fails) :
    .scan ∈ u.calls ↔ ∀ last ∈ (scans between).getLast?, last.1 + interval < u.now := by
  obtain ⟨hfirst, hsecond⟩ := follows_since h
  rw [h] at horder
  have hle := horder.le
  rw [hfails.scan?, Option.toList_none, List.nil_append] at hsecond
  rw [hsecond.scans, List.getLast?_append]
  cases hlast : (scans between).getLast? with
  | some last => rfl
  | none =>
      -- what was too long ago for the failed scan is so still
      have hdue := hfirst.scans.mp hfails.1
      refine ⟨fun _ => nofun, fun _ => ?_⟩
      intro last hmem
      have hearlier := hdue last hmem
      omega

/-- A scan that succeeded keeps every request within the interval from scanning. -/
theorem no_scan_after_success
    (h : (ScanCache.empty interval).serve requests = before ++ t :: (between ++ u :: after))
    (horder : InOrder ((ScanCache.empty interval).serve requests)) (hsucceeds : t.Succeeds)
    (hsoon : u.now ≤ t.now + interval) : .scan ∉ u.calls := by
  obtain ⟨-, hsecond⟩ := follows_since h
  obtain ⟨networks, hscan⟩ := hsucceeds.scan?
  rw [h] at horder
  rw [hscan, Option.toList_some, List.singleton_append] at hsecond
  -- the latest success is this one, or one that was made since
  have hlatest : ∃ last ∈ (scans before ++ (t.now, networks) :: scans between).getLast?,
      t.now ≤ last.1 := by
    rw [List.getLast?_append_of_ne_nil _ (List.cons_ne_nil _ _), List.getLast?_cons]
    cases hlast : (scans between).getLast? with
    | none => exact ⟨_, rfl, le_rfl⟩
    | some last => exact ⟨_, rfl, horder.le_of_mem_scans (List.mem_of_getLast? hlast)⟩
  obtain ⟨last, hmem, hle⟩ := hlatest
  intro hcalls
  have hdue := hsecond.scans.mp hcalls last hmem
  omega

/-- Within the interval after a failed scan a request scans unless another scan succeeded. -/
theorem scan_soon_after_failure_iff
    (h : (ScanCache.empty interval).serve requests = before ++ t :: (between ++ u :: after))
    (horder : InOrder ((ScanCache.empty interval).serve requests)) (hfails : t.Fails)
    (hsoon : u.now ≤ t.now + interval) : .scan ∈ u.calls ↔ scans between = [] := by
  rw [scan_after_failure_iff h horder hfails, ← List.getLast?_eq_none_iff]
  rw [h] at horder
  cases hlast : (scans between).getLast? with
  | none => exact ⟨fun _ => rfl, fun _ => nofun⟩
  | some last =>
      have hle := horder.le_of_mem_scans (List.mem_of_getLast? hlast)
      -- a success since then is within the interval itself
      refine ⟨fun hdue => ?_, nofun⟩
      have hlate := hdue last rfl
      omega

end

/--
**Failed scans are throttled only where no request comes to see it.**

To be throttled, a failure would have to leave a mark for the next request, and it leaves none. So
the two conditions on a run are the same: no scan within the interval, and no request at all.
-/
theorem failuresThrottled_iff {interval : Nat} {requests : List (Nat × Scanner ε)}
    (horder : InOrder ((ScanCache.empty interval).serve requests)) :
    FailuresThrottled interval ((ScanCache.empty interval).serve requests)
      ↔ FailuresApart interval ((ScanCache.empty interval).serve requests) := by
  constructor
  · intro hthrottled before t u after h hfails
    by_contra hsoon
    have hnext : (ScanCache.empty interval).serve requests = before ++ t :: ([] ++ u :: after) := h
    have hscan := (scan_soon_after_failure_iff hnext horder hfails (by omega)).mpr rfl
    exact hthrottled before t [] u after hnext hfails (by omega) hscan
  · intro hapart before t between u after h hfails hsoon
    -- the very next request is late, and all others come after it
    exfalso
    cases between with
    | nil =>
        have hlate := hapart before t u after h hfails
        omega
    | cons next between =>
        have hlate := hapart before t next (between ++ u :: after) h hfails
        have hsplit : (ScanCache.empty interval).serve requests
            = (before ++ [t]) ++ next :: (between ++ u :: after) := by
          rw [h]
          simp
        rw [hsplit] at horder
        have hle := horder.le
        omega

/--
**Only scans that succeed are throttled.**

Let requests be served in turn from an empty cache with any interval, in the order of their times
and with a scanner that answers each of them as it likes. Within the interval after a scan that
succeeded no request scans. Within the interval after one that failed a request scans just when no
scan has succeeded since, so all those do that come before the next success. Failed scans are
therefore throttled in a run exactly when every request after one happens to come later than the
interval. A radio that keeps failing is thus asked as often as anybody likes.
-/
theorem only_successes_throttle (interval : Nat) {requests : List (Nat × Scanner ε)}
    (htimes : requests.Pairwise fun a b => a.1 ≤ b.1) :
    (∀ before t between u after,
      (ScanCache.empty interval).serve requests = before ++ t :: (between ++ u :: after) →
      u.now ≤ t.now + interval →
        (t.Succeeds → .scan ∉ u.calls) ∧ (t.Fails → (.scan ∈ u.calls ↔ scans between = [])))
    ∧ (FailuresThrottled interval ((ScanCache.empty interval).serve requests)
        ↔ FailuresApart interval ((ScanCache.empty interval).serve requests)) := by
  have horder : InOrder ((ScanCache.empty interval).serve requests) := inOrder_serve htimes
  refine ⟨?_, failuresThrottled_iff horder⟩
  intro before t between u after h hsoon
  exact ⟨fun hsucceeds => no_scan_after_success h horder hsucceeds hsoon,
    fun hfails => scan_soon_after_failure_iff h horder hfails hsoon⟩

/-- A busy radio is asked twice before its first success, and twice again when that has aged. -/
def busyRequests : List (Nat × Scanner String) :=
  [(0, radio none), (1, radio none), (2, radio (some [⟨"Home", -60, 6⟩])), (30001, radio none),
    (30003, radio none), (30003, radio none)]

theorem only_successes_throttle_busy :
    busyRequests.Pairwise (fun a b => a.1 ≤ b.1)
      ∧ ∃ t₁ t₂ t₃ t₄ t₅ t₆, ScanCache.empty.serve busyRequests = [t₁, t₂, t₃, t₄, t₅, t₆]
        ∧ t₁.Fails ∧ .scan ∈ t₂.calls
        ∧ t₂.Fails ∧ t₃.Succeeds ∧ .scan ∉ t₄.calls
        ∧ t₅.Fails ∧ .scan ∈ t₆.calls
        ∧ ¬ FailuresThrottled rescanMillis (ScanCache.empty.serve busyRequests) := by
  have htimes : busyRequests.Pairwise fun a b => a.1 ≤ b.1 := by
    unfold busyRequests
    simp
  obtain ⟨hsoon, hthrottled⟩ := only_successes_throttle rescanMillis htimes
  have hfirst := hsoon [] _ [] _ _ rfl (by decide)
  have hsince := hsoon [_] _ [_] _ _ rfl (by decide)
  have haged := hsoon [_, _, _, _] _ [] _ [] rfl (by decide)
  refine ⟨htimes, _, _, _, _, _, _, rfl, ⟨by decide, _, rfl⟩,
    (hfirst.2 ⟨by decide, _, rfl⟩).mpr rfl, ⟨by decide, _, rfl⟩, ⟨by decide, _, rfl⟩, ?_,
    ⟨by decide, _, rfl⟩, (haged.2 ⟨by decide, _, rfl⟩).mpr rfl, ?_⟩
  · intro hscan
    exact List.cons_ne_nil _ _ ((hsince.2 ⟨by decide, _, rfl⟩).mp hscan)
  · intro h
    exact absurd (hthrottled.mp h [] _ _ _ rfl ⟨by decide, _, rfl⟩) (by decide)

/-- A failed scan is repeated at once, whether one has succeeded before or not. -/
theorem failed_scan_repeated_at_once :
    ¬ FailuresThrottled rescanMillis (ScanCache.empty.serve (busyRequests.take 2))
      ∧ ¬ FailuresThrottled rescanMillis (ScanCache.empty.serve (busyRequests.drop 2)) := by
  constructor
  · intro hthrottled
    exact hthrottled [] _ [] _ [] rfl ⟨by decide, _, rfl⟩ (by decide) (by decide)
  · intro hthrottled
    exact hthrottled [_, _] _ [] _ [] rfl ⟨by decide, _, rfl⟩ (by decide) (by decide)

end ScanCache

end DeviceSetup
