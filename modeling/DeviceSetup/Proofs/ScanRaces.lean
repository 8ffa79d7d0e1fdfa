import Mathlib
import DeviceSetup.Device.ScanRequest
import DeviceSetup.Proofs.ScanTurns

/-!
# Scan requests that race

Requests under way take their steps in any order, and a request scans without the cache. So
while one of them is scanning, another may find a scan due as well, scan and record. The first
one records all the same when it is done, with the time at which it started: the cache goes
back in time, and the next request finds a scan due too early.

This is the only way for it to happen. As long as nobody records while a request is scanning,
the cache is still the one that the request found due (`ahead_or_overtaken`), and what it
records is later by more than the rescan interval.
-/

namespace DeviceSetup

variable {ε : Type}

/-- A request that has found a scan due and has not recorded one. In between it looks at nothing
that others do. -/
def ScanRequest.IsScanning (r : ScanRequest ε) : Prop :=
  r.stage = .scan ∨ ∃ result, r.stage = .record result

namespace ScanRequest

/-- A request keeps the time at which it came, also for what it records. -/
theorem now_step (scanner : Scanner ε) (c : ScanCache) (r : ScanRequest ε) :
    (step scanner c r).2.now = r.now := by
  obtain ⟨now, stage⟩ := r
  cases stage with
  | read =>
      unfold step
      dsimp only
      split <;> rfl
  | check | scan | record _ | askConnected | done _ => rfl

/-- Only two steps lead to a request that is scanning: it finds a scan due, or it has been scanning
and has the result. Both leave the cache alone. -/
theorem scanning_step {scanner : Scanner ε} {c : ScanCache} {r : ScanRequest ε}
    (h : (step scanner c r).2.IsScanning) :
    (step scanner c r).1 = c ∧ (r.IsScanning ∨ c.isDue r.now = true) := by
  obtain ⟨now, stage⟩ := r
  cases stage with
  | check =>
      refine ⟨rfl, Or.inr ?_⟩
      cases hdue : c.isDue now with
      | true => rfl
      | false => simp [step, IsScanning, hdue] at h
  | scan => exact ⟨rfl, Or.inl (Or.inl rfl)⟩
  | read =>
      cases hnetworks : c.networks <;> simp [step, IsScanning, hnetworks] at h
  | record _ | askConnected | done _ => simp [step, IsScanning] at h

end ScanRequest

/-- The cache goes from one state to another that is older. A cache that forgot its scan would be
older too. -/
def ScanCache.GoesBack (c c' : ScanCache) : Prop :=
  ∃ last, c.scannedAt = some last ∧ ∀ now, c'.scannedAt = some now → now < last

namespace ScanTraffic

/-- The cache and the requests after some moves from the start. -/
def after (interval : Nat) (moves : List (Move ε)) : ScanTraffic ε :=
  moves.foldl move (initial interval)

variable {interval : Nat}

theorem after_concat (moves : List (Move ε)) (m : Move ε) :
    after interval (moves ++ [m]) = (after interval moves).move m := by
  unfold after
  rw [List.foldl_concat]

/-- A request records its scan. -/
structure Records (t : ScanTraffic ε) (m : Move ε) (index now : Nat) (networks : List Network) :
    Prop where
  advances : ∃ scanner, m = .advance index scanner
  ready : t.requests[index]? = some ⟨now, .record (.ok networks)⟩

/-- While a request was scanning, another one recorded a scan. -/
def Overtaken (interval : Nat) (moves : List (Move ε)) (index last : Nat) : Prop :=
  ∃ before m rest other networks r, moves = before ++ m :: rest
    ∧ (after interval before).Records m other last networks ∧ other ≠ index
    ∧ (after interval before).requests[index]? = some r ∧ r.IsScanning

/-! ## One move -/

/-- What is recorded has the time of its request, whatever the cache held before. -/
theorem Records.cache_move {t : ScanTraffic ε} {m : Move ε} {index now : Nat}
    {networks : List Network} (h : t.Records m index now networks) :
    (t.move m).cache = ⟨t.cache.interval, some now, some networks⟩ := by
  obtain ⟨scanner, rfl⟩ := h.advances
  simp only [move, h.ready, ScanRequest.step, ScanCache.record]

/-- A move leaves the cache alone, unless a request records a scan. -/
theorem cache_move (t : ScanTraffic ε) (m : Move ε) :
    (t.move m).cache = t.cache ∨ ∃ index now networks, t.Records m index now networks := by
  cases m with
  | arrive now => exact Or.inl rfl
  | advance index scanner =>
      cases hr : t.requests[index]? with
      | none => exact Or.inl (by simp only [move, hr])
      | some r =>
          obtain ⟨now, stage⟩ := r
          have hmove : (t.move (.advance index scanner)).cache
              = (ScanRequest.step scanner t.cache ⟨now, stage⟩).1 := by simp only [move, hr]
          rw [hmove]
          cases stage with
          | record result =>
              cases result with
              | error e => exact Or.inl rfl
              | ok networks => exact Or.inr ⟨index, now, networks, ⟨scanner, rfl⟩, hr⟩
          | read =>
              left
              unfold ScanRequest.step
              dsimp only
              split <;> rfl
          | check | scan | askConnected | done _ => exact Or.inl rfl

/-- A move changes no request but the one that it advances. -/
theorem requests_move {t : ScanTraffic ε} {m : Move ε} {index : Nat} {r : ScanRequest ε}
    (h : (t.move m).requests[index]? = some r) :
    (t.requests[index]? = some r ∧ ∀ scanner, m ≠ .advance index scanner)
      ∨ (∃ now, r = .start now)
      ∨ ∃ scanner r', m = .advance index scanner ∧ t.requests[index]? = some r'
          ∧ r = (r'.step scanner t.cache).2 ∧ (t.move m).cache = (r'.step scanner t.cache).1 := by
  cases m with
  | arrive now =>
      have hmove : (t.move (.arrive now)).requests = t.requests ++ [.start now] := rfl
      rw [hmove] at h
      -- the new request comes behind those that were there
      by_cases hlt : index < t.requests.length
      · rw [List.getElem?_append_left hlt] at h
        exact Or.inl ⟨h, nofun⟩
      · have hmem : r ∈ [ScanRequest.start now] := by
          rw [List.getElem?_append_right (by omega)] at h
          exact List.mem_of_getElem? h
        exact Or.inr (Or.inl ⟨now, List.mem_singleton.mp hmem⟩)
  | advance other scanner =>
      cases hr : t.requests[other]? with
      | none =>
          have hmove : t.move (.advance other scanner) = t := by simp only [move, hr]
          rw [hmove] at h
          refine Or.inl ⟨h, ?_⟩
          rintro scanner' ⟨⟩
          rw [hr] at h
          cases h
      | some r' =>
          have hmove : t.move (.advance other scanner)
              = ⟨(r'.step scanner t.cache).1,
                t.requests.set other (r'.step scanner t.cache).2⟩ := by
            simp only [move, hr]
          rw [hmove] at h
          by_cases hindex : other = index
          · subst hindex
            have hlt : other < t.requests.length := (List.getElem?_eq_some_iff.mp hr).1
            rw [List.getElem?_set_self hlt] at h
            refine Or.inr (Or.inr ⟨scanner, r', rfl, hr, (Option.some.inj h).symm, ?_⟩)
            rw [hmove]
          · rw [List.getElem?_set_ne hindex] at h
            refine Or.inl ⟨h, ?_⟩
            rintro scanner' ⟨⟩
            exact hindex rfl

/-! ## All moves -/

/-- The interval is what it was at the start. -/
theorem interval_after (moves : List (Move ε)) :
    (after interval moves).cache.interval = interval := by
  induction moves using List.reverseRecOn with
  | nil => rfl
  | append_singleton moves m ih =>
      rw [after_concat]
      rcases cache_move (after interval moves) m with hcache | ⟨index, now, networks, hrecords⟩
      · rw [hcache, ih]
      · rw [hrecords.cache_move]
        exact ih

theorem Overtaken.concat {moves : List (Move ε)} {index last : Nat}
    (h : Overtaken interval moves index last) (m : Move ε) :
    Overtaken interval (moves ++ [m]) index last := by
  obtain ⟨before, m', rest, other, networks, r, rfl, h⟩ := h
  exact ⟨before, m', rest ++ [m], other, networks, r, by simp, h⟩

/-- A request that is scanning is ahead of the cache by more than the interval, or was overtaken by
the request that recorded last. This is the invariant; recording is one instance of it. -/
theorem ahead_or_overtaken {moves : List (Move ε)} {index last : Nat} {r : ScanRequest ε}
    (hr : (after interval moves).requests[index]? = some r) (hscanning : r.IsScanning)
    (hlast : (after interval moves).cache.scannedAt = some last) :
    last + interval < r.now ∨ Overtaken interval moves index last := by
  -- on the last move: the verdict of a check, or nothing new, or the record of another request
  induction moves using List.reverseRecOn generalizing r with
  | nil => cases hlast
  | append_singleton moves m ih =>
      rw [after_concat] at hr hlast
      -- where request and cache are as before the move, so is the verdict
      have hsame : ∀ r' : ScanRequest ε, (after interval moves).requests[index]? = some r' →
          r'.IsScanning → r'.now = r.now → (after interval moves).cache.scannedAt = some last →
          last + interval < r.now ∨ Overtaken interval (moves ++ [m]) index last := by
        intro r' hr' hscanning' hnow hlast'
        rcases ih hr' hscanning' hlast' with hahead | hovertaken
        · exact Or.inl (hnow ▸ hahead)
        · exact Or.inr (hovertaken.concat m)
      rcases requests_move hr with
        ⟨hkept, hother⟩ | ⟨now, rfl⟩ | ⟨scanner, r', rfl, hr', rfl, hcache⟩
      · rcases cache_move (after interval moves) m with hcache | ⟨other, now, networks, hrecords⟩
        · rw [hcache] at hlast
          exact hsame r hkept hscanning rfl hlast
        · rw [hrecords.cache_move] at hlast
          cases hlast
          have hne : other ≠ index := by
            rintro rfl
            obtain ⟨scanner, hm⟩ := hrecords.advances
            exact hother scanner hm
          exact Or.inr ⟨moves, m, [], other, networks, r, rfl, hrecords, hne, hkept, hscanning⟩
      · -- a request that has just come is not scanning
        rcases hscanning with hstage | ⟨result, hstage⟩ <;> cases hstage
      · obtain ⟨hstep, hbefore⟩ := ScanRequest.scanning_step hscanning
        rw [hcache, hstep] at hlast
        rcases hbefore with hscanning' | hdue
        · exact hsame r' hr' hscanning' (ScanRequest.now_step _ _ _).symm hlast
        · left
          have hahead := (ScanCache.isDue_iff r'.now _).mp hdue last hlast
          rw [interval_after moves] at hahead
          rwa [ScanRequest.now_step]

/-- A scan that is recorded moves the cache ahead by more than the interval, or its request was
overtaken. -/
theorem Records.ahead_or_overtaken {moves : List (Move ε)} {m : Move ε} {index now last : Nat}
    {networks : List Network} (h : (after interval moves).Records m index now networks)
    (hlast : (after interval moves).cache.scannedAt = some last) :
    last + interval < now ∨ Overtaken interval moves index last :=
  ScanTraffic.ahead_or_overtaken h.ready (Or.inr ⟨_, rfl⟩) hlast

/--
**The cache goes back in time just when the request that records was overtaken.**

After any moves, let one more be made. The cache goes back with it just when the move records the
scan of a request that started before the recorded time, and then another request recorded that
time while this one was scanning. A request that records without being overtaken, and not as
the first, moves the cache ahead by more than the rescan interval.

So it takes two requests that scan at the same time. A device that serves one request after the
other never shows an older list than it did before.
-/
theorem goes_back_iff_overtaken (moves : List (Move ε)) (m : Move ε) :
    ((after interval moves).cache.GoesBack ((after interval moves).move m).cache ↔
      ∃ index now networks last, (after interval moves).Records m index now networks
        ∧ (after interval moves).cache.scannedAt = some last ∧ now < last
        ∧ Overtaken interval moves index last)
    ∧ ∀ index now networks last, (after interval moves).Records m index now networks →
        (after interval moves).cache.scannedAt = some last →
        ((after interval moves).move m).cache = ⟨interval, some now, some networks⟩
          ∧ (last + interval < now ∨ Overtaken interval moves index last) := by
  constructor
  · constructor
    · rintro ⟨last, hlast, hback⟩
      rcases cache_move (after interval moves) m with hcache | ⟨index, now, networks, hrecords⟩
      · rw [hcache] at hback
        exact absurd (hback last hlast) (Nat.lt_irrefl last)
      · rw [hrecords.cache_move] at hback
        have hlt : now < last := hback now rfl
        refine ⟨index, now, networks, last, hrecords, hlast, hlt, ?_⟩
        rcases hrecords.ahead_or_overtaken hlast with hahead | hovertaken
        · omega
        · exact hovertaken
    · rintro ⟨index, now, networks, last, hrecords, hlast, hlt, -⟩
      refine ⟨last, hlast, ?_⟩
      intro now' hnow'
      rw [hrecords.cache_move] at hnow'
      cases hnow'
      exact hlt
  · intro index now networks last hrecords hlast
    have hcache := hrecords.cache_move
    rw [interval_after moves] at hcache
    exact ⟨hcache, hrecords.ahead_or_overtaken hlast⟩

/-- A scanner that finds one network. -/
def finds (name : String) : Scanner String where
  scan := .ok [⟨name, -60, 6⟩]
  connected := none

/-- Two requests find a scan due, half a minute apart, and the later one is done first. -/
def slowScan : List (Move String) :=
  [.arrive 0, .advance 0 (finds "Old"), .arrive 31000, .advance 1 (finds "New"),
    .advance 1 (finds "New"), .advance 1 (finds "New"), .advance 0 (finds "Old")]

/-- The slow request was overtaken. -/
theorem goes_back_iff_overtaken_slow : Overtaken rescanMillis slowScan 0 31000 := by
  have hback : (after rescanMillis slowScan).cache.GoesBack
      ((after rescanMillis slowScan).move (.advance 0 (finds "Old"))).cache :=
    ⟨31000, rfl, fun now hnow => by cases hnow; decide⟩
  obtain ⟨index, now, networks, last, hrecords, hlast, -, hovertaken⟩ :=
    (goes_back_iff_overtaken slowScan _).1.mp hback
  obtain ⟨scanner, hmove⟩ := hrecords.advances
  cases hmove
  cases hlast
  exact hovertaken

/-- The slow request replaces the later result by its own. The cache is then due for a scan within
a millisecond of the last one. -/
theorem late_scan_replaces_newer :
    (after rescanMillis slowScan).cache = ⟨rescanMillis, some 31000, some [⟨"New", -60, 6⟩]⟩
      ∧ ((after rescanMillis slowScan).move (.advance 0 (finds "Old"))).cache
          = ⟨rescanMillis, some 0, some [⟨"Old", -60, 6⟩]⟩
      ∧ (after rescanMillis slowScan).cache.GoesBack
          ((after rescanMillis slowScan).move (.advance 0 (finds "Old"))).cache
      ∧ (after rescanMillis slowScan).cache.isDue 31001 = false
      ∧ ((after rescanMillis slowScan).move (.advance 0 (finds "Old"))).cache.isDue 31001 = true :=
  ⟨rfl, rfl, ⟨31000, rfl, fun now hnow => by cases hnow; decide⟩, by decide, by decide⟩

end ScanTraffic

end DeviceSetup
