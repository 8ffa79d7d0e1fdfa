import DeviceSetup.App.Poller

/-!
# Poll timers

The poller says which timer is armed in one field, `pending`, and everything else it knows
of timers is the effects it has issued. This file reads those effects back: of all the
marks that a sequence of operations leaves, in order, the timers that were started and
neither cancelled nor used up are exactly what `pending` says.

`Ledger` is the list of marks that may come about, one mark at a time. Every operation
only extends a ledger (`kept_step`), and the laws are read off a ledger by induction:
numbers are given out in increasing order, only an armed timer is cancelled, and at no
point are two timers armed.
-/

namespace DeviceSetup.Poller

/-! ## What the operations do -/

@[simp] theorem keepScan_running (p : Poller) (result : Except String ScanReport) :
    (p.keepScan result).running = p.running := by
  cases result <;> rfl

@[simp] theorem keepScan_pending (p : Poller) (result : Except String ScanReport) :
    (p.keepScan result).pending = p.pending := by
  cases result <;> rfl

@[simp] theorem keepScan_lastTimer (p : Poller) (result : Except String ScanReport) :
    (p.keepScan result).lastTimer = p.lastTimer := by
  cases result <;> rfl

/-- What is asked for on account of a scan itself. -/
def shown : Except String ScanReport → List Effect
  | .ok _ => [.render]
  | .error _ => []

/-- While polling is on, the result of a scan replaces the armed timer by the next one. -/
theorem scanned_on {p : Poller} (h : p.running = true) (form : Form)
    (result : Except String ScanReport) :
    (p.scanned form result).1 = (p.keepScan result).disarm.schedule.1
      ∧ (p.scanned form result).2.2
        = shown result ++ (p.keepScan result).cancelling
          ++ (p.keepScan result).disarm.schedule.2 := by
  cases result <;> simp [scanned, h, shown]

/-- While polling is off, the result of a scan arms no timer. -/
theorem scanned_off {p : Poller} (h : p.running = false) (form : Form)
    (result : Except String ScanReport) :
    (p.scanned form result).1 = p.keepScan result
      ∧ (p.scanned form result).2.2 = shown result := by
  cases result <;> simp [scanned, h, shown]

/-- The armed timer going off is disarmed, and leads to the next scan while polling is on. -/
theorem timed_armed {p : Poller} {id : Nat} (h : p.pending = some id) :
    p.timed (.fired id .poll) = if p.running then p.disarm.poll else (p.disarm, []) := by
  simp [timed, h]

/-- The output of a timer comes to something exactly if it is the armed timer going off. -/
theorem timed_ne_self_iff (p : Poller) (output : TimerOutput) :
    p.timed output ≠ (p, []) ↔ ∃ id, output = .fired id .poll ∧ p.pending = some id := by
  constructor
  · intro hne
    cases output with
    | cancelled id kind => exact absurd rfl hne
    | fired id kind =>
        cases kind with
        | saveTimeout => exact absurd rfl hne
        | poll =>
            refine ⟨id, rfl, Classical.byContradiction fun hp => hne ?_⟩
            simp [timed, hp]
  · rintro ⟨id, rfl, hp⟩ hself
    -- the armed timer is disarmed, whatever else happens
    have hnone : (p.timed (.fired id .poll)).1.pending = none := by
      rw [timed_armed hp]
      split <;> rfl
    rw [hself, hp] at hnone
    simp at hnone

/-! ## Operations and their marks -/

/-- What may be done to a poller, in any order: nothing here assumes that the shell answers only
what it was asked. -/
inductive Op where
  | track (form : Form)
  | mergeLast (form : Form)
  | start
  | stop
  | poll
  | scanned (form : Form) (result : Except String ScanReport)
  | timed (output : TimerOutput)

/-- The poller after an operation, and what it asks for. -/
def apply (p : Poller) : Op → Poller × List Effect
  | .track form => (p.track form, [])
  | .mergeLast _ => (p, [])
  | .start => p.start
  | .stop => p.stop
  | .poll => p.poll
  | .scanned form result => ((p.scanned form result).1, (p.scanned form result).2.2)
  | .timed output => p.timed output

/-- What an operation leaves behind: an effect, or that a timer is used up. The second is no effect,
since the shell knows of it already. -/
inductive Mark where
  | effect (e : Effect)
  | consumed (id : Nat)
  deriving DecidableEq

/-- The timer that an output names. -/
def timerOf : TimerOutput → Nat
  | .fired id _ | .cancelled id _ => id

/-- The timer that an operation uses up: the one that an output names, unless nothing comes of
it. -/
def consumption (p : Poller) : Op → List Mark
  | .timed output => if p.timed output = (p, []) then [] else [.consumed (timerOf output)]
  | _ => []

/-- The marks of an operation, in order. -/
def marks (p : Poller) (op : Op) : List Mark :=
  p.consumption op ++ (p.apply op).2.map .effect

/-- The poller after some operations from the start, and their marks. -/
def run (ops : List Op) : Poller × List Mark :=
  ops.foldl (fun s op => ((s.1.apply op).1, s.2 ++ s.1.marks op)) (idle, [])

/-- The poller after some operations. -/
def after (ops : List Op) : Poller := (run ops).1

/-- The marks of some operations, in order. -/
def trace (ops : List Op) : List Mark := (run ops).2

/-! ## What the marks say -/

/-- The mark of starting a poll timer. -/
inductive Mark.Starts (id : Nat) : Mark → Prop where
  | intro (millis : Nat) : Starts id (.effect (.timer (.start id .poll millis)))

/-- The marks after which a poll timer is no longer armed. -/
inductive Mark.Ends (id : Nat) : Mark → Prop where
  | cancelled : Ends id (.effect (.timer (.cancel id .poll)))
  | consumed : Ends id (.consumed id)

/-- A poll timer was started and has neither been cancelled nor used up. -/
def Armed (t : List Mark) (id : Nat) : Prop :=
  (∃ x ∈ t, x.Starts id) ∧ ∀ x ∈ t, ¬ x.Ends id

/-- The poll timers that were started, in order. -/
def startedIds (t : List Mark) : List Nat :=
  t.filterMap fun
    | .effect (.timer (.start id .poll _)) => some id
    | _ => none

theorem startedIds_append (t u : List Mark) :
    startedIds (t ++ u) = startedIds t ++ startedIds u :=
  List.filterMap_append

/-- The numbers in the list are those of timers that were started. -/
theorem mem_startedIds {t : List Mark} {id : Nat} :
    id ∈ startedIds t ↔ ∃ x ∈ t, x.Starts id := by
  unfold startedIds
  rw [List.mem_filterMap]
  constructor
  · rintro ⟨x, hx, h⟩
    split at h
    · rename_i id' millis
      rw [Option.some.inj h] at hx
      exact ⟨_, hx, .intro millis⟩
    · simp at h
  · rintro ⟨x, hx, ⟨millis⟩⟩
    exact ⟨_, hx, rfl⟩

theorem Mark.Starts.unique {x : Mark} {id id' : Nat} (h : x.Starts id) (h' : x.Starts id') :
    id' = id := by
  cases h; cases h'; rfl

theorem Mark.Ends.unique {x : Mark} {id id' : Nat} (h : x.Ends id) (h' : x.Ends id') :
    id' = id := by
  cases h <;> cases h' <;> rfl

theorem Mark.Starts.not_ends {x : Mark} {id id' : Nat} (h : x.Starts id) : ¬ x.Ends id' := by
  cases h
  exact fun h' => nomatch h'

/--
The marks that may come about, with the number of the last timer and the timer that is armed.

This is the whole discipline, one mark at a time: numbers go up by one, a timer is started while
none is armed, and only the armed one ends.
-/
inductive Ledger : List Mark → Nat → Option Nat → Prop where
  | empty : Ledger [] 0 none
  /-- A timer is started while none is armed. -/
  | start {t : List Mark} {last : Nat} {x : Mark} :
      Ledger t last none → x.Starts (last + 1) → Ledger (t ++ [x]) (last + 1) (some (last + 1))
  /-- The armed timer is cancelled or used up. -/
  | finish {t : List Mark} {last id : Nat} {x : Mark} :
      Ledger t last (some id) → x.Ends id → Ledger (t ++ [x]) last none
  /-- Something that is not about poll timers. -/
  | other {t : List Mark} {last : Nat} {armed : Option Nat} {x : Mark} :
      Ledger t last armed → (∀ id, ¬ x.Starts id ∧ ¬ x.Ends id) → Ledger (t ++ [x]) last armed

/-! ## Reading a ledger -/

/-- The armed timer is one whose number has been given out. -/
theorem Ledger.armed_le {t : List Mark} {last id : Nat} {armed : Option Nat}
    (h : Ledger t last armed) (ha : armed = some id) : id ≤ last := by
  induction h with
  | empty => simp at ha
  | start _ _ _ => exact Nat.le_of_eq (Option.some.inj ha).symm
  | finish _ _ _ => simp at ha
  | other _ _ ih => exact ih ha

/-- Every number that occurs has been given out. -/
theorem Ledger.le_last {t : List Mark} {last id : Nat} {armed : Option Nat} {x : Mark}
    (h : Ledger t last armed) (hx : x ∈ t) (hid : x.Starts id ∨ x.Ends id) : id ≤ last := by
  induction h with
  | empty => simp at hx
  | start _ hs ih =>
      rcases List.mem_append.mp hx with hx | hx
      · exact Nat.le_succ_of_le (ih hx)
      · rw [List.mem_singleton.mp hx] at hid
        rcases hid with hid | hid
        · exact Nat.le_of_eq (hs.unique hid)
        · exact absurd hid hs.not_ends
  | finish hl he ih =>
      rcases List.mem_append.mp hx with hx | hx
      · exact ih hx
      · rw [List.mem_singleton.mp hx] at hid
        rcases hid with hid | hid
        · exact absurd he hid.not_ends
        · rw [he.unique hid]
          exact hl.armed_le rfl
  | other _ hno ih =>
      rcases List.mem_append.mp hx with hx | hx
      · exact ih hx
      · rw [List.mem_singleton.mp hx] at hid
        exact absurd hid (not_or.mpr (hno id))

/-- Numbers are given out in increasing order. -/
theorem Ledger.increasing {t : List Mark} {last : Nat} {armed : Option Nat}
    (h : Ledger t last armed) : (startedIds t).Pairwise (· < ·) := by
  -- a mark that starts nothing leaves the list as it is
  have hquiet : ∀ {t : List Mark} {x : Mark}, (∀ id, ¬ x.Starts id) →
      startedIds (t ++ [x]) = startedIds t := by
    intro t x hno
    have hnil : startedIds [x] = [] := by
      refine List.eq_nil_iff_forall_not_mem.mpr fun id hid => ?_
      obtain ⟨y, hy, hs⟩ := mem_startedIds.mp hid
      rw [List.mem_singleton.mp hy] at hs
      exact hno id hs
    rw [startedIds_append, hnil, List.append_nil]
  induction h with
  | empty => exact List.Pairwise.nil
  | @start t last x hl hs ih =>
      have hone : startedIds [x] = [last + 1] := by cases hs; rfl
      rw [startedIds_append, hone, List.pairwise_append]
      refine ⟨ih, List.pairwise_singleton _ _, fun a ha b hb => ?_⟩
      -- the next number is above every number that was given out
      obtain ⟨y, hy, hys⟩ := mem_startedIds.mp ha
      have hle := hl.le_last hy (Or.inl hys)
      rw [List.mem_singleton.mp hb]
      omega
  | finish _ he ih =>
      rw [hquiet fun id hs => hs.not_ends he]
      exact ih
  | other _ hno ih =>
      rw [hquiet fun id => (hno id).1]
      exact ih

/-- What is armed after one more mark. -/
theorem armed_concat {t : List Mark} {x : Mark} {id : Nat} :
    Armed (t ++ [x]) id
      ↔ ((∃ y ∈ t, y.Starts id) ∨ x.Starts id) ∧ (∀ y ∈ t, ¬ y.Ends id) ∧ ¬ x.Ends id := by
  simp [Armed, or_imp, forall_and, or_and_right, exists_or]

/-- **What is armed according to the marks is the armed timer.** So the one number that a ledger
carries stands for all the marks before. -/
theorem Ledger.armed_iff {t : List Mark} {last : Nat} {armed : Option Nat}
    (h : Ledger t last armed) (id : Nat) : Armed t id ↔ armed = some id := by
  induction h with
  | empty =>
      constructor
      · rintro ⟨⟨x, hx, _⟩, _⟩; simp at hx
      · intro ha; simp at ha
  | start hl hs ih =>
      rw [armed_concat]
      constructor
      · rintro ⟨hy | hx, hends, _⟩
        · exact absurd (ih.mp ⟨hy, hends⟩) (by simp)
        · rw [hs.unique hx]
      · intro ha
        rw [← Option.some.inj ha]
        refine ⟨Or.inr hs, fun y hy he => ?_, hs.not_ends⟩
        -- the number is new, so nothing before can be about it
        have hle := hl.le_last hy (Or.inr he)
        omega
  | finish _ he ih =>
      rw [armed_concat]
      constructor
      · -- whatever was armed is what this mark ends
        rintro ⟨hy | hx, hends, hnot⟩
        · rw [Option.some.inj (ih.mp ⟨hy, hends⟩)] at he
          exact absurd he hnot
        · exact absurd he hx.not_ends
      · intro ha; simp at ha
  | other _ hno ih =>
      rw [armed_concat, ← ih]
      constructor
      · rintro ⟨hy | hx, hends, _⟩
        · exact ⟨hy, hends⟩
        · exact absurd hx (hno id).1
      · rintro ⟨hy, hends⟩
        exact ⟨Or.inl hy, hends, (hno id).2⟩

theorem concat_inj {t u : List Mark} {x y : Mark} (h : t ++ [x] = u ++ [y]) : t = u ∧ x = y := by
  obtain ⟨ht, hx⟩ := List.append_inj' h rfl
  exact ⟨ht, List.singleton_inj.mp hx⟩

/-- What came before a mark is a ledger, and says when the mark may come. -/
theorem Ledger.concat_inv {t : List Mark} {x : Mark} {last : Nat} {armed : Option Nat}
    (h : Ledger (t ++ [x]) last armed) :
    ∃ last' armed', Ledger t last' armed' ∧ ∀ id, x.Ends id → armed' = some id := by
  generalize hu : t ++ [x] = u at h
  cases h with
  | empty => simp at hu
  | start hl hs =>
      obtain ⟨rfl, rfl⟩ := concat_inj hu
      exact ⟨_, _, hl, fun id he => absurd he hs.not_ends⟩
  | finish hl he =>
      obtain ⟨rfl, rfl⟩ := concat_inj hu
      exact ⟨_, _, hl, fun id he' => congrArg some (he.unique he').symm⟩
  | other hl hno =>
      obtain ⟨rfl, rfl⟩ := concat_inj hu
      exact ⟨_, _, hl, fun id he => absurd he (hno id).2⟩

/-- Every beginning of a ledger is a ledger. -/
theorem Ledger.of_append {t u : List Mark} {last : Nat} {armed : Option Nat}
    (h : Ledger (t ++ u) last armed) : ∃ last' armed', Ledger t last' armed' := by
  induction u generalizing t with
  | nil => exact ⟨last, armed, by simpa using h⟩
  | cons x u ih =>
      have hsplit : t ++ x :: u = (t ++ [x]) ++ u := by simp
      obtain ⟨_, _, hl⟩ := ih (hsplit ▸ h)
      obtain ⟨last', armed', hl', _⟩ := hl.concat_inv
      exact ⟨last', armed', hl'⟩

/-! ## Every operation extends a ledger -/

/-- The marks so far are a ledger with what the poller says of its timers. This is the invariant of
the poller: its two fields are enough to know what the shell was told. -/
def Kept (p : Poller) (t : List Mark) : Prop :=
  Ledger t p.lastTimer p.pending

/-- Disarming cancels the armed timer, if there is one. -/
theorem kept_disarm {p : Poller} {t : List Mark} (h : p.Kept t) :
    p.disarm.Kept (t ++ p.cancelling.map .effect) := by
  unfold Kept at h ⊢
  unfold cancelling
  cases hp : p.pending with
  | none => rw [hp] at h; simpa [disarm] using h
  | some id => rw [hp] at h; exact h.finish .cancelled

/-- What is not about timers may be asked for at any time. -/
theorem kept_quiet {p : Poller} {t : List Mark} (h : p.Kept t) {e : Effect}
    (he : ∀ op, e ≠ .timer op) : p.Kept (t ++ [.effect e]) := by
  refine Ledger.other h fun id => ⟨?_, ?_⟩
  · rintro ⟨millis⟩; exact he _ rfl
  · rintro ⟨⟩; exact he _ rfl

theorem kept_poll {p : Poller} {t : List Mark} (h : p.Kept t) :
    p.poll.1.Kept (t ++ p.poll.2.map .effect) := by
  have := kept_quiet (kept_disarm h) (e := .fetch .scan scanRequest) (by simp)
  simpa [poll] using this

/-- The next timer may be started once none is armed. -/
theorem kept_schedule {p : Poller} {t : List Mark} (h : p.Kept t) (hp : p.pending = none) :
    p.schedule.1.Kept (t ++ p.schedule.2.map .effect) := by
  unfold Kept at h
  rw [hp] at h
  exact h.start (.intro pollMillis)

theorem kept_shown {p : Poller} {t : List Mark} (h : p.Kept t)
    (result : Except String ScanReport) : p.Kept (t ++ (shown result).map .effect) := by
  cases result with
  | ok report => exact kept_quiet h (by simp)
  | error why => simpa [shown] using h

theorem kept_scanned {p : Poller} {t : List Mark} (h : p.Kept t) (form : Form)
    (result : Except String ScanReport) :
    (p.scanned form result).1.Kept (t ++ (p.scanned form result).2.2.map .effect) := by
  have hshown : (p.keepScan result).Kept (t ++ (shown result).map .effect) := by
    unfold Kept
    rw [keepScan_lastTimer, keepScan_pending]
    exact kept_shown h result
  cases hr : p.running with
  | true =>
      -- the old timer goes before the next one comes, so never are two armed in between
      obtain ⟨hp, he⟩ := scanned_on hr form result
      rw [hp, he, List.map_append, List.map_append, ← List.append_assoc, ← List.append_assoc]
      exact kept_schedule (kept_disarm hshown) rfl
  | false =>
      obtain ⟨hp, he⟩ := scanned_off hr form result
      rw [hp, he]
      exact hshown

/-- A timer that goes off is used up if it is the armed one, and is nothing otherwise. -/
theorem kept_timed {p : Poller} {t : List Mark} (h : p.Kept t) (output : TimerOutput) :
    (p.timed output).1.Kept (t ++ p.marks (.timed output)) := by
  by_cases hself : p.timed output = (p, [])
  · have hmarks : p.marks (.timed output) = [] := by simp [marks, consumption, apply, hself]
    rw [hself, hmarks, List.append_nil]
    exact h
  · obtain ⟨id, rfl, hid⟩ := (timed_ne_self_iff p output).mp hself
    -- it is used up before anything is asked for on its account
    have hused : p.disarm.Kept (t ++ [.consumed id]) := by
      unfold Kept at h
      rw [hid] at h
      exact h.finish .consumed
    have hmarks : p.marks (.timed (.fired id .poll))
        = .consumed id :: (p.timed (.fired id .poll)).2.map .effect := by
      simp [marks, consumption, apply, hself, timerOf]
    rw [hmarks, timed_armed hid]
    split
    · simpa using kept_poll hused
    · exact hused

/--
**Every operation extends the ledger.**

The discipline is checked here, operation by operation; what it comes to for a whole run is then a
matter of ledgers alone.
-/
theorem kept_step {p : Poller} {t : List Mark} (h : p.Kept t) (op : Op) :
    (p.apply op).1.Kept (t ++ p.marks op) := by
  cases op with
  | track form =>
      rw [show p.marks (.track form) = [] from rfl, List.append_nil]
      exact h
  | mergeLast form =>
      rw [show p.marks (.mergeLast form) = [] from rfl, List.append_nil]
      exact h
  | start => exact kept_poll (p := { p with running := true }) h
  | stop => exact kept_disarm h
  | poll => exact kept_poll h
  | scanned form result => exact kept_scanned h form result
  | timed output => exact kept_timed h output

theorem kept_after (ops : List Op) : (after ops).Kept (trace ops) := by
  unfold after trace run
  -- from any poller whose marks are a ledger, not only from the first one
  suffices ∀ s : Poller × List Mark, s.1.Kept s.2 →
      (ops.foldl (fun s op => ((s.1.apply op).1, s.2 ++ s.1.marks op)) s).1.Kept
        (ops.foldl (fun s op => ((s.1.apply op).1, s.2 ++ s.1.marks op)) s).2 from
    this (idle, []) .empty
  induction ops with
  | nil => intro s hs; exact hs
  | cons op ops ih => intro s hs; exact ih _ (kept_step hs op)

/--
**The discipline of poll timers.**

Of the marks that any operations leave, in order: timers are started under increasing
numbers; a timer is cancelled only while it is armed; the armed timers are exactly the
one that the poller says is pending, if any; and at no point of the marks are there two
of them. The pending timer going off is used up, and any other output of a timer changes
nothing and asks for nothing.

A second armed timer would make the app scan twice as often from then on, and every further one
would add to it; a timer that was given up but still counted would do the same when it goes off.
-/
theorem poll_timer_discipline (ops : List Op) :
    (startedIds (trace ops)).Pairwise (· < ·)
    ∧ (∀ t u id, trace ops = t ++ .effect (.timer (.cancel id .poll)) :: u → Armed t id)
    ∧ (∀ id, Armed (trace ops) id ↔ (after ops).pending = some id)
    ∧ (∀ t u id id', trace ops = t ++ u → Armed t id → Armed t id' → id = id')
    ∧ (∀ id, (after ops).pending = some id →
        .consumed id ∈ (after ops).marks (.timed (.fired id .poll)))
    ∧ (∀ id kind, (after ops).pending ≠ some id →
        (after ops).timed (.fired id kind) = (after ops, []))
    ∧ (∀ id, (after ops).timed (.fired id .saveTimeout) = (after ops, []))
    ∧ (∀ id kind, (after ops).timed (.cancelled id kind) = (after ops, [])) := by
  have hl : Ledger (trace ops) (after ops).lastTimer (after ops).pending := kept_after ops
  refine ⟨hl.increasing, ?_, hl.armed_iff, ?_, ?_, ?_, fun _ => rfl, fun _ _ => rfl⟩
  · -- cut at the cancelling, what came before is a ledger that has the timer armed
    intro t u id htrace
    have hsplit : trace ops = (t ++ [.effect (.timer (.cancel id .poll))]) ++ u := by
      rw [htrace]; simp
    obtain ⟨_, _, hupto⟩ := (hsplit ▸ hl).of_append
    obtain ⟨_, armed, hbefore, harmed⟩ := hupto.concat_inv
    exact (hbefore.armed_iff id).mpr (harmed id .cancelled)
  · intro t u id id' htrace h h'
    obtain ⟨_, _, hbefore⟩ := (htrace ▸ hl).of_append
    rw [hbefore.armed_iff] at h h'
    exact Option.some.inj (h.symm.trans h')
  · intro id hp
    have hne := (timed_ne_self_iff (after ops) _).mpr ⟨id, rfl, hp⟩
    simp [marks, consumption, if_neg hne, timerOf]
  · intro id kind hp
    refine Classical.byContradiction fun hne => ?_
    obtain ⟨id', heq, hp'⟩ := (timed_ne_self_iff (after ops) _).mp hne
    rw [(TimerOutput.fired.inj heq).1] at hp
    exact hp hp'

end DeviceSetup.Poller
