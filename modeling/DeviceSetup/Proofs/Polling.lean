import DeviceSetup.Proofs.PollTimers
import DeviceSetup.Proofs.Runs

/-!
# Polling goes on

While polling is on, something must be bound to happen next: either the poller has a timer
pending, or a scan has been asked for and not been answered. Otherwise scanning would end
without any error, since only a timer or an answer leads to the next scan. And once polling
is off, no answer that is still to come may start a timer again.

`PollStep` lists what one event can do about this, and the invariant `Polling` follows
for every run of a session.
-/

namespace DeviceSetup

/-- Starts no poll timer, and asks for a scan, if it does, by the one request for scans. All effects
are plain but the timer that is started on the result of a scan. -/
def Effect.Plain : Effect → Prop
  | .fetch .scan request => request = scanRequest
  | .timer (.start _ .poll _) => False
  | _ => True

/-- The events that start polling. -/
def Event.StartsPolling (e : Event) : Prop :=
  e = .shell .startScanning ∨ e.SetsUp

namespace Model

/-! ## What one event does about polling -/

/-- All that an event can do to polling. -/
inductive PollStep (m : Model) (e : Event) : Prop where
  /-- Polling is as it was; the result of a scan leaves it so only when it is off. -/
  | kept (hrun : (update m e).1.poller.running = m.poller.running)
      (hpend : (update m e).1.poller.pending = m.poller.pending)
      (hscan : ∀ result, e = .scanReceived result → m.poller.running = false)
      (hplain : ∀ x ∈ (update m e).2, x.Plain)
  /-- A scan is asked for, and no timer is pending. -/
  | asked (hrun : (update m e).1.poller.running = m.poller.running ∨ e.StartsPolling)
      (hpend : (update m e).1.poller.pending = none)
      (hmem : Effect.fetch .scan scanRequest ∈ (update m e).2)
      (hplain : ∀ x ∈ (update m e).2, x.Plain)
  /-- Polling is off. -/
  | stopped (hrun : (update m e).1.poller.running = false)
      (hpend : (update m e).1.poller.pending = none)
      (hplain : ∀ x ∈ (update m e).2, x.Plain)
  /-- The next scan is scheduled. -/
  | scheduled (hrun : m.poller.running = true)
      (hrun' : (update m e).1.poller.running = true)
      (hpend : (update m e).1.poller.pending.isSome = true)
      (hnone : ∀ request, Effect.fetch .scan request ∉ (update m e).2)

/-- Cancelling a timer starts none and asks for no scan. -/
theorem plain_cancelling (p : Poller) : ∀ x ∈ p.cancelling, x.Plain := by
  intro x hx
  unfold Poller.cancelling at hx
  split at hx
  · rw [List.mem_singleton.mp hx]
    trivial
  · simp at hx

theorem fetch_not_mem_cancelling (p : Poller) (purpose : Purpose) (request : Http.Request) :
    Effect.fetch purpose request ∉ p.cancelling := by
  unfold Poller.cancelling
  split <;> simp

theorem plain_poll (p : Poller) : ∀ x ∈ p.poll.2, x.Plain := by
  intro x hx
  rcases List.mem_append.mp hx with hx | hx
  · exact plain_cancelling p x hx
  · rw [List.mem_singleton.mp hx]
    exact rfl

theorem mem_poll (p : Poller) : Effect.fetch .scan scanRequest ∈ p.poll.2 :=
  List.mem_append_right _ (List.mem_singleton.mpr rfl)

/-- A step that leaves the poller as it is. Most events are such steps. -/
def Aside (m : Model) (step : Step) : Prop :=
  step.1.poller = m.poller ∧ ∀ x ∈ step.2, x.Plain

theorem aside_render {m m' : Model} (h : m'.poller = m.poller) : Aside m (m', [.render]) :=
  ⟨h, by simp [Effect.Plain]⟩

theorem aside_self (m : Model) : Aside m (m, []) :=
  ⟨rfl, by simp⟩

theorem PollStep.other {m : Model} {e : Event} (hscan : ∀ result, e ≠ .scanReceived result)
    (h : Aside m (update m e)) : PollStep m e :=
  .kept (by rw [h.1]) (by rw [h.1]) (fun result he => absurd he (hscan result)) h.2

/-- The model that a new schema leads to, before scanning starts. -/
def installed (m : Model) (schema : Schema) (format : WireFormat) : Model :=
  ({ m with poller := m.poller.stop.1 }.install schema format).startLoading

/-- What a set-up comes to, all its parts in a row: the old timer is cancelled, the form is put up,
the configuration is fetched, and scanning starts if the form has a use for it. -/
theorem update_setUp (m : Model) (format : WireFormat) {settings : String} {schema : Schema}
    (hs : Schema.ofText settings = .ok schema) :
    update m (.shell (.setUp settings format))
      = ((m.installed schema format).scanIfNeeded.1,
          m.poller.cancelling ++ .render :: .render
            :: .fetch .loadConfig (configRequest format)
            :: (m.installed schema format).scanIfNeeded.2) := by
  simp only [update, setUp, hs]
  simp [fetchConfig, installed, Poller.stop, install]

theorem pollStep_setUp (m : Model) (settings : String) (format : WireFormat) :
    PollStep m (.shell (.setUp settings format)) := by
  cases hs : Schema.ofText settings with
  | error why =>
      refine .other (by simp) ?_
      simp only [update, setUp, hs]
      exact aside_render rfl
  | ok schema =>
      have hset : (Event.shell (.setUp settings format)).SetsUp :=
        ⟨settings, format, schema, rfl, hs⟩
      -- what is asked for besides scanning
      have hfront : ∀ effects : List Effect, (∀ x ∈ effects, x.Plain) →
          ∀ x ∈ m.poller.cancelling ++ .render :: .render
            :: .fetch .loadConfig (configRequest format) :: effects, x.Plain := by
        intro effects heffects x hx
        rcases List.mem_append.mp hx with hx | hx
        · exact plain_cancelling _ x hx
        · simp only [List.mem_cons] at hx
          rcases hx with rfl | rfl | rfl | hx
          · trivial
          · trivial
          · trivial
          · exact heffects x hx
      have hup := update_setUp m format hs
      -- with a combo in the form polling starts anew; without one it is off
      unfold scanIfNeeded at hup
      cases hn : (m.installed schema format).form.hasNetwork with
      | true =>
          rw [hn, if_pos rfl] at hup
          refine .asked (Or.inr (Or.inr hset)) ?_ ?_ ?_
          · rw [hup]; rfl
          · rw [hup]
            exact List.mem_append_right _ (by simp [Poller.start, mem_poll])
          · rw [hup]
            exact hfront _ (plain_poll _)
      | false =>
          rw [hn, if_neg (by simp)] at hup
          refine .stopped ?_ ?_ ?_
          · rw [hup]; rfl
          · rw [hup]; rfl
          · rw [hup]
            exact hfront _ (by simp)

/-- The result of a scan schedules the next one while polling is on, whether it failed or not. -/
theorem pollStep_scanReceived (m : Model) (result : Except String ScanReport) :
    PollStep m (.scanReceived result) := by
  have hup : update m (.scanReceived result)
      = ({ m with
            poller := (m.poller.scanned m.form result).1
            form := (m.poller.scanned m.form result).2.1 },
          (m.poller.scanned m.form result).2.2) := rfl
  cases hrun : m.poller.running with
  | true =>
      obtain ⟨hp, he⟩ := Poller.scanned_on hrun m.form result
      refine .scheduled hrun ?_ ?_ ?_
      · rw [hup, hp]
        exact (m.poller.keepScan_running result).trans hrun
      · rw [hup, hp]
        rfl
      · rw [hup, he]
        intro request hmem
        rcases List.mem_append.mp hmem with hmem | hmem
        · rcases List.mem_append.mp hmem with hmem | hmem
          · cases result <;> simp [Poller.shown] at hmem
          · exact fetch_not_mem_cancelling _ _ _ hmem
        · simp [Poller.schedule] at hmem
  | false =>
      obtain ⟨hp, he⟩ := Poller.scanned_off hrun m.form result
      refine .kept ?_ ?_ (fun _ _ => hrun) ?_
      · rw [hup, hp]
        exact m.poller.keepScan_running result
      · rw [hup, hp]
        exact m.poller.keepScan_pending result
      · rw [hup, he]
        cases result <;> simp [Poller.shown, Effect.Plain]

/-- The pending timer going off leads to the next scan; any other output leads to nothing. -/
theorem pollStep_pollTimer (m : Model) (output : TimerOutput) :
    PollStep m (.pollTimer output) := by
  have hup : update m (.pollTimer output)
      = ({ m with poller := (m.poller.timed output).1 }, (m.poller.timed output).2) := rfl
  by_cases hself : m.poller.timed output = (m.poller, [])
  · rw [hself] at hup
    refine .other (by simp) ?_
    rw [hup]
    exact aside_self m
  · obtain ⟨id, rfl, hid⟩ := (Poller.timed_ne_self_iff m.poller output).mp hself
    rw [Poller.timed_armed hid] at hup
    cases hrun : m.poller.running with
    | true =>
        rw [hrun, if_pos rfl] at hup
        refine .asked (Or.inl ?_) ?_ ?_ ?_
        · rw [hup]; rfl
        · rw [hup]; rfl
        · rw [hup]; exact mem_poll _
        · rw [hup]; exact plain_poll _
    | false =>
        rw [hrun, if_neg (by simp)] at hup
        refine .stopped ?_ ?_ ?_
        · rw [hup]; exact hrun
        · rw [hup]; rfl
        · rw [hup]; simp

/-- **Every event is one of the four cases.** This is all that is known about events from here on;
what follows is about the four cases. -/
theorem pollStep (m : Model) (e : Event) : PollStep m e := by
  cases e with
  | scanReceived result => exact pollStep_scanReceived m result
  | pollTimer output => exact pollStep_pollTimer m output
  | saveAnswered g result =>
      refine .other (by simp) ?_
      simp only [update, saveAnswered]
      split
      · exact aside_self m
      · refine ⟨?_, by simp [Effect.Plain]⟩
        cases result <;> rfl
  | saveTimer output =>
      refine .other (by simp) ?_
      simp only [update, saveTimer]
      split
      · split
        · exact aside_render rfl
        · exact aside_self m
      · exact aside_self m
      · exact aside_self m
  | configReceived result =>
      refine .other (by simp) ?_
      simp only [update, configReceived]
      split
      · exact aside_render rfl
      · split <;> exact aside_render rfl
  | shell e =>
      cases e with
      | setUp settings format => exact pollStep_setUp m settings format
      | startScanning =>
          exact .asked (Or.inr (Or.inl rfl)) rfl (mem_poll _) (plain_poll _)
      | stopScanning => exact .stopped rfl rfl (plain_cancelling _)
      | rescan => exact .asked (Or.inl rfl) rfl (mem_poll _) (plain_poll _)
      | reload => exact .other (by simp) ⟨rfl, by simp [update, fetchConfig, Effect.Plain]⟩
      | save =>
          refine .other (by simp) ?_
          simp only [update, save]
          split
          · exact aside_self m
          · split
            · exact aside_render rfl
            · exact ⟨rfl, by simp [Effect.Plain]⟩
      | edit id e =>
          refine .other (by simp) ?_
          simp only [update, edit]
          split <;> exact aside_render rfl
      | clearError =>
          refine .other (by simp) ?_
          simp only [update, clearError]
          split
          · exact aside_self m
          · exact aside_render rfl
      | clearSuccess =>
          refine .other (by simp) ?_
          simp only [update, clearSuccess]
          split
          · exact aside_self m
          · exact aside_render rfl

/-- Every scan is asked for by the one request for scans. -/
theorem request_of_mem {m : Model} {e : Event} {request : Http.Request}
    (h : Effect.fetch .scan request ∈ (update m e).2) : request = scanRequest := by
  cases pollStep m e with
  | kept _ _ _ hplain => exact hplain _ h
  | asked _ _ _ hplain => exact hplain _ h
  | stopped _ _ hplain => exact hplain _ h
  | scheduled _ _ _ hnone => exact absurd h (hnone request)

/-- While polling is off, only an event that starts it turns it on, and no event starts a timer. -/
theorem off_step {m : Model} (h : m.poller.running = false) (e : Event) :
    (¬ e.StartsPolling → (update m e).1.poller.running = false)
      ∧ ∀ id millis, Effect.timer (.start id .poll millis) ∉ (update m e).2 := by
  cases pollStep m e with
  | kept hrun _ _ hplain => exact ⟨fun _ => hrun.trans h, fun id millis hx => hplain _ hx⟩
  | asked hrun _ _ hplain =>
      exact ⟨fun hno => (hrun.resolve_right hno).trans h, fun id millis hx => hplain _ hx⟩
  | stopped hrun _ hplain => exact ⟨fun _ => hrun, fun id millis hx => hplain _ hx⟩
  | scheduled hrun => exact Bool.noConfusion (h.symm.trans hrun)

end Model

/-! ## Sessions -/

namespace Session

/-- Something is bound to happen next while polling is on, and no timer is pending while it is
off. -/
structure Polling (s : Session) (issued : List Issued) : Prop where
  /-- The poller has a timer pending, or a scan is awaited. -/
  awaited : s.model.poller.running = true →
    s.model.poller.pending.isSome = true ∨ ∃ number, unanswered? s.fetches number = some .scan
  /-- A timer is pending only while polling is on. -/
  armed : s.model.poller.pending.isSome = true → s.model.poller.running = true
  /-- A scan that is awaited was asked for by the request for scans. -/
  requested : ∀ number, unanswered? s.fetches number = some .scan →
    Issued.fetch number scanRequest ∈ issued

theorem polling_initial : Polling .initial [] where
  awaited h := Bool.noConfusion (show false = true from h)
  armed h := Bool.noConfusion (show false = true from h)
  requested number h := by simp [unanswered?, Session.initial] at h

/-- Handling an event keeps the invariant. The result of a scan may come as the last one awaited,
so here the event itself may be what the invariant rests on. -/
theorem polling_send {s : Session} {issued : List Issued} {e : Event}
    (hawaited : s.model.poller.running = true → s.model.poller.pending.isSome = true
      ∨ (∃ number, unanswered? s.fetches number = some .scan) ∨ ∃ result, e = .scanReceived result)
    (harmed : s.model.poller.pending.isSome = true → s.model.poller.running = true)
    (hreq : ∀ number, unanswered? s.fetches number = some .scan →
      Issued.fetch number scanRequest ∈ issued) :
    Polling (s.send e).1 (issued ++ (s.send e).2) := by
  refine ⟨?_, ?_, ?_⟩
  · rw [send_model]
    intro hon
    cases Model.pollStep s.model e with
    | kept hrun hpend hscan _ =>
        rw [hpend]
        rw [hrun] at hon
        rcases hawaited hon with hp | ⟨number, hn⟩ | ⟨result, he⟩
        · exact Or.inl hp
        · exact Or.inr ⟨number, unanswered?_send hn e⟩
        · -- the result of a scan schedules the next one while polling is on
          exact Bool.noConfusion ((hscan result he).symm.trans hon)
    -- what was just asked for is unanswered
    | asked _ _ hmem _ => exact Or.inr (waits_of_send hmem)
    | stopped hrun _ _ => exact Bool.noConfusion (hrun.symm.trans hon)
    | scheduled _ _ hpend _ => exact Or.inl hpend
  · rw [send_model]
    intro hsome
    cases Model.pollStep s.model e with
    | kept hrun hpend _ _ =>
        rw [hpend] at hsome
        exact hrun.trans (harmed hsome)
    | asked _ hpend _ _ => rw [hpend] at hsome; exact Bool.noConfusion hsome
    | stopped _ hpend _ => rw [hpend] at hsome; exact Bool.noConfusion hsome
    | scheduled _ hrun _ _ => exact hrun
  · intro number hn
    rcases waited_or_sent hn with hbefore | ⟨request, hmem, hissued⟩
    · exact List.mem_append_left _ (hreq number hbefore)
    · rw [Model.request_of_mem hmem] at hissued
      exact List.mem_append_right _ hissued

/--
**Every move keeps the invariant.**

A request counts as answered by the time that its answer is handled. For that moment the invariant
may rest on the event alone, and `polling_send` allows for that.
-/
theorem polling_step {s u : Session} {issued more : List Issued} {mv : Move}
    (h : Polling s issued) (hmv : s.move mv = some (u, more)) : Polling u (issued ++ more) := by
  cases mv with
  | shell e =>
      obtain ⟨rfl, rfl⟩ := Prod.mk.inj (Option.some.inj hmv)
      exact polling_send (fun hon => (h.awaited hon).imp_right Or.inl) h.armed h.requested
  | answerTimer number output =>
      obtain ⟨op, _, hu⟩ := Option.map_eq_some_iff.mp hmv
      obtain ⟨rfl, rfl⟩ := Prod.mk.inj hu
      exact polling_send (s := { s with timers := markAnswered s.timers number })
        (fun hon => (h.awaited hon).imp_right Or.inl) h.armed h.requested
  | answerFetch number outcome =>
      obtain ⟨purpose, hp, hu⟩ := Option.map_eq_some_iff.mp hmv
      obtain ⟨rfl, rfl⟩ := Prod.mk.inj hu
      refine polling_send (s := { s with fetches := markAnswered s.fetches number }) ?_ h.armed
        (fun n hn => h.requested n (unanswered?_markAnswered.mp hn).2)
      intro hon
      rcases h.awaited hon with hsome | ⟨n, hn⟩
      · exact Or.inl hsome
      · -- the scan that is awaited is the request that is answered, or another one
        refine Or.inr ?_
        by_cases heq : n = number
        · subst heq
          rw [hp] at hn
          rw [Option.some.inj hn]
          exact Or.inr ⟨_, rfl⟩
        · exact Or.inl ⟨n, unanswered?_markAnswered.mpr ⟨heq, hn⟩⟩

theorem polling_run {moves : List Move} {issued : List Issued} {s : Session}
    (h : Run .initial moves issued s) : Polling s issued := by
  induction h with
  | init => exact polling_initial
  | tail _ hmv ih => exact polling_step ih hmv

/-- The moves that start polling. -/
def Move.StartsPolling : Move → Prop
  | .shell e => (Event.shell e).StartsPolling
  | _ => False

/-- A move is the handling of one event by the model, and an answer never starts polling. Only the
session's own lists differ before the event is handled. -/
theorem move_send {s u : Session} {mv : Move} {more : List Issued}
    (h : s.move mv = some (u, more)) :
    ∃ (t : Session) (e : Event), t.model = s.model ∧ u = (t.send e).1 ∧ more = (t.send e).2
      ∧ (e.StartsPolling → mv.StartsPolling) := by
  cases mv with
  | shell e =>
      have hu := Option.some.inj h
      exact ⟨s, .shell e, rfl, (congrArg Prod.fst hu).symm, (congrArg Prod.snd hu).symm, id⟩
  | answerFetch number outcome =>
      obtain ⟨purpose, _, hu⟩ := Option.map_eq_some_iff.mp h
      refine ⟨{ s with fetches := markAnswered s.fetches number }, _, rfl,
        (congrArg Prod.fst hu).symm, (congrArg Prod.snd hu).symm, ?_⟩
      rintro (he | ⟨_, _, _, he, _⟩) <;> cases purpose <;> exact Event.noConfusion he
  | answerTimer number output =>
      obtain ⟨op, _, hu⟩ := Option.map_eq_some_iff.mp h
      refine ⟨{ s with timers := markAnswered s.timers number }, _, rfl,
        (congrArg Prod.fst hu).symm, (congrArg Prod.snd hu).symm, ?_⟩
      generalize op.kind = kind
      rintro (he | ⟨_, _, _, he, _⟩) <;> cases kind <;> exact Event.noConfusion he

/-- Polling that is off stays off, and starts no timer, until it is started. -/
theorem off_run {s u : Session} {moves : List Move} {issued : List Issued}
    (h : Run s moves issued u) (hoff : s.model.poller.running = false)
    (hmoves : ∀ mv ∈ moves, ¬ mv.StartsPolling) :
    u.model.poller.running = false
      ∧ ∀ number id millis, Issued.timer number (.start id .poll millis) ∉ issued := by
  induction h with
  | init => exact ⟨hoff, fun _ _ _ => List.not_mem_nil⟩
  | @tail moves issued t u mv more _ hmv ih =>
      obtain ⟨hoff', hnone⟩ := ih fun mv' h' => hmoves mv' (List.mem_append_left _ h')
      -- the last move, as the event that the model sees
      obtain ⟨t', e, hmodel, hu, hmore, hstart⟩ := move_send hmv
      rw [← hmodel] at hoff'
      obtain ⟨hstays, harms⟩ := Model.off_step hoff' e
      refine ⟨?_, ?_⟩
      · rw [hu, send_model]
        exact hstays fun he => hmoves mv (by simp) (hstart he)
      · intro number id millis hmem
        rcases List.mem_append.mp hmem with hmem | hmem
        · exact hnone number id millis hmem
        · rw [hmore] at hmem
          exact harms id millis (mem_of_sent_timer hmem)

/--
**Polling never dies silently.**

At every point of every run of a session from the start: if polling is on, then the poller says that
a timer is pending, or a request for a scan has been issued and is still unanswered; it says so of a
timer only if polling is on; and from a point where polling is off, no poll timer is ever started,
whatever is answered, until a move starts polling.

So nothing the shell does, in whichever order it answers, leaves polling on with nothing left that
would lead to the next scan; and no late answer brings polling back that was stopped.
-/
theorem polling_never_dies {moves : List Move} {issued : List Issued} {s : Session}
    (h : Run .initial moves issued s) :
    (s.model.poller.running = true → s.model.poller.pending.isSome = true
      ∨ ∃ number, Issued.fetch number scanRequest ∈ issued
        ∧ (unanswered? s.fetches number).isSome = true)
    ∧ (s.model.poller.pending.isSome = true → s.model.poller.running = true)
    ∧ (s.model.poller.running = false → ∀ moves' issued' s', Run s moves' issued' s' →
        (∀ mv ∈ moves', ¬ mv.StartsPolling) →
        s'.model.poller.running = false
        ∧ ∀ number id millis, Issued.timer number (.start id .poll millis) ∉ issued') := by
  have hp := polling_run h
  refine ⟨fun hon => ?_, hp.armed, fun hoff moves' issued' s' h' => off_run h' hoff⟩
  rcases hp.awaited hon with hsome | ⟨number, hn⟩
  · exact Or.inl hsome
  · exact Or.inr ⟨number, hp.requested number hn, by rw [hn]; rfl⟩

/-- A second scan is asked for while the first is awaited; and polling is stopped while a scan is
awaited, which then fails. -/
theorem polling_never_dies_awaiting :
    (∃ issued s, Run .initial [.shell .startScanning, .shell .rescan] issued s
      ∧ s.model.poller.running = true ∧ s.model.poller.pending = none
      ∧ ∃ number, Issued.fetch number scanRequest ∈ issued
        ∧ (unanswered? s.fetches number).isSome = true)
    ∧ ∃ issued s issued' s', Run .initial [.shell .startScanning, .shell .stopScanning] issued s
      ∧ Run s [.answerFetch 0 (.error .timeout)] issued' s' ∧ s.model.poller.running = false
      ∧ ∀ number id millis, Issued.timer number (.start id .poll millis) ∉ issued' := by
  constructor
  · obtain ⟨issued, s, hrun, hon, hnone⟩ :
        ∃ issued s, Run .initial [.shell .startScanning, .shell .rescan] issued s
          ∧ s.model.poller.running = true ∧ s.model.poller.pending = none :=
      ⟨_, _, .tail (.tail .init rfl) rfl, rfl, rfl⟩
    refine ⟨issued, s, hrun, hon, hnone, ?_⟩
    refine ((polling_never_dies hrun).1 hon).resolve_left ?_
    rw [hnone]
    exact Bool.noConfusion
  · obtain ⟨issued, s, issued', s', hrun, hlate, hoff⟩ : ∃ issued s issued' s',
        Run .initial [.shell .startScanning, .shell .stopScanning] issued s
          ∧ Run s [.answerFetch 0 (.error .timeout)] issued' s'
          ∧ s.model.poller.running = false :=
      ⟨_, _, _, _, .tail (.tail .init rfl) rfl, .tail .init rfl, rfl⟩
    refine ⟨issued, s, issued', s', hrun, hlate, hoff, ?_⟩
    refine ((polling_never_dies hrun).2.2 hoff _ _ _ hlate ?_).2
    intro mv hmv hstarts
    rw [List.mem_singleton.mp hmv] at hstarts
    exact hstarts

end Session

end DeviceSetup
