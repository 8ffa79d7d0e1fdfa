import DeviceSetup.Proofs.Polling

/-!
# What is asked of the device

Of the effects of an event only a few are requests to the device, and these come in few
combinations: a save, the configuration, the configuration and a scan, or a scan. `fetchStep`
says so once for all events, together with what becomes of the two fields that such
requests are counted and waited for in.

A session remembers the purpose of every request it made. `asked` is that record: answering
leaves it as it is, and an event adds its requests at the end.
-/

namespace DeviceSetup

/-- The request to the device that an effect is, with its purpose. -/
def Effect.fetch? : Effect → Option (Purpose × Http.Request)
  | .fetch purpose request => some (purpose, request)
  | .render | .timer _ => none

/-- The requests to the device among some effects, in order. -/
def fetched (effects : List Effect) : List (Purpose × Http.Request) :=
  effects.filterMap Effect.fetch?

theorem mem_fetched {effects : List Effect} {purpose : Purpose} {request : Http.Request} :
    (purpose, request) ∈ fetched effects ↔ Effect.fetch purpose request ∈ effects := by
  unfold fetched
  rw [List.mem_filterMap]
  constructor
  · rintro ⟨x, hx, hf⟩
    cases x with
    | fetch purpose' request' =>
        cases hf
        exact hx
    | render | timer _ => cases hf
  · intro h
    exact ⟨_, h, rfl⟩

theorem fetched_append (xs ys : List Effect) : fetched (xs ++ ys) = fetched xs ++ fetched ys :=
  List.filterMap_append

theorem fetched_eq_nil {effects : List Effect}
    (h : ∀ purpose request, Effect.fetch purpose request ∉ effects) : fetched effects = [] := by
  rw [List.eq_nil_iff_forall_not_mem]
  rintro ⟨purpose, request⟩ hmem
  exact h purpose request (mem_fetched.mp hmem)

namespace Poller

theorem fetched_cancelling (p : Poller) : fetched p.cancelling = [] :=
  fetched_eq_nil (Model.fetch_not_mem_cancelling p)

theorem fetched_poll (p : Poller) : fetched p.poll.2 = [(.scan, scanRequest)] := by
  rw [poll, fetched_append, fetched_cancelling]
  rfl

theorem fetched_scanned (p : Poller) (form : Form) (result : Except String ScanReport) :
    fetched (p.scanned form result).2.2 = [] := by
  have hshown : fetched (shown result) = [] := by cases result <;> rfl
  cases hrun : p.running with
  | true =>
      rw [(scanned_on hrun form result).2, fetched_append, fetched_append, hshown,
        fetched_cancelling]
      rfl
  | false => rw [(scanned_off hrun form result).2, hshown]

end Poller

namespace Model

/-! ## What one event asks for -/

/-- All that an event can ask of the device. Later invariants on what is awaited go through these
four cases, and none of them looks at the app's handlers again. -/
inductive FetchStep (m : Model) (e : Event) : Prop where
  /-- Nothing is asked for; what is being loaded was being loaded before, and has not come. -/
  | quiet (hfetch : fetched (update m e).2 = [])
      (hgen : (update m e).1.saveGeneration = m.saveGeneration)
      (hload : (update m e).1.isLoading = true →
        m.isLoading = true ∧ ∀ result, e ≠ .configReceived result)
  /-- A save is sent. -/
  | saved (payload : Payload)
      (hfetch : fetched (update m e).2
        = [(.save (m.saveGeneration + 1), saveRequest m.format payload)])
      (hup : (update m e).1 = m.startSaving) (hnot : ∀ result, e ≠ .configReceived result)
  /-- The configuration is asked for, and a scan if the new form has a combo. -/
  | loading (format : WireFormat) (scans : List (Purpose × Http.Request))
      (hfetch : fetched (update m e).2 = (.loadConfig, configRequest format) :: scans)
      (hscans : scans = [] ∨ scans = [(.scan, scanRequest)])
      (hgen : (update m e).1.saveGeneration = m.saveGeneration)
  /-- A scan is asked for. -/
  | scanning (hfetch : fetched (update m e).2 = [(.scan, scanRequest)])
      (hgen : (update m e).1.saveGeneration = m.saveGeneration)
      (hload : (update m e).1.isLoading = m.isLoading)
      (hnot : ∀ result, e ≠ .configReceived result)

/-- A step that asks for nothing and loads no more than before. Most events end in one, some in
several of their branches. -/
def Idle (m : Model) (step : Step) : Prop :=
  fetched step.2 = [] ∧ step.1.saveGeneration = m.saveGeneration
    ∧ (step.1.isLoading = true → m.isLoading = true)

theorem idle_self (m : Model) : Idle m (m, []) :=
  ⟨rfl, rfl, id⟩

/-- A failure ends whatever is being loaded. -/
theorem idle_fail (m : Model) (why : String) : Idle m (m.fail why) :=
  ⟨rfl, rfl, fun h => Bool.noConfusion (show false = true from h)⟩

theorem FetchStep.idle {m : Model} {e : Event} (hnot : ∀ result, e ≠ .configReceived result)
    (h : Idle m (update m e)) : FetchStep m e :=
  .quiet h.1 h.2.1 fun hload => ⟨h.2.2 hload, hnot⟩

theorem fetchStep_setUp (m : Model) (settings : String) (format : WireFormat) :
    FetchStep m (.shell (.setUp settings format)) := by
  cases hs : Schema.ofText settings with
  | error why =>
      have hup : update m (.shell (.setUp settings format)) = m.fail why.message := by
        simp only [update, setUp, hs]
      exact .idle (by simp) (hup ▸ m.idle_fail why.message)
  | ok schema =>
      have hup := update_setUp m format hs
      -- the poller is stopped first, which asks for nothing
      have hfront : ∀ rest : List Effect, fetched (m.poller.cancelling ++ .render :: .render
          :: .fetch .loadConfig (configRequest format) :: rest)
          = (.loadConfig, configRequest format) :: fetched rest := by
        intro rest
        rw [fetched_append, Poller.fetched_cancelling]
        rfl
      -- only the effects at the end differ with what the form holds
      unfold scanIfNeeded at hup
      split at hup
      · refine .loading format [(.scan, scanRequest)] ?_ (Or.inr rfl) ?_
        · rw [hup, hfront]
          exact congrArg _ (Poller.fetched_poll _)
        · rw [hup]; rfl
      · refine .loading format [] ?_ (Or.inl rfl) ?_
        · rw [hup, hfront]; rfl
        · rw [hup]; rfl

theorem fetchStep_save (m : Model) : FetchStep m (.shell .save) := by
  cases henabled : m.saveEnabled with
  | false =>
      have hup : update m (.shell .save) = (m, []) := by simp [update, save, henabled]
      exact .idle (by simp) (hup ▸ m.idle_self)
  | true =>
      cases hform : m.form.save m.schema with
      | ok payload =>
          refine .saved payload ?_ ?_ (by simp)
          · simp only [update, save, henabled, hform]
            rfl
          · simp only [update, save, henabled, hform]
            rfl
      | error why =>
          have hup : update m (.shell .save) = m.fail why.message := by
            simp [update, save, henabled, hform]
          exact .idle (by simp) (hup ▸ m.idle_fail why.message)

theorem fetchStep_pollTimer (m : Model) (output : TimerOutput) :
    FetchStep m (.pollTimer output) := by
  have hup : update m (.pollTimer output)
      = ({ m with poller := (m.poller.timed output).1 }, (m.poller.timed output).2) := rfl
  -- a timer that is not the one armed is not looked at
  by_cases hself : m.poller.timed output = (m.poller, [])
  · rw [hself] at hup
    exact .idle (by simp) (hup ▸ m.idle_self)
  · obtain ⟨id, rfl, hid⟩ := (Poller.timed_ne_self_iff m.poller output).mp hself
    rw [Poller.timed_armed hid] at hup
    split at hup
    · refine .scanning ?_ (by rw [hup]) (by rw [hup]) (by simp)
      rw [hup]
      exact Poller.fetched_poll _
    · exact .idle (by simp) (hup ▸ ⟨rfl, rfl, fun h => h⟩)

/--
**Every event is one of the four cases.**

So all requests that the app ever makes come of these: one for the configuration, one for a scan,
or one for a save, each with the mark in the model that goes with it.
-/
theorem fetchStep (m : Model) (e : Event) : FetchStep m e := by
  cases e with
  | configReceived result =>
      -- whatever it was, it is not waited for any more
      have hended : fetched (update m (.configReceived result)).2 = []
          ∧ (update m (.configReceived result)).1.saveGeneration = m.saveGeneration
          ∧ (update m (.configReceived result)).1.isLoading = false := by
        simp only [update, configReceived]
        split
        · exact ⟨rfl, rfl, rfl⟩
        · split <;> exact ⟨rfl, rfl, rfl⟩
      obtain ⟨hfetch, hgen, hoff⟩ := hended
      exact .quiet hfetch hgen fun h => Bool.noConfusion (hoff.symm.trans h)
  | scanReceived result =>
      exact .idle (by simp) ⟨Poller.fetched_scanned m.poller m.form result, rfl, id⟩
  | pollTimer output => exact fetchStep_pollTimer m output
  | saveAnswered g result =>
      refine .idle (by simp) ?_
      simp only [update, saveAnswered]
      split
      · exact ⟨rfl, rfl, id⟩
      · cases result with
        | ok message => exact ⟨rfl, rfl, id⟩
        -- an error ends whatever is shown as loading, also an answer to a save
        | error why => exact ⟨rfl, rfl, fun h => Bool.noConfusion (show false = true from h)⟩
  | saveTimer output =>
      refine .idle (by simp) ?_
      simp only [update, saveTimer]
      split
      · split
        · exact ⟨rfl, rfl, fun h => Bool.noConfusion (show false = true from h)⟩
        · exact ⟨rfl, rfl, id⟩
      · exact ⟨rfl, rfl, id⟩
      · exact ⟨rfl, rfl, id⟩
  | shell e =>
      cases e with
      | setUp settings format => exact fetchStep_setUp m settings format
      | reload => exact .loading m.format [] rfl (Or.inl rfl) rfl
      | save => exact fetchStep_save m
      | startScanning | rescan =>
          exact .scanning (Poller.fetched_poll _) rfl rfl (by simp)
      | stopScanning => exact .idle (by simp) ⟨Poller.fetched_cancelling _, rfl, id⟩
      | edit id e =>
          refine .idle (by simp) ?_
          simp only [update, edit]
          split
          · exact ⟨rfl, rfl, fun h => h⟩
          · exact ⟨rfl, rfl, fun h => Bool.noConfusion (show false = true from h)⟩
      | clearError =>
          refine .idle (by simp) ?_
          simp only [update, clearError]
          split <;> exact ⟨rfl, rfl, id⟩
      | clearSuccess =>
          refine .idle (by simp) ?_
          simp only [update, clearSuccess]
          split <;> exact ⟨rfl, rfl, id⟩

end Model

/-- The request is one that serves the purpose. -/
def Purpose.Asks (request : Http.Request) : Purpose → Prop
  | .loadConfig => ∃ format, request = configRequest format
  | .save _ => ∃ format payload, request = saveRequest format payload
  | .scan => request = scanRequest

/-- The number of the save that a request is for. -/
def Purpose.saveNumber? : Purpose → Option Nat
  | .save generation => some generation
  | .loadConfig | .scan => none

namespace Model

/-- The app makes no request that does not serve its purpose. -/
theorem asks_of_mem {m : Model} {e : Event} {purpose : Purpose} {request : Http.Request}
    (h : Effect.fetch purpose request ∈ (update m e).2) : purpose.Asks request := by
  rw [← mem_fetched] at h
  cases fetchStep m e with
  | quiet hfetch =>
      rw [hfetch] at h
      exact absurd h List.not_mem_nil
  | saved payload hfetch =>
      rw [hfetch] at h
      cases List.mem_singleton.mp h
      exact ⟨_, payload, rfl⟩
  | loading format scans hfetch hscans =>
      rw [hfetch] at h
      rcases List.mem_cons.mp h with h | h
      · cases h
        exact ⟨format, rfl⟩
      · rcases hscans with rfl | rfl
        · exact absurd h List.not_mem_nil
        · cases List.mem_singleton.mp h
          exact rfl
  | scanning hfetch =>
      rw [hfetch] at h
      cases List.mem_singleton.mp h
      exact rfl

end Model

/-! ## The record of a session -/

namespace Session

/-- The purposes of all requests to the device, in the order in which they were made. A request is
addressed by its place here, and keeps it when it is answered. -/
def asked (s : Session) : List Purpose :=
  s.fetches.map (·.request)

theorem issue_fetches (s : Session) (effects : List Effect) :
    (s.issue effects).1.fetches
      = s.fetches ++ (fetched effects).map fun f => { request := f.1, unanswered := true } := by
  induction effects generalizing s with
  | nil => exact (List.append_nil _).symm
  | cons x rest ih =>
      cases x with
      | render => exact ih s
      | timer op => exact ih (s.addTimer op)
      | fetch purpose request =>
          have h := ih (s.addFetch purpose)
          rw [addFetch, List.append_assoc] at h
          exact h

/-- An event adds its requests at the end. -/
theorem asked_send (s : Session) (e : Event) :
    (s.send e).1.asked = s.asked ++ (fetched (update s.model e).2).map Prod.fst := by
  have h : (s.send e).1.fetches = s.fetches ++ (fetched (update s.model e).2).map
      fun f => { request := f.1, unanswered := true } := issue_fetches _ _
  unfold asked
  rw [h, List.map_append, List.map_map]
  rfl

theorem map_request_markAnswered {α : Type} (requests : List (Pending α)) (number : Nat) :
    (markAnswered requests number).map (·.request) = requests.map (·.request) := by
  -- only the mark of one request changes, and it is not part of the record
  refine List.ext_getElem? fun i => ?_
  unfold markAnswered
  rw [List.getElem?_map, List.getElem?_map, List.getElem?_modify]
  cases requests[i]? with
  | none => rfl
  | some r => by_cases h : number = i <;> simp [h]

/-- A request that waits is on record. -/
theorem asked_of_unanswered? {s : Session} {number : Nat} {purpose : Purpose}
    (h : unanswered? s.fetches number = some purpose) : s.asked[number]? = some purpose := by
  rw [unanswered?_eq_some] at h
  unfold asked
  rw [List.getElem?_map, h]
  rfl

/-- Some request for a purpose waits for its answer. Which one does not matter to the app, since an
answer carries its purpose and not its number. -/
def Awaits (s : Session) (purpose : Purpose) : Prop :=
  ∃ number, unanswered? s.fetches number = some purpose

theorem Awaits.send {s : Session} {purpose : Purpose} (h : s.Awaits purpose) (e : Event) :
    (s.send e).1.Awaits purpose := by
  obtain ⟨number, hn⟩ := h
  exact ⟨number, unanswered?_send hn e⟩

/-- An answer to one request leaves a purpose awaited, unless it is its own. -/
theorem Awaits.of_answer {s : Session} {purpose answered : Purpose} {number : Nat}
    (h : s.Awaits purpose) (hn : unanswered? s.fetches number = some answered) :
    purpose = answered
      ∨ Awaits { s with fetches := markAnswered s.fetches number } purpose := by
  obtain ⟨n, hwaits⟩ := h
  by_cases heq : n = number
  · left
    rw [heq, hn] at hwaits
    exact (Option.some.inj hwaits).symm
  · right
    exact ⟨n, unanswered?_markAnswered.mpr ⟨heq, hwaits⟩⟩

end Session

end DeviceSetup
