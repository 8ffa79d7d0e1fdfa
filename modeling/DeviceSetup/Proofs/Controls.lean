import Mathlib
import DeviceSetup.Proofs.Fetches
import DeviceSetup.Proofs.FormInStep
import DeviceSetup.Proofs.SaveProtocol

/-!
# Controls are never stuck

The page has a control for saving, and it shows while something is loaded or saved. Three
flags say so, and they are written by set-ups, saves, failures, answers and timers, while
requests of earlier saves and set-ups may still be answered. A flag that nobody is left to
reset would leave the page with a dead control or a sign of waiting that never goes away.

`Controls` rules that out: the control for saving can be used whenever no save is under way
and there is something to save, and whoever waits has a request that waits. The second part
holds because the answer to the save under way ends it (`isCurrentSave_update`), and any
configuration that comes ends loading (`fetchStep`). That there is only one request to wait
for is told by the record of requests: the saves in it are numbered one after the other.
-/

namespace DeviceSetup

theorem Form.isEmpty_of_skeleton {form form' : Form} (h : form.skeleton = form'.skeleton) :
    form.isEmpty = form'.isEmpty := by
  have hsections := congrArg (fun f : Form => f.sections.isEmpty) h
  simpa [skeleton, mapWidgets_eq, isEmpty] using hsections

namespace Model

/-! ## The control for saving -/

/-- A save can be made just when none is under way and there is something to save. The flag is kept
apart in the model and written in many places, so that it agrees is an invariant. -/
def SaveControl (m : Model) : Prop :=
  m.saveEnabled = (!m.isSaving && !m.form.isEmpty)

/-- Only a set-up adds sections to the form or takes them away. -/
theorem isEmpty_update {m : Model} {e : Event} (h : ¬ e.SetsUp) :
    (update m e).1.form.isEmpty = m.form.isEmpty := by
  cases e with
  | configReceived result =>
      cases result with
      | error why => rfl
      | ok payload =>
          -- what is loaded or merged goes into elements, and leaves the skeleton
          have hload := Form.changed_load m.schema m.form payload
          simp only [update, configReceived_ok]
          exact Form.isEmpty_of_skeleton (hload.skeleton fun _ _ => Widget.Enters.blank)
  | scanReceived result =>
      simp only [update]
      cases result with
      | error why => rw [form_scanReceived_error]
      | ok report =>
          have hmerged : m.form.Changed Widget.Merges
              (m.poller.tracked.foldl (Poller.mergeInto report.networks) m.form) :=
            Poller.changed_merges .none _ _
          rw [form_scanReceived_ok]
          exact Form.isEmpty_of_skeleton (hmerged.skeleton fun _ _ => Widget.Merges.blank)
  | pollTimer output => rfl
  | saveAnswered g result =>
      simp only [update, saveAnswered]
      split
      · rfl
      · cases result <;> rfl
  | saveTimer output =>
      simp only [update, saveTimer]
      split
      · split <;> rfl
      · rfl
      · rfl
  | shell e =>
      cases e with
      | setUp settings format =>
          cases hs : Schema.ofText settings with
          | ok schema => exact absurd ⟨settings, format, schema, rfl, hs⟩ h
          | error why =>
              simp only [update, setUp, hs]
              rfl
      | edit id e =>
          have hedit := m.form.changed_tryEdit id e
          rw [← form_edit] at hedit
          exact Form.isEmpty_of_skeleton (hedit.skeleton fun _ _ => Widget.Enters.blank)
      | save =>
          simp only [update, save]
          split
          · rfl
          · split <;> rfl
      | reload | startScanning | stopScanning | rescan => rfl
      | clearError =>
          simp only [update, clearError]
          split <;> rfl
      | clearSuccess =>
          simp only [update, clearSuccess]
          split <;> rfl

/-- A set-up frees the control, whatever was under way. -/
theorem saveEnabled_setsUp {m : Model} {e : Event} (h : e.SetsUp) :
    (update m e).1.saveEnabled = !(update m e).1.form.isEmpty := by
  obtain ⟨settings, format, schema, rfl, hs⟩ := h
  have hmerged := (m.installed schema format).poller.changed_mergeLast (Form.render schema)
  have hempty := Form.isEmpty_of_skeleton (hmerged.skeleton fun _ _ => Widget.Merges.blank)
  rw [update_setUp m format hs]
  unfold scanIfNeeded
  split <;> exact congrArg (!·) hempty.symm

/-- The end of a save frees the control too, whether an answer ends it or the timeout. -/
theorem saveEnabled_completes {m : Model} {e : Event} {g : Nat} (hc : e.Completes g)
    (hcur : m.isCurrentSave g = true) :
    (update m e).1.saveEnabled = !(update m e).1.form.isEmpty := by
  cases hc with
  | answer result => cases result <;> simp [update, saveAnswered, hcur, finishSaving, setError]
  | timeout => simp [update, saveTimer, hcur, finishSaving, fail, setError]

/-- Every event keeps the flag in agreement. The cases are those that a save can go through. -/
theorem saveControl_step (m : Model) (e : Event) (h : SaveControl m) :
    SaveControl (update m e).1 := by
  unfold SaveControl
  cases saveStep m e with
  | accepted _ _ hup => rw [hup]; rfl
  | forgotten hset hsaving => rw [hsaving, saveEnabled_setsUp hset]; rfl
  | completed g hc hcur hsaving => rw [hsaving, saveEnabled_completes hc hcur]; rfl
  | kept _ hset _ _ hsame =>
      rw [hsame.enabled, hsame.saving, isEmpty_update hset]
      exact h

end Model

/-! ## Whole runs -/

namespace Session

/-- The control for saving is as it should be, and whoever waits has a request that waits. The last
two fields are there for the induction: they tell which request it is that waits. -/
structure Controls (s : Session) (issued : List Issued) : Prop where
  control : s.model.SaveControl
  saving : s.model.isSaving = true → s.Awaits (.save s.model.saveGeneration)
  loading : s.model.isLoading = true → s.Awaits .loadConfig
  /-- The saves on record are numbered from one, in order. -/
  numbers : s.asked.filterMap Purpose.saveNumber? = List.range' 1 s.model.saveGeneration
  /-- What waits was issued, as a request that serves its purpose. -/
  requested : ∀ number purpose, unanswered? s.fetches number = some purpose →
    ∃ request, Issued.fetch number request ∈ issued ∧ purpose.Asks request

theorem controls_initial : Controls .initial [] where
  control := rfl
  saving h := Bool.noConfusion (show false = true from h)
  loading h := Bool.noConfusion (show false = true from h)
  numbers := rfl
  requested number purpose h := by simp [unanswered?, Session.initial] at h

/-- An event numbers the save that it sends, if it sends one. -/
theorem numbers_send {s : Session}
    (h : s.asked.filterMap Purpose.saveNumber? = List.range' 1 s.model.saveGeneration)
    (e : Event) : (s.send e).1.asked.filterMap Purpose.saveNumber?
      = List.range' 1 (s.send e).1.model.saveGeneration := by
  rw [asked_send, List.filterMap_append, h, send_model]
  cases Model.fetchStep s.model e with
  | quiet hfetch hgen => rw [hfetch, hgen]; exact List.append_nil _
  | saved payload hfetch hup =>
      have hnext : s.model.startSaving.saveGeneration = s.model.saveGeneration + 1 := rfl
      rw [hfetch, hup, hnext, List.range'_1_concat, Nat.add_comm 1]
      rfl
  | loading format scans hfetch hscans hgen =>
      rw [hfetch, hgen]
      rcases hscans with rfl | rfl <;> exact List.append_nil _
  | scanning hfetch hgen => rw [hfetch, hgen]; exact List.append_nil _

/-- Handling an event keeps the invariant. The answer that is waited for may be the event itself. -/
theorem controls_send {s : Session} {issued : List Issued} {e : Event}
    (hcontrol : s.model.SaveControl)
    (hsaving : s.model.isSaving = true → s.Awaits (.save s.model.saveGeneration)
      ∨ ∃ result, e = .saveAnswered s.model.saveGeneration result)
    (hloading : s.model.isLoading = true → s.Awaits .loadConfig
      ∨ ∃ result, e = .configReceived result)
    (hnumbers : s.asked.filterMap Purpose.saveNumber? = List.range' 1 s.model.saveGeneration)
    (hreq : ∀ number purpose, unanswered? s.fetches number = some purpose →
      ∃ request, Issued.fetch number request ∈ issued ∧ purpose.Asks request) :
    Controls (s.send e).1 (issued ++ (s.send e).2) := by
  -- what was loaded before goes on, unless the event is the configuration
  have hgoesOn : s.model.isLoading = true → (∀ result, e ≠ .configReceived result) →
      (s.send e).1.Awaits .loadConfig := by
    intro hon hnot
    rcases hloading hon with hwaits | ⟨result, he⟩
    · exact hwaits.send e
    · exact absurd he (hnot result)
  refine ⟨?_, ?_, ?_, numbers_send hnumbers e, ?_⟩
  · rw [send_model]
    exact Model.saveControl_step s.model e hcontrol
  · rw [send_model]
    intro hon
    -- the save under way was accepted just now, or goes on from before
    have hnow := Model.isCurrentSave_iff.mpr ⟨hon, rfl⟩
    rcases (Model.isCurrentSave_update s.model e _).mp hnow with hacc | ⟨hcur, hends⟩
    · obtain ⟨request, hmem⟩ := hacc.2
      exact waits_of_send hmem
    · obtain ⟨hbefore, hgen⟩ := Model.isCurrentSave_iff.mp hcur
      rw [← hgen] at hcur ⊢
      rcases hsaving hbefore with hwaits | ⟨result, rfl⟩
      · exact hwaits.send e
      · -- the answer to the save under way would have ended it
        have hact := (Model.actsOn_iff (.answer result)).mpr hcur
        exact absurd (Or.inr (Or.inr ⟨_, .answer result, hact⟩)) hends
  · rw [send_model]
    intro hon
    cases Model.fetchStep s.model e with
    -- loading goes on, or this event has asked for the configuration itself
    | quiet _ _ hload => exact hgoesOn (hload hon).1 (hload hon).2
    | saved payload _ hup hnot =>
        rw [hup] at hon
        exact hgoesOn hon hnot
    | loading format scans hfetch =>
        have hmem : (.loadConfig, configRequest format) ∈ fetched (update s.model e).2 := by
          rw [hfetch]
          exact List.mem_cons_self
        exact waits_of_send (mem_fetched.mp hmem)
    | scanning _ _ hload hnot => exact hgoesOn (hload ▸ hon) hnot
  · intro number purpose hn
    -- a request that waits was issued before, or is one of those just sent
    rcases waited_or_sent hn with hbefore | ⟨request, hmem, hissued⟩
    · obtain ⟨request, hissued, hasks⟩ := hreq number purpose hbefore
      exact ⟨request, List.mem_append_left _ hissued, hasks⟩
    · exact ⟨request, List.mem_append_right _ hissued, Model.asks_of_mem hmem⟩

/-- **Every move keeps the invariant.** An answer is taken off the record before its event is
handled, which is why `controls_send` lets the event be the answer that was waited for. -/
theorem controls_step {s u : Session} {issued more : List Issued} {mv : Move}
    (h : Controls s issued) (hmv : s.move mv = some (u, more)) :
    Controls u (issued ++ more) := by
  cases mv with
  | shell e =>
      obtain ⟨rfl, rfl⟩ := Prod.mk.inj (Option.some.inj hmv)
      exact controls_send h.control (fun hon => Or.inl (h.saving hon))
        (fun hon => Or.inl (h.loading hon)) h.numbers h.requested
  | answerTimer number output =>
      obtain ⟨op, _, hu⟩ := Option.map_eq_some_iff.mp hmv
      obtain ⟨rfl, rfl⟩ := Prod.mk.inj hu
      exact controls_send (s := { s with timers := markAnswered s.timers number }) h.control
        (fun hon => Or.inl (h.saving hon)) (fun hon => Or.inl (h.loading hon)) h.numbers
        h.requested
  | answerFetch number outcome =>
      obtain ⟨answered, hn, hu⟩ := Option.map_eq_some_iff.mp hmv
      obtain ⟨rfl, rfl⟩ := Prod.mk.inj hu
      refine controls_send (s := { s with fetches := markAnswered s.fetches number }) h.control
        ?_ ?_ ?_ (fun n p hp => h.requested n p (unanswered?_markAnswered.mp hp).2)
      · intro hon
        rcases (h.saving hon).of_answer hn with rfl | hwaits
        · exact Or.inr ⟨_, rfl⟩
        · exact Or.inl hwaits
      · intro hon
        rcases (h.loading hon).of_answer hn with rfl | hwaits
        · exact Or.inr ⟨_, rfl⟩
        · exact Or.inl hwaits
      · unfold asked
        rw [map_request_markAnswered]
        exact h.numbers

theorem controls_run {moves : List Move} {issued : List Issued} {s : Session}
    (h : Run .initial moves issued s) : Controls s issued := by
  induction h with
  | init => exact controls_initial
  | tail _ hmv ih => exact controls_step ih hmv

/-- No two requests on record are for one save. -/
theorem Controls.save_unique {s : Session} {issued : List Issued} (h : Controls s issued)
    {i j g : Nat} (hi : s.asked[i]? = some (.save g)) (hj : s.asked[j]? = some (.save g)) :
    i = j := by
  -- numbers in a row are all different, so two places cannot hold the same one
  have hnodup : (s.asked.filterMap Purpose.saveNumber?).Nodup := by
    rw [h.numbers]
    exact List.nodup_range'
  have hpairs := List.pairwise_filterMap.mp hnodup
  have hlt : ∀ {i j : Nat}, s.asked[i]? = some (.save g) → s.asked[j]? = some (.save g) →
      ¬ i < j := by
    intro i j hi hj hij
    obtain ⟨hi', hgi⟩ := List.getElem?_eq_some_iff.mp hi
    obtain ⟨hj', hgj⟩ := List.getElem?_eq_some_iff.mp hj
    have hne := List.pairwise_iff_getElem.mp hpairs i j hi' hj' hij
    rw [hgi, hgj] at hne
    exact hne g rfl g rfl rfl
  have h1 := hlt hi hj
  have h2 := hlt hj hi
  omega

/--
**Controls are never stuck.**

At every point of every run of a session from the start: a save can be made just when none is
under way and the form has a section; while a save is under way, the one request that was made
for it, which sends a payload to the device, is still unanswered; and while the page is
loading, some request for the configuration is still unanswered. So as long as the shell answers
what it was asked, the page comes free again, whatever late answers come in between.
-/
theorem controls_never_stuck {moves : List Move} {issued : List Issued} {s : Session}
    (h : Run .initial moves issued s) :
    (s.model.saveEnabled = true ↔ s.model.isSaving = false ∧ s.model.form.sections ≠ [])
    ∧ (s.model.isSaving = true → ∃ number format payload,
        Issued.fetch number (saveRequest format payload) ∈ issued
        ∧ unanswered? s.fetches number = some (.save s.model.saveGeneration)
        ∧ ∀ n, s.asked[n]? = some (.save s.model.saveGeneration) → n = number)
    ∧ (s.model.isLoading = true → ∃ number format,
        Issued.fetch number (configRequest format) ∈ issued
        ∧ unanswered? s.fetches number = some .loadConfig) := by
  have hc := controls_run h
  refine ⟨?_, fun hon => ?_, fun hon => ?_⟩
  · have hcontrol : s.model.saveEnabled = (!s.model.isSaving && !s.model.form.isEmpty) := hc.control
    rw [hcontrol]
    simp [Form.isEmpty]
  · obtain ⟨number, hn⟩ := hc.saving hon
    obtain ⟨request, hissued, format, payload, rfl⟩ := hc.requested number _ hn
    refine ⟨number, format, payload, hissued, hn, fun n hasked => ?_⟩
    exact hc.save_unique hasked (asked_of_unanswered? hn)
  · obtain ⟨number, hn⟩ := hc.loading hon
    obtain ⟨request, hissued, format, rfl⟩ := hc.requested number _ hn
    exact ⟨number, format, hissued, hn⟩

/-- Two set-ups and two saves, and then the answer to the first save, which is late. -/
theorem controls_never_stuck_late_answer :
    let settings := "[\x7b\"name\":\"a\",\"title\":\"\",\"variables\":[]\x7d]"
    let moves : List Move := [.shell (.setUp settings .json), .shell .save,
      .shell (.setUp settings .json), .shell .save, .answerFetch 1 (.error .timeout)]
    ∃ issued s, Run .initial moves issued s ∧ s.model.saveEnabled = false
      ∧ (s.model.isSaving = true ∧ s.model.saveGeneration = 2
        ∧ ∃ number format payload, Issued.fetch number (saveRequest format payload) ∈ issued
          ∧ unanswered? s.fetches number = some (.save 2))
      ∧ s.model.isLoading = true
      ∧ ∃ number format, Issued.fetch number (configRequest format) ∈ issued
        ∧ unanswered? s.fetches number = some .loadConfig := by
  intro settings moves
  have hplay : (initial.play moves).any (fun x => x.1.model.isSaving && x.1.model.isLoading
      && decide (x.1.model.saveGeneration = 2)) = true := by decide
  obtain ⟨⟨s, issued⟩, hs, hflags⟩ := Option.any_eq_true _ _ |>.mp hplay
  have hrun : Run .initial moves issued s := Run.init.play hs
  simp only [Bool.and_eq_true, decide_eq_true_eq] at hflags
  obtain ⟨⟨hsaving, hloading⟩, hgen⟩ := hflags
  obtain ⟨hcontrol, hsave, hload⟩ := controls_never_stuck hrun
  obtain ⟨number, format, payload, hissued, hwaits, _⟩ := hsave hsaving
  rw [hgen] at hwaits
  refine ⟨issued, s, hrun, ?_, ⟨hsaving, hgen, number, format, payload, hissued, hwaits⟩,
    hloading, hload hloading⟩
  refine Bool.eq_false_iff.mpr fun henabled => ?_
  exact Bool.noConfusion (hsaving.symm.trans (hcontrol.mp henabled).1)

end Session

end DeviceSetup
