import Mathlib
import DeviceSetup.Proofs.Fetches
import DeviceSetup.Proofs.FormInStep

/-!
# Answers that come late

Requests to the device are not called back, so an answer may come after a later request was
made for the same purpose. Answers to saves carry the number of their save, and a late one
comes to nothing. Answers to requests for the configuration and for scans carry no number:
which request they answer plays no part in what they do (`model_answerFetch`).

So an answer to a superseded request leaves the form and the last scan alone just when it is
of no use, or brings nothing that is not there already. A configuration that comes late
replaces a newer one, and a scan that comes late does too.
-/

namespace DeviceSetup

namespace Model

/-! ## What an answer brings -/

/-- The last scan is the one that came, whether or not polling goes on. -/
theorem lastScan_scanReceived (m : Model) (result : Except String ScanReport) :
    (m.scanReceived result).1.poller.lastScan = (m.poller.keepScan result).lastScan := by
  cases hrun : m.poller.running with
  | true => simp only [scanReceived, Poller.scanned, hrun, if_true]; rfl
  | false => simp only [scanReceived, Poller.scanned, hrun, Bool.false_eq_true, if_false]

/-- The answer to a request for the configuration is loaded, if there is something to load. -/
theorem update_loadConfig (m : Model) (outcome : Http.Outcome) :
    ((update m (Purpose.loadConfig.event outcome)).1.form = m.form
      ↔ ∀ payload, Http.payloadReply outcome = .ok payload →
          (m.form.load m.schema payload).1 = m.form)
    ∧ (update m (Purpose.loadConfig.event outcome)).1.poller.lastScan = m.poller.lastScan := by
  -- an answer without a payload only ends the loading
  cases hreply : Http.payloadReply outcome with
  | error why =>
      simp [Purpose.event, hreply, Except.mapError, update, configReceived, stopLoading, setError]
  | ok payload =>
      have hevent : Purpose.loadConfig.event outcome = .configReceived (.ok payload) := by
        simp only [Purpose.event, hreply, Except.mapError]
      rw [hevent]
      simp only [update, configReceived_ok, and_true]
      exact ⟨fun h payload' hp => Except.ok.inj hp ▸ h, fun h => h payload rfl⟩

/-- The answer to a request for a scan is kept and merged, if it has a scan. -/
theorem update_scan (m : Model) (outcome : Http.Outcome) :
    ((update m (Purpose.scan.event outcome)).1.form = m.form
      ↔ ∀ report, Http.scanReply outcome = .ok report →
          m.poller.tracked.foldl (Poller.mergeInto report.networks) m.form = m.form)
    ∧ ((update m (Purpose.scan.event outcome)).1.poller.lastScan = m.poller.lastScan
      ↔ ∀ report, Http.scanReply outcome = .ok report →
          m.poller.lastScan = some report.networks) := by
  cases hreply : Http.scanReply outcome with
  | error why =>
      simp [Purpose.event, hreply, Except.mapError, update, form_scanReceived_error,
        lastScan_scanReceived, Poller.keepScan]
  | ok report =>
      have hevent : Purpose.scan.event outcome = .scanReceived (.ok report) := by
        simp only [Purpose.event, hreply, Except.mapError]
      rw [hevent]
      simp only [update, form_scanReceived_ok, lastScan_scanReceived, Poller.keepScan]
      constructor
      · exact ⟨fun h report' hr => Except.ok.inj hr ▸ h, fun h => h report rfl⟩
      · exact ⟨fun h report' hr => Except.ok.inj hr ▸ h.symm, fun h => (h report rfl).symm⟩

/-- The answer to a save brings nothing to the form. -/
theorem update_save (m : Model) (g : Nat) (outcome : Http.Outcome) :
    (update m ((Purpose.save g).event outcome)).1.form = m.form
    ∧ (update m ((Purpose.save g).event outcome)).1.poller.lastScan = m.poller.lastScan := by
  simp only [Purpose.event, update, saveAnswered]
  split
  · exact ⟨rfl, rfl⟩
  · cases (Http.saveReply outcome).mapError (·.message "Save") <;> exact ⟨rfl, rfl⟩

end Model

/-! ## Which request is answered -/

namespace Session

/-- A later request was made for the purpose of this one. An answer to it is then older news than
the answer that is still to come, or that came already. -/
def Superseded (s : Session) (number : Nat) : Prop :=
  ∃ later purpose, number < later ∧ s.asked[number]? = some purpose
    ∧ s.asked[later]? = some purpose

/-- An answer is handled by the purpose of its request alone. The number of the request is used to
find the purpose and then forgotten. -/
theorem model_answerFetch {s s' : Session} {number : Nat} {outcome : Http.Outcome}
    {more : List Issued} (h : s.answerFetch number outcome = some (s', more)) :
    ∃ purpose, unanswered? s.fetches number = some purpose
      ∧ s'.model = (update s.model (purpose.event outcome)).1 := by
  obtain ⟨purpose, hn, hs⟩ := Option.map_eq_some_iff.mp h
  obtain ⟨rfl, rfl⟩ := Prod.mk.inj hs
  exact ⟨purpose, hn, send_model _ _⟩

theorem exists_answerFetch {s : Session} {number : Nat} {purpose : Purpose}
    (h : unanswered? s.fetches number = some purpose) (outcome : Http.Outcome) :
    ∃ s' more, s.answerFetch number outcome = some (s', more) := by
  unfold answerFetch
  rw [h]
  exact ⟨_, _, rfl⟩

/--
**An answer counts whichever request it answers.**

Let a request be answered, superseded or not. If it was for the configuration, the form stays
as it is just when the answer has no payload or one that loads as what is there, and the last
scan stays in any case. If it was for a scan, the last scan stays just when the answer has no
scan or that very scan, and the form stays just when the answer has no scan or one that merges
as what is there. If it was a save, both stay. And any other request for the same purpose that
still waits would have come to the same model by the same answer.

Being superseded is no condition anywhere here. So a late answer to a superseded request is not
ignored: it replaces what a newer answer has brought.
-/
theorem answers_count_whichever_request {s s' : Session} {number : Nat} {outcome : Http.Outcome}
    {more : List Issued} (h : s.answerFetch number outcome = some (s', more)) :
    (s.asked[number]? = some .loadConfig →
      (s'.model.form = s.model.form ↔ ∀ payload, Http.payloadReply outcome = .ok payload →
        (s.model.form.load s.model.schema payload).1 = s.model.form)
      ∧ s'.model.poller.lastScan = s.model.poller.lastScan)
    ∧ (s.asked[number]? = some .scan →
      (s'.model.form = s.model.form ↔ ∀ report, Http.scanReply outcome = .ok report →
        s.model.poller.tracked.foldl (Poller.mergeInto report.networks) s.model.form
          = s.model.form)
      ∧ (s'.model.poller.lastScan = s.model.poller.lastScan ↔
        ∀ report, Http.scanReply outcome = .ok report →
          s.model.poller.lastScan = some report.networks))
    ∧ (∀ g, s.asked[number]? = some (.save g) →
      s'.model.form = s.model.form ∧ s'.model.poller.lastScan = s.model.poller.lastScan)
    ∧ ∀ other, (unanswered? s.fetches other).isSome = true →
        s.asked[other]? = s.asked[number]? →
        ∃ s'' more', s.answerFetch other outcome = some (s'', more') ∧ s''.model = s'.model := by
  obtain ⟨purpose, hn, hmodel⟩ := model_answerFetch h
  have hasked := asked_of_unanswered? hn
  rw [hmodel, hasked]
  refine ⟨?_, ?_, ?_, ?_⟩
  · intro hp
    cases hp
    exact s.model.update_loadConfig outcome
  · intro hp
    cases hp
    exact s.model.update_scan outcome
  · intro g hp
    cases hp
    exact s.model.update_save g outcome
  · intro other hwaits hsame
    obtain ⟨purpose', hother⟩ := Option.isSome_iff_exists.mp hwaits
    obtain ⟨s'', more', hanswer⟩ := exists_answerFetch hother outcome
    obtain ⟨purpose'', hn'', hmodel''⟩ := model_answerFetch hanswer
    -- the purpose of a request that waits is the one on record
    rw [asked_of_unanswered? hn''] at hsame
    cases hsame
    exact ⟨s'', more', hanswer, hmodel''⟩

/-- The outcome of a request that was answered with a body. -/
def delivered (body : String) : Http.Outcome :=
  .ok ⟨200, [], some (Utf8.encode body)⟩

/-- The first of two requests for the configuration fails, and the first of two requests for a
scan comes to a scan. -/
theorem answers_count_whichever_request_first :
    let scan := delivered "\x7b\"networks\":[]\x7d"
    ∃ issued s s₁ more₁ s₂ more₂ s₃ more₃,
      Run .initial [.shell .reload, .shell .reload, .shell .rescan, .shell .rescan] issued s
      ∧ s.answerFetch 0 (.error .timeout) = some (s₁, more₁) ∧ s₁.model.form = s.model.form
      ∧ s.answerFetch 2 scan = some (s₂, more₂)
      ∧ s₂.model.poller.lastScan ≠ s.model.poller.lastScan
      ∧ s.answerFetch 3 scan = some (s₃, more₃) ∧ s₃.model = s₂.model := by
  intro scan
  obtain ⟨issued, s, s₁, more₁, s₂, more₂, hrun, hfirst, hscan, hnone, hasked, hwaits⟩ :
      ∃ issued s s₁ more₁ s₂ more₂,
        Run .initial [.shell .reload, .shell .reload, .shell .rescan, .shell .rescan] issued s
        ∧ s.answerFetch 0 (.error .timeout) = some (s₁, more₁)
        ∧ s.answerFetch 2 scan = some (s₂, more₂) ∧ s.model.poller.lastScan = none
        ∧ s.asked = [.loadConfig, .loadConfig, .scan, .scan]
        ∧ (unanswered? s.fetches 3).isSome = true :=
    ⟨_, _, _, _, _, _, .tail (.tail (.tail (.tail .init rfl) rfl) rfl) rfl, rfl, rfl, rfl, rfl, rfl⟩
  have hform := ((answers_count_whichever_request hfirst).1 (by rw [hasked]; rfl)).1
  obtain ⟨_, hlast, _, hother⟩ := answers_count_whichever_request hscan
  obtain ⟨s₃, more₃, hthird, hsame⟩ := hother 3 hwaits (by rw [hasked]; rfl)
  refine ⟨issued, s, s₁, more₁, s₂, more₂, s₃, more₃, hrun, hfirst, ?_, hscan, ?_, hthird, hsame⟩
  · have hfails : Http.payloadReply (.error .timeout) = .error (.transport .timeout) := rfl
    refine hform.mpr fun payload hp => ?_
    rw [hfails] at hp
    cases hp
  · intro hkept
    have hreport : Http.scanReply scan = .ok ⟨[]⟩ := by decide
    have hthere := (hlast (by rw [hasked]; rfl)).2.mp hkept ⟨[]⟩ hreport
    rw [hnone] at hthere
    cases hthere

/-- A form is set up, and the configuration and a scan are asked for again before the first
answers come. The newer answers come first. Then the older ones still replace what is in the form
and what is known of networks. -/
theorem superseded_answers_replace_newer :
    let settings := "[\x7b\"name\":\"w\",\"title\":\"\",\"variables\":["
      ++ "\x7b\"name\":\"s\",\"title\":\"\",\"type\":\"ssid\"\x7d,"
      ++ "\x7b\"name\":\"t\",\"title\":\"\",\"type\":\"hostname\"\x7d]\x7d]"
    let scan (name : String) := delivered ("\x7b\"networks\":[\x7b\"name\":\"" ++ name
      ++ "\",\"rssi\":-40,\"channel\":6\x7d]\x7d")
    let moves : List Move := [.shell (.setUp settings .json), .shell .reload, .shell .rescan,
      .answerFetch 2 (delivered "\x7b\"w\":\x7b\"t\":\"new\"\x7d\x7d"), .answerFetch 3 (scan "New")]
    ∃ issued s, Run .initial moves issued s
      ∧ (s.Superseded 0 ∧ s.asked[0]? = some .loadConfig
        ∧ ∃ s' more, s.answerFetch 0 (delivered "\x7b\"w\":\x7b\"t\":\"old\"\x7d\x7d")
            = some (s', more)
          ∧ s'.model.form ≠ s.model.form)
      ∧ (s.Superseded 1 ∧ s.asked[1]? = some .scan
        ∧ ∃ s' more, s.answerFetch 1 (scan "Old") = some (s', more)
          ∧ s'.model.poller.lastScan ≠ s.model.poller.lastScan) := by
  intro settings scan moves
  have hplay : (initial.play moves).any (fun x =>
      decide (x.1.asked = [.loadConfig, .scan, .loadConfig, .scan])
      && (x.1.answerFetch 0 (delivered "\x7b\"w\":\x7b\"t\":\"old\"\x7d\x7d")).any
          (fun y => decide (y.1.model.form ≠ x.1.model.form))
      && (x.1.answerFetch 1 (scan "Old")).any
          (fun y => decide (y.1.model.poller.lastScan ≠ x.1.model.poller.lastScan))) = true := by
    decide +kernel
  obtain ⟨⟨s, issued⟩, hs, hall⟩ := (Option.any_eq_true _ _).mp hplay
  simp only [Bool.and_eq_true, Option.any_eq_true, decide_eq_true_eq] at hall
  obtain ⟨⟨hasked, ⟨s₁, more₁⟩, hfirst, hform⟩, ⟨s₂, more₂⟩, hsecond, hscan⟩ := hall
  -- what was asked for says which requests are superseded
  refine ⟨issued, s, Run.init.play hs,
    ⟨⟨2, .loadConfig, by omega, ?_, ?_⟩, ?_, s₁, more₁, hfirst, hform⟩,
    ⟨⟨3, .scan, by omega, ?_, ?_⟩, ?_, s₂, more₂, hsecond, hscan⟩⟩
  all_goals rw [hasked]; rfl

end Session

end DeviceSetup
