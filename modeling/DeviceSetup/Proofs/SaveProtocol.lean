import Mathlib
import DeviceSetup.Proofs.Runs

/-!
# Saves and their answers

A save is answered by the device, or given up when its timer goes off, and either may
come late, twice or not at all. The app tells them apart by a number: each save that is
sent gets the next one, and an answer or a timer counts only while the save with its
number is under way.

What "under way" means is said here about the run, not about the model: the save was
sent, and since then no other save was sent, no schema was taken and no answer or timer
counted. `underWay_iff` ties that to the two fields the app keeps. The laws of the
protocol follow from it, because a number is given out once.
-/

namespace DeviceSetup

/-- The events that may end save `g`: its answer, and its timer going off. Whether they do is not
said here, since the same event may come again or too late. -/
inductive Event.Completes (g : Nat) : Event → Prop where
  | answer (result : Except String String) : Completes g (.saveAnswered g result)
  | timeout : Completes g (.saveTimer (.fired g .saveTimeout))

/-- The events that are about saves, whichever save and however they came about. -/
inductive Event.ReportsSave : Event → Prop where
  | answer (g : Nat) (result : Except String String) : ReportsSave (.saveAnswered g result)
  | timer (output : TimerOutput) : ReportsSave (.saveTimer output)

theorem Event.Completes.reportsSave {g : Nat} {e : Event} (h : e.Completes g) :
    e.ReportsSave := by
  cases h with
  | answer result => exact .answer g result
  | timeout => exact .timer _

namespace Model

/-- The event is a save, and it is sent to the device under the number `g`. -/
def Accepts (g : Nat) (m : Model) (e : Event) : Prop :=
  e = .shell .save ∧ ∃ request, Effect.fetch (.save g) request ∈ (update m e).2

/-- The event changes the model or asks for something. For a report on a save this is to say that
it counts. -/
def ActsOn (m : Model) (e : Event) : Prop :=
  update m e ≠ (m, [])

/-- After the event no save that was under way before it is. -/
def EndsSaves (m : Model) (e : Event) : Prop :=
  (∃ g, Accepts g m e) ∨ e.SetsUp ∨ ∃ g, e.Completes g ∧ ActsOn m e

/--
Save `g` is under way when event number `n` comes: it was sent, and nothing ended it since.

This is about the events of the run and does not mention the fields in which the app keeps
track, so that the two can be compared.
-/
def UnderWay (events : List Event) (n g : Nat) : Prop :=
  ∃ j e, j < n ∧ events[j]? = some e ∧ Accepts g (before events j) e
    ∧ ∀ k e', j < k → k < n → events[k]? = some e' → ¬ EndsSaves (before events k) e'

theorem isCurrentSave_iff {m : Model} {g : Nat} :
    m.isCurrentSave g = true ↔ m.isSaving = true ∧ m.saveGeneration = g := by
  simp [isCurrentSave]

/-! ## What one event does about saves -/

/-- The fields that the protocol is kept in are the same. -/
structure SameSaving (m m' : Model) : Prop where
  saving : m'.isSaving = m.isSaving
  generation : m'.saveGeneration = m.saveGeneration
  enabled : m'.saveEnabled = m.saveEnabled

/-- All that an event can do to the fields that the protocol is kept in. -/
inductive SaveStep (m : Model) (e : Event) : Prop where
  /-- A save is sent under the next number. -/
  | accepted (hacc : ∀ g, Accepts g m e ↔ g = m.saveGeneration + 1)
      (henabled : m.saveEnabled = true) (hup : (update m e).1 = m.startSaving)
  /-- A schema is taken, and with it a save under way is forgotten. -/
  | forgotten (hset : e.SetsUp) (hsaving : (update m e).1.isSaving = false)
      (hgen : (update m e).1.saveGeneration = m.saveGeneration)
  /-- The save under way ends. -/
  | completed (g : Nat) (hc : e.Completes g) (hcur : m.isCurrentSave g = true)
      (hsaving : (update m e).1.isSaving = false)
      (hgen : (update m e).1.saveGeneration = m.saveGeneration)
  /-- Nothing that matters to saves. -/
  | kept (hacc : ∀ g, ¬ Accepts g m e) (hset : ¬ e.SetsUp)
      (hquiet : e.ReportsSave → update m e = (m, []))
      (hcur : ∀ g, e.Completes g → m.isCurrentSave g = false)
      (hsame : SameSaving m (update m e).1)

/-- An event that nothing comes of leaves the protocol alone. -/
theorem SaveStep.ignored {m : Model} {e : Event} (hup : update m e = (m, [])) (hset : ¬ e.SetsUp)
    (hcur : ∀ g, e.Completes g → m.isCurrentSave g = false) : SaveStep m e := by
  refine .kept ?_ hset (fun _ => hup) hcur ?_
  · rintro g ⟨_, request, hmem⟩
    rw [hup] at hmem
    simp at hmem
  · rw [hup]
    exact ⟨rfl, rfl, rfl⟩

/-- An event that is no save, no set-up and no report on a save leaves the protocol alone. -/
theorem SaveStep.other {m : Model} {e : Event} (hsave : e ≠ .shell .save) (hset : ¬ e.SetsUp)
    (hrep : ¬ e.ReportsSave) (hsame : SameSaving m (update m e).1) : SaveStep m e :=
  .kept (fun _ h => hsave h.1) hset (fun h => absurd h hrep)
    (fun _ h => absurd h.reportsSave hrep) hsame

/-- A schema that is taken ends a save without a report; one that is refused leaves it alone. -/
theorem saveStep_setUp (m : Model) (settings : String) (format : WireFormat) :
    SaveStep m (.shell (.setUp settings format)) := by
  cases hs : Schema.ofText settings with
  | ok schema =>
      have hset : (Event.shell (.setUp settings format)).SetsUp :=
        ⟨settings, format, schema, rfl, hs⟩
      refine .forgotten hset ?_ ?_
      · simp only [update, setUp, hs, scanIfNeeded]
        split <;> rfl
      · simp only [update, setUp, hs, scanIfNeeded]
        split <;> rfl
  | error why =>
      have hset : ¬ (Event.shell (.setUp settings format)).SetsUp := by
        rintro ⟨settings', format', schema, he, hok⟩
        obtain ⟨rfl, rfl⟩ := ShellEvent.setUp.inj (Event.shell.inj he)
        rw [hs] at hok
        cases hok
      refine .other (by simp) hset (fun h => nomatch h) ?_
      simp only [update, setUp, hs]
      exact ⟨rfl, rfl, rfl⟩

/-- A save is sent if it may be and if the form can be read. -/
theorem saveStep_save (m : Model) : SaveStep m (.shell .save) := by
  have hset : ¬ (Event.shell .save).SetsUp := Event.not_setsUp (by simp)
  cases henabled : m.saveEnabled with
  | false =>
      refine .ignored ?_ hset (fun g h => nomatch h)
      simp [update, save, henabled]
  | true =>
      cases hform : m.form.save m.schema with
      | ok payload =>
          have hup : update m (.shell .save) = (m.startSaving,
              [.render, .fetch (.save (m.saveGeneration + 1)) (saveRequest m.format payload),
                .timer (.start (m.saveGeneration + 1) .saveTimeout saveTimeoutMillis)]) := by
            simp only [update, save, henabled, hform]
            rfl
          -- the number is in the request and nowhere else among the effects
          refine .accepted (fun g => ?_) henabled (by rw [hup])
          unfold Accepts
          rw [hup]
          simp
      | error why =>
          have hup : update m (.shell .save) = m.fail why.message := by
            simp [update, save, henabled, hform]
          refine .kept ?_ hset (fun h => nomatch h) (fun g h => nomatch h) ?_
          · rintro g ⟨_, request, hmem⟩
            rw [hup] at hmem
            simp [fail] at hmem
          · rw [hup]
            exact ⟨rfl, rfl, rfl⟩

/-- An answer counts for the save under way, and is ignored for any other. -/
theorem saveStep_saveAnswered (m : Model) (g : Nat) (result : Except String String) :
    SaveStep m (.saveAnswered g result) := by
  cases hcur : m.isCurrentSave g with
  | true =>
      refine .completed g (.answer result) hcur ?_ ?_
      · cases result <;> simp [update, saveAnswered, hcur, finishSaving, setError]
      · cases result <;> simp [update, saveAnswered, hcur, finishSaving, setError]
  | false =>
      refine .ignored ?_ (Event.not_setsUp (by simp)) ?_
      · simp [update, saveAnswered, hcur]
      · intro g' hc
        cases hc
        exact hcur

/-- So does the timer of a save, while a cancelled timer is ignored always. -/
theorem saveStep_saveTimer (m : Model) (output : TimerOutput) :
    SaveStep m (.saveTimer output) := by
  have hset : ¬ (Event.saveTimer output).SetsUp := Event.not_setsUp (by simp)
  cases output with
  | cancelled id kind => exact .ignored rfl hset (fun g h => nomatch h)
  | fired id kind =>
      cases kind with
      | poll => exact .ignored rfl hset (fun g h => nomatch h)
      | saveTimeout =>
          cases hcur : m.isCurrentSave id with
          | true =>
              refine .completed id .timeout hcur ?_ ?_
              · simp [update, saveTimer, hcur, finishSaving, fail, setError]
              · simp [update, saveTimer, hcur, finishSaving, fail, setError]
          | false =>
              refine .ignored ?_ hset ?_
              · simp [update, saveTimer, hcur]
              · intro g hc
                cases hc
                exact hcur

/-- **Every event is one of the four cases.** What the model's code does for each event is read
here and nowhere else below. -/
theorem saveStep (m : Model) (e : Event) : SaveStep m e := by
  cases e with
  | saveAnswered g result => exact saveStep_saveAnswered m g result
  | saveTimer output => exact saveStep_saveTimer m output
  | configReceived result =>
      refine .other (by simp) (Event.not_setsUp (by simp)) (fun h => nomatch h) ?_
      simp only [update, configReceived]
      split
      · exact ⟨rfl, rfl, rfl⟩
      · split <;> exact ⟨rfl, rfl, rfl⟩
  | scanReceived result | pollTimer output =>
      exact .other (by simp) (Event.not_setsUp (by simp)) (fun h => nomatch h) ⟨rfl, rfl, rfl⟩
  | shell e =>
      cases e with
      | setUp settings format => exact saveStep_setUp m settings format
      | save => exact saveStep_save m
      | reload | startScanning | stopScanning | rescan =>
          exact .other (by simp) (Event.not_setsUp (by simp)) (fun h => nomatch h) ⟨rfl, rfl, rfl⟩
      | edit id e =>
          refine .other (by simp) (Event.not_setsUp (by simp)) (fun h => nomatch h) ?_
          simp only [update, edit]
          split <;> exact ⟨rfl, rfl, rfl⟩
      | clearError =>
          refine .other (by simp) (Event.not_setsUp (by simp)) (fun h => nomatch h) ?_
          simp only [update, clearError]
          split <;> exact ⟨rfl, rfl, rfl⟩
      | clearSuccess =>
          refine .other (by simp) (Event.not_setsUp (by simp)) (fun h => nomatch h) ?_
          simp only [update, clearSuccess]
          split <;> exact ⟨rfl, rfl, rfl⟩

/-! ## One event at a time -/

theorem Accepts.not_setsUp {g : Nat} {m : Model} {e : Event} (h : Accepts g m e) : ¬ e.SetsUp := by
  rw [h.1]
  exact Event.not_setsUp (by simp)

theorem Accepts.not_completes {g g' : Nat} {m : Model} {e : Event} (h : Accepts g m e) :
    ¬ e.Completes g' := by
  rw [h.1]
  exact fun hc => nomatch hc

/-- A save is accepted only where it may be, and takes the next number. -/
theorem Accepts.spec {g : Nat} {m : Model} {e : Event} (h : Accepts g m e) :
    m.saveEnabled = true ∧ g = m.saveGeneration + 1 ∧ (update m e).1 = m.startSaving := by
  cases saveStep m e with
  | accepted hacc henabled hup => exact ⟨henabled, (hacc g).mp h, hup⟩
  | forgotten hset => exact absurd hset h.not_setsUp
  | completed _ hc => exact absurd hc h.not_completes
  | kept hacc => exact absurd h (hacc g)

/-- The number of saves stays as it is where none is accepted. -/
theorem saveGeneration_of_not_accepts {m : Model} {e : Event} (h : ∀ g, ¬ Accepts g m e) :
    (update m e).1.saveGeneration = m.saveGeneration := by
  cases saveStep m e with
  | accepted hacc => exact absurd ((hacc _).mpr rfl) (h _)
  | forgotten _ _ hgen => exact hgen
  | completed _ _ _ _ hgen => exact hgen
  | kept _ _ _ _ hsame => exact hsame.generation

theorem saveGeneration_le_update (m : Model) (e : Event) :
    m.saveGeneration ≤ (update m e).1.saveGeneration := by
  by_cases h : ∃ g, Accepts g m e
  · obtain ⟨g, hg⟩ := h
    rw [hg.spec.2.2]
    exact Nat.le_succ _
  · exact Nat.le_of_eq (saveGeneration_of_not_accepts fun g hg => h ⟨g, hg⟩).symm

/-- A report counts exactly if it may end the save under way. -/
theorem actsOn_iff {g : Nat} {m : Model} {e : Event} (hc : e.Completes g) :
    ActsOn m e ↔ m.isCurrentSave g = true := by
  cases saveStep m e with
  | accepted hacc => exact absurd hc ((hacc _).mpr rfl).not_completes
  | forgotten hset =>
      obtain ⟨_, _, _, he, _⟩ := hset
      subst he
      exact nomatch hc
  | completed g' hc' hcur hsaving =>
      -- an event is about one save only
      have hg : g' = g := by cases hc <;> cases hc' <;> rfl
      subst hg
      refine ⟨fun _ => hcur, fun _ hup => ?_⟩
      rw [hup] at hsaving
      exact Bool.noConfusion (hsaving.symm.trans (isCurrentSave_iff.mp hcur).1)
  | kept _ _ hquiet hcur =>
      refine ⟨fun hact => absurd (hquiet hc.reportsSave) hact, fun h => ?_⟩
      rw [hcur g hc] at h
      exact Bool.noConfusion h

/-- A report that may not end the save under way comes to nothing. -/
theorem update_of_not_current {m : Model} {e : Event} (hrep : e.ReportsSave)
    (h : ∀ g, e.Completes g → m.isCurrentSave g = false) : update m e = (m, []) := by
  cases saveStep m e with
  | accepted hacc =>
      obtain ⟨he, _⟩ := (hacc _).mpr rfl
      subst he
      exact nomatch hrep
  | forgotten hset =>
      obtain ⟨_, _, _, he, _⟩ := hset
      subst he
      exact nomatch hrep
  | completed g hc hcur => exact Bool.noConfusion ((h g hc).symm.trans hcur)
  | kept _ _ hquiet => exact hquiet hrep

/-- Which save is under way after an event: one that was just accepted, or the one before if nothing
ended it. -/
theorem isCurrentSave_update (m : Model) (e : Event) (g : Nat) :
    (update m e).1.isCurrentSave g = true
      ↔ Accepts g m e ∨ m.isCurrentSave g = true ∧ ¬ EndsSaves m e := by
  -- a schema that is taken and a report that counts both leave no save under way
  have hnone : ∀ h : (update m e).1.isSaving = false, EndsSaves m e →
      ((update m e).1.isCurrentSave g = true
        ↔ Accepts g m e ∨ m.isCurrentSave g = true ∧ ¬ EndsSaves m e) := by
    intro h hends
    refine ⟨fun hcur => ?_, fun hor => ?_⟩
    · exact Bool.noConfusion (h.symm.trans (isCurrentSave_iff.mp hcur).1)
    · rcases hor with hacc | hno
      · rw [hacc.spec.2.2] at h
        exact Bool.noConfusion (show true = false from h)
      · exact absurd hends hno.2
  cases saveStep m e with
  | accepted hacc _ hup =>
      rw [hup, hacc g, isCurrentSave_iff]
      refine ⟨fun h => Or.inl h.2.symm, fun h => ?_⟩
      rcases h with hg | hno
      · exact ⟨rfl, hg.symm⟩
      · exact absurd (Or.inl ⟨_, (hacc _).mpr rfl⟩) hno.2
  | forgotten hset hsaving => exact hnone hsaving (Or.inr (Or.inl hset))
  | completed g' hc hcur hsaving =>
      exact hnone hsaving (Or.inr (Or.inr ⟨g', hc, (actsOn_iff hc).mpr hcur⟩))
  | kept hacc hset hquiet _ hsame =>
      have hends : ¬ EndsSaves m e := by
        rintro (⟨g', hg'⟩ | hs | ⟨g', hc, hact⟩)
        · exact hacc g' hg'
        · exact hset hs
        · exact hact (hquiet hc.reportsSave)
      rw [isCurrentSave_iff, isCurrentSave_iff, hsame.saving, hsame.generation]
      exact ⟨fun h => Or.inr ⟨h, hends⟩, fun h => h.elim (fun ha => absurd ha (hacc g)) And.left⟩

/-! ## Whole runs -/

/-- While a save is under way no other can be started. -/
def SaveGuard (m : Model) : Prop :=
  m.saveEnabled = true → m.isSaving = false

theorem saveGuard_step (m : Model) (e : Event) (h : SaveGuard m) : SaveGuard (update m e).1 := by
  cases saveStep m e with
  | accepted _ _ hup =>
      rw [hup]
      intro henabled
      exact Bool.noConfusion (show false = true from henabled)
  | forgotten _ hsaving => exact fun _ => hsaving
  | completed _ _ _ hsaving => exact fun _ => hsaving
  | kept _ _ _ _ hsame =>
      intro henabled
      rw [hsame.saving]
      exact h (hsame.enabled ▸ henabled)

theorem saveGuard_before (events : List Event) (n : Nat) : SaveGuard (before events n) :=
  before_invariant (fun h => Bool.noConfusion (show false = true from h)) saveGuard_step events n

/-- The number of saves never goes down. -/
theorem saveGeneration_mono (events : List Event) {i j : Nat} (h : i ≤ j) :
    (before events i).saveGeneration ≤ (before events j).saveGeneration := by
  induction h with
  | refl => exact Nat.le_refl _
  | @step n _ ih =>
      cases he : events[n]? with
      | none => rw [before_succ_of_none he]; exact ih
      | some e =>
          rw [before_succ he]
          exact Nat.le_trans ih (saveGeneration_le_update _ e)

/-- The same rule as it follows from the events of the run alone. -/
theorem underWay_succ {events : List Event} {n g : Nat} {e : Event} (he : events[n]? = some e) :
    UnderWay events (n + 1) g
      ↔ Accepts g (before events n) e ∨ UnderWay events n g ∧ ¬ EndsSaves (before events n) e := by
  constructor
  · rintro ⟨j, e', hj, hj', hacc, hsince⟩
    -- the save was sent before the last event or by it
    rcases Nat.lt_succ_iff_lt_or_eq.mp hj with hlt | heq
    · exact Or.inr ⟨⟨j, e', hlt, hj', hacc, fun k e'' h1 h2 => hsince k e'' h1 (by omega)⟩,
        hsince n e hlt (Nat.lt_succ_self n) he⟩
    · subst heq
      rw [he] at hj'
      exact Or.inl (Option.some.inj hj' ▸ hacc)
  · rintro (hacc | ⟨⟨j, e', hj, hj', hacc, hsince⟩, hends⟩)
    · exact ⟨n, e, Nat.lt_succ_self n, he, hacc, fun k _ h1 h2 => by omega⟩
    · refine ⟨j, e', by omega, hj', hacc, fun k e'' h1 h2 hk => ?_⟩
      rcases Nat.lt_succ_iff_lt_or_eq.mp h2 with hlt | heq
      · exact hsince k e'' h1 hlt hk
      · subst heq
        rw [he] at hk
        exact Option.some.inj hk ▸ hends

/-- **The two fields of the model say which save of the run is under way.** So what the app checks
before it takes a report is the question whether that save was ended since. -/
theorem underWay_iff {events : List Event} {n : Nat} (hn : n ≤ events.length) (g : Nat) :
    UnderWay events n g ↔ (before events n).isCurrentSave g = true := by
  induction n with
  | zero =>
      constructor
      · rintro ⟨j, _, hj, _⟩; omega
      · intro h; exact Bool.noConfusion (isCurrentSave_iff.mp h).1
  | succ n ih =>
      -- the run and the fields change by one rule: `underWay_succ` and `isCurrentSave_update`
      have he : events[n]? = some events[n] := List.getElem?_eq_getElem hn
      rw [underWay_succ he, before_succ he, isCurrentSave_update, ih (Nat.le_of_succ_le hn)]

/-- Of the reports on one save no later one counts once one has. -/
theorem report_unique {events : List Event} {i j g : Nat} {e e' : Event}
    (hi : events[i]? = some e) (hj : events[j]? = some e') (hc : e.Completes g)
    (hc' : e'.Completes g) (hact : ActsOn (before events i) e)
    (hact' : ActsOn (before events j) e') : ¬ i < j := by
  intro hlt
  have hjn : j ≤ events.length := Nat.le_of_lt (List.getElem?_eq_some_iff.mp hj).1
  obtain ⟨_, hgen⟩ := isCurrentSave_iff.mp ((actsOn_iff hc).mp hact)
  obtain ⟨k, e'', hk, hk', hacc, hsince⟩ :=
    (underWay_iff hjn g).mpr ((actsOn_iff hc').mp hact')
  rcases Nat.lt_trichotomy k i with hki | heq | hik
  · -- the first report that counted came after the save was sent, and ended it
    exact hsince i e hki hlt hi (Or.inr (Or.inr ⟨g, hc, hact⟩))
  · subst heq
    rw [hi] at hk'
    exact (Option.some.inj hk' ▸ hacc).not_completes hc
  · -- the number was given out again after it had been used
    have hle := saveGeneration_mono events (Nat.le_of_lt hik)
    have hnext := hacc.spec.2.1
    omega

/-- The answer to the save under way cancels the save's timer, and asks for nothing else. -/
theorem effects_of_answer {m : Model} {g : Nat} {result : Except String String}
    (h : ActsOn m (.saveAnswered g result)) :
    (update m (.saveAnswered g result)).2 = [.timer (.cancel g .saveTimeout), .render] := by
  have hcur := (actsOn_iff (.answer result)).mp h
  simp [update, saveAnswered, hcur]

/--
**The protocol of saves.**

In every run from the start, whatever events come and in whatever order: the number of
saves never goes down, and grows by one exactly where a save is accepted; a save is
accepted only while none is under way; of all the answers to and timers of one save at
most one counts, and it counts if the save is under way; every other event about saves
changes nothing and asks for nothing; and an answer that counts cancels the timer of its
save, once.

Nothing is assumed about the shell here. A late answer to a save that was given up, an answer that
comes twice, or a timer that goes off behind the answer cannot be taken for news about the save
that is under way now.
-/
theorem save_protocol (events : List Event) :
    (∀ i j, i ≤ j → (before events i).saveGeneration ≤ (before events j).saveGeneration)
    ∧ (∀ n e, events[n]? = some e →
        ((∃ g, Accepts g (before events n) e) →
          (before events (n + 1)).saveGeneration = (before events n).saveGeneration + 1)
        ∧ ((∀ g, ¬ Accepts g (before events n) e) →
          (before events (n + 1)).saveGeneration = (before events n).saveGeneration))
    ∧ (∀ n e g, events[n]? = some e → Accepts g (before events n) e →
        g = (before events (n + 1)).saveGeneration
        ∧ (before events n).isSaving = false ∧ ∀ g', ¬ UnderWay events n g')
    ∧ (∀ i j e e' g, events[i]? = some e → events[j]? = some e' →
        e.Completes g → e'.Completes g →
        ActsOn (before events i) e → ActsOn (before events j) e' → i = j)
    ∧ (∀ n e g, events[n]? = some e → e.Completes g → UnderWay events n g →
        ActsOn (before events n) e)
    ∧ (∀ n e, events[n]? = some e → e.ReportsSave →
        (∀ g, e.Completes g → ¬ UnderWay events n g) →
        update (before events n) e = (before events n, []))
    ∧ (∀ n g result, events[n]? = some (.saveAnswered g result) →
        ActsOn (before events n) (.saveAnswered g result) →
        (update (before events n) (.saveAnswered g result)).2
          = [.timer (.cancel g .saveTimeout), .render]) := by
  have hlen : ∀ {n e}, events[n]? = some e → n ≤ events.length :=
    fun h => Nat.le_of_lt (List.getElem?_eq_some_iff.mp h).1
  refine ⟨fun i j h => saveGeneration_mono events h, ?_, ?_, ?_, ?_, ?_, ?_⟩
  · intro n e he
    rw [before_succ he]
    refine ⟨?_, saveGeneration_of_not_accepts⟩
    rintro ⟨g, hg⟩
    rw [hg.spec.2.2]
    rfl
  · intro n e g he hacc
    obtain ⟨henabled, hg, hup⟩ := hacc.spec
    have hfree : (before events n).isSaving = false := saveGuard_before events n henabled
    refine ⟨?_, hfree, fun g' hway => ?_⟩
    · rw [before_succ he, hup]
      exact hg
    · have hcur := (underWay_iff (hlen he) g').mp hway
      exact Bool.noConfusion (hfree.symm.trans (isCurrentSave_iff.mp hcur).1)
  · intro i j e e' g hi hj hc hc' hact hact'
    have hij := report_unique hi hj hc hc' hact hact'
    have hji := report_unique hj hi hc' hc hact' hact
    omega
  · intro n e g he hc hway
    exact (actsOn_iff hc).mpr ((underWay_iff (hlen he) g).mp hway)
  · intro n e he hrep hway
    refine update_of_not_current hrep fun g hc => ?_
    have hcur := mt (underWay_iff (hlen he) g).mpr (hway g hc)
    exact Bool.eq_false_iff.mpr hcur
  · intro n g result he hact
    exact effects_of_answer hact

/-- One save, its answer, and the timer of the save going off after that. -/
theorem save_protocol_late_timer :
    let events : List Event :=
      [.shell (.setUp "[\x7b\"name\":\"a\",\"title\":\"\",\"variables\":[]\x7d]" .json),
        .shell .save, .saveAnswered 1 (.ok "Saved"), .saveTimer (.fired 1 .saveTimeout)]
    Accepts 1 (before events 1) (.shell .save)
      ∧ ActsOn (before events 2) (.saveAnswered 1 (.ok "Saved"))
      ∧ update (before events 3) (.saveTimer (.fired 1 .saveTimeout)) = (before events 3, []) := by
  intro events
  have hschema : Schema.ofText "[\x7b\"name\":\"a\",\"title\":\"\",\"variables\":[]\x7d]"
      = .ok ⟨[⟨"a", "", []⟩]⟩ := by cbv
  have hfirst : before events 1 = (update (before events 0) _).1 := before_succ rfl
  simp only [update, setUp, hschema] at hfirst
  have hacc : Accepts 1 (before events 1) (.shell .save) := by
    rw [hfirst]
    exact ⟨rfl, _, List.mem_cons_of_mem _ List.mem_cons_self⟩
  have hact : ActsOn (before events 2) (.saveAnswered 1 (.ok "Saved")) := by
    refine (actsOn_iff (.answer _)).mpr ?_
    rw [before_succ (n := 1) (e := .shell .save) rfl, hacc.spec.2.2, hfirst]
    rfl
  obtain ⟨_, _, _, hone, _⟩ := save_protocol events
  refine ⟨hacc, hact, Classical.byContradiction fun h => ?_⟩
  have := hone 2 3 _ _ 1 rfl rfl (.answer _) .timeout hact h
  omega

end Model

end DeviceSetup
