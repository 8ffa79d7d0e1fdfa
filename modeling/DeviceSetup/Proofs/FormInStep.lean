import DeviceSetup.Proofs.FormFields
import DeviceSetup.Proofs.Runs

/-!
# Form, schema and poller stay in step

The app keeps a schema, the form that was rendered from it and, in the poller, the ids of the
form's combos. They are written at different places: a set-up replaces all three, while a
configuration, an edit or a scan reaches into the form by the ids of fields, and a
configuration may stop midway.

`formStep` says once what an event can do to them: install a schema, merge a scan, or enter
something. From that follows `InStep`: the form keeps the skeleton of what its schema renders
to, and the poller knows its combos. A save looks up the fields of the schema's variables, so
it finds every one of them.
-/

namespace DeviceSetup

/-! ## Merging keeps skeletons -/

/-- Some scan is merged into an element. -/
def Widget.Merges (w w' : Widget) : Prop :=
  ∃ networks, w' = w.mergeScan networks

theorem Widget.Merges.blank {w w' : Widget} (h : w.Merges w') : w'.blank = w.blank := by
  obtain ⟨networks, rfl⟩ := h
  cases w with
  | network combo => simp only [mergeScan, Widget.blank, NetworkCombo.mergeScan_optionsId]
  | input _ _ _ | checkbox _ | select _ _ => rfl

namespace Poller

theorem changed_mergeInto {form form₁ : Form} (h : form.Changed Widget.Merges form₁)
    (networks : List Network) (id : String) :
    form.Changed Widget.Merges (mergeInto networks form₁ id) := by
  unfold mergeInto
  split
  · rename_i f hf
    exact h.tail hf ⟨networks, rfl⟩
  · exact h

theorem changed_merges {form form₁ : Form} (h : form.Changed Widget.Merges form₁)
    (networks : List Network) (ids : List String) :
    form.Changed Widget.Merges (ids.foldl (mergeInto networks) form₁) := by
  induction ids generalizing form₁ with
  | nil => exact h
  | cons id rest ih => exact ih (changed_mergeInto h networks id)

theorem changed_mergeLast (p : Poller) (form : Form) :
    form.Changed Widget.Merges (p.mergeLast form) := by
  unfold mergeLast
  split
  · exact changed_merges .none _ _
  · exact .none

/-- What a poller knows of the form and of scans is the same. Timers and requests come and go
without touching it. -/
structure SameKnowledge (p p' : Poller) : Prop where
  tracked : p'.tracked = p.tracked
  lastScan : p'.lastScan = p.lastScan

theorem sameKnowledge_timed (p : Poller) (output : TimerOutput) :
    SameKnowledge p (p.timed output).1 := by
  unfold timed
  split
  · split
    · split <;> exact ⟨rfl, rfl⟩
    · exact ⟨rfl, rfl⟩
  · exact ⟨rfl, rfl⟩
  · exact ⟨rfl, rfl⟩

end Poller

/-! ## What one event does to the form -/

theorem Schema.validate_of_ofText {settings : String} {schema : Schema}
    (h : Schema.ofText settings = .ok schema) : schema.validate = .ok () := by
  unfold Schema.ofText Schema.ofJson at h
  cases hparse : (Json.parse Schema.reader (Utf8.encode settings)).mapError SchemaError.parse with
  | error e =>
      rw [hparse] at h
      cases h
  | ok read =>
      rw [hparse] at h
      cases hvalid : read.validate with
      | error e =>
          simp only [bind, Except.bind, hvalid] at h
          cases h
      | ok u =>
          simp only [bind, Except.bind, hvalid] at h
          cases h
          exact hvalid

namespace Model

/-- All that an event can do to the form and to what is kept beside it. Invariants of the form go
through these three cases instead of the handlers of all events. -/
inductive FormStep (m m' : Model) : Prop where
  /-- A schema is taken, and its form starts with the last scan. -/
  | installed (hvalid : m'.schema.validate = .ok ())
      (hform : m'.form = m'.poller.mergeLast (Form.render m'.schema))
      (htracked : m'.poller.tracked = (Form.render m'.schema).networkIds)
      (hscan : m'.poller.lastScan = m.poller.lastScan)
  /-- A new scan is merged. -/
  | scanned (networks : List Network) (hschema : m'.schema = m.schema)
      (hform : m'.form = m'.poller.mergeLast m.form)
      (htracked : m'.poller.tracked = m.poller.tracked)
      (hscan : m'.poller.lastScan = some networks)
  /-- Something is entered, if anything happens to the form at all. -/
  | entered (hschema : m'.schema = m.schema) (hform : m.form.Changed Widget.Enters m'.form)
      (hpoller : Poller.SameKnowledge m.poller m'.poller)

/-- An event that leaves the form and its surroundings alone. -/
theorem FormStep.untouched {m m' : Model} (hschema : m'.schema = m.schema)
    (hform : m'.form = m.form) (hpoller : Poller.SameKnowledge m.poller m'.poller) :
    FormStep m m' :=
  .entered hschema (hform ▸ .none) hpoller

theorem formStep_setUp (m : Model) (settings : String) (format : WireFormat) :
    FormStep m (m.setUp settings format).1 := by
  cases hs : Schema.ofText settings with
  | error why =>
      simp only [setUp, hs]
      exact .untouched rfl rfl ⟨rfl, rfl⟩
  | ok schema =>
      have hvalid := Schema.validate_of_ofText hs
      -- scanning starts or not, and neither way is the form or the knowledge changed again
      simp only [setUp, hs, scanIfNeeded]
      split <;> exact .installed hvalid rfl rfl rfl

theorem formStep_configReceived (m : Model) (result : Except String Payload) :
    FormStep m (m.configReceived result).1 := by
  cases result with
  | error why => exact .untouched rfl rfl ⟨rfl, rfl⟩
  | ok payload =>
      -- what was written before a load stopped stays in the form
      have hload := Form.changed_load m.schema m.form payload
      unfold configReceived
      dsimp only
      split
      · rename_i form hl
        refine .entered rfl ?_ ⟨rfl, rfl⟩
        rw [show m.form.load m.schema payload = (form, none) from hl] at hload
        exact hload
      · rename_i form e hl
        refine .entered rfl ?_ ⟨rfl, rfl⟩
        rw [show m.form.load m.schema payload = (form, some e) from hl] at hload
        exact hload

/-- The form that an edit leaves is put in place, whether the edit failed or not. -/
theorem form_edit (m : Model) (id : String) (e : Edit) :
    (m.edit id e).1.form = (m.form.tryEdit id e).1 := by
  unfold edit
  split
  · rename_i hedit
    rw [hedit]
  · rename_i hedit
    rw [hedit]
    rfl

theorem formStep_edit (m : Model) (id : String) (e : Edit) : FormStep m (m.edit id e).1 := by
  have hedit := m.form.changed_tryEdit id e
  rw [← form_edit] at hedit
  refine .entered ?_ hedit ?_
  · unfold edit
    split <;> rfl
  · unfold edit
    split <;> exact ⟨rfl, rfl⟩

theorem formStep_scanReceived (m : Model) (result : Except String ScanReport) :
    FormStep m (m.scanReceived result).1 := by
  cases result with
  | error why =>
      cases hrun : m.poller.running with
      | true =>
          simp only [scanReceived, Poller.scanned, hrun, if_true]
          exact .untouched rfl rfl ⟨rfl, rfl⟩
      | false =>
          simp only [scanReceived, Poller.scanned, hrun, Bool.false_eq_true, if_false]
          exact .untouched rfl rfl ⟨rfl, rfl⟩
  | ok report =>
      cases hrun : m.poller.running with
      | true =>
          simp only [scanReceived, Poller.scanned, hrun, if_true]
          exact .scanned report.networks rfl rfl rfl rfl
      | false =>
          simp only [scanReceived, Poller.scanned, hrun, Bool.false_eq_true, if_false]
          exact .scanned report.networks rfl rfl rfl rfl

/-- A configuration that came is loaded, and what keeps it from being loaded whole is shown. -/
theorem configReceived_ok (m : Model) (payload : Payload) :
    (m.configReceived (.ok payload)).1
      = { m with
          form := (m.form.load m.schema payload).1
          isLoading := false
          error := (m.form.load m.schema payload).2.map FormError.message } := by
  have hload : m.stopLoading.form.load m.stopLoading.schema payload
      = m.form.load m.schema payload := rfl
  simp only [configReceived, hload]
  cases m.form.load m.schema payload with
  | mk form error => cases error <;> rfl

/-- A scan that came is merged into the combos that the poller tracks. -/
theorem form_scanReceived_ok (m : Model) (report : ScanReport) :
    (m.scanReceived (.ok report)).1.form
      = m.poller.tracked.foldl (Poller.mergeInto report.networks) m.form := by
  cases hrun : m.poller.running with
  | true => simp only [scanReceived, Poller.scanned, hrun, if_true]; rfl
  | false => simp only [scanReceived, Poller.scanned, hrun, Bool.false_eq_true, if_false]; rfl

theorem form_scanReceived_error (m : Model) (why : String) :
    (m.scanReceived (.error why)).1.form = m.form := by
  cases hrun : m.poller.running with
  | true => simp only [scanReceived, Poller.scanned, hrun, if_true]
  | false => simp only [scanReceived, Poller.scanned, hrun, Bool.false_eq_true, if_false]

/--
**Every event installs, merges or enters.**

There is no other way to touch the form or the list of tracked combos, so an invariant about the
two is proved by three cases instead of one for each event.
-/
theorem formStep (m : Model) (e : Event) : FormStep m (update m e).1 := by
  cases e with
  | configReceived result => exact formStep_configReceived m result
  | scanReceived result => exact formStep_scanReceived m result
  | pollTimer output => exact .untouched rfl rfl (Poller.sameKnowledge_timed m.poller output)
  | saveAnswered g result =>
      simp only [update, saveAnswered]
      split
      · exact .untouched rfl rfl ⟨rfl, rfl⟩
      · cases result <;> exact .untouched rfl rfl ⟨rfl, rfl⟩
  | saveTimer output =>
      simp only [update, saveTimer]
      split
      · split <;> exact .untouched rfl rfl ⟨rfl, rfl⟩
      · exact .untouched rfl rfl ⟨rfl, rfl⟩
      · exact .untouched rfl rfl ⟨rfl, rfl⟩
  | shell e =>
      cases e with
      | setUp settings format => exact formStep_setUp m settings format
      | edit id e => exact formStep_edit m id e
      | reload | startScanning | stopScanning | rescan => exact .untouched rfl rfl ⟨rfl, rfl⟩
      | save =>
          simp only [update, save]
          split
          · exact .untouched rfl rfl ⟨rfl, rfl⟩
          · -- a save reads the form and leaves it
            split <;> exact .untouched rfl rfl ⟨rfl, rfl⟩
      | clearError =>
          simp only [update, clearError]
          split <;> exact .untouched rfl rfl ⟨rfl, rfl⟩
      | clearSuccess =>
          simp only [update, clearSuccess]
          split <;> exact .untouched rfl rfl ⟨rfl, rfl⟩

end Model

/-! ## Selections -/

/-- A select has nothing selected, or one of its options. The page shows the option by its index,
so one that is out of range could not be shown. -/
def Widget.SelectionValid : Widget → Prop
  | .select options selected => ∀ i, selected = some i → i < options.length
  | _ => True

theorem Widget.Enters.selectionValid {w w' : Widget} (h : w.Enters w') (_ : w.SelectionValid) :
    w'.SelectionValid := by
  rcases h.cases with ⟨_, _, _, _, rfl, rfl⟩ | ⟨_, _, rfl, rfl⟩ | ⟨_, _, _, rfl, rfl, hvalid⟩
    | ⟨combo, rfl, rfl | ⟨text, rfl⟩⟩
  · trivial
  · trivial
  · exact hvalid
  · trivial
  · trivial

theorem Widget.Merges.selectionValid {w w' : Widget} (h : w.Merges w') (hw : w.SelectionValid) :
    w'.SelectionValid := by
  obtain ⟨networks, rfl⟩ := h
  cases w with
  | network combo => trivial
  | input _ _ _ | checkbox _ | select _ _ => exact hw

theorem Behavior.selectionValid_widget (b : Behavior) (id : String) (v : Variable) :
    (b.widget id v).SelectionValid := by
  cases b with
  | choice =>
      intro i hi
      split at hi
      · cases hi
      · -- the first option is selected from the start, if there is one
        rename_i hne
        obtain rfl := Option.some.inj hi
        rw [List.length_map]
        exact List.length_pos_iff.mpr hne
  | text _ _ | port | checkbox | deviceId | ssid => trivial

theorem Form.selectionValid_render (schema : Schema) :
    ∀ f ∈ (Form.render schema).fields, f.widget.SelectionValid := by
  intro f hf
  rw [fields_render] at hf
  obtain ⟨⟨setting, v⟩, _, hfield⟩ := List.mem_filterMap.mp hf
  unfold fieldOf? at hfield
  obtain ⟨b, _, hb⟩ := Option.bind_eq_some_iff.mp hfield
  obtain rfl := Option.some.inj hb
  exact b.selectionValid_widget _ v

/-! ## Whole runs -/

namespace Model

/-- The form is what the schema renders to, as far as nobody can enter it, and the poller knows its
combos. This is the invariant of all runs; each part of it needs the others to be kept. -/
structure InStep (m : Model) : Prop where
  valid : m.schema.validate = .ok ()
  skeleton : m.form.skeleton = (Form.render m.schema).skeleton
  selections : ∀ f ∈ m.form.fields, f.widget.SelectionValid
  tracked : m.poller.tracked = m.form.networkIds

theorem inStep_initial : InStep initial where
  valid := rfl
  skeleton := rfl
  selections := by
    intro f hf
    exact absurd hf List.not_mem_nil
  tracked := rfl

theorem inStep_step (m : Model) (e : Event) (h : InStep m) : InStep (update m e).1 := by
  cases formStep m e with
  | installed hvalid hform htracked hscan =>
      -- the new form starts with the last scan, which changes nothing of its skeleton
      have hmerged := (update m e).1.poller.changed_mergeLast (Form.render (update m e).1.schema)
      rw [← hform] at hmerged
      have hskel := hmerged.skeleton fun _ _ => Widget.Merges.blank
      refine ⟨hvalid, hskel, ?_, ?_⟩
      · exact hmerged.forall_mem (fun _ _ => Widget.Merges.selectionValid)
          (Form.selectionValid_render _)
      · rw [htracked, Form.networkIds_of_skeleton hskel]
  | scanned networks hschema hform htracked hscan =>
      have hmerged := (update m e).1.poller.changed_mergeLast m.form
      rw [← hform] at hmerged
      have hskel := hmerged.skeleton fun _ _ => Widget.Merges.blank
      refine ⟨hschema ▸ h.valid, ?_, ?_, ?_⟩
      · rw [hskel, h.skeleton, hschema]
      · exact hmerged.forall_mem (fun _ _ => Widget.Merges.selectionValid) h.selections
      · rw [htracked, h.tracked, Form.networkIds_of_skeleton hskel]
  | entered hschema hform hpoller =>
      have hskel := hform.skeleton fun _ _ => Widget.Enters.blank
      refine ⟨hschema ▸ h.valid, ?_, ?_, ?_⟩
      · rw [hskel, h.skeleton, hschema]
      · exact hform.forall_mem (fun _ _ => Widget.Enters.selectionValid) h.selections
      · rw [hpoller.tracked, h.tracked, Form.networkIds_of_skeleton hskel]

theorem inStep_after (events : List Event) : InStep (after events) :=
  after_invariant inStep_initial inStep_step events

end Model

/-! ## Saving finds every field -/

namespace Form

/-- A variable's field is there in a form with the skeleton of the schema. -/
theorem field?_of_skeleton {form : Form} {schema : Schema}
    (h : form.skeleton = (render schema).skeleton) {setting : Setting} {v : Variable}
    (hv : (setting, v) ∈ schema.vars) {b : Behavior} (hb : v.type.behavior? = some b) :
    (form.field? (elementId setting v)).isSome = true := by
  rw [field?_isSome_iff, ids_of_skeleton h, fields_render, List.mem_map]
  -- the field that was rendered for the variable has the id
  refine ⟨⟨elementId setting v, v.title, b.columns, b.widget (elementId setting v) v⟩, ?_, rfl⟩
  refine List.mem_filterMap.mpr ⟨(setting, v), hv, ?_⟩
  simp only [fieldOf?, hb]
  rfl

theorem readVariables_error {form : Form} {setting : Setting} {values : Dict Value}
    {vs : List Variable} {e : FormError}
    (h : form.readVariables setting values vs = .error e) :
    ∃ v ∈ vs, form.read setting v = .error e := by
  induction vs generalizing values with
  | nil => cases h
  | cons v rest ih =>
      rw [readVariables] at h
      cases hread : form.read setting v with
      | error e' =>
          rw [hread] at h
          cases h
          exact ⟨v, List.mem_cons_self, hread⟩
      | ok given =>
          rw [hread] at h
          -- this variable was read, so the error is one of those behind it
          have hrest : ∃ v ∈ rest, form.read setting v = .error e := by
            cases given with
            | none => exact ih h
            | some x => exact ih h
          obtain ⟨v', hv', he⟩ := hrest
          exact ⟨v', List.mem_cons_of_mem _ hv', he⟩

theorem readSettings_error {form : Form} {p : Payload} {settings : List Setting} {e : FormError}
    (h : form.readSettings p settings = .error e) :
    ∃ setting ∈ settings, ∃ v ∈ setting.vars, form.read setting v = .error e := by
  induction settings generalizing p with
  | nil => cases h
  | cons setting rest ih =>
      rw [readSettings] at h
      cases hvars : form.readVariables setting (p.valuesOf setting.name) setting.vars with
      | error e' =>
          rw [hvars] at h
          cases h
          exact ⟨setting, List.mem_cons_self, readVariables_error hvars⟩
      | ok values =>
          rw [hvars] at h
          obtain ⟨s, hs, he⟩ := ih h
          exact ⟨s, List.mem_cons_of_mem _ hs, he⟩

/-- A save fails because reading the field of some variable fails. -/
theorem save_error {form : Form} {schema : Schema} {e : FormError}
    (h : form.save schema = .error e) :
    ∃ sv ∈ schema.vars, form.read sv.1 sv.2 = .error e := by
  obtain ⟨setting, hs, v, hv, he⟩ := readSettings_error h
  refine ⟨(setting, v), ?_, he⟩
  exact List.mem_flatMap.mpr ⟨setting, hs, List.mem_map.mpr ⟨v, hv, rfl⟩⟩

theorem read_notFound {form : Form} {setting : Setting} {v : Variable} {id : String}
    (h : form.read setting v = .error (.notFound id)) :
    (∃ b, v.type.behavior? = some b) ∧ form.field? (elementId setting v) = none := by
  unfold read at h
  cases hb : v.type.behavior? with
  | none =>
      rw [hb] at h
      cases h
  | some b =>
      rw [hb] at h
      refine ⟨⟨b, rfl⟩, ?_⟩
      cases hf : form.field? (elementId setting v) with
      | none => rfl
      | some f =>
          simp only [find_ok hf, bind, Except.bind] at h
          split at h
          · cases h
          · cases h

theorem save_ne_notFound {form : Form} {schema : Schema}
    (h : form.skeleton = (render schema).skeleton) (id : String) :
    form.save schema ≠ .error (.notFound id) := by
  intro hsave
  obtain ⟨⟨setting, v⟩, hv, hread⟩ := save_error hsave
  obtain ⟨⟨b, hb⟩, hnone⟩ := read_notFound hread
  have hsome := field?_of_skeleton h hv hb
  rw [hnone] at hsome
  cases hsome

end Form

/-- The two errors of a form never read alike: one begins with another letter than the other. So
the text that is shown tells them apart. -/
theorem FormError.message_mismatch_ne (id id' : String) (expected found : WidgetKind) :
    (FormError.mismatch id expected found).message ≠ (FormError.notFound id').message := by
  intro h
  have hchars : ("widget '" ++ id ++ "' is a " ++ found.name ++ ", expected a "
      ++ expected.name).toList.head? = ("no widget with id '" ++ id' ++ "'").toList.head? :=
    congrArg (fun s : String => s.toList.head?) h
  simp only [String.toList_append, List.head?_append,
    show "widget '".toList.head? = some 'w' from rfl,
    show "no widget with id '".toList.head? = some 'n' from rfl, Option.some_or] at hchars
  exact absurd hchars (by decide)

namespace Model

/-- Where reading the form cannot miss a field, a save never reports a missing field. -/
theorem save_ne_fail_notFound {m : Model} (h : ∀ id, m.form.save m.schema ≠ .error (.notFound id))
    (id : String) : update m (.shell .save) ≠ m.fail (FormError.notFound id).message := by
  simp only [update, save]
  split
  · intro hup
    exact absurd (congrArg Prod.snd hup) (by simp [fail])
  · split
    · rename_i e he
      intro hup
      have hmessage : e.message = (FormError.notFound id).message :=
        Option.some.inj (congrArg (fun step : Step => step.1.error) hup)
      cases e with
      | notFound id' => exact h id' he
      | mismatch id' expected found =>
          exact FormError.message_mismatch_ne id' id expected found hmessage
    · intro hup
      exact absurd (congrArg Prod.snd hup) (by simp [fail])

/--
**Form, schema and poller stay in step.**

After any events the schema is valid; the form has the sections, rows, ids, labels, columns and
elements that the schema renders to, and differs only in what can be entered; every select has one
of its options selected or none; and the poller tracks the form's combos in form order. So a save
never misses a field, and never tells the user that one is missing. This holds although the three
are written at different places, and although a configuration may stop being loaded midway.
-/
theorem form_in_step (events : List Event) :
    (after events).schema.validate = .ok ()
    ∧ (after events).form.skeleton = (Form.render (after events).schema).skeleton
    ∧ (∀ f ∈ (after events).form.fields, ∀ options selected, f.widget = .select options selected →
        selected = none ∨ ∃ i, selected = some i ∧ i < options.length)
    ∧ (after events).poller.tracked = (after events).form.networkIds
    ∧ (∀ id, (after events).form.save (after events).schema ≠ .error (.notFound id))
    ∧ ∀ id, update (after events) (.shell .save)
        ≠ (after events).fail (FormError.notFound id).message := by
  have h := inStep_after events
  have hsave := Form.save_ne_notFound h.skeleton
  refine ⟨h.valid, h.skeleton, ?_, h.tracked, hsave, save_ne_fail_notFound hsave⟩
  intro f hf options selected hw
  have hvalid := h.selections f hf
  rw [hw] at hvalid
  cases selected with
  | none => exact Or.inl rfl
  | some i => exact Or.inr ⟨i, rfl, hvalid i rfl⟩

end Model

end DeviceSetup
