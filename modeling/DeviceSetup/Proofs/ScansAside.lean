import Mathlib
import DeviceSetup.Proofs.FormInStep
import DeviceSetup.Proofs.Polling

/-!
# Scanning leaves the rest alone

A scan is merged into the very elements that a save reads: the options and the selection of
every combo are replaced, in place and by id. Nothing else may come of it. What is left of
a form when the options and selections are taken out of its combos is `withoutOffers`, and
what is left of a model when its poller is taken out as well is `withoutScans`.

A merge does not show in what is left, and nothing that is saved, loaded or typed needs more
than what is left. So scans may come at any time between other events: the run is the same,
up to what is offered, as the run without them (`withoutScans_run`). The only way from an
offer into the rest is a pick, which puts the text of an option where typing would put it;
in the run without scans that text is typed instead (`spellOut`).
-/

namespace DeviceSetup

/-- Two results that are the same under a map both fail, and alike, or both succeed. -/
theorem cases_of_map_eq_map {ε α β : Type} {x y : Except ε α} {f : α → β}
    (h : x.map f = y.map f) :
    (∃ why, x = .error why ∧ y = .error why) ∨ ∃ a b, x = .ok a ∧ y = .ok b ∧ f a = f b := by
  cases x with
  | error why =>
      cases y with
      | error why' =>
          cases h
          exact Or.inl ⟨why, rfl, rfl⟩
      | ok b => cases h
  | ok a =>
      cases y with
      | error why => cases h
      | ok b => exact Or.inr ⟨a, b, rfl, rfl, Except.ok.inj h⟩

/-! ## Elements without what is offered -/

namespace NetworkCombo

/-- A combo that offers nothing: only its text is left. The text is the user's, and what is offered
beside it comes from scans. -/
def withoutOffer (c : NetworkCombo) : NetworkCombo :=
  { fresh c.optionsId with text := c.text }

/-- A merge replaces what is offered and leaves the text. -/
theorem withoutOffer_mergeScan (c : NetworkCombo) (networks : List Network) :
    (c.mergeScan networks).withoutOffer = c.withoutOffer := by
  unfold withoutOffer
  rw [mergeScan_optionsId, mergeScan_text]

/-- Typing puts the text where the old one was, whatever is offered. -/
theorem withoutOffer_selectText (c : NetworkCombo) (text : String) :
    (c.withoutOffer.selectText text).withoutOffer = (c.selectText text).withoutOffer := by
  unfold withoutOffer
  simp only [selectText_optionsId, selectText_text]
  rfl

end NetworkCombo

namespace Widget

/-- An element without what it offers. -/
def withoutOffer : Widget → Widget
  | .network c => .network c.withoutOffer
  | w => w

theorem kind_withoutOffer (w : Widget) : w.withoutOffer.kind = w.kind := by
  cases w <;> rfl

theorem withoutOffer_withoutOffer (w : Widget) : w.withoutOffer.withoutOffer = w.withoutOffer := by
  cases w <;> rfl

theorem Merges.withoutOffer {w w' : Widget} (h : w.Merges w') :
    w'.withoutOffer = w.withoutOffer := by
  obtain ⟨networks, rfl⟩ := h
  cases w with
  | network c => exact congrArg Widget.network (c.withoutOffer_mergeScan networks)
  | input _ _ _ | checkbox _ | select _ _ => rfl

end Widget

/-- Reading an element looks at nothing that it offers. -/
theorem Behavior.read_withoutOffer (b : Behavior) (w : Widget) :
    b.read w.withoutOffer = b.read w := by
  cases w <;> cases b <;> rfl

/-- Writing into an element depends on nothing that it offers. -/
theorem Behavior.write_withoutOffer (b : Behavior) (x : Value) (w : Widget) :
    (b.write x w.withoutOffer).map Widget.withoutOffer
      = (b.write x w).map Widget.withoutOffer := by
  cases w with
  | network c =>
      cases b with
      | ssid =>
          have htyped := c.withoutOffer_selectText x.displayText
          exact congrArg (fun c => some (Widget.network c)) htyped
      | text _ _ | port | checkbox | deviceId | choice => rfl
  | input _ _ _ | checkbox _ | select _ _ => rfl

/-- The edit picks one of the options that are offered. -/
def Edit.isPick : Edit → Bool
  | .pickNetwork _ => true
  | _ => false

/-- An edit other than a pick depends on nothing that the element offers. -/
theorem Edit.apply_withoutOffer {e : Edit} (h : e.isPick = false) (w : Widget) :
    (e.apply w.withoutOffer).map (fun r => (r.1.withoutOffer, r.2))
      = (e.apply w).map fun r => (r.1.withoutOffer, r.2) := by
  cases w with
  | network c =>
      cases e with
      | networkText text =>
          have htyped := c.withoutOffer_selectText text
          exact congrArg (fun c => some (Widget.network c, true)) htyped
      | pickNetwork index => cases h
      | input _ | checked _ | choose _ => rfl
  | input _ _ _ | checkbox _ | select _ _ => cases e <;> rfl

/-! ## Forms -/

namespace Form

/-- A form without what its combos offer. This is as much of a form as the user has entered. -/
def withoutOffers (form : Form) : Form :=
  form.mapWidgets Widget.withoutOffer

theorem withoutOffers_withoutOffers (form : Form) :
    form.withoutOffers.withoutOffers = form.withoutOffers := by
  unfold withoutOffers mapWidgets
  simp only [List.map_map, Function.comp_def, Widget.withoutOffer_withoutOffer]

theorem isEmpty_withoutOffers (form : Form) : form.withoutOffers.isEmpty = form.isEmpty := by
  unfold withoutOffers mapWidgets isEmpty
  exact List.isEmpty_map

theorem find_withoutOffers (form : Form) (id : String) :
    form.withoutOffers.find id = (form.find id).map (Field.mapWidget Widget.withoutOffer) := by
  unfold find withoutOffers
  rw [field?_mapWidgets]
  cases form.field? id <;> rfl

theorem mismatch_withoutOffer (f : Field) (expected : WidgetKind) :
    (f.mapWidget Widget.withoutOffer).mismatch expected = f.mismatch expected := by
  unfold Field.mismatch Field.mapWidget
  rw [Widget.kind_withoutOffer]

theorem withoutOffers_setWidget (form : Form) (id : String) (w : Widget) :
    (form.setWidget id w).withoutOffers = form.withoutOffers.setWidget id w.withoutOffer :=
  mapWidgets_setWidget Widget.withoutOffer form id w

/-! ### Saving -/

theorem read_withoutOffers (form : Form) (setting : Setting) (v : Variable) :
    form.withoutOffers.read setting v = form.read setting v := by
  unfold read
  cases v.type.behavior? with
  | none => rfl
  | some b =>
      dsimp only
      rw [find_withoutOffers]
      cases form.find (elementId setting v) with
      | error e => rfl
      | ok f =>
          simp only [Except.map, bind, Except.bind]
          rw [mismatch_withoutOffer, show (f.mapWidget Widget.withoutOffer).widget
            = f.widget.withoutOffer from rfl, Behavior.read_withoutOffer]

/-- Saving looks at a form only by reading the fields of the schema's variables. -/
theorem save_congr {form form' : Form} {schema : Schema}
    (h : ∀ setting ∈ schema.settings, ∀ v ∈ setting.vars,
      form.read setting v = form'.read setting v) : form.save schema = form'.save schema := by
  -- variable by variable within a setting, then setting by setting
  have hvars : ∀ (setting : Setting) (vs : List Variable),
      (∀ v ∈ vs, form.read setting v = form'.read setting v) → ∀ values,
        form.readVariables setting values vs = form'.readVariables setting values vs := by
    intro setting vs
    induction vs with
    | nil => intro _ values; rfl
    | cons v rest ih =>
        intro hread values
        rw [List.forall_mem_cons] at hread
        rw [readVariables, readVariables, hread.1]
        simp only [ih hread.2]
  unfold save
  generalize Payload.empty = p
  generalize schema.settings = settings at h
  induction settings generalizing p with
  | nil => rfl
  | cons setting rest ih =>
      rw [List.forall_mem_cons] at h
      rw [readSettings, readSettings, hvars setting setting.vars h.1]
      simp only [fun p => ih p h.2]

/-- **What would be saved depends on nothing that is offered.** A network that is chosen is saved by
its text, also after it has gone out of reach. -/
theorem save_withoutOffers (form : Form) (schema : Schema) :
    form.withoutOffers.save schema = form.save schema :=
  save_congr fun setting _ v _ => read_withoutOffers form setting v

theorem save_of_withoutOffers {form form' : Form} (h : form.withoutOffers = form'.withoutOffers)
    (schema : Schema) : form.save schema = form'.save schema := by
  rw [← save_withoutOffers form, h, save_withoutOffers]

/-! ### Loading and editing -/

/-- Nor does writing a value into a field, or its failure. -/
theorem write_withoutOffers (form : Form) (id : String) (b : Behavior) (x : Value) :
    (form.withoutOffers.write id b x).map withoutOffers
      = (form.write id b x).map withoutOffers := by
  unfold write
  rw [find_withoutOffers]
  cases form.find id with
  | error e => rfl
  | ok f =>
      have hwrite := b.write_withoutOffer x f.widget
      simp only [Except.map, bind, Except.bind]
      rw [mismatch_withoutOffer]
      change Option.map _ (b.write x (f.mapWidget Widget.withoutOffer).widget) = _ at hwrite
      -- the element takes the value in both forms or in neither
      cases hw : b.write x f.widget with
      | none =>
          rw [hw] at hwrite
          rw [Option.map_eq_none_iff.mp hwrite]
      | some w =>
          rw [hw] at hwrite
          obtain ⟨w', hw', heq⟩ := Option.map_eq_some_iff.mp hwrite
          rw [hw']
          refine congrArg Except.ok ?_
          rw [withoutOffers_setWidget, withoutOffers_setWidget, withoutOffers_withoutOffers, heq]

/-- Two forms that differ in offers only are loaded alike. -/
theorem writeAll_alike {form form' : Form} (h : form.withoutOffers = form'.withoutOffers)
    (ts : List Transfer) :
    (form.writeAll ts).1.withoutOffers = (form'.writeAll ts).1.withoutOffers
    ∧ (form.writeAll ts).2 = (form'.writeAll ts).2 := by
  induction ts generalizing form form' with
  | nil => exact ⟨h, rfl⟩
  | cons t rest ih =>
      have hwrite : (form.write t.id t.behavior t.value).map withoutOffers
          = (form'.write t.id t.behavior t.value).map withoutOffers := by
        rw [← write_withoutOffers form, h, write_withoutOffers]
      rw [writeAll, writeAll]
      -- the value is refused by both, or taken by both and the rest is written
      rcases cases_of_map_eq_map hwrite with ⟨why, hl, hr⟩ | ⟨next, next', hl, hr, hnext⟩
      · rw [hl, hr]
        exact ⟨h, rfl⟩
      · rw [hl, hr]
        exact ih hnext

theorem load_withoutOffers (schema : Schema) (form : Form) (p : Payload) :
    (form.withoutOffers.load schema p).1.withoutOffers = (form.load schema p).1.withoutOffers
    ∧ (form.withoutOffers.load schema p).2 = (form.load schema p).2 :=
  writeAll_alike (withoutOffers_withoutOffers form) _

/-- Nor does an edit other than a pick, its answer included. -/
theorem tryEdit_withoutOffers (form : Form) (id : String) {e : Edit} (h : e.isPick = false) :
    (form.withoutOffers.tryEdit id e).1.withoutOffers = (form.tryEdit id e).1.withoutOffers
    ∧ (form.withoutOffers.tryEdit id e).2 = (form.tryEdit id e).2 := by
  -- both forms find the field under the id, up to what it offers
  have hfield := field?_mapWidgets Widget.withoutOffer form id
  change form.withoutOffers.field? id = _ at hfield
  cases hf : form.field? id with
  | none =>
      rw [hf, Option.map_none] at hfield
      rw [tryEdit_of_missing hf, tryEdit_of_missing hfield]
      exact ⟨withoutOffers_withoutOffers form, rfl⟩
  | some f =>
      rw [hf, Option.map_some] at hfield
      have happly := Edit.apply_withoutOffer h f.widget
      change Option.map _ (e.apply (f.mapWidget Widget.withoutOffer).widget) = _ at happly
      cases ha : e.apply f.widget with
      | none =>
          rw [ha, Option.map_none, Option.map_eq_none_iff] at happly
          rw [tryEdit_of_apply_none hf ha, tryEdit_of_apply_none hfield happly,
            mismatch_withoutOffer]
          exact ⟨withoutOffers_withoutOffers form, rfl⟩
      | some r =>
          rw [ha] at happly
          obtain ⟨r', hr', heq⟩ := Option.map_eq_some_iff.mp happly
          obtain ⟨hw, htook⟩ := Prod.mk.inj heq
          rw [tryEdit_of_apply hf ha, tryEdit_of_apply hfield hr', withoutOffers_setWidget,
            withoutOffers_setWidget, withoutOffers_withoutOffers, hw, htook]
          exact ⟨rfl, rfl⟩

/-! ### Picking -/

/-- The combo with an id. -/
def combo? (form : Form) (id : String) : Option NetworkCombo :=
  match form.field? id with
  | some ⟨_, _, _, .network c⟩ => some c
  | _ => none

theorem combo?_eq_some {form : Form} {id : String} {c : NetworkCombo} :
    form.combo? id = some c ↔ ∃ f, form.field? id = some f ∧ f.widget = .network c := by
  unfold combo?
  cases hf : form.field? id with
  | none => simp
  | some f =>
      obtain ⟨_, _, _, w⟩ := f
      cases w <;> simp

/-- Forms that differ in offers only have their combos under the same ids. -/
theorem combo?_eq_none {form form' : Form} (h : form.withoutOffers = form'.withoutOffers)
    {id : String} (hnone : form.combo? id = none) : form'.combo? id = none := by
  rw [Option.eq_none_iff_forall_ne_some] at hnone ⊢
  intro c' hc'
  obtain ⟨f', hf', hw'⟩ := combo?_eq_some.mp hc'
  -- the other form has a combo there too, since its elements are of the same kinds
  have hfields : (form.field? id).map (Field.mapWidget Widget.withoutOffer)
      = (form'.field? id).map (Field.mapWidget Widget.withoutOffer) := by
    rw [← field?_mapWidgets, ← field?_mapWidgets]
    exact congrArg (·.field? id) h
  rw [hf'] at hfields
  obtain ⟨f, hf, hmap⟩ := Option.map_eq_some_iff.mp hfields
  have hkind : f.widget.kind = .network := by
    have hkinds := congrArg (fun f : Field => f.widget.kind) hmap
    simp only [Field.mapWidget, Widget.kind_withoutOffer, hw'] at hkinds
    exact hkinds
  cases hw : f.widget with
  | network c => exact hnone c (combo?_eq_some.mpr ⟨f, hf, hw⟩)
  | input _ _ _ | checkbox _ | select _ _ =>
      rw [hw] at hkind
      cases hkind

/-- A pick of an option does what typing its text does. -/
theorem tryEdit_pick_some {form : Form} {id : String} {c : NetworkCombo} {index : Nat}
    {o : NetworkOption} (hc : form.combo? id = some c) (ho : c.options[index]? = some o) :
    form.tryEdit id (.pickNetwork index) = form.tryEdit id (.networkText o.value) := by
  obtain ⟨f, hf, hw⟩ := combo?_eq_some.mp hc
  unfold tryEdit
  simp only [hf, hw, Edit.act, NetworkCombo.pick?, ho, Option.map_some]

/-- A pick of no option changes nothing. -/
theorem tryEdit_pick_none {form : Form} {id : String} {c : NetworkCombo} {index : Nat}
    (hc : form.combo? id = some c) (ho : c.options[index]? = none) :
    form.tryEdit id (.pickNetwork index) = (form, .ok false) := by
  obtain ⟨f, hf, hw⟩ := combo?_eq_some.mp hc
  have hself := setWidget_self hf
  rw [hw] at hself
  unfold tryEdit
  simp only [hf, hw, Edit.act, NetworkCombo.pick?, ho, Option.map_none, hself]

/-- Where there is no combo a pick fails as typing does. -/
theorem tryEdit_pick_missing {form : Form} {id : String} (index : Nat)
    (hc : form.combo? id = none) :
    form.tryEdit id (.pickNetwork index) = form.tryEdit id (.networkText "") := by
  cases hf : form.field? id with
  | none => rw [tryEdit_of_missing hf, tryEdit_of_missing hf]
  | some f =>
      have hrefused : ∀ e : Edit, e.widgetKind = .network → e.apply f.widget = none := by
        intro e he
        cases hw : f.widget with
        | network c =>
            rw [combo?_eq_some.mpr ⟨f, hf, hw⟩] at hc
            cases hc
        | input _ _ _ | checkbox _ | select _ _ => cases e <;> first | rfl | cases he
      rw [tryEdit_of_apply_none hf (hrefused (.pickNetwork index) rfl),
        tryEdit_of_apply_none hf (hrefused (.networkText "") rfl)]
      rfl

end Form

/-! ## Models -/

/-- The events of scanning: starting and stopping it, results and timers. -/
def Event.isScanning : Event → Bool
  | .shell .startScanning | .shell .stopScanning | .shell .rescan => true
  | .scanReceived _ | .pollTimer _ => true
  | _ => false

/-- The event is a pick. -/
def Event.isPick : Event → Bool
  | .shell (.edit _ e) => e.isPick
  | _ => false

namespace Model

/-- A model without what came of scanning. The poller goes as a whole: all that it keeps is about
scans. -/
def withoutScans (m : Model) : Model :=
  { m with form := m.form.withoutOffers, poller := .idle }

/-- What is the same without scans differs in the poller and in what combos offer, if at all. -/
theorem eq_of_withoutScans {m m' : Model} (h : m.withoutScans = m'.withoutScans) :
    m.form.withoutOffers = m'.form.withoutOffers
      ∧ m = { m' with form := m.form, poller := m.poller } := by
  obtain ⟨_, _, _, _, _, _, _, _, _, _⟩ := m
  obtain ⟨_, _, _, _, _, _, _, _, _, _⟩ := m'
  simp only [withoutScans, mk.injEq] at h
  obtain ⟨hform, rfl, rfl, rfl, rfl, rfl, rfl, rfl, rfl, _⟩ := h
  exact ⟨hform, rfl⟩

theorem save_of_withoutScans {m m' : Model} (h : m.withoutScans = m'.withoutScans) :
    m.form.save m.schema = m'.form.save m'.schema := by
  have hschema := congrArg Model.schema h
  rw [show m.schema = m'.schema from hschema]
  exact Form.save_of_withoutOffers (eq_of_withoutScans h).1 m'.schema

/-- **No event of scanning shows in what is left without scans.** This is one half of the step; the
other half is about all other events. -/
theorem withoutScans_scanning (m : Model) {e : Event} (h : e.isScanning = true) :
    (update m e).1.withoutScans = m.withoutScans := by
  cases e with
  | scanReceived result =>
      -- only here is the form touched, by merges
      have hform : (update m (.scanReceived result)).1.form.withoutOffers
          = m.form.withoutOffers := by
        simp only [update]
        cases result with
        | error why => rw [form_scanReceived_error]
        | ok report =>
            rw [form_scanReceived_ok]
            exact (Poller.changed_merges .none _ _).mapWidgets fun _ _ => Widget.Merges.withoutOffer
      exact congrArg (fun form => { m with form, poller := Poller.idle }) hform
  | pollTimer output => rfl
  | shell e =>
      cases e with
      | startScanning | stopScanning | rescan => rfl
      | setUp _ _ | reload | edit _ _ | save | clearError | clearSuccess => cases h
  | configReceived _ | saveAnswered _ _ | saveTimer _ => cases h

/-- A new form has the last scan merged into it, which does not show; the rest comes from the
schema. -/
theorem withoutScans_installed (m : Model) (schema : Schema) (format : WireFormat) :
    (m.installed schema format).scanIfNeeded.1.withoutScans
      = { m with
          form := (Form.render schema).withoutOffers
          schema, format
          isLoading := true
          isSaving := false
          saveEnabled := !(Form.render schema).isEmpty
          error := none
          poller := .idle } := by
  have hform : (m.installed schema format).form.withoutOffers
      = (Form.render schema).withoutOffers :=
    ((m.installed schema format).poller.changed_mergeLast (Form.render schema)).mapWidgets
      fun _ _ => Widget.Merges.withoutOffer
  have hscan : (m.installed schema format).scanIfNeeded.1.withoutScans
      = (m.installed schema format).withoutScans := by
    unfold scanIfNeeded
    split <;> rfl
  rw [hscan]
  exact congrArg (fun form => { m with
    form, schema, format, isLoading := true, isSaving := false,
    saveEnabled := !(Form.render schema).isEmpty, error := none, poller := Poller.idle }) hform

theorem withoutScans_withoutScans (m : Model) : m.withoutScans.withoutScans = m.withoutScans :=
  congrArg (fun form => { m with form, poller := Poller.idle })
    (Form.withoutOffers_withoutOffers m.form)

/-- A change beside the form and the poller is the same without scans. -/
theorem withoutScans_congr {m : Model} (change : Model → Model)
    (h : ∀ m : Model, (change m).withoutScans = change m.withoutScans) :
    (change m.withoutScans).withoutScans = (change m).withoutScans := by
  rw [h, h, withoutScans_withoutScans]

theorem withoutScans_edit (m : Model) (id : String) {e : Edit} (h : e.isPick = false) :
    (m.withoutScans.edit id e).1.withoutScans = (m.edit id e).1.withoutScans := by
  obtain ⟨hform, hanswer⟩ := m.form.tryEdit_withoutOffers id h
  change (m.withoutScans.form.tryEdit id e).1.withoutOffers = _ at hform
  change (m.withoutScans.form.tryEdit id e).2 = _ at hanswer
  unfold edit
  rcases hl : m.withoutScans.form.tryEdit id e with ⟨left, answer⟩
  rcases hr : m.form.tryEdit id e with ⟨right, answer'⟩
  rw [hl, hr] at hform hanswer
  cases hanswer
  cases answer with
  | ok took => exact congrArg (fun form => { m with form, poller := Poller.idle }) hform
  | error why =>
      exact congrArg (fun form => { m with
        form, isLoading := false, error := some why.message, poller := Poller.idle }) hform

theorem withoutScans_configReceived (m : Model) (result : Except String Payload) :
    (m.withoutScans.configReceived result).1.withoutScans
      = (m.configReceived result).1.withoutScans := by
  cases result with
  | error why => exact withoutScans_congr (fun m => m.stopLoading.setError why) fun _ => rfl
  | ok payload =>
      obtain ⟨hform, herror⟩ := m.form.load_withoutOffers m.schema payload
      rw [configReceived_ok, configReceived_ok]
      exact congrArg₂ (fun form error => { m with
        form, isLoading := false, error := error.map FormError.message, poller := Poller.idle })
        hform herror

/-- Whether a save may be made again hangs on there being any fields, which no merge changes. -/
theorem withoutScans_finishSaving (m : Model) :
    m.finishSaving.withoutScans = m.withoutScans.finishSaving := by
  have hempty := m.form.isEmpty_withoutOffers
  exact congrArg (fun empty => { m.withoutScans with isSaving := false, saveEnabled := !empty })
    hempty.symm

/-- **No other event but a pick needs what came of scanning.** What it does is the same whether it
is asked of the model or of what is left of it. -/
theorem withoutScans_update (m : Model) {e : Event} (hscan : e.isScanning = false)
    (hpick : e.isPick = false) :
    (update m.withoutScans e).1.withoutScans = (update m e).1.withoutScans := by
  cases e with
  | scanReceived _ | pollTimer _ => cases hscan
  | configReceived result => exact withoutScans_configReceived m result
  | saveAnswered g result =>
      simp only [update, saveAnswered]
      rw [show m.withoutScans.isCurrentSave g = m.isCurrentSave g from rfl]
      split
      · exact m.withoutScans_withoutScans
      · cases result with
        | ok message =>
            exact withoutScans_congr (fun m => { m.finishSaving with success := some message })
              fun m => congrArg (fun m : Model => { m with success := some message })
                m.withoutScans_finishSaving
        | error why =>
            exact withoutScans_congr (fun m => m.finishSaving.setError why)
              fun m => congrArg (·.setError why) m.withoutScans_finishSaving
  | saveTimer output =>
      simp only [update, saveTimer]
      split
      · rename_i g
        rw [show m.withoutScans.isCurrentSave g = m.isCurrentSave g from rfl]
        split
        · exact withoutScans_congr (fun m => (m.finishSaving.fail "Save timed out").1)
            fun m => congrArg (fun m : Model => (m.fail "Save timed out").1)
              m.withoutScans_finishSaving
        · exact m.withoutScans_withoutScans
      · exact m.withoutScans_withoutScans
      · exact m.withoutScans_withoutScans
  | shell e =>
      cases e with
      | startScanning | stopScanning | rescan => cases hscan
      | edit id e => exact withoutScans_edit m id hpick
      | setUp settings format =>
          cases hs : Schema.ofText settings with
          | error why =>
              simp only [update, setUp, hs]
              exact withoutScans_congr (fun m => (m.fail why.message).1) fun _ => rfl
          | ok schema =>
              rw [update_setUp _ format hs, update_setUp _ format hs]
              simp only [withoutScans_installed]
              rfl
      | reload => exact withoutScans_congr (fun m => m.startLoading) fun _ => rfl
      | save =>
          simp only [update, save]
          rw [show m.withoutScans.saveEnabled = m.saveEnabled from rfl,
            show m.withoutScans.form.save m.withoutScans.schema = m.form.save m.schema from
              m.form.save_withoutOffers m.schema]
          split
          · exact m.withoutScans_withoutScans
          · split
            · exact withoutScans_congr (fun m => (m.fail _).1) fun _ => rfl
            · exact withoutScans_congr (fun m => m.startSaving) fun _ => rfl
      | clearError =>
          simp only [update, clearError]
          rw [show m.withoutScans.error = m.error from rfl]
          split
          · exact m.withoutScans_withoutScans
          · exact withoutScans_congr (fun m => { m with error := none }) fun _ => rfl
      | clearSuccess =>
          simp only [update, clearSuccess]
          rw [show m.withoutScans.success = m.success from rfl]
          split
          · exact m.withoutScans_withoutScans
          · exact withoutScans_congr (fun m => { m with success := none }) fun _ => rfl

/-! ## Whole runs -/

/-- The model after some events, from any model. -/
def run (m : Model) (events : List Event) : Model :=
  events.foldl (fun m e => (update m e).1) m

theorem run_append (m : Model) (events more : List Event) :
    m.run (events ++ more) = (m.run events).run more :=
  List.foldl_append

/-- What an event comes to for who knows nothing of scans: scanning is left out, and a pick is
the typing of the text that it picks. Which text that is can be told only where the pick is met. -/
def spellOut (m : Model) : Event → List Event
  | .shell (.edit id (.pickNetwork index)) =>
    match m.form.combo? id with
    | some c => (c.options[index]?).toList.map fun o => .shell (.edit id (.networkText o.value))
    | none => [.shell (.edit id (.pickNetwork index))]
  | e => if e.isScanning then [] else [e]

/-- The events of a run, each spelled out where it is met. -/
def spelledOut (m : Model) : List Event → List Event
  | [] => []
  | e :: rest => m.spellOut e ++ (update m e).1.spelledOut rest

theorem spellOut_of_scanning {m : Model} {e : Event} (h : e.isScanning = true) :
    m.spellOut e = [] := by
  cases e with
  | shell e => cases e <;> first | rfl | cases h
  | scanReceived _ | pollTimer _ => rfl
  | configReceived _ | saveAnswered _ _ | saveTimer _ => cases h

theorem spellOut_of_not_pick {m : Model} {e : Event} (hscan : e.isScanning = false)
    (hpick : e.isPick = false) : m.spellOut e = [e] := by
  cases e with
  | shell e =>
      cases e with
      | edit id e => cases e <;> first | rfl | cases hpick
      | startScanning | stopScanning | rescan => cases hscan
      | setUp _ _ | reload | save | clearError | clearSuccess => rfl
  | scanReceived _ | pollTimer _ => cases hscan
  | configReceived _ | saveAnswered _ _ | saveTimer _ => rfl

/-- Nothing of scanning is left in what is spelled out. -/
theorem isScanning_of_mem_spellOut {m : Model} {e x : Event} (h : x ∈ m.spellOut e) :
    x.isScanning = false := by
  unfold spellOut at h
  split at h
  · split at h
    · obtain ⟨o, _, rfl⟩ := List.mem_map.mp h
      rfl
    · rw [List.mem_singleton.mp h]
      rfl
  · split at h
    · exact absurd h List.not_mem_nil
    · rename_i hscan
      rw [List.mem_singleton.mp h]
      exact Bool.eq_false_iff.mpr hscan

theorem isScanning_of_mem_spelledOut {m : Model} {events : List Event} {x : Event}
    (h : x ∈ m.spelledOut events) : x.isScanning = false := by
  induction events generalizing m with
  | nil => exact absurd h List.not_mem_nil
  | cons e rest ih =>
      rcases List.mem_append.mp h with h | h
      · exact isScanning_of_mem_spellOut h
      · exact ih h

theorem withoutScans_alike {m m' : Model} (h : m.withoutScans = m'.withoutScans) {e : Event}
    (hscan : e.isScanning = false) (hpick : e.isPick = false) :
    (update m e).1.withoutScans = (update m' e).1.withoutScans := by
  rw [← withoutScans_update m hscan hpick, h, withoutScans_update m' hscan hpick]

/-- A pick in one model is what it spells out in another that is the same without scans. -/
theorem withoutScans_pick {m m' : Model} (h : m.withoutScans = m'.withoutScans) (id : String)
    (index : Nat) :
    (update m (.shell (.edit id (.pickNetwork index)))).1.withoutScans
      = (m'.run (m.spellOut (.shell (.edit id (.pickNetwork index))))).withoutScans := by
  have htyped : ∀ text, (update m (.shell (.edit id (.networkText text)))).1.withoutScans
      = (update m' (.shell (.edit id (.networkText text)))).1.withoutScans :=
    fun text => withoutScans_alike h rfl rfl
  simp only [spellOut]
  cases hc : m.form.combo? id with
  | some c =>
      cases ho : c.options[index]? with
      | some o =>
          -- the option that is picked is one of the model with scans
          have hsame : update m (.shell (.edit id (.pickNetwork index)))
              = update m (.shell (.edit id (.networkText o.value))) := by
            simp only [update, edit, Form.tryEdit_pick_some hc ho]
          rw [hsame, htyped]
          simp only [ho]
          rfl
      | none =>
          -- a pick beyond the options is spelled out as nothing
          have hnothing : update m (.shell (.edit id (.pickNetwork index))) = (m, [.render]) := by
            simp only [update, edit, Form.tryEdit_pick_none hc ho]
          rw [hnothing]
          simp only [ho]
          exact h
  | none =>
      -- there is no combo in either model, so the pick fails in both
      have hc' := Form.combo?_eq_none (eq_of_withoutScans h).1 hc
      have hsame : ∀ {m : Model}, m.form.combo? id = none →
          update m (.shell (.edit id (.pickNetwork index)))
            = update m (.shell (.edit id (.networkText ""))) := by
        intro m hnone
        simp only [update, edit, Form.tryEdit_pick_missing index hnone]
      have hfails : (update m (.shell (.edit id (.pickNetwork index)))).1.withoutScans
          = (update m' (.shell (.edit id (.pickNetwork index)))).1.withoutScans := by
        rw [hsame hc, hsame hc', htyped]
      exact hfails

/-- One event, and what it spells out in a model that is the same without scans. -/
theorem withoutScans_step {m m' : Model} (h : m.withoutScans = m'.withoutScans) (e : Event) :
    (update m e).1.withoutScans = (m'.run (m.spellOut e)).withoutScans := by
  cases hscan : e.isScanning with
  | true =>
      rw [spellOut_of_scanning hscan, withoutScans_scanning m hscan]
      exact h
  | false =>
      cases hpick : e.isPick with
      | false =>
          rw [spellOut_of_not_pick hscan hpick]
          exact withoutScans_alike h hscan hpick
      | true =>
          cases e with
          | shell e =>
              cases e with
              | edit id e =>
                  cases e with
                  | pickNetwork index => exact withoutScans_pick h id index
                  | input _ | checked _ | choose _ | networkText _ => cases hpick
              | setUp _ _ | reload | save | startScanning | stopScanning | rescan | clearError
                | clearSuccess => cases hpick
          | configReceived _ | saveAnswered _ _ | saveTimer _ | scanReceived _ | pollTimer _ =>
              cases hpick

/-- **Without scans, a run is the run that is spelled out.** The two runs go on side by side, in
models that are the same without scans. -/
theorem withoutScans_run {m m' : Model} (h : m.withoutScans = m'.withoutScans)
    (events : List Event) :
    (m.run events).withoutScans = (m'.run (m.spelledOut events)).withoutScans := by
  induction events generalizing m m' with
  | nil => exact h
  | cons e rest ih =>
      rw [spelledOut, run_append]
      exact ih (withoutScans_step h e)

/--
**Scanning leaves the rest alone.**

Whatever the model, an event of scanning leaves what would be saved as it was. The model
after it differs from the one before in the poller and in the form at most, and the forms
differ in the options and selections of combos at most.

So scans may come anywhere in a run, good or failed, with whatever networks: leave them all
out, type the texts that were picked, and the run ends with the same payload to save, the same
texts in all combos and all else the same, errors included.

Scans go on in the background while the user types. This is what makes that harmless, although
they are merged into the fields that are being edited.
-/
theorem scanning_leaves_the_rest (m : Model) :
    (∀ e, e.isScanning = true →
      (update m e).1.form.save (update m e).1.schema = m.form.save m.schema
      ∧ (update m e).1.form.withoutOffers = m.form.withoutOffers
      ∧ (update m e).1
        = { m with form := (update m e).1.form, poller := (update m e).1.poller })
    ∧ ∀ events, (∀ x ∈ m.spelledOut events, x.isScanning = false)
      ∧ (m.run events).form.save (m.run events).schema
        = (m.run (m.spelledOut events)).form.save (m.run (m.spelledOut events)).schema
      ∧ (m.run events).form.withoutOffers = (m.run (m.spelledOut events)).form.withoutOffers
      ∧ m.run events = { m.run (m.spelledOut events) with
          form := (m.run events).form, poller := (m.run events).poller } := by
  refine ⟨fun e he => ?_, fun events => ?_⟩
  · have h := withoutScans_scanning m he
    exact ⟨save_of_withoutScans h, eq_of_withoutScans h⟩
  · have h := withoutScans_run (m := m) rfl events
    exact ⟨fun x => isScanning_of_mem_spelledOut, save_of_withoutScans h, eq_of_withoutScans h⟩

/-- A network is chosen, the next scan does not have it any more, and the one network of that
scan is picked then. -/
theorem scanning_leaves_the_rest_lost_network :
    let combo : NetworkCombo := ⟨"w_s-options", "Home", [.scanned ⟨"Home", -40, 6⟩], some 0⟩
    let m : Model := { initial with
      form := ⟨[⟨"w", "", [⟨[⟨"w_s", "", none, .network combo⟩]⟩]⟩]⟩
      schema := ⟨[⟨"w", "", [.single ⟨"s", "", .ssid, []⟩]⟩]⟩
      poller := { Poller.idle with tracked := ["w_s"] } }
    let scan : Event := .scanReceived (.ok ⟨[⟨"Away", -50, 1⟩]⟩)
    let pick : Event := .shell (.edit "w_s" (.pickNetwork 1))
    scan.isScanning = true
      ∧ (update m scan).1.form ≠ m.form
      ∧ (update m scan).1.form.save (update m scan).1.schema = m.form.save m.schema
      ∧ m.spelledOut [scan, pick] = [.shell (.edit "w_s" (.networkText "Away"))]
      ∧ (m.run [scan, pick]).form.save (m.run [scan, pick]).schema
        = (m.run (m.spelledOut [scan, pick])).form.save
            (m.run (m.spelledOut [scan, pick])).schema := by
  intro combo m scan pick
  obtain ⟨hscan, hrun⟩ := scanning_leaves_the_rest m
  refine ⟨rfl, by decide, (hscan scan rfl).1, ?_, (hrun [scan, pick]).2.1⟩
  rfl

end Model

end DeviceSetup
