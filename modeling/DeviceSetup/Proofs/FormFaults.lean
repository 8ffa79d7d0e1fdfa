import Mathlib
import DeviceSetup.Proofs.FormHistories

/-!
# When loading and saving fail

The form engine finds an element by its id and fails if the element is missing or of another
kind than its variable needs. `Form.fault?` is that failure. What is written into a form never
changes the kind of an element, so a load meets the faults that were there when it began
(`snd_writeAll`), and a save meets them as well (`failure?_save`).

In a form that came from its schema no element is missing. What is left are elements of
another kind, and that takes two variables with one id: the id leads to the element of the
first of them (`fault?_eq_some_iff`).
-/

namespace DeviceSetup

/-- The error of a result, if it is one. Loading gives its error beside the form and saving in place
of the payload; in this form the two can be compared. -/
def failure? {ε α : Type} : Except ε α → Option ε
  | .ok _ => none
  | .error e => some e

theorem failure?_eq_some_iff {ε α : Type} {x : Except ε α} {e : ε} :
    failure? x = some e ↔ x = .error e := by
  cases x <;> simp [failure?]

/-! ## One element -/

namespace Behavior

/-- A value can be written into an element just when it is of the right kind. -/
theorem write_isSome_iff (b : Behavior) (x : Value) (w : Widget) :
    (b.write x w).isSome = true ↔ w.kind = b.widgetKind := by
  cases b <;> cases w <;> simp [write, Widget.kind, widgetKind]

/-- An element can be read just when it is of the right kind. For a device id it is not looked
at. -/
theorem read_isSome_iff (b : Behavior) (w : Widget) :
    (b.read w).isSome = true ↔ b = .deviceId ∨ w.kind = b.widgetKind := by
  cases b <;> cases w <;> simp [read, Widget.kind, widgetKind]

theorem kind_write {b : Behavior} {x : Value} {w w' : Widget} (h : b.write x w = some w') :
    w'.kind = w.kind := by
  have hblank := (Widget.Enters.write b x h).blank
  rw [← Widget.kind_blank w', hblank, Widget.kind_blank]

theorem kind_widget (b : Behavior) (id : String) (v : Variable) :
    (b.widget id v).kind = b.widgetKind := by
  cases b <;> rfl

/-- The behaviour of a device id is that of no other type. -/
theorem eq_deviceId_iff {type : FieldType} {b : Behavior} (h : type.behavior? = some b) :
    b = .deviceId ↔ type = .deviceId := by
  cases type <;> cases h <;> simp

end Behavior

namespace Form

/-- What is wrong with the field behind an id when an element of some kind is needed. Whether a
value can be written there or read does not depend on the value. -/
def fault? (form : Form) (id : String) (expected : WidgetKind) : Option FormError :=
  match form.field? id with
  | none => some (.notFound id)
  | some f => if f.widget.kind = expected then none else some (f.mismatch expected)

theorem fault?_of_field {form : Form} {id : String} {f : Field} (h : form.field? id = some f)
    (expected : WidgetKind) :
    form.fault? id expected
      = if f.widget.kind = expected then none else some (f.mismatch expected) := by
  unfold fault?
  rw [h]

/-- A change that keeps the kind of the element changes no fault. -/
theorem fault?_setWidget {form : Form} {id : String} {f : Field} (hf : form.field? id = some f)
    {w : Widget} (hw : w.kind = f.widget.kind) (id' : String) (expected : WidgetKind) :
    (form.setWidget id w).fault? id' expected = form.fault? id' expected := by
  unfold fault?
  rw [field?_setWidget]
  by_cases hid : id' = id
  · subst hid
    rw [hf]
    simp only [Option.map_some, if_true, Field.mismatch, hw]
  · simp only [hid, if_false, Option.map_id']

/-! ## Loading -/

/-- Writing a value fails with the fault of the field, or changes the field and no fault. -/
theorem write_cases (form : Form) (id : String) (b : Behavior) (x : Value) :
    (∃ e, form.fault? id b.widgetKind = some e ∧ form.write id b x = .error e)
    ∨ ∃ f w, form.field? id = some f ∧ b.write x f.widget = some w
        ∧ form.fault? id b.widgetKind = none ∧ form.write id b x = .ok (form.setWidget id w) := by
  cases hf : form.field? id with
  | none =>
      refine Or.inl ⟨.notFound id, ?_, ?_⟩
      · unfold fault?
        rw [hf]
      · unfold write
        rw [find_error hf]
        rfl
  | some f =>
      -- writing fails by the kind of the element, whatever the value
      have hiff := b.write_isSome_iff x f.widget
      have hfault := fault?_of_field hf b.widgetKind
      unfold write
      rw [find_ok hf]
      simp only [bind, Except.bind]
      cases hw : b.write x f.widget with
      | none =>
          rw [hw] at hiff
          have hkind : f.widget.kind ≠ b.widgetKind := fun h => by simpa using hiff.mpr h
          rw [if_neg hkind] at hfault
          exact Or.inl ⟨f.mismatch b.widgetKind, hfault, rfl⟩
      | some w =>
          rw [hw] at hiff
          rw [if_pos (hiff.mp rfl)] at hfault
          exact Or.inr ⟨f, w, rfl, hw, hfault, rfl⟩

/--
**A load fails with the first fault that it comes upon.**

Values that were written before do not change which faults there are, since writing keeps the ids
and kinds of all elements. So the faults can be asked of the form as it was at first.
-/
theorem snd_writeAll (form : Form) (ts : List Transfer) :
    (form.writeAll ts).2 = ts.findSome? fun t => form.fault? t.id t.behavior.widgetKind := by
  induction ts generalizing form with
  | nil => rfl
  | cons t ts ih =>
      rw [writeAll, List.findSome?_cons]
      rcases form.write_cases t.id t.behavior t.value with
        ⟨e, hfault, hwrite⟩ | ⟨f, w, hf, hw, hfault, hwrite⟩
      · rw [hfault, hwrite]
      · rw [hfault, hwrite]
        -- what was written leaves the faults of all that is to come
        simp only [ih, fault?_setWidget hf (Behavior.kind_write hw)]

/-- The fault that loading a payload comes upon at a variable. -/
def loadFault? (form : Form) (p : Payload) (e : Setting × Variable) : Option FormError :=
  (transfer? p e.1 e.2).bind fun t => form.fault? t.id t.behavior.widgetKind

theorem snd_load (schema : Schema) (form : Form) (p : Payload) :
    (form.load schema p).2 = schema.vars.findSome? (form.loadFault? p) := by
  unfold load transfers
  rw [snd_writeAll, ← List.head?_filterMap, List.filterMap_filterMap, List.head?_filterMap]
  rfl

theorem loadFault?_of_behavior (form : Form) (p : Payload) {e : Setting × Variable} {b : Behavior}
    (hb : e.2.type.behavior? = some b) :
    form.loadFault? p e
      = if (p.get? e.1.name e.2.name).isSome then form.fault? (elementId e.1 e.2) b.widgetKind
        else none := by
  unfold loadFault? transfer?
  cases hx : p.get? e.1.name e.2.name <;> simp [hb]

/-! ## Saving -/

theorem failure?_bind {ε α β : Type} (x : Except ε α) (f : α → Except ε β) :
    failure? (x >>= f) = match x with
      | .ok a => failure? (f a)
      | .error e => some e := by
  cases x <;> rfl

/-- Reading stops at the first variable that cannot be read, whatever was read by then. -/
theorem failure?_readVariables (form : Form) (setting : Setting) (values : Dict Value)
    (vs : List Variable) :
    failure? (form.readVariables setting values vs)
      = vs.findSome? fun v => failure? (form.read setting v) := by
  induction vs generalizing values with
  | nil => rfl
  | cons v vs ih =>
      rw [readVariables, List.findSome?_cons, failure?_bind]
      cases form.read setting v with
      | error e => rfl
      | ok given =>
          cases given with
          | none => exact ih values
          | some x => exact ih (values.insert v.name x)

theorem failure?_readSettings (form : Form) (p : Payload) (settings : List Setting) :
    failure? (form.readSettings p settings)
      = (settings.flatMap fun s => s.vars.map fun v => (s, v)).findSome?
          fun e => failure? (form.read e.1 e.2) := by
  induction settings generalizing p with
  | nil => rfl
  | cons s settings ih =>
      rw [readSettings, failure?_bind, List.flatMap_cons, List.findSome?_append,
        List.findSome?_map]
      have hvars := failure?_readVariables form s (p.valuesOf s.name) s.vars
      -- the search stops within this setting, or goes on behind it
      cases hread : form.readVariables s (p.valuesOf s.name) s.vars with
      | error e =>
          rw [hread] at hvars
          simp only [Function.comp_def, ← hvars]
          rfl
      | ok values =>
          rw [hread] at hvars
          simp only [Function.comp_def, ← hvars]
          exact ih _

/--
**A save fails with the first error of reading a variable.**

The order is that of the schema. A variable behind the first error is not read at all.
-/
theorem failure?_save (schema : Schema) (form : Form) :
    failure? (form.save schema)
      = schema.vars.findSome? fun e => failure? (form.read e.1 e.2) :=
  failure?_readSettings form .empty schema.settings

theorem failure?_read_of_field {form : Form} {e : Setting × Variable} {b : Behavior}
    (hb : e.2.type.behavior? = some b) {f : Field}
    (hf : form.field? (elementId e.1 e.2) = some f) :
    failure? (form.read e.1 e.2)
      = if e.2.type = .deviceId then none else form.fault? (elementId e.1 e.2) b.widgetKind := by
  have hiff := b.read_isSome_iff f.widget
  rw [Behavior.eq_deviceId_iff hb] at hiff
  rw [fault?_of_field hf]
  unfold read
  rw [hb]
  simp only [find_ok hf, bind, Except.bind]
  cases hread : b.read f.widget with
  | none =>
      rw [hread] at hiff
      have hnot : ¬ (e.2.type = .deviceId ∨ f.widget.kind = b.widgetKind) := fun h => by
        simpa using hiff.mpr h
      rw [not_or] at hnot
      rw [if_neg hnot.1, if_neg hnot.2]
      rfl
  | some given =>
      rw [hread] at hiff
      -- a device id is read from any element, since nothing is read of it
      rcases hiff.mp rfl with htype | hkind
      · rw [if_pos htype]
        rfl
      · rw [if_pos hkind, ite_self]
        rfl

end Form

/-! ## Variables that are led to another's element -/

namespace Schema

/-- The id of a shown variable leads to an element of another kind: the first shown variable with
that id is shown by one. This speaks of the schema alone, so it can be told before any form is
made. -/
def Misled (schema : Schema) (e : Setting × Variable) (expected found : WidgetKind) : Prop :=
  ∃ b d b', e.2.type.behavior? = some b ∧ b.widgetKind = expected
    ∧ schema.behind? (elementId e.1 e.2) = some d
    ∧ d.2.type.behavior? = some b' ∧ b'.widgetKind = found ∧ expected ≠ found

theorem not_misled_of_unsupported {schema : Schema} {e : Setting × Variable}
    (h : e.2.type.behavior? = none) (expected found : WidgetKind) :
    ¬ schema.Misled e expected found := by
  rintro ⟨b, _, _, hb, _⟩
  rw [h] at hb
  cases hb

/-- How an operation on a form fails: by a misled variable among those that matter to it, and with
the first such variable. -/
structure FailsBy (schema : Schema) (matters : Setting × Variable → Prop)
    (failed : Option FormError) : Prop where
  /-- No element is missing. -/
  found : ∀ id, failed ≠ some (.notFound id)
  mismatch : (∃ id expected found, failed = some (.mismatch id expected found))
    ↔ ∃ e ∈ schema.vars, matters e ∧ ∃ expected found, schema.Misled e expected found
  /-- The error has the id of the first such variable, the kind that it needs and the kind that is
  there. -/
  first : ∀ err, failed = some err →
    ∃ before e after expected found, schema.vars = before ++ e :: after
      ∧ matters e ∧ schema.Misled e expected found
      ∧ err = .mismatch (elementId e.1 e.2) expected found
      ∧ ∀ d ∈ before, matters d → ∀ k k', ¬ schema.Misled d k k'

/-- An operation that meets the variables in order and fails with the first fault, where the
faults are those of misled variables. -/
theorem failsBy_of_faults {schema : Schema} {matters : Setting × Variable → Prop}
    {fault? : Setting × Variable → Option FormError}
    (h : ∀ e ∈ schema.vars, ∀ err, fault? e = some err ↔ matters e
      ∧ ∃ expected found, schema.Misled e expected found
        ∧ err = .mismatch (elementId e.1 e.2) expected found) :
    schema.FailsBy matters (schema.vars.findSome? fault?) := by
  have hfirst : ∀ err, schema.vars.findSome? fault? = some err →
      ∃ before e after expected found, schema.vars = before ++ e :: after
        ∧ matters e ∧ schema.Misled e expected found
        ∧ err = .mismatch (elementId e.1 e.2) expected found
        ∧ ∀ d ∈ before, matters d → ∀ k k', ¬ schema.Misled d k k' := by
    intro err herr
    obtain ⟨before, e, after, hvars, he, hbefore⟩ := List.findSome?_eq_some_iff.mp herr
    have hmem : e ∈ schema.vars := by simp [hvars]
    obtain ⟨hmatters, expected, found, hmisled, rfl⟩ := (h e hmem err).mp he
    refine ⟨before, e, after, expected, found, hvars, hmatters, hmisled, rfl, ?_⟩
    intro d hd hmatters' k k' hmisled'
    have hd' : d ∈ schema.vars := by simp [hvars, hd]
    -- a misled variable in front would have been the first fault
    have hfault := (h d hd' _).mpr ⟨hmatters', k, k', hmisled', rfl⟩
    rw [hbefore d hd] at hfault
    cases hfault
  refine ⟨?_, ⟨?_, ?_⟩, hfirst⟩
  · intro id hid
    obtain ⟨_, _, _, _, _, _, _, _, heq, _⟩ := hfirst _ hid
    cases heq
  · rintro ⟨id, expected, found, herr⟩
    obtain ⟨before, e, after, expected', found', hvars, hmatters, hmisled, -, -⟩ := hfirst _ herr
    exact ⟨e, by simp [hvars], hmatters, expected', found', hmisled⟩
  · rintro ⟨e, he, hmatters, expected, found, hmisled⟩
    have hfault := (h e he _).mpr ⟨hmatters, expected, found, hmisled, rfl⟩
    -- some fault is met, so there is a first one
    cases hsome : schema.vars.findSome? fault? with
    | none =>
        rw [List.findSome?_eq_none_iff.mp hsome e he] at hfault
        cases hfault
    | some err =>
        obtain ⟨_, d, _, expected', found', _, _, _, rfl, _⟩ := hfirst err hsome
        exact ⟨_, expected', found', rfl⟩

end Schema

namespace Form

open Schema

/--
**The fault of a shown variable's field is that the variable is misled.**

A form of the schema has a field for each variable that is shown, so a missing field is no fault
that can come up; what remains is a field of another variable under the same id.
-/
theorem fault?_eq_some_iff {form : Form} {schema : Schema}
    (h : form.skeleton = (render schema).skeleton) {e : Setting × Variable} (he : e ∈ schema.vars)
    {b : Behavior} (hb : e.2.type.behavior? = some b) (err : FormError) :
    form.fault? (elementId e.1 e.2) b.widgetKind = some err
      ↔ ∃ expected found, schema.Misled e expected found
          ∧ err = .mismatch (elementId e.1 e.2) expected found := by
  obtain ⟨d, hd⟩ := exists_behind (mem_shown he hb)
  obtain ⟨-, b', hb'⟩ := exists_behavior (of_behind hd).1
  obtain ⟨f, hf, hid, hblank⟩ := exists_field h hd hb'
  -- the element is the one that the first variable with the id was given
  have hkind : f.widget.kind = b'.widgetKind := by
    rw [← Widget.kind_blank, hblank, Widget.kind_blank, Behavior.kind_widget]
  rw [fault?_of_field hf, Field.mismatch, hid, hkind]
  constructor
  · intro herr
    split at herr
    · cases herr
    · rename_i hne
      exact ⟨b.widgetKind, b'.widgetKind, ⟨b, d, b', hb, rfl, hd, hb', rfl, Ne.symm hne⟩,
        (Option.some.inj herr).symm⟩
  · rintro ⟨expected, found, ⟨c, d', c', hc, rfl, hd', hc', rfl, hne⟩, rfl⟩
    obtain rfl := Option.some.inj (hb.symm.trans hc)
    obtain rfl := Option.some.inj (hd.symm.trans hd')
    obtain rfl := Option.some.inj (hb'.symm.trans hc')
    rw [if_neg (Ne.symm hne)]

/-- An operation that meets the faults of the shown variables that matter to it, in order. -/
theorem failsBy_of_shown {form : Form} {schema : Schema}
    (h : form.skeleton = (render schema).skeleton) {matters : Setting × Variable → Prop}
    [DecidablePred matters] {meets? : Setting × Variable → Option FormError}
    (hhidden : ∀ e, e.2.type.behavior? = none → meets? e = none)
    (hshown : ∀ e ∈ schema.vars, ∀ b, e.2.type.behavior? = some b →
      meets? e = if matters e then form.fault? (elementId e.1 e.2) b.widgetKind else none) :
    schema.FailsBy matters (schema.vars.findSome? meets?) := by
  refine failsBy_of_faults fun e he err => ?_
  cases hb : e.2.type.behavior? with
  | none =>
      rw [hhidden e hb]
      refine ⟨nofun, ?_⟩
      rintro ⟨-, expected, found, hmisled, -⟩
      exact absurd hmisled (not_misled_of_unsupported hb expected found)
  | some b =>
      rw [hshown e he b hb, ← fault?_eq_some_iff h he hb err]
      by_cases hmatters : matters e
      · simp only [hmatters, if_true, true_and]
      · simp only [hmatters, if_false, false_and, reduceCtorEq]

/-- A save looks at every shown variable, and takes nothing from a device id. -/
theorem failsBy_save {form : Form} {schema : Schema}
    (h : form.skeleton = (render schema).skeleton) :
    schema.FailsBy (fun e => e.2.type ≠ .deviceId) (failure? (form.save schema)) := by
  rw [failure?_save]
  refine failsBy_of_shown h ?_ ?_
  · intro e hb
    unfold read
    rw [hb]
    rfl
  · intro e he b hb
    obtain ⟨d, hd⟩ := exists_behind (mem_shown he hb)
    obtain ⟨-, b', hb'⟩ := exists_behavior (of_behind hd).1
    obtain ⟨f, hf, -, -⟩ := exists_field h hd hb'
    rw [failure?_read_of_field hb hf, ite_not]

/-- A load looks at the variables that the payload has a value for. -/
theorem failsBy_load {form : Form} {schema : Schema}
    (h : form.skeleton = (render schema).skeleton) (p : Payload) :
    schema.FailsBy (fun e => (p.get? e.1.name e.2.name).isSome = true)
      (form.load schema p).2 := by
  rw [snd_load]
  refine failsBy_of_shown h ?_ fun e _ b hb => loadFault?_of_behavior form p hb
  intro e hb
  unfold loadFault? transfer?
  rw [hb]
  rfl

/--
**Loading and saving fail by shared ids only.**

Let a form of a schema, valid or not, have gone through any acts. Neither loading nor saving then
misses an element. A save finds an element of the wrong kind just when the id of some shown
variable other than a device id leads to one, and a load just when the payload has a value for such
a variable, a device id included. The error tells of the first such variable. So a schema in which
no id leads astray gives forms that never fail, and nothing a user does can change that.
-/
theorem fails_only_by_shared_ids (schema : Schema) (acts : List Act) :
    schema.FailsBy (fun e => e.2.type ≠ .deviceId) (failure? ((after schema acts).save schema))
    ∧ ∀ p : Payload, schema.FailsBy (fun e => (p.get? e.1.name e.2.name).isSome = true)
        ((after schema acts).load schema p).2 :=
  ⟨failsBy_save (skeleton_after schema acts), failsBy_load (skeleton_after schema acts)⟩

/-- A text `b_c` in the setting `a` and a checkbox `c` in `a_b`. -/
def crossedSchema : Schema :=
  ⟨[⟨"a", "", [.single ⟨"b_c", "", .hostname, []⟩]⟩,
    ⟨"a_b", "", [.single ⟨"c", "", .checkbox, []⟩]⟩]⟩

theorem fails_only_by_shared_ids_crossed :
    (∃ id expected found, (after crossedSchema [.edit "a_b_c" (.input "x")]).save crossedSchema
        = .error (.mismatch id expected found))
      ∧ ∀ id, ((after crossedSchema [.edit "a_b_c" (.input "x")]).load crossedSchema
          (Payload.empty.insert "a" "b_c" (.text "y"))).2 ≠ some (.notFound id) := by
  obtain ⟨hsave, hload⟩ := fails_only_by_shared_ids crossedSchema [.edit "a_b_c" (.input "x")]
  have hmisled : crossedSchema.Misled
      (⟨"a_b", "", [.single ⟨"c", "", .checkbox, []⟩]⟩, ⟨"c", "", .checkbox, []⟩)
      .checkbox .input :=
    ⟨.checkbox, (⟨"a", "", [.single ⟨"b_c", "", .hostname, []⟩]⟩, ⟨"b_c", "", .hostname, []⟩),
      .text .text (some 9), rfl, rfl, by decide, rfl, rfl, by decide⟩
  obtain ⟨id, expected, found, herr⟩ :=
    hsave.mismatch.mpr ⟨_, by decide, by decide, _, _, hmisled⟩
  exact ⟨⟨id, expected, found, failure?_eq_some_iff.mp herr⟩, (hload _).found⟩

end Form

end DeviceSetup
