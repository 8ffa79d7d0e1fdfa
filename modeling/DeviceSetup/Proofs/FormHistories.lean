import Mathlib
import DeviceSetup.Proofs.ElementIds

/-!
# What a form has gone through

A form is rendered from a schema and then goes through loads, edits and scans, in any order and
with any outcome. None of that adds, removes or replaces an element, so all the way the field
behind an id is that of one variable of the schema: the first one that is shown and has the id
(`Schema.behind?`). `Form.exists_field` is what the form engine's theorems know of a field:
everything about it but what was entered.
-/

namespace DeviceSetup

/-- What a form may go through. -/
inductive Form.Act where
  /-- A payload is loaded, as far as that goes. -/
  | load (p : Payload)
  /-- An edit; one that fails changes nothing. -/
  | edit (id : String) (e : Edit)
  /-- A scan is merged into every combo. -/
  | merge (networks : List Network)
  /-- A scan is merged into the combo behind an id. -/
  | mergeInto (networks : List Network) (id : String)

namespace Form

/-- The form after an act. -/
def perform (schema : Schema) (form : Form) : Act → Form
  | .load p => (form.load schema p).1
  | .edit id e => (form.tryEdit id e).1
  | .merge networks => form.mapWidgets (Widget.mergeScan networks)
  | .mergeInto networks id => Poller.mergeInto networks form id

/-- The form of a schema after some acts. The schema need not be valid here: rendering and all that
follows take any. -/
def after (schema : Schema) (acts : List Act) : Form :=
  acts.foldl (perform schema) (render schema)

/-! ## The skeleton stays -/

theorem mapWidgets_mapWidgets (g h : Widget → Widget) (form : Form) :
    (form.mapWidgets g).mapWidgets h = form.mapWidgets (h ∘ g) := by
  unfold mapWidgets
  simp only [List.map_map, Function.comp_def]

theorem skeleton_perform (schema : Schema) (form : Form) (act : Act) :
    (form.perform schema act).skeleton = form.skeleton := by
  cases act with
  | load p => exact (changed_load schema form p).skeleton fun _ _ => Widget.Enters.blank
  | edit id e => exact (changed_tryEdit form id e).skeleton fun _ _ => Widget.Enters.blank
  | merge networks =>
      -- a scan fills combos, and blanking empties them again
      have hblank : Widget.blank ∘ Widget.mergeScan networks = Widget.blank :=
        funext fun w => Widget.Merges.blank ⟨networks, rfl⟩
      unfold perform skeleton
      rw [mapWidgets_mapWidgets, hblank]
  | mergeInto networks id =>
      exact (Poller.changed_mergeInto .none networks id).skeleton fun _ _ => Widget.Merges.blank

/--
**Whatever a form goes through, it keeps the skeleton of its schema.**

So after any acts it is known which fields a form has, under which ids and of which kinds, and only
their contents are open.
-/
theorem skeleton_after (schema : Schema) (acts : List Act) :
    (after schema acts).skeleton = (render schema).skeleton := by
  unfold after
  generalize render schema = form
  induction acts generalizing form with
  | nil => rfl
  | cons act acts ih => rw [List.foldl_cons, ih, skeleton_perform]

end Form

/-! ## The variable behind an id -/

/-- The variable behind an id: the first one that is shown and has it. -/
def Schema.behind? (schema : Schema) (id : String) : Option (Setting × Variable) :=
  schema.shown.find? fun d => elementId d.1 d.2 = id

theorem Schema.mem_shown {schema : Schema} {e : Setting × Variable} {b : Behavior}
    (he : e ∈ schema.vars) (hb : e.2.type.behavior? = some b) : e ∈ schema.shown :=
  List.mem_filter.mpr ⟨he, by rw [hb]; rfl⟩

theorem Schema.exists_behavior {schema : Schema} {e : Setting × Variable} (h : e ∈ schema.shown) :
    e ∈ schema.vars ∧ ∃ b, e.2.type.behavior? = some b :=
  ⟨(List.mem_filter.mp h).1, Option.isSome_iff_exists.mp (List.mem_filter.mp h).2⟩

theorem Schema.exists_behind {schema : Schema} {e : Setting × Variable} (h : e ∈ schema.shown) :
    ∃ d, schema.behind? (elementId e.1 e.2) = some d := by
  refine Option.isSome_iff_exists.mp ?_
  unfold behind?
  rw [List.find?_isSome]
  exact ⟨e, h, by simp⟩

theorem Schema.of_behind {schema : Schema} {id : String} {d : Setting × Variable}
    (h : schema.behind? id = some d) : d ∈ schema.shown ∧ elementId d.1 d.2 = id :=
  ⟨List.mem_of_find?_eq_some h, by simpa using List.find?_some h⟩

namespace Form

/-- The field behind an id in a rendered form is that of the variable behind the id. -/
theorem field?_render (schema : Schema) (id : String) :
    (render schema).field? id = (schema.behind? id).bind fun d => fieldOf? d.1 d.2 := by
  unfold field? Schema.behind? Schema.shown
  rw [fields_render, List.find?_filterMap, List.find?_filter]
  congr 2
  funext e
  unfold fieldOf?
  cases e.2.type.behavior? <;> simp

theorem field?_blank {form form' : Form} (h : form.skeleton = form'.skeleton) (id : String) :
    (form.field? id).map Field.blank = (form'.field? id).map Field.blank := by
  have hfield : (form.skeleton.field? id) = form'.skeleton.field? id := by rw [h]
  unfold skeleton at hfield
  rw [field?_mapWidgets, field?_mapWidgets] at hfield
  exact hfield

/-- **The field behind the id of a shown variable**, but for what was entered. It need not be the
field of that variable: another one with the same id may stand in front. -/
theorem exists_field {form : Form} {schema : Schema}
    (h : form.skeleton = (render schema).skeleton) {id : String} {d : Setting × Variable}
    (hd : schema.behind? id = some d) {b : Behavior} (hb : d.2.type.behavior? = some b) :
    ∃ f, form.field? id = some f ∧ f.id = id ∧ f.widget.blank = (b.widget id d.2).blank := by
  have hid := (Schema.of_behind hd).2
  -- the form differs from the rendered one by what was entered
  have hblank := field?_blank h id
  rw [field?_render, hd] at hblank
  simp only [Option.bind_some, fieldOf?, hb, Option.pure_def, Option.bind_eq_bind,
    Option.map_some] at hblank
  obtain ⟨f, hf, heq⟩ := Option.map_eq_some_iff.mp hblank
  have hwidget := congrArg Field.widget heq
  refine ⟨f, hf, (mem_of_field? hf).2, ?_⟩
  rw [← hid]
  exact hwidget

end Form

end DeviceSetup
