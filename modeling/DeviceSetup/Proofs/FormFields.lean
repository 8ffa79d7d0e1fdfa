import DeviceSetup.Form.Edit
import DeviceSetup.Proofs.ComboHistory

/-!
# Fields of a form and its skeleton

A form is a tree of sections, rows and fields, and what is done to it is said of its list
of fields: the first field with an id gets another element. Here that list is followed
through the operations. `fields_setWidget` and `field?_setWidget` say what a change does to
the list and to a field that is looked up; `fields_render` says what a rendered form has.
Changing every element the same way commutes with all of that (`mapWidgets_setWidget`).

Whatever is entered into a form stays inside its elements. What is left when that is taken
out is the skeleton: sections, rows, ids, labels and the kinds of the elements with what is
fixed about them. Entering keeps it, and a form's ids and combos can be told from it alone.
`Widget.Enters.cases` says all that entering can do to one element; `Form.Changed` carries
what is known of one element to the form.
-/

namespace DeviceSetup

namespace Form

/-! ## Changing the first field with an id -/

theorem setFirst_append_of_any {id : String} {w : Widget} {xs : List Field} (ys : List Field)
    (h : xs.any (·.id = id) = true) : setFirst id w (xs ++ ys) = setFirst id w xs ++ ys := by
  induction xs with
  | nil => simp at h
  | cons f rest ih =>
      -- this field is the first with the id, or the search goes on
      by_cases hf : f.id = id
      · simp [setFirst, hf]
      · have hrest : rest.any (·.id = id) = true := by simpa [hf] using h
        simp [setFirst, hf, ih hrest]

theorem setFirst_append_of_not_any {id : String} {w : Widget} {xs : List Field} (ys : List Field)
    (h : xs.any (·.id = id) = false) : setFirst id w (xs ++ ys) = xs ++ setFirst id w ys := by
  induction xs with
  | nil => rfl
  | cons f rest ih =>
      rw [List.any_cons, Bool.or_eq_false_iff] at h
      have hf : f.id ≠ id := of_decide_eq_false h.1
      simp [setFirst, hf, ih h.2]

theorem fields_setInRows (id : String) (w : Widget) (rows : List Row) :
    (setInRows id w rows).flatMap Row.fields = setFirst id w (rows.flatMap Row.fields) := by
  induction rows with
  | nil => rfl
  | cons r rest ih =>
      -- the row is changed if the id is in it, and the change goes on behind it if not
      rw [setInRows, List.flatMap_cons]
      split
      · rename_i h
        rw [setFirst_append_of_any _ h, List.flatMap_cons]
      · rename_i h
        rw [setFirst_append_of_not_any _ (Bool.eq_false_iff.mpr h), List.flatMap_cons, ih]

theorem fields_setInSections (id : String) (w : Widget) (sections : List Section) :
    (setInSections id w sections).flatMap Section.fields
      = setFirst id w (sections.flatMap Section.fields) := by
  induction sections with
  | nil => rfl
  | cons s rest ih =>
      rw [setInSections, List.flatMap_cons]
      split
      · rename_i h
        rw [setFirst_append_of_any _ h, List.flatMap_cons]
        congr 1
        exact fields_setInRows id w s.rows
      · rename_i h
        rw [setFirst_append_of_not_any _ (Bool.eq_false_iff.mpr h), List.flatMap_cons, ih]

/-- **Changing a field of the tree changes the first field of the list that has the id.** After this
nothing has to look at sections and rows to know what a change does. -/
theorem fields_setWidget (form : Form) (id : String) (w : Widget) :
    (form.setWidget id w).fields = setFirst id w form.fields :=
  fields_setInSections id w form.sections

/-- Looking up an id in a list of fields after a change. -/
theorem find?_setFirst (id id' : String) (w : Widget) (fs : List Field) :
    (setFirst id w fs).find? (·.id = id')
      = (fs.find? (·.id = id')).map fun f => if id' = id then { f with widget := w } else f := by
  induction fs with
  | nil => rfl
  | cons f rest ih =>
      rw [setFirst]
      by_cases hf : f.id = id
      · rw [if_pos hf]
        by_cases hid : id' = id
        · simp [hf, hid]
        · -- the field that was changed is not the one that is looked up
          have hne : f.id ≠ id' := fun h => hid (h ▸ hf)
          simp [hne, hid]
      · rw [if_neg hf]
        by_cases hid : f.id = id'
        · have hne : id' ≠ id := fun h => hf (h ▸ hid)
          simp [hid, hne]
        · simp [hid, ih]

/-- A change shows when its own id is looked up, and nowhere else. -/
theorem field?_setWidget (form : Form) (id id' : String) (w : Widget) :
    (form.setWidget id w).field? id'
      = (form.field? id').map fun f => if id' = id then { f with widget := w } else f := by
  unfold field?
  rw [fields_setWidget]
  exact find?_setFirst id id' w form.fields

/-- What a list of fields holds after a change was there, or is the field that was changed. -/
theorem mem_setFirst {id : String} {w : Widget} {fs : List Field} {g : Field}
    (h : g ∈ setFirst id w fs) :
    g ∈ fs ∨ ∃ f, fs.find? (·.id = id) = some f ∧ g = { f with widget := w } := by
  induction fs with
  | nil => simp [setFirst] at h
  | cons f rest ih =>
      rw [setFirst] at h
      split at h
      · rename_i hf
        rcases List.mem_cons.mp h with rfl | h
        · exact Or.inr ⟨f, by simp [hf], rfl⟩
        · exact Or.inl (List.mem_cons_of_mem _ h)
      · rename_i hf
        rcases List.mem_cons.mp h with rfl | h
        · exact Or.inl List.mem_cons_self
        · rcases ih h with h | ⟨f', hf', hg⟩
          · exact Or.inl (List.mem_cons_of_mem _ h)
          · exact Or.inr ⟨f', by simp [hf, hf'], hg⟩

theorem mem_of_field? {form : Form} {id : String} {f : Field} (h : form.field? id = some f) :
    f ∈ form.fields ∧ f.id = id :=
  ⟨List.mem_of_find?_eq_some h, by simpa using List.find?_some h⟩

theorem field?_isSome_iff (form : Form) (id : String) :
    (form.field? id).isSome = true ↔ id ∈ form.fields.map (·.id) := by
  unfold field?
  rw [List.find?_isSome]
  simp

/-! ## What is rendered -/

theorem flatMap_rows_filter (rows : List Row) :
    (rows.filter fun r => !r.fields.isEmpty).flatMap Row.fields = rows.flatMap Row.fields := by
  induction rows with
  | nil => rfl
  | cons r rest ih =>
      cases hr : r.fields with
      | nil => simp [hr, ih]
      | cons f fs => simp [hr, ih]

theorem fields_sectionOf (setting : Setting) :
    (sectionOf setting).fields = setting.vars.filterMap (fieldOf? setting) := by
  unfold Section.fields sectionOf Setting.vars
  -- rows in which nothing is shown are dropped, and take no field with them
  rw [flatMap_rows_filter, List.flatMap_map, List.filterMap_flatMap]
  rfl

/-- A rendered form has a field for each supported variable, in the order of the schema. -/
theorem fields_render (schema : Schema) :
    (render schema).fields = schema.vars.filterMap fun sv => fieldOf? sv.1 sv.2 := by
  unfold fields render Schema.vars
  rw [List.flatMap_map, List.filterMap_flatMap]
  congr 1
  funext setting
  rw [fields_sectionOf, List.filterMap_map]
  rfl

end Form

/-! ## Changing every element -/

/-- A field with its element changed. -/
def Field.mapWidget (g : Widget → Widget) (f : Field) : Field :=
  { f with widget := g f.widget }

/-- A row with every element changed. -/
def Row.mapWidgets (g : Widget → Widget) (r : Row) : Row :=
  ⟨r.fields.map (Field.mapWidget g)⟩

/-- A section with every element changed. -/
def Section.mapWidgets (g : Widget → Widget) (s : Section) : Section :=
  { s with rows := s.rows.map (Row.mapWidgets g) }

namespace Form

theorem mapWidgets_eq (g : Widget → Widget) (form : Form) :
    form.mapWidgets g = ⟨form.sections.map (Section.mapWidgets g)⟩ := rfl

theorem fields_mapWidgets (g : Widget → Widget) (form : Form) :
    (form.mapWidgets g).fields = form.fields.map (Field.mapWidget g) := by
  unfold mapWidgets fields
  rw [List.flatMap_map, List.map_flatMap]
  congr 1
  funext s
  unfold Section.fields
  rw [List.flatMap_map, List.map_flatMap]
  rfl

theorem field?_mapWidgets (g : Widget → Widget) (form : Form) (id : String) :
    (form.mapWidgets g).field? id = (form.field? id).map (Field.mapWidget g) := by
  unfold field?
  rw [fields_mapWidgets, List.find?_map]
  rfl

theorem any_map_mapWidget (g : Widget → Widget) (fs : List Field) (id : String) :
    (fs.map (Field.mapWidget g)).any (·.id = id) = fs.any (·.id = id) := by
  rw [List.any_map]
  rfl

theorem map_setFirst (g : Widget → Widget) (id : String) (w : Widget) (fs : List Field) :
    (setFirst id w fs).map (Field.mapWidget g)
      = setFirst id (g w) (fs.map (Field.mapWidget g)) := by
  induction fs with
  | nil => rfl
  | cons f rest ih =>
      rw [List.map_cons, setFirst, setFirst, ← ih]
      by_cases hf : f.id = id
      · rw [if_pos hf, if_pos (show (f.mapWidget g).id = id from hf)]
        rfl
      · rw [if_neg hf, if_neg (show ¬ (f.mapWidget g).id = id from hf)]
        rfl

theorem map_setInRows (g : Widget → Widget) (id : String) (w : Widget) (rows : List Row) :
    (setInRows id w rows).map (Row.mapWidgets g)
      = setInRows id (g w) (rows.map (Row.mapWidgets g)) := by
  induction rows with
  | nil => rfl
  | cons r rest ih =>
      -- ids stay, so the change goes into the same row as before
      have hany : (r.mapWidgets g).fields.any (·.id = id) = r.fields.any (·.id = id) :=
        any_map_mapWidget g r.fields id
      rw [List.map_cons, setInRows, setInRows, hany]
      split
      · rw [List.map_cons]
        congr 1
        exact congrArg Row.mk (map_setFirst g id w r.fields)
      · rw [List.map_cons, ih]

theorem map_setInSections (g : Widget → Widget) (id : String) (w : Widget)
    (sections : List Section) :
    (setInSections id w sections).map (Section.mapWidgets g)
      = setInSections id (g w) (sections.map (Section.mapWidgets g)) := by
  induction sections with
  | nil => rfl
  | cons s rest ih =>
      have hfields : (s.mapWidgets g).fields = s.fields.map (Field.mapWidget g) := by
        unfold Section.fields Section.mapWidgets
        rw [List.flatMap_map, List.map_flatMap]
        rfl
      rw [List.map_cons, setInSections, setInSections, hfields, any_map_mapWidget]
      split
      · rw [List.map_cons]
        congr 1
        exact congrArg (Section.mk s.name s.title) (map_setInRows g id w s.rows)
      · rw [List.map_cons, ih]

/-- It is the same to change one element and then all, or all and then the one. With this what holds
of skeletons, or of forms without offers, needs no look into the tree. -/
theorem mapWidgets_setWidget (g : Widget → Widget) (form : Form) (id : String) (w : Widget) :
    (form.setWidget id w).mapWidgets g = (form.mapWidgets g).setWidget id (g w) :=
  congrArg Form.mk (map_setInSections g id w form.sections)

/-! ## Changing nothing -/

theorem setFirst_self {id : String} {fs : List Field} {f : Field}
    (h : fs.find? (·.id = id) = some f) : setFirst id f.widget fs = fs := by
  induction fs with
  | nil => rfl
  | cons g rest ih =>
      rw [setFirst]
      by_cases hg : g.id = id
      · rw [List.find?_cons_of_pos (by simpa using hg)] at h
        rw [if_pos hg, ← Option.some.inj h]
      · rw [List.find?_cons_of_neg (by simpa using hg)] at h
        rw [if_neg hg, ih h]

theorem setInRows_self {id : String} {rows : List Row} {f : Field}
    (h : (rows.flatMap Row.fields).find? (·.id = id) = some f) :
    setInRows id f.widget rows = rows := by
  induction rows with
  | nil => rfl
  | cons r rest ih =>
      rw [List.flatMap_cons, List.find?_append] at h
      rw [setInRows, ← List.isSome_find?]
      -- the field that is found is in this row, or behind it
      cases hr : r.fields.find? (·.id = id) with
      | some g =>
          rw [hr] at h
          obtain rfl := Option.some.inj h
          rw [Option.isSome_some, if_pos rfl, setFirst_self hr]
      | none =>
          rw [hr] at h
          rw [Option.isSome_none, if_neg Bool.false_ne_true, ih h]

theorem setInSections_self {id : String} {sections : List Section} {f : Field}
    (h : (sections.flatMap Section.fields).find? (·.id = id) = some f) :
    setInSections id f.widget sections = sections := by
  induction sections with
  | nil => rfl
  | cons s rest ih =>
      rw [List.flatMap_cons, List.find?_append] at h
      rw [setInSections, ← List.isSome_find?]
      cases hs : s.fields.find? (·.id = id) with
      | some g =>
          rw [hs] at h
          obtain rfl := Option.some.inj h
          rw [Option.isSome_some, if_pos rfl, setInRows_self hs]
      | none =>
          rw [hs] at h
          rw [Option.isSome_none, if_neg Bool.false_ne_true, ih h]

/-- Putting the element of a field where it is changes nothing. -/
theorem setWidget_self {form : Form} {id : String} {f : Field} (h : form.field? id = some f) :
    form.setWidget id f.widget = form :=
  congrArg Form.mk (setInSections_self h)

end Form

/-! ## Skeletons -/

/-- An element of which only what nobody can enter is left. A select keeps its options and a combo
the id of its list, since the schema gives them. -/
def Widget.blank : Widget → Widget
  | .input kind placeholder _ => .input kind placeholder ""
  | .checkbox _ => .checkbox false
  | .select options _ => .select options none
  | .network combo => .network (.fresh combo.optionsId)

@[simp] theorem Widget.kind_blank (w : Widget) : w.blank.kind = w.kind := by
  cases w <;> rfl

/-- A field without what was entered. -/
def Field.blank (f : Field) : Field :=
  { f with widget := f.widget.blank }

namespace Form

/-- A form without what was entered: sections, rows, ids, labels and kinds. Two forms with one
skeleton look the same to everything that addresses fields. -/
def skeleton (form : Form) : Form :=
  form.mapWidgets Widget.blank

/-- The ids of the network combos, in form order. -/
def networkIds (form : Form) : List String :=
  (form.fields.filter (·.widget.kind = .network)).map (·.id)

theorem fields_skeleton (form : Form) : form.skeleton.fields = form.fields.map Field.blank :=
  fields_mapWidgets Widget.blank form

/-- A change that `g` does not see leaves what `g` makes of the form. -/
theorem mapWidgets_setWidget_of_eq {g : Widget → Widget} {form : Form} {id : String} {w : Widget}
    {f : Field} (hfind : form.field? id = some f) (hw : g w = g f.widget) :
    (form.setWidget id w).mapWidgets g = form.mapWidgets g := by
  -- to `g` the change puts the element where it is
  have hmapped : (form.mapWidgets g).field? id = some (f.mapWidget g) := by
    rw [field?_mapWidgets, hfind]
    rfl
  rw [mapWidgets_setWidget, hw]
  exact setWidget_self hmapped

/-! ## What a skeleton tells -/

theorem fields_blank_of_skeleton {form form' : Form} (h : form.skeleton = form'.skeleton) :
    form.fields.map Field.blank = form'.fields.map Field.blank := by
  rw [← fields_skeleton, ← fields_skeleton, h]

theorem ids_of_skeleton {form form' : Form} (h : form.skeleton = form'.skeleton) :
    form.fields.map (·.id) = form'.fields.map (·.id) := by
  have hblank : ∀ fs : List Field, (fs.map Field.blank).map (·.id) = fs.map (·.id) := by
    intro fs
    rw [List.map_map]
    rfl
  rw [← hblank form.fields, fields_blank_of_skeleton h, hblank]

theorem networkIds_of_skeleton {form form' : Form} (h : form.skeleton = form'.skeleton) :
    form.networkIds = form'.networkIds := by
  have hblank : ∀ fs : List Field,
      ((fs.map Field.blank).filter (·.widget.kind = .network)).map (·.id)
        = (fs.filter (·.widget.kind = .network)).map (·.id) := by
    intro fs
    rw [List.filter_map, List.map_map]
    simp only [Function.comp_def, Field.blank, Widget.kind_blank]
  unfold networkIds
  rw [← hblank form.fields, fields_blank_of_skeleton h, hblank]

theorem mem_networkIds {form : Form} {id : String} :
    id ∈ form.networkIds ↔ ∃ f ∈ form.fields, f.widget.kind = .network ∧ f.id = id := by
  simp [networkIds, and_assoc]

end Form

/-! ## Elements that change in turn -/

/-- A form after some of its elements changed, one after the other, each as `R` allows. Loading,
editing and merging all come to this, each with an `R` of its own. -/
inductive Form.Changed (R : Widget → Widget → Prop) (form : Form) : Form → Prop where
  | none : Changed R form form
  | tail {form' : Form} {id : String} {f : Field} {w : Widget} :
      Changed R form form' → form'.field? id = some f → R f.widget w →
      Changed R form (form'.setWidget id w)

namespace Form.Changed

variable {R : Widget → Widget → Prop} {form form' : Form}

/--
**What `R` keeps of every element is kept of the form.**

So to show that some operation keeps a part of the form, it is enough to look at what it does to one
element.
-/
theorem mapWidgets {g : Widget → Widget} (hR : ∀ w w', R w w' → g w' = g w)
    (h : Changed R form form') : form'.mapWidgets g = form.mapWidgets g := by
  induction h with
  | none => rfl
  | tail _ hf hw ih => rw [mapWidgets_setWidget_of_eq hf (hR _ _ hw), ih]

theorem skeleton (hR : ∀ w w', R w w' → w'.blank = w.blank) (h : Changed R form form') :
    form'.skeleton = form.skeleton :=
  h.mapWidgets hR

/-- What `R` keeps of every element holds of all elements afterwards. -/
theorem forall_mem {P : Widget → Prop} (hR : ∀ w w', R w w' → P w → P w')
    (h : Changed R form form') (hP : ∀ f ∈ form.fields, P f.widget) :
    ∀ f ∈ form'.fields, P f.widget := by
  induction h with
  | none => exact hP
  | @tail form' id f w _ hf hw ih =>
      intro g hg
      rw [fields_setWidget] at hg
      -- the field was there, or it is the one whose element has just changed
      rcases mem_setFirst hg with hg | ⟨f', hf', rfl⟩
      · exact ih g hg
      · rw [show form'.fields.find? (·.id = id) = some f from hf] at hf'
        obtain rfl := Option.some.inj hf'
        exact hR _ _ hw (ih f (mem_of_field? hf).1)

/-- What `R` keeps of every element holds of the elements that can be addressed afterwards, if it
held of those before. -/
theorem forall_field? {P : Widget → Prop} (hR : ∀ w w', R w w' → P w → P w')
    (h : Changed R form form') (hP : ∀ id f, form.field? id = some f → P f.widget) :
    ∀ id f, form'.field? id = some f → P f.widget := by
  induction h with
  | none => exact hP
  | @tail form' id f w _ hf hw ih =>
      intro id' g hg
      rw [field?_setWidget] at hg
      obtain ⟨f', hf', rfl⟩ := Option.map_eq_some_iff.mp hg
      by_cases hid : id' = id
      · rw [if_pos hid]
        exact hR _ _ hw (ih id f hf)
      · rw [if_neg hid]
        exact ih id' f' hf'

end Form.Changed

/-! ## Entering -/

/-- Something is entered into an element: a value is written into it, or a user edits it. These are
the only ways in, apart from scans. -/
inductive Widget.Enters (w w' : Widget) : Prop where
  | write (b : Behavior) (x : Value) (h : b.write x w = some w')
  | edit (e : Edit) (took : Bool) (h : e.apply w = some (w', took))

theorem Edit.act_of_apply {e : Edit} {w w' : Widget} {took : Bool}
    (h : e.apply w = some (w', took)) : e.act w = (w', some took) := by
  unfold apply at h
  split at h
  · rename_i hact
    cases h
    exact hact
  · cases h

/--
**An edit for another kind writes nothing.**

It has the element in hand and gives it back as it was.
-/
theorem Edit.act_of_apply_none {e : Edit} {w : Widget} (h : e.apply w = none) :
    e.act w = (w, none) := by
  -- the kinds that the edit is for come first, and each of them is an element that it takes
  have hunwritten : e.act w = (w, none) ∨ ∃ took, (e.act w).2 = some took := by
    unfold act
    split
    case h_5 =>
      right
      split
      · exact ⟨true, rfl⟩
      · exact ⟨false, rfl⟩
    case h_6 => exact Or.inl rfl
    all_goals exact Or.inr ⟨true, rfl⟩
  rcases hunwritten with hact | ⟨took, htook⟩
  · exact hact
  · unfold apply at h
    split at h
    · cases h
    · rename_i hnone
      rw [hnone] at htook
      cases htook

theorem NetworkCombo.selectText_optionsId (c : NetworkCombo) (text : String) :
    (c.selectText text).optionsId = c.optionsId := by
  unfold selectText
  split
  · split <;> rfl
  · rfl

theorem NetworkCombo.pick?_cases (c : NetworkCombo) (index : Nat) :
    c.pick? index = none ∨ ∃ text, c.pick? index = some (c.selectText text) := by
  unfold pick?
  cases c.options[index]? with
  | none => exact Or.inl rfl
  | some o => exact Or.inr ⟨o.value, rfl⟩

/-- **All that entering can do to an element: no more than it holds is replaced.** The cases are by
kind of element; a value or an edit for another kind does not enter. -/
theorem Widget.Enters.cases {w w' : Widget} (h : w.Enters w') :
    (∃ kind placeholder s s', w = .input kind placeholder s ∧ w' = .input kind placeholder s')
    ∨ (∃ b b', w = .checkbox b ∧ w' = .checkbox b')
    ∨ (∃ options selected selected', w = .select options selected ∧ w' = .select options selected'
        ∧ ∀ i, selected' = some i → i < options.length)
    ∨ (∃ combo, w = .network combo ∧ (w' = w ∨ ∃ text, w' = .network (combo.selectText text))) := by
  cases h with
  | write b x h =>
      cases w with
      | input kind placeholder s =>
          cases b with
          | text _ _ | port | deviceId =>
              exact Or.inl ⟨kind, placeholder, s, _, rfl, (Option.some.inj h).symm⟩
          | checkbox | choice | ssid => cases h
      | checkbox b' =>
          cases b with
          | checkbox => exact Or.inr (Or.inl ⟨b', _, rfl, (Option.some.inj h).symm⟩)
          | text _ _ | port | deviceId | choice | ssid => cases h
      | select options selected =>
          cases b with
          | choice =>
              refine Or.inr (Or.inr (Or.inl ⟨options, selected, _, rfl,
                (Option.some.inj h).symm, fun i hi => ?_⟩))
              exact (List.findIdx?_eq_some_iff_getElem.mp hi).1
          | text _ _ | port | deviceId | checkbox | ssid => cases h
      | network combo =>
          cases b with
          | ssid =>
              exact Or.inr (Or.inr (Or.inr ⟨combo, rfl, Or.inr ⟨_, (Option.some.inj h).symm⟩⟩))
          | text _ _ | port | deviceId | checkbox | choice => cases h
  | edit e took h =>
      cases w with
      | input kind placeholder s =>
          cases e with
          | input text =>
              cases h
              exact Or.inl ⟨kind, placeholder, s, text, rfl, rfl⟩
          | checked _ | choose _ | networkText _ | pickNetwork _ => cases h
      | checkbox b =>
          cases e with
          | checked b' =>
              cases h
              exact Or.inr (Or.inl ⟨b, b', rfl, rfl⟩)
          | input _ | choose _ | networkText _ | pickNetwork _ => cases h
      | select options selected =>
          cases e with
          -- an index beyond the options clears the selection
          | choose index =>
              cases h
              refine Or.inr (Or.inr (Or.inl ⟨options, selected, _, rfl, rfl, fun i hi => ?_⟩))
              split at hi
              · rename_i hlt
                exact Option.some.inj hi ▸ hlt
              · cases hi
          | input _ | checked _ | networkText _ | pickNetwork _ => cases h
      | network combo =>
          cases e with
          | networkText text =>
              cases h
              exact Or.inr (Or.inr (Or.inr ⟨combo, rfl, Or.inr ⟨text, rfl⟩⟩))
          | pickNetwork index =>
              refine Or.inr (Or.inr (Or.inr ⟨combo, rfl, ?_⟩))
              rcases combo.pick?_cases index with hnone | ⟨text, hsome⟩
              · simp only [Edit.apply, Edit.act, hnone] at h
                cases h
                exact Or.inl rfl
              · simp only [Edit.apply, Edit.act, hsome] at h
                cases h
                exact Or.inr ⟨text, rfl⟩
          | input _ | checked _ | choose _ => cases h

theorem Widget.Enters.blank {w w' : Widget} (h : w.Enters w') : w'.blank = w.blank := by
  rcases h.cases with ⟨_, _, _, _, rfl, rfl⟩ | ⟨_, _, rfl, rfl⟩ | ⟨_, _, _, rfl, rfl, _⟩
    | ⟨combo, rfl, rfl | ⟨text, rfl⟩⟩
  · rfl
  · rfl
  · rfl
  · rfl
  · simp only [Widget.blank, NetworkCombo.selectText_optionsId]

namespace Form

theorem find_ok {form : Form} {id : String} {f : Field} (h : form.field? id = some f) :
    form.find id = .ok f := by
  unfold find
  rw [h]

theorem find_error {form : Form} {id : String} (h : form.field? id = none) :
    form.find id = .error (.notFound id) := by
  unfold find
  rw [h]

theorem changed_write {form form₁ form₂ : Form} {id : String} {b : Behavior} {x : Value}
    (h : Changed Widget.Enters form form₁) (hw : form₁.write id b x = .ok form₂) :
    Changed Widget.Enters form form₂ := by
  unfold write at hw
  cases hf : form₁.field? id with
  | none =>
      rw [find_error hf] at hw
      cases hw
  | some f =>
      rw [find_ok hf] at hw
      cases hb : b.write x f.widget with
      | none =>
          simp only [bind, Except.bind, hb] at hw
          cases hw
      | some w =>
          simp only [bind, Except.bind, hb] at hw
          cases hw
          exact h.tail hf (.write b x hb)

/-- What loading leaves behind was entered, also where it stopped midway. -/
theorem changed_writeAll {form form₁ : Form} (h : Changed Widget.Enters form form₁)
    (ts : List Transfer) : Changed Widget.Enters form (form₁.writeAll ts).1 := by
  induction ts generalizing form₁ with
  | nil => exact h
  | cons t rest ih =>
      rw [writeAll]
      split
      · rename_i form₂ hw
        exact ih (changed_write h hw)
      · exact h

theorem changed_load (schema : Schema) (form : Form) (p : Payload) :
    Changed Widget.Enters form (form.load schema p).1 :=
  changed_writeAll .none _

section Edit

variable {form form' : Form} {id : String} {e : Edit} {f : Field}

theorem tryEdit_of_missing (hf : form.field? id = none) :
    form.tryEdit id e = (form, .error (.notFound id)) := by
  unfold tryEdit
  rw [hf]

theorem tryEdit_of_apply {w : Widget} {took : Bool} (hf : form.field? id = some f)
    (h : e.apply f.widget = some (w, took)) :
    form.tryEdit id e = (form.setWidget id w, .ok took) := by
  unfold tryEdit
  simp only [hf, Edit.act_of_apply h]

/-- An element that was not written is put back as it was, so the form is the same. -/
theorem tryEdit_of_apply_none (hf : form.field? id = some f) (h : e.apply f.widget = none) :
    form.tryEdit id e = (form, .error (f.mismatch e.widgetKind)) := by
  unfold tryEdit
  simp only [hf, Edit.act_of_apply_none h, setWidget_self hf]

/-- All that an edit in place can come to. -/
theorem tryEdit_cases (form : Form) (id : String) (e : Edit) :
    (∃ why, form.tryEdit id e = (form, .error why))
    ∨ ∃ f w took, form.field? id = some f ∧ e.apply f.widget = some (w, took)
      ∧ form.tryEdit id e = (form.setWidget id w, .ok took) := by
  cases hf : form.field? id with
  | none => exact Or.inl ⟨_, tryEdit_of_missing hf⟩
  | some f =>
      cases he : e.apply f.widget with
      | none => exact Or.inl ⟨_, tryEdit_of_apply_none hf he⟩
      | some applied =>
          obtain ⟨w, took⟩ := applied
          exact Or.inr ⟨f, w, took, rfl, he, tryEdit_of_apply hf he⟩

/-- What an edit leaves behind was entered, also where it failed. -/
theorem changed_tryEdit (form : Form) (id : String) (e : Edit) :
    Changed Widget.Enters form (form.tryEdit id e).1 := by
  rcases tryEdit_cases form id e with ⟨why, hfails⟩ | ⟨f, w, took, hf, he, hok⟩
  · rw [hfails]
    exact .none
  · rw [hok]
    exact Changed.none.tail hf (.edit e took he)

end Edit

end Form

end DeviceSetup
