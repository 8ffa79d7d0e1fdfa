import Mathlib
import DeviceSetup.App.Update
import DeviceSetup.Proofs.FormFields

/-!
# Edits are local and independent

An edit is addressed to an id. It reaches the first field that has the id and replaces, within
that field's element, the content that the edit is for (`Edit.Turns`). The element is put back as
the edit left it, so that an edit which fails leaves the form is a fact about what it writes. What
a field is found to be decides all about an edit of it (`tryEdit_congr`), and an edit under one id
is not seen under another, so edits under different ids can change places.

The two forms that come of the two orders are compared through their skeletons and their lists of
fields, which together are the whole form (`eq_of_skeleton_of_fields`).
-/

namespace DeviceSetup

/-! ## One element -/

/-- What an edit makes of an element of its kind, and whether it meant something to the element.
All that differs is the content that the edit is for: the value of an input, whether a box is
checked, what a select has selected, and a combo's text, options and selection. -/
inductive Edit.Turns : Edit → Widget → Widget → Bool → Prop where
  | input (kind : InputKind) (placeholder : Option String) (old text : String) :
      Turns (.input text) (.input kind placeholder old) (.input kind placeholder text) true
  | checked (old b : Bool) : Turns (.checked b) (.checkbox old) (.checkbox b) true
  | choose {options : List SelectOption} {index : Nat} (old : Option Nat)
      (h : index < options.length) :
      Turns (.choose index) (.select options old) (.select options (some index)) true
  | chooseNone {options : List SelectOption} {index : Nat} (old : Option Nat)
      (h : options.length ≤ index) :
      Turns (.choose index) (.select options old) (.select options none) true
  | networkText {c c' : NetworkCombo} {text : String} (hid : c'.optionsId = c.optionsId)
      (htext : c'.text = text) : Turns (.networkText text) (.network c) (.network c') true
  | pickNetwork {c c' : NetworkCombo} {index : Nat} {o : NetworkOption}
      (ho : c.options[index]? = some o) (hid : c'.optionsId = c.optionsId)
      (htext : c'.text = o.value) : Turns (.pickNetwork index) (.network c) (.network c') true
  | pickNothing {c : NetworkCombo} {index : Nat} (h : c.options.length ≤ index) :
      Turns (.pickNetwork index) (.network c) (.network c) false

namespace Edit

theorem turns_of_pickNetwork (index : Nat) (c : NetworkCombo) {w : Widget} {took : Bool}
    (h : (Edit.pickNetwork index).apply (.network c) = some (w, took)) :
    (Edit.pickNetwork index).Turns (.network c) w took := by
  unfold apply act NetworkCombo.pick? at h
  cases ho : c.options[index]? with
  | none =>
      simp only [ho, Option.map_none] at h
      cases h
      exact .pickNothing (List.getElem?_eq_none_iff.mp ho)
  | some o =>
      simp only [ho, Option.map_some] at h
      cases h
      exact .pickNetwork ho (c.selectText_optionsId o.value) (c.selectText_text o.value)

/-- An edit that is applied replaces the content it is for, and nothing else. -/
theorem turns_of_apply {e : Edit} {w w' : Widget} {took : Bool}
    (h : e.apply w = some (w', took)) : e.Turns w w' took := by
  cases e with
  | input text =>
      cases w with
      | input kind placeholder old =>
          cases h
          exact .input kind placeholder old text
      | checkbox _ | select _ _ | network _ => cases h
  | checked b =>
      cases w with
      | checkbox old =>
          cases h
          exact .checked old b
      | input _ _ _ | select _ _ | network _ => cases h
  | choose index =>
      cases w with
      | select options old =>
          by_cases hlt : index < options.length
          · simp only [apply, act, if_pos hlt] at h
            cases h
            exact .choose old hlt
          · simp only [apply, act, if_neg hlt] at h
            cases h
            exact .chooseNone old (Nat.le_of_not_lt hlt)
      | input _ _ _ | checkbox _ | network _ => cases h
  | networkText text =>
      cases w with
      | network c =>
          cases h
          exact .networkText (c.selectText_optionsId text) (c.selectText_text text)
      | input _ _ _ | checkbox _ | select _ _ => cases h
  | pickNetwork index =>
      cases w with
      | network c => exact turns_of_pickNetwork index c h
      | input _ _ _ | checkbox _ | select _ _ => cases h

/-- An edit can be applied just when the element is of the edit's kind. -/
theorem apply_isSome_iff (e : Edit) (w : Widget) :
    (e.apply w).isSome = true ↔ w.kind = e.widgetKind := by
  cases e with
  | pickNetwork index =>
      cases w with
      | network c =>
          simp only [apply, act, Widget.kind, widgetKind, iff_true]
          cases c.pick? index <;> rfl
      | input _ _ _ | checkbox _ | select _ _ => simp [apply, act, Widget.kind, widgetKind]
  | input _ | checked _ | choose _ | networkText _ =>
      cases w <;> simp [apply, act, Widget.kind, widgetKind]

end Edit

namespace Form

/-! ## The first field with an id -/

/-- The list of fields, cut at the first one that has an id. An edit never gets past that one, so
this is the place to speak of what it leaves in front and behind. -/
structure First (form : Form) (id : String) (before : List Field) (f : Field)
    (after : List Field) : Prop where
  fields : form.fields = before ++ f :: after
  id_eq : f.id = id
  not_before : ∀ g ∈ before, g.id ≠ id

theorem field?_eq_some_iff_first {form : Form} {id : String} {f : Field} :
    form.field? id = some f ↔ ∃ before after, form.First id before f after := by
  unfold field?
  rw [List.find?_eq_some_iff_append]
  constructor
  · rintro ⟨hid, before, after, hfields, hbefore⟩
    exact ⟨before, after, hfields, by simpa using hid, fun g hg => by simpa using hbefore g hg⟩
  · rintro ⟨before, after, hfields, hid, hbefore⟩
    exact ⟨by simpa using hid, before, after, hfields, fun g hg => by simpa using hbefore g hg⟩

theorem field?_eq_none_iff {form : Form} {id : String} :
    form.field? id = none ↔ ∀ f ∈ form.fields, f.id ≠ id := by
  simp [field?]

theorem First.fields_setWidget {form : Form} {id : String} {before after : List Field} {f : Field}
    (h : form.First id before f after) (w : Widget) :
    (form.setWidget id w).fields = before ++ { f with widget := w } :: after := by
  have hany : before.any (·.id = id) = false := by
    rw [List.any_eq_false]
    intro g hg
    simpa using h.not_before g hg
  -- the walk passes the fields in front and stops at this one
  rw [Form.fields_setWidget, h.fields, setFirst_append_of_not_any _ hany, setFirst, if_pos h.id_eq]

/-! ## Skeleton and fields are the whole form -/

theorem rows_eq_of_fields {g : Widget → Widget} {rows rows' : List Row}
    (hshape : rows.map (Row.mapWidgets g) = rows'.map (Row.mapWidgets g))
    (hfields : rows.flatMap Row.fields = rows'.flatMap Row.fields) : rows = rows' := by
  induction rows generalizing rows' with
  | nil => exact (List.map_eq_nil_iff.mp hshape.symm).symm
  | cons r rows ih =>
      cases rows' with
      | nil => cases hshape
      | cons r' rows' =>
          rw [List.map_cons, List.map_cons, List.cons.injEq] at hshape
          -- rows of one shape are equally long, so the joined fields part at the same place
          have hlength : r.fields.length = r'.fields.length := by
            have hrow := congrArg (fun row : Row => row.fields.length) hshape.1
            simpa [Row.mapWidgets] using hrow
          rw [List.flatMap_cons, List.flatMap_cons] at hfields
          obtain ⟨hrow, hrest⟩ := List.append_inj hfields hlength
          rw [ih hshape.2 hrest, show r = r' from congrArg Row.mk hrow]

theorem sections_eq_of_fields {g : Widget → Widget} {sections sections' : List Section}
    (hshape : sections.map (Section.mapWidgets g) = sections'.map (Section.mapWidgets g))
    (hfields : sections.flatMap Section.fields = sections'.flatMap Section.fields) :
    sections = sections' := by
  induction sections generalizing sections' with
  | nil => exact (List.map_eq_nil_iff.mp hshape.symm).symm
  | cons s sections ih =>
      cases sections' with
      | nil => cases hshape
      | cons s' sections' =>
          rw [List.map_cons, List.map_cons, List.cons.injEq] at hshape
          -- as with rows, the lengths say where one section ends in the joined fields
          have hlength : s.fields.length = s'.fields.length := by
            have hsection := congrArg (fun t : Section => t.fields.length) hshape.1
            simpa [Section.mapWidgets, Section.fields, Row.mapWidgets, List.length_flatMap,
              Function.comp_def] using hsection
          rw [List.flatMap_cons, List.flatMap_cons] at hfields
          obtain ⟨hown, hrest⟩ := List.append_inj hfields hlength
          obtain ⟨name, title, rows⟩ := s
          obtain ⟨name', title', rows'⟩ := s'
          obtain ⟨hname, htitle, hrows⟩ := Section.mk.inj hshape.1
          rw [ih hshape.2 hrest, show name = name' from hname, show title = title' from htitle,
            show rows = rows' from rows_eq_of_fields hrows hown]

/-- **Two forms with one skeleton and the same fields are the same.** So to compare two forms it is
enough to compare their fields once they come from one form by edits. -/
theorem eq_of_skeleton_of_fields {form form' : Form} (hskeleton : form.skeleton = form'.skeleton)
    (hfields : form.fields = form'.fields) : form = form' :=
  congrArg Form.mk (sections_eq_of_fields (Form.mk.inj hskeleton) hfields)

/-! ## An edit in place -/

section

variable {form : Form} {id : String} {e : Edit}

theorem tryEdit_of_kind_ne {f : Field} (hf : form.field? id = some f)
    (hkind : f.widget.kind ≠ e.widgetKind) :
    form.tryEdit id e = (form, .error (f.mismatch e.widgetKind)) := by
  have hnone : e.apply f.widget = none := by
    rw [← Option.not_isSome_iff_eq_none, Edit.apply_isSome_iff]
    exact hkind
  exact tryEdit_of_apply_none hf hnone

theorem tryEdit_of_kind {f : Field} (hf : form.field? id = some f)
    (hkind : f.widget.kind = e.widgetKind) :
    ∃ w took, e.apply f.widget = some (w, took)
      ∧ form.tryEdit id e = (form.setWidget id w, .ok took) := by
  obtain ⟨⟨w, took⟩, happly⟩ :=
    Option.isSome_iff_exists.mp ((e.apply_isSome_iff f.widget).mpr hkind)
  exact ⟨w, took, happly, tryEdit_of_apply hf happly⟩

/--
**When an edit fails**: no field has the id, or the first one that has it is of another kind.

A later field with the same id and the right kind does not help, since it is never reached.
-/
theorem tryEdit_fails_iff :
    (∃ why, (form.tryEdit id e).2 = .error why) ↔
      (∀ f ∈ form.fields, f.id ≠ id)
      ∨ ∃ before f after, form.First id before f after ∧ f.widget.kind ≠ e.widgetKind := by
  rw [← field?_eq_none_iff]
  cases hf : form.field? id with
  | none =>
      rw [tryEdit_of_missing hf]
      exact ⟨fun _ => Or.inl rfl, fun _ => ⟨_, rfl⟩⟩
  | some f =>
      constructor
      · rintro ⟨why, hwhy⟩
        obtain ⟨before, after, hfirst⟩ := field?_eq_some_iff_first.mp hf
        refine Or.inr ⟨before, f, after, hfirst, fun hkind => ?_⟩
        -- an edit of the right kind is answered
        obtain ⟨w, took, -, hok⟩ := tryEdit_of_kind hf hkind
        rw [hok] at hwhy
        cases hwhy
      · rintro (hnone | ⟨before, g, after, hfirst, hkind⟩)
        · cases hnone
        · have hg := field?_eq_some_iff_first.mpr ⟨before, after, hfirst⟩
          rw [tryEdit_of_kind_ne hg hkind]
          exact ⟨_, rfl⟩

/--
**An edit that fails writes nothing.**

The edit puts the element back before it knows whether it has failed. What it puts back is then the
element it took, so the form is the same.
-/
theorem tryEdit_of_error {why : FormError} (h : (form.tryEdit id e).2 = .error why) :
    form.tryEdit id e = (form, .error why) := by
  rcases tryEdit_cases form id e with ⟨why', hfails⟩ | ⟨f, w, took, -, -, hok⟩
  · rw [hfails] at h ⊢
    cases h
    rfl
  · rw [hok] at h
    cases h

theorem skeleton_tryEdit (form : Form) (id : String) (e : Edit) :
    (form.tryEdit id e).1.skeleton = form.skeleton :=
  (changed_tryEdit form id e).skeleton fun _ _ => Widget.Enters.blank

/-- **What an edit leaves**: every field but the first one with the id, and of that one all but
the content that the edit is for. -/
theorem frame_of_tryEdit {took : Bool} (h : (form.tryEdit id e).2 = .ok took) :
    ∃ before f after w, form.First id before f after ∧ e.Turns f.widget w took
      ∧ (form.tryEdit id e).1.fields = before ++ { f with widget := w } :: after := by
  rcases tryEdit_cases form id e with ⟨why, hfails⟩ | ⟨f, w, took', hf, happly, hok⟩
  · rw [hfails] at h
    cases h
  · rw [hok] at h ⊢
    cases h
    obtain ⟨before, after, hfirst⟩ := field?_eq_some_iff_first.mp hf
    exact ⟨before, f, after, w, hfirst, Edit.turns_of_apply happly, hfirst.fields_setWidget w⟩

/-! ## Edits under different ids -/

/-- An edit is not seen under another id. -/
theorem field?_tryEdit_of_ne (form : Form) (e : Edit) {id' : String} (hne : id' ≠ id) :
    (form.tryEdit id e).1.field? id' = form.field? id' := by
  rcases tryEdit_cases form id e with ⟨why, hfails⟩ | ⟨f, w, took, -, -, hok⟩
  · rw [hfails]
  · rw [hok, field?_setWidget]
    simp only [if_neg hne, Option.map_id']

/-- What an edit answers, and what it puts in place, hangs on the field that is found. -/
theorem tryEdit_congr {form' : Form} (h : form'.field? id = form.field? id) (e : Edit) :
    (∃ why, form.tryEdit id e = (form, .error why) ∧ form'.tryEdit id e = (form', .error why))
    ∨ ∃ w took, form.tryEdit id e = (form.setWidget id w, .ok took)
      ∧ form'.tryEdit id e = (form'.setWidget id w, .ok took) := by
  cases hf : form.field? id with
  | none => exact Or.inl ⟨_, tryEdit_of_missing hf, tryEdit_of_missing (h.trans hf)⟩
  | some f =>
      by_cases hkind : f.widget.kind = e.widgetKind
      · obtain ⟨w, took, happly, hok⟩ := tryEdit_of_kind hf hkind
        exact Or.inr ⟨w, took, hok, tryEdit_of_apply (h.trans hf) happly⟩
      · exact Or.inl ⟨_, tryEdit_of_kind_ne hf hkind, tryEdit_of_kind_ne (h.trans hf) hkind⟩

theorem answer_congr {form' : Form} (h : form'.field? id = form.field? id) (e : Edit) :
    (form'.tryEdit id e).2 = (form.tryEdit id e).2 := by
  rcases tryEdit_congr h e with ⟨why, herror, herror'⟩ | ⟨w, took, hok, hok'⟩
  · rw [herror, herror']
  · rw [hok, hok']

/-- Two places found under different ids are different places, so it does not matter which of them
is written first. -/
theorem setFirst_comm {id id' : String} (hne : id' ≠ id) (w w' : Widget) (fs : List Field) :
    setFirst id' w' (setFirst id w fs) = setFirst id w (setFirst id' w' fs) := by
  induction fs with
  | nil => rfl
  | cons f fs ih =>
      -- at most one of the two ids stops here
      by_cases hf : f.id = id
      · have hf' : f.id ≠ id' := fun h => hne (h.symm.trans hf)
        simp only [setFirst, if_pos hf, if_neg hf']
      · by_cases hf' : f.id = id'
        · simp only [setFirst, if_neg hf, if_pos hf']
        · simp only [setFirst, if_neg hf, if_neg hf', ih]

/--
**Edits under different ids can change places.**

The shell sends an event for each keystroke and does not wait, so events for two fields may come in
either order. What the user sees at the end is the same form.
-/
theorem tryEdit_comm (form : Form) (e e' : Edit) {id' : String} (hne : id' ≠ id) :
    ((form.tryEdit id e).1.tryEdit id' e').1 = ((form.tryEdit id' e').1.tryEdit id e).1 := by
  have hseen := field?_tryEdit_of_ne form e hne
  have hseen' := field?_tryEdit_of_ne form e' (Ne.symm hne)
  have hskeleton : ((form.tryEdit id e).1.tryEdit id' e').1.skeleton
      = ((form.tryEdit id' e').1.tryEdit id e).1.skeleton := by
    rw [skeleton_tryEdit, skeleton_tryEdit, skeleton_tryEdit, skeleton_tryEdit]
  refine eq_of_skeleton_of_fields hskeleton ?_
  -- each edit comes to the same after the other one as it does at first
  rcases tryEdit_congr hseen' e with ⟨why, hfirst, hsecond⟩ | ⟨w, took, hfirst, hsecond⟩
  · rw [hfirst, hsecond]
  rcases tryEdit_congr hseen e' with ⟨why, hfirst', hsecond'⟩ | ⟨w', took', hfirst', hsecond'⟩
  · rw [hfirst', hsecond']
  · rw [hsecond', hsecond, hfirst, hfirst', Form.fields_setWidget, Form.fields_setWidget,
      Form.fields_setWidget, Form.fields_setWidget, setFirst_comm hne]

end

end Form

/-! ## In the app -/

theorem Model.update_edit_of_ok {m : Model} {id : String} {e : Edit} {took : Bool}
    (h : (m.form.tryEdit id e).2 = .ok took) :
    update m (.shell (.edit id e))
      = ({ m with form := (m.form.tryEdit id e).1 }, [.render]) := by
  simp only [update, edit]
  split
  · rename_i form took' hedit
    rw [hedit]
  · rename_i form why hedit
    rw [hedit] at h
    cases h

theorem Model.update_edit_of_error {m : Model} {id : String} {e : Edit} {why : FormError}
    (h : (m.form.tryEdit id e).2 = .error why) :
    update m (.shell (.edit id e))
      = ({ m with isLoading := false, error := some why.message }, [.render]) := by
  simp only [update, edit, Form.tryEdit_of_error h]
  rfl

namespace Form

/-- What the edits of a form come to, for one of them and any other beside it. -/
structure LocalAndIndependent (form : Form) (id : String) (e : Edit) : Prop where
  /-- An edit fails just when no field has the id or the first one with it is of another kind. -/
  fails_iff : (∃ why, (form.tryEdit id e).2 = .error why) ↔
    (∀ f ∈ form.fields, f.id ≠ id)
    ∨ ∃ before f after, form.First id before f after ∧ f.widget.kind ≠ e.widgetKind
  /-- Then the form stays. -/
  atomic : ∀ why, (form.tryEdit id e).2 = .error why → (form.tryEdit id e).1 = form
  /-- Otherwise the content that the edit is for is replaced, in the first field with the id. -/
  frame : ∀ took, (form.tryEdit id e).2 = .ok took →
    (form.tryEdit id e).1.skeleton = form.skeleton ∧
    ∃ before f after w, form.First id before f after ∧ e.Turns f.widget w took ∧
      (form.tryEdit id e).1.fields = before ++ { f with widget := w } :: after
  /-- Under different ids two edits come to the same form in either order. -/
  commutes : ∀ id' e', id' ≠ id →
    ((form.tryEdit id e).1.tryEdit id' e').1 = ((form.tryEdit id' e').1.tryEdit id e).1
  /-- Each of them is answered as it is alone. -/
  answers : ∀ id' e', id' ≠ id →
    ((form.tryEdit id e).1.tryEdit id' e').2 = (form.tryEdit id' e').2 ∧
    ((form.tryEdit id' e').1.tryEdit id e).2 = (form.tryEdit id e).2
  /-- In the app the edited form is put in place. -/
  edited : ∀ m : Model, m.form = form → ∀ took, (form.tryEdit id e).2 = .ok took →
    update m (.shell (.edit id e)) = ({ m with form := (form.tryEdit id e).1 }, [.render])
  /-- An edit that fails changes the error that is shown and the mark that something is loading. -/
  failed : ∀ m : Model, m.form = form → ∀ why, (form.tryEdit id e).2 = .error why →
    update m (.shell (.edit id e))
      = ({ m with isLoading := false, error := some why.message }, [.render])

/--
**Edits are local, all or nothing, and independent.**

An edit fails just when no field has the id or the first field that has it is of another kind,
and then the form stays, although the edit works on the form in place. An edit that succeeds keeps
the skeleton of the form and every field but the first one with the id, and in that one it replaces
the content it is for. Two edits under different ids come to the same form in either order, each
with the answer it has alone, so events that the shell sends for different fields may cross. In
the app the event of an edit puts the edited form in place, and one that fails changes nothing but
the error that is shown and the mark that something is loading.
-/
theorem edits_local_and_independent (form : Form) (id : String) (e : Edit) :
    form.LocalAndIndependent id e where
  fails_iff := tryEdit_fails_iff
  atomic := by
    intro why h
    rw [tryEdit_of_error h]
  frame := fun took h => ⟨skeleton_tryEdit form id e, frame_of_tryEdit h⟩
  commutes := fun id' e' hne => tryEdit_comm form e e' hne
  answers := fun id' e' hne => ⟨answer_congr (field?_tryEdit_of_ne form e hne) e',
    answer_congr (field?_tryEdit_of_ne form e' (Ne.symm hne)) e⟩
  edited := by
    rintro m rfl took h
    exact Model.update_edit_of_ok h
  failed := by
    rintro m rfl why h
    exact Model.update_edit_of_error h

/-- A form in which an input and a box share the id `a`, and `b` is a select. -/
def sharedForm : Form :=
  ⟨[⟨"s", "S", [⟨[⟨"a", "A", some 6, .input .text none "old"⟩, ⟨"a", "A", none, .checkbox false⟩]⟩,
    ⟨[⟨"b", "B", none, .select [⟨"1", "One"⟩] none⟩]⟩]⟩]⟩

theorem edits_local_and_independent_shared :
    (sharedForm.tryEdit "a" (.checked true)).2 = .error (.mismatch "a" .checkbox .input) ∧
    (sharedForm.tryEdit "a" (.checked true)).1 = sharedForm ∧
    (sharedForm.tryEdit "a" (.input "new")).2 = .ok true ∧
    ((sharedForm.tryEdit "a" (.input "new")).1.tryEdit "b" (.choose 0)).1
      = ((sharedForm.tryEdit "b" (.choose 0)).1.tryEdit "a" (.input "new")).1 := by
  have hbox : (sharedForm.tryEdit "a" (.checked true)).2
      = .error (.mismatch "a" .checkbox .input) := by decide
  have hne : "b" ≠ "a" := by decide
  exact ⟨hbox, (edits_local_and_independent sharedForm "a" (.checked true)).atomic _ hbox,
    by decide,
    (edits_local_and_independent sharedForm "a" (.input "new")).commutes "b" (.choose 0) hne⟩

end Form

end DeviceSetup
