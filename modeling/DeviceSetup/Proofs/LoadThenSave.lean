import Mathlib
import DeviceSetup.Proofs.FormFaults
import DeviceSetup.Proofs.SavedPayload
import DeviceSetup.Proofs.WrittenIntegers

/-!
# Loading and then saving

A load writes values into elements one after the other and finds each element by its id; a save
finds them in the same way. Where every shown variable has an id of its own, the writes do not
meet: the field of a variable ends up with what its own value made of it
(`field?_writeAll_of_mem`), and a variable without a value keeps its field.

What a variable then gives depends on its type and on the text of the value alone.
`Variable.Returns` is that table, told by what texts say and not by how they are read.
-/

namespace DeviceSetup

open Decimal

/-! ## What comes back -/

/--
What a variable gives once a value was loaded into its field.

Texts come back as they are shown, unless they are empty. A port comes back as the integer at the
front of the text, a checkbox as whether the value counts as set, and a choice as the integer that
the text denotes, if there is an option with this text. Nothing comes back of a device id.
-/
def Variable.Returns (v : Variable) (x : Value) (given : Option Value) : Prop :=
  match v.type with
  | .username | .password | .hostname | .text | .ssid =>
    given = if x.displayText = "" then none else some (.text x.displayText)
  | .port => ∀ y, given = some y ↔ ∃ n : Int64, y = .int n ∧ Leads x.displayText n.toInt
  | .checkbox => given = some (.bool x.isSet)
  | .choice => ∀ y, given = some y ↔ ∃ n : Int64, y = .int n
      ∧ (∃ c ∈ v.choices, c.value = x.displayText)
      ∧ Denotes (Text.trimChars x.displayText.toList) n.toInt
  | .deviceId => given = none
  | .unsupported _ => given = none

/-- The values that come back as they are. These are the values that a device would give out for
the variable, so a form that was filled by a device can be saved without loss. -/
inductive Variable.Keeps (v : Variable) : Value → Prop where
  | text {s : String} (htype : v.type.isText = true) (hs : s ≠ "") : Keeps v (.text s)
  | port (htype : v.type = .port) (n : Int64) : Keeps v (.int n)
  | checkbox (htype : v.type = .checkbox) (b : Bool) : Keeps v (.bool b)
  /-- Some option is written as the integer's decimal text. -/
  | choice {n : Int64} (htype : v.type = .choice)
      (h : ∃ c ∈ v.choices, c.value = Decimal.ofInt n.toInt) : Keeps v (.int n)

theorem Variable.Returns.eq_of_keeps {v : Variable} {x : Value} {given : Option Value}
    (h : v.Returns x given) (hkeeps : v.Keeps x) : given = some x := by
  unfold Returns at h
  cases hkeeps with
  | @text s htype hs =>
      have hgiven : given = if s = "" then none else some (.text s) := by
        -- all types that take texts have one line of the table
        cases ht : v.type <;> rw [ht] at h htype
        case username | password | hostname | text | ssid => exact h
        all_goals cases htype
      rw [hgiven, if_neg hs]
  | port htype n =>
      rw [htype] at h
      exact (h _).mpr ⟨n, rfl, leadingInt?_eq_some_iff.mp (leadingInt?_ofInt n)⟩
  | checkbox htype b =>
      rw [htype] at h
      exact h
  | @choice n htype hc =>
      rw [htype] at h
      exact (h _).mpr ⟨n, rfl, hc, wholeInt?_eq_some_iff.mp (wholeInt?_ofInt n)⟩

/-! ## One element -/

namespace Behavior

/-- What is read once the option with some text was looked for. -/
theorem selectedInt?_findIdx? {options : List SelectOption} {text : String} {n : Int64} :
    selectedInt? options (options.findIdx? (·.value = text)) = some n
      ↔ (∃ o ∈ options, o.value = text) ∧ wholeInt? text = some n := by
  cases hfind : options.findIdx? (·.value = text) with
  | none =>
      have hnone := List.findIdx?_eq_none_iff.mp hfind
      refine ⟨nofun, ?_⟩
      rintro ⟨⟨o, ho, hvalue⟩, -⟩
      exact absurd hvalue (by simpa using hnone o ho)
  | some i =>
      obtain ⟨hi, hvalue, -⟩ := List.findIdx?_eq_some_iff_getElem.mp hfind
      have htext : options[i].value = text := by simpa using hvalue
      have hselected : selectedInt? options (some i) = wholeInt? text := by
        simp only [selectedInt?, Option.bind_eq_bind, Option.bind_some,
          List.getElem?_eq_getElem hi, htext]
      rw [hselected]
      exact ⟨fun h => ⟨⟨options[i], List.getElem_mem hi, htext⟩, h⟩, fun h => h.2⟩

/-- The options of a variable's select are its choices. -/
theorem exists_option_iff {v : Variable} {text : String} :
    (∃ o ∈ v.choices.map fun c => (⟨c.value, c.label⟩ : SelectOption), o.value = text)
      ↔ ∃ c ∈ v.choices, c.value = text := by
  simp

theorem map_int_eq_some_iff {read : Option Int64} {y : Value} :
    read.map Value.int = some y ↔ ∃ n, y = .int n ∧ read = some n := by
  rw [Option.map_eq_some_iff]
  simp only [eq_comm, and_comm]

/--
**What a variable's element reads as once a value was written into it.**

Writing goes by the type of the variable and not by that of the value, so there is a line for every
value, also for one that the device would never give.
-/
theorem returns_of_write {v : Variable} {b : Behavior} (hb : v.type.behavior? = some b)
    {id : String} {w w' : Widget} (hblank : w.blank = (b.widget id v).blank) {x : Value}
    (hwrite : b.write x w = some w') : ∃ given, b.read w' = some given ∧ v.Returns x given := by
  unfold Variable.Returns
  -- by type; an element of another kind takes no value
  cases htype : v.type <;> rw [htype] at hb <;> cases hb <;> cases w <;>
    simp only [write, reduceCtorEq, Option.some.injEq] at hwrite <;> subst hwrite
  case username | password | hostname | text => exact ⟨_, rfl, rfl⟩
  case checkbox => exact ⟨_, rfl, rfl⟩
  case deviceId => exact ⟨_, rfl, rfl⟩
  case ssid combo =>
    refine ⟨_, rfl, ?_⟩
    rw [NetworkCombo.selectText_text]
    rfl
  case port =>
    refine ⟨_, rfl, fun y => ?_⟩
    simp only [map_int_eq_some_iff, leadingInt?_eq_some_iff]
  case choice options selected =>
    have hoptions : options = v.choices.map fun c => ⟨c.value, c.label⟩ :=
      (Widget.select.inj hblank).1
    refine ⟨_, rfl, fun y => ?_⟩
    simp only [map_int_eq_some_iff, selectedInt?_findIdx?, wholeInt?_eq_some_iff, hoptions,
      exists_option_iff]

end Behavior

/-! ## Ids of their own -/

namespace Schema

/-- No two shown variables have one id. It can be told from the names in the schema, since only a
clash of names makes two ids one. -/
def OwnIds (schema : Schema) : Prop :=
  (schema.shown.map fun e => elementId e.1 e.2).Nodup

instance (schema : Schema) : Decidable schema.OwnIds :=
  inferInstanceAs (Decidable (List.Nodup _))

theorem OwnIds.eq {schema : Schema} (h : schema.OwnIds) {d e : Setting × Variable}
    (hd : d ∈ schema.shown) (he : e ∈ schema.shown)
    (hid : elementId d.1 d.2 = elementId e.1 e.2) : d = e :=
  List.inj_on_of_nodup_map h hd he hid

theorem OwnIds.behind? {schema : Schema} (h : schema.OwnIds) {e : Setting × Variable}
    (he : e ∈ schema.shown) : schema.behind? (elementId e.1 e.2) = some e := by
  obtain ⟨d, hd⟩ := exists_behind he
  obtain ⟨hshown, hid⟩ := of_behind hd
  rw [hd, h.eq hshown he hid]

theorem OwnIds.not_misled {schema : Schema} (h : schema.OwnIds) {e : Setting × Variable}
    (he : e ∈ schema.vars) (expected found : WidgetKind) :
    ¬ schema.Misled e expected found := by
  rintro ⟨b, d, b', hb, rfl, hd, hb', rfl, hne⟩
  -- the variable behind the id is the variable itself
  obtain rfl := Option.some.inj ((h.behind? (mem_shown he hb)).symm.trans hd)
  obtain rfl := Option.some.inj (hb.symm.trans hb')
  exact hne rfl

/-- Then nothing fails: what fails does so by a variable that is led to another's element. -/
theorem OwnIds.eq_none {schema : Schema} (h : schema.OwnIds)
    {matters : Setting × Variable → Prop} {failed : Option FormError}
    (hfails : schema.FailsBy matters failed) : failed = none := by
  cases hfailed : failed with
  | none => rfl
  | some err =>
      obtain ⟨before, e, after, expected, found, hvars, -, hmisled, -, -⟩ :=
        hfails.first err hfailed
      have he : e ∈ schema.vars := by simp [hvars]
      exact absurd hmisled (h.not_misled he expected found)

end Schema

namespace Form

open Schema

theorem exists_save {form : Form} {schema : Schema}
    (hskeleton : form.skeleton = (render schema).skeleton) (hids : schema.OwnIds) :
    ∃ q, form.save schema = .ok q := by
  have hnone := hids.eq_none (failsBy_save hskeleton)
  cases hsave : form.save schema with
  | error err =>
      rw [hsave] at hnone
      cases hnone
  | ok q => exact ⟨q, rfl⟩

/-! ## Writes that do not meet -/

theorem field?_writeAll_of_not_mem {form : Form} {ts : List Transfer} {id : String}
    (h : ∀ t ∈ ts, t.id ≠ id) : (form.writeAll ts).1.field? id = form.field? id := by
  induction ts generalizing form with
  | nil => rfl
  | cons t ts ih =>
      rw [writeAll]
      rcases form.write_cases t.id t.behavior t.value with
        ⟨e, -, hwrite⟩ | ⟨f, w, -, -, -, hwrite⟩
      · rw [hwrite]
      · -- the write goes to another id, and so do all that follow
        have hne : id ≠ t.id := Ne.symm (h t List.mem_cons_self)
        rw [hwrite]
        refine (ih fun t' ht' => h t' (List.mem_cons_of_mem _ ht')).trans ?_
        rw [field?_setWidget]
        simp only [hne, if_false, Option.map_id']

/-- **Each field holds what its own value made of it.** The ids are all different, so no write comes
upon the field of another, before or after. -/
theorem field?_writeAll_of_mem {form : Form} {ts : List Transfer} (hids : (ts.map (·.id)).Nodup)
    (hok : (form.writeAll ts).2 = none) {t : Transfer} (ht : t ∈ ts) {f : Field}
    (hf : form.field? t.id = some f) :
    ∃ w, t.behavior.write t.value f.widget = some w
      ∧ (form.writeAll ts).1.field? t.id = some { f with widget := w } := by
  induction ts generalizing form with
  | nil => cases ht
  | cons t' ts ih =>
      rw [List.map_cons, List.nodup_cons] at hids
      rw [writeAll] at hok ⊢
      rcases form.write_cases t'.id t'.behavior t'.value with
        ⟨e, -, hwrite⟩ | ⟨f', w, hf', hw, -, hwrite⟩
      · rw [hwrite] at hok
        cases hok
      · rw [hwrite] at hok ⊢
        rcases List.mem_cons.mp ht with rfl | hmem
        · -- the rest of the values goes elsewhere
          obtain rfl := Option.some.inj (hf'.symm.trans hf)
          have hrest : ∀ t' ∈ ts, t'.id ≠ t.id := fun t' ht' heq =>
            hids.1 (heq ▸ List.mem_map_of_mem ht')
          refine ⟨w, hw, ?_⟩
          dsimp only
          rw [field?_writeAll_of_not_mem hrest, field?_setWidget, hf]
          simp
        · -- this value goes elsewhere
          have hne : t.id ≠ t'.id := fun heq => hids.1 (heq ▸ List.mem_map_of_mem hmem)
          refine ih hids.2 hok hmem ?_
          rw [field?_setWidget, hf]
          simp [hne]

theorem exists_of_mem_transfers {schema : Schema} {p : Payload} {t : Transfer}
    (h : t ∈ transfers schema p) :
    ∃ e ∈ schema.shown, t.id = elementId e.1 e.2 ∧ (p.get? e.1.name e.2.name).isSome = true := by
  obtain ⟨e, he, htransfer⟩ := List.mem_filterMap.mp h
  obtain ⟨b, hb, hrest⟩ := Option.bind_eq_some_iff.mp htransfer
  obtain ⟨x, hx, ht⟩ := Option.bind_eq_some_iff.mp hrest
  refine ⟨e, mem_shown he hb, ?_, by rw [hx]; rfl⟩
  rw [← Option.some.inj ht]

theorem mem_transfers {schema : Schema} {p : Payload} {e : Setting × Variable}
    (he : e ∈ schema.vars) {b : Behavior} (hb : e.2.type.behavior? = some b) {x : Value}
    (hx : p.get? e.1.name e.2.name = some x) :
    (⟨elementId e.1 e.2, b, x⟩ : Transfer) ∈ transfers schema p := by
  refine List.mem_filterMap.mpr ⟨e, he, ?_⟩
  simp only [transfer?, hb, hx]
  rfl

/-- The ids that a payload is loaded to are among those of the shown variables, in order. -/
theorem nodup_transfers {schema : Schema} (hids : schema.OwnIds) (p : Payload) :
    ((transfers schema p).map (·.id)).Nodup := by
  have hmap : (transfers schema p).map (·.id)
      = (schema.shown.filter fun e => (p.get? e.1.name e.2.name).isSome).map
          fun e => elementId e.1 e.2 := by
    unfold transfers shown
    rw [List.map_filterMap, List.filter_filter, ← List.filterMap_eq_map, List.filterMap_filter]
    congr 1
    funext ⟨setting, v⟩
    dsimp only [transfer?]
    cases v.type.behavior? <;> cases p.get? setting.name v.name <;> rfl
  rw [hmap]
  exact List.Nodup.sublist (List.filter_sublist.map _) hids

/-! ## What a variable gives after a load -/

theorem skeleton_load {form : Form} {schema : Schema}
    (hskeleton : form.skeleton = (render schema).skeleton) (p : Payload) :
    (form.load schema p).1.skeleton = (render schema).skeleton :=
  (skeleton_perform schema form (.load p)).trans hskeleton

section Load

variable {form : Form} {schema : Schema} {p : Payload} {e : Setting × Variable}

theorem read_of_field {b : Behavior} (hb : e.2.type.behavior? = some b) {f : Field}
    (hf : form.field? (elementId e.1 e.2) = some f) {given : Option Value}
    (hread : b.read f.widget = some given) : form.read e.1 e.2 = .ok given := by
  unfold read
  rw [hb]
  simp only [find_ok hf, bind, Except.bind, hread]
  rfl

/--
**A variable with a value gives what the table says.**

With an id of its own, the field that the value is written into is the one that is read later.
-/
theorem read_load_of_some (hskeleton : form.skeleton = (render schema).skeleton)
    (hids : schema.OwnIds) (he : e ∈ schema.shown) {x : Value}
    (hx : p.get? e.1.name e.2.name = some x) :
    ∃ given, (form.load schema p).1.read e.1 e.2 = .ok given ∧ e.2.Returns x given := by
  obtain ⟨hvars, b, hb⟩ := exists_behavior he
  obtain ⟨f, hf, -, hblank⟩ := exists_field hskeleton (hids.behind? he) hb
  -- the load went through to its end, so this value was written too
  have hok : (form.writeAll (transfers schema p)).2 = none :=
    hids.eq_none (failsBy_load hskeleton p)
  obtain ⟨w, hw, hafter⟩ :=
    field?_writeAll_of_mem (nodup_transfers hids p) hok (mem_transfers hvars hb hx) hf
  obtain ⟨given, hread, hreturns⟩ := Behavior.returns_of_write hb hblank hw
  exact ⟨given, read_of_field hb hafter hread, hreturns⟩

/--
**A variable without a value gives what it gave.**

Loading is no reset: a field that the payload does not mention keeps what the user has typed.
-/
theorem read_load_of_none (hids : schema.OwnIds) (he : e ∈ schema.vars)
    (hx : p.get? e.1.name e.2.name = none) :
    (form.load schema p).1.read e.1 e.2 = form.read e.1 e.2 := by
  unfold read
  cases hb : e.2.type.behavior? with
  | none => rfl
  | some b =>
      have hother : ∀ t ∈ transfers schema p, t.id ≠ elementId e.1 e.2 := by
        intro t ht hid
        obtain ⟨d, hd, hdid, hsome⟩ := exists_of_mem_transfers ht
        obtain rfl := hids.eq hd (mem_shown he hb) (hdid.symm.trans hid)
        rw [hx] at hsome
        cases hsome
      have hfield : (form.load schema p).1.field? (elementId e.1 e.2)
          = form.field? (elementId e.1 e.2) := field?_writeAll_of_not_mem hother
      simp only [find, hfield]

end Load

/--
**What comes back after a load.**

Let every shown variable of a valid schema have an id of its own, and let a form of the schema have
gone through any acts. Then every payload is loaded without an error, and the form is saved, before
and after. A shown variable with a value in the payload gives afterwards what the table says, and
the value itself if it is one that comes back; a variable without one gives what it gave before.
So loading the configuration of a device over a form in use touches nothing that the device does
not speak of.
-/
theorem load_then_save {schema : Schema} (hvalid : schema.validate = .ok ())
    (hids : schema.OwnIds) (acts : List Act) (p : Payload) :
    ((after schema acts).load schema p).2 = none
    ∧ ∃ q q', (after schema acts).save schema = .ok q
      ∧ ((after schema acts).load schema p).1.save schema = .ok q'
      ∧ (∀ e ∈ schema.shown, ∀ x, p.get? e.1.name e.2.name = some x →
        e.2.Returns x (q'.get? e.1.name e.2.name)
        ∧ (e.2.Keeps x → q'.get? e.1.name e.2.name = some x))
      ∧ ∀ e ∈ schema.vars, p.get? e.1.name e.2.name = none →
        q'.get? e.1.name e.2.name = q.get? e.1.name e.2.name := by
  have hskeleton := skeleton_after schema acts
  obtain ⟨q, hq⟩ := exists_save hskeleton hids
  obtain ⟨q', hq'⟩ := exists_save (skeleton_load hskeleton p) hids
  refine ⟨hids.eq_none (failsBy_load hskeleton p), q, q', hq, hq', ?_, ?_⟩
  · intro e he x hx
    obtain ⟨given, hread, hreturns⟩ := read_load_of_some hskeleton hids he hx
    have hgiven : q'.get? e.1.name e.2.name = given := by
      rw [get?_save hvalid hq' (exists_behavior he).1, given?, hread]
    rw [hgiven]
    exact ⟨hreturns, hreturns.eq_of_keeps⟩
  · intro e he hx
    rw [get?_save hvalid hq he, get?_save hvalid hq' he, given?, given?,
      read_load_of_none hids he hx]

/-- A port, a choice, a checkbox, a device id and a network. -/
def panel : Setting :=
  ⟨"s", "", [.group [⟨"p", "", .port, []⟩, ⟨"c", "", .choice, [⟨"1", "a"⟩, ⟨"2", "b"⟩]⟩],
    .single ⟨"b", "", .checkbox, []⟩, .single ⟨"d", "", .deviceId, []⟩,
    .single ⟨"n", "", .ssid, []⟩]⟩

/-- A port with a word behind it, the second choice, a text that ticks, and a device id. -/
def panelValues : Payload :=
  (((Payload.empty.insert "s" "p" (.text " 80 tcp")).insert "s" "c" (.int 2)).insert "s" "b"
    (.text "1")).insert "s" "d" (.bytes [1])

/-- A network is scanned and picked. -/
def pickHome : List Act :=
  [.merge [⟨"Home", -60, 6⟩], .edit "s_n" (.pickNetwork 1)]

theorem load_then_save_panel :
    Schema.validate ⟨[panel]⟩ = .ok () ∧ Schema.OwnIds ⟨[panel]⟩
      ∧ ((after ⟨[panel]⟩ pickHome).load ⟨[panel]⟩ panelValues).2 = none
      ∧ ∃ q q', (after ⟨[panel]⟩ pickHome).save ⟨[panel]⟩ = .ok q
        ∧ ((after ⟨[panel]⟩ pickHome).load ⟨[panel]⟩ panelValues).1.save ⟨[panel]⟩ = .ok q'
        ∧ q'.get? "s" "p" = some (.int 80) ∧ q'.get? "s" "c" = some (.int 2)
        ∧ q'.get? "s" "b" = some (.bool true) ∧ q'.get? "s" "d" = none
        ∧ q'.get? "s" "n" = some (.text "Home") := by
  have hvalid : Schema.validate ⟨[panel]⟩ = .ok () := by decide
  have hids : Schema.OwnIds ⟨[panel]⟩ := by decide
  obtain ⟨hok, q, q', hq, hq', hgiven, hkept⟩ := load_then_save hvalid hids pickHome panelValues
  refine ⟨hvalid, hids, hok, q, q', hq, hq', ?_, ?_, ?_, ?_, ?_⟩
  · have hport := hgiven (panel, ⟨"p", "", .port, []⟩) (by decide) (.text " 80 tcp") (by decide)
    exact (hport.1 _).mpr ⟨80, rfl, leadingInt?_eq_some_iff.mp (by decide)⟩
  · have hchoice := hgiven (panel, ⟨"c", "", .choice, [⟨"1", "a"⟩, ⟨"2", "b"⟩]⟩) (by decide)
      (.int 2) (by decide)
    exact hchoice.2 (.choice rfl ⟨⟨"2", "b"⟩, by decide, by decide⟩)
  · exact (hgiven (panel, ⟨"b", "", .checkbox, []⟩) (by decide) (.text "1") (by decide)).1
  · exact (hgiven (panel, ⟨"d", "", .deviceId, []⟩) (by decide) (.bytes [1]) (by decide)).1
  · have hhome : (after ⟨[panel]⟩ pickHome).given? (panel, ⟨"n", "", .ssid, []⟩)
        = some (.text "Home") := by decide
    exact ((hkept (panel, ⟨"n", "", .ssid, []⟩) (by decide) (by decide)).trans
      (get?_save hvalid hq (by decide))).trans hhome

end Form

end DeviceSetup
