import Mathlib
import DeviceSetup.Form.Transfer
import DeviceSetup.Proofs.FormFields
import DeviceSetup.Proofs.StoreContents
import DeviceSetup.Proofs.WireRoundTrips

/-!
# What a form saves, the device takes

The page reads a form by one table of types and the device stores a payload by another.
`FieldType.Gives` says which values the first table can give; the second takes each of
them, and keeps it but for the width of ports and choices (`stored_of_gives`). Between the
two lies a wire format, which gives back what was written.
-/

namespace DeviceSetup

/-! ## The two tables -/

namespace FieldType

/-- Whether a variable holds a text. -/
def isText : FieldType → Bool
  | .username | .password | .hostname | .text | .ssid => true
  | _ => false

/-- The values that the field of a variable can give. No octets are among them, and no empty text,
so an empty field gives nothing. -/
inductive Gives : FieldType → Value → Prop where
  | text {type : FieldType} {s : String} (htype : type.isText = true) (hs : s ≠ "") :
      Gives type (.text s)
  | port (n : Int64) : Gives .port (.int n)
  | choice (n : Int64) : Gives .choice (.int n)
  | checkbox (b : Bool) : Gives .checkbox (.bool b)

/-- What a given value is once it was stored: a port has 16 bits, a choice 32 and a sign. Neither
the page nor the device refuses a number that is too large; the device cuts it. -/
def kept : FieldType → Value → Value
  | .port, .int n => .int (Int64.ofInt (n.toInt % 65536))
  | .choice, .int n => .int (Int64.ofInt (n.toInt.bmod 4294967296))
  | _, x => x

theorem Gives.ne_bytes {type : FieldType} {x : Value} (h : type.Gives x) (bs : Bytes) :
    x ≠ .bytes bs := by
  cases h <;> exact Value.noConfusion

theorem Gives.ne_empty {type : FieldType} {x : Value} (h : type.Gives x) : x ≠ .text "" := by
  cases h with
  | text htype hs => exact fun heq => hs (Value.text.inj heq)
  | port n | choice n | checkbox b => exact Value.noConfusion

/-- No value is given for a device id or a variable that is not supported. -/
theorem Gives.takes_part {type : FieldType} {x : Value} (h : type.Gives x) :
    type ≠ .deviceId ∧ ∀ name, type ≠ .unsupported name := by
  cases h with
  | text htype hs => cases type <;> simp [isText] at htype ⊢
  | port n => simp
  | choice n => simp
  | checkbox b => simp

theorem Gives.of_nonEmptyText {type : FieldType} (htype : type.isText = true) {s : String}
    {x : Value} (h : nonEmptyText? s = some x) : type.Gives x := by
  unfold nonEmptyText? at h
  split at h
  · cases h
  · rename_i hs
    cases h
    exact .text htype hs

/-- The page's table gives no other values. -/
theorem gives_of_read {type : FieldType} {b : Behavior} (hb : type.behavior? = some b) {w : Widget}
    {x : Value} (h : b.read w = some (some x)) : type.Gives x := by
  -- by type, with the behavior and the element that go with it
  cases type <;> cases hb <;> cases w <;>
    simp only [Behavior.read, Option.some.injEq, reduceCtorEq] at h
  case username | password | hostname | text | ssid => exact .of_nonEmptyText rfl h
  case port =>
    obtain ⟨n, -, rfl⟩ := Option.map_eq_some_iff.mp h
    exact .port n
  case choice =>
    obtain ⟨n, -, rfl⟩ := Option.map_eq_some_iff.mp h
    exact .choice n
  case checkbox =>
    subst h
    exact .checkbox _

/-- Cutting to 16 bits is taking the remainder, also for a negative number. -/
theorem storedPort_eq (n : Int64) : storedPort n = Int64.ofInt (n.toInt % 65536) := by
  have hword : n.toInt % 65536 = (n.toUInt64.toNat % 65536 : Nat) := by
    have hsign : n.toInt = n.toBitVec.toInt := rfl
    have hnat : n.toUInt64.toNat = n.toBitVec.toNat := rfl
    rw [hsign, hnat, BitVec.toInt_eq_toNat_cond]
    split <;> omega
  unfold storedPort
  rw [hword, UInt64.toNat_toUInt16]
  rfl

theorem storedChoice_eq (n : Int64) :
    storedChoice n = Int64.ofInt (n.toInt.bmod 4294967296) := by
  unfold storedChoice
  rw [← Int64.ofInt_int32ToInt, Int64.toInt_toInt32]

/-- **The device's table takes every value that the page's table gives.** The two tables are kept in
two places, and a type that is added to one of them has to be added to the other. -/
theorem stored_of_gives {type : FieldType} {x : Value} (h : type.Gives x) :
    type.stored x = .ok (some (type.kept x)) := by
  cases h with
  | text htype hs =>
      cases type <;> simp only [isText, reduceCtorEq] at htype
      all_goals rfl
  | port n => rw [stored, kept, storedPort_eq]
  | choice n => rw [stored, kept, storedChoice_eq]
  | checkbox b => rfl

end FieldType

/-! ## What a form gives -/

namespace Form

/-- What the field of a variable gives, if it can be read. -/
def given? (form : Form) (e : Setting × Variable) : Option Value :=
  match form.read e.1 e.2 with
  | .ok x => x
  | .error _ => none

/-- A field that can be read: it has no behavior and gives nothing, or gives what its element
does. -/
theorem read_ok {form : Form} {setting : Setting} {v : Variable} {given : Option Value}
    (h : form.read setting v = .ok given) :
    (v.type.behavior? = none ∧ given = none) ∨
      ∃ b w, v.type.behavior? = some b ∧ b.read w = some given := by
  unfold read at h
  cases hb : v.type.behavior? with
  | none =>
      rw [hb] at h
      cases h
      exact .inl ⟨rfl, rfl⟩
  | some b =>
      rw [hb] at h
      obtain ⟨f, -, h⟩ := exists_of_bind_eq_ok h
      cases hread : b.read f.widget with
      | none =>
          rw [hread] at h
          cases h
      | some x =>
          rw [hread] at h
          cases h
          exact .inr ⟨b, f.widget, rfl, hread⟩

theorem gives_of_given? {form : Form} {e : Setting × Variable} {x : Value}
    (h : form.given? e = some x) : e.2.type.Gives x := by
  unfold given? at h
  cases hread : form.read e.1 e.2 with
  | error why =>
      rw [hread] at h
      cases h
  | ok given =>
      rw [hread] at h
      subst h
      rcases read_ok hread with ⟨-, hnone⟩ | ⟨b, w, hb, hw⟩
      · cases hnone
      · exact FieldType.gives_of_read hb hw

/-- A checkbox that can be read gives a value, ticked or not. -/
theorem given?_checkbox {form : Form} {e : Setting × Variable} {given : Option Value}
    (hread : form.read e.1 e.2 = .ok given) (htype : e.2.type = .checkbox) :
    ∃ b, form.given? e = some (.bool b) := by
  unfold given?
  rw [hread]
  rcases read_ok hread with ⟨hnone, -⟩ | ⟨b, w, hb, hw⟩
  · rw [htype] at hnone
    cases hnone
  · rw [htype] at hb
    cases hb
    cases w <;> simp only [Behavior.read, reduceCtorEq] at hw
    exact ⟨_, (Option.some.inj hw).symm⟩

/-- Reading the fields of a setting is a walk over its variables. -/
theorem readVariables_ok {form : Form} {setting : Setting} {values values' : Dict Value}
    {vs : List Variable} (h : form.readVariables setting values vs = .ok values') {p : Payload}
    (hp : ∀ n, values.get? n = p.get? setting.name n) :
    (∀ v ∈ vs, ∃ given, form.read setting v = .ok given) ∧
      ∀ n, values'.get? n
        = (p.fill form.given? (vs.map fun v => (setting, v))).get? setting.name n := by
  induction vs generalizing values p with
  | nil =>
      cases h
      exact ⟨by simp, hp⟩
  | cons v vs ih =>
      rw [readVariables] at h
      obtain ⟨given, hread, h⟩ := exists_of_bind_eq_ok h
      have hgiven : form.given? (setting, v) = given := by
        unfold given?
        rw [hread]
      -- the dictionary and the payload stay in step over this variable
      have hstep : ∀ n, (given.elim values fun x => values.insert v.name x).get? n
          = (p.put form.given? (setting, v)).get? setting.name n := by
        intro n
        unfold Payload.put
        rw [hgiven]
        cases given with
        | none => exact hp n
        | some x =>
            rw [Payload.get?_insert, Option.elim_some, Dict.get?_insert, hp]
            simp only [true_and]
      have hrest : form.readVariables setting (given.elim values fun x =>
          values.insert v.name x) vs = .ok values' := by
        cases given <;> exact h
      -- so the rest of the walk starts from two that agree
      obtain ⟨hall, hget⟩ := ih hrest hstep
      exact ⟨List.forall_mem_cons.mpr ⟨⟨given, hread⟩, hall⟩, hget⟩

/-- Reading the settings is the same walk, setting by setting. A setting's values are put in as a
whole where the walk puts them in one by one. -/
theorem readSettings_ok {form : Form} {p q : Payload} {settings : List Setting}
    (h : form.readSettings p settings = .ok q) {p' : Payload}
    (hp : ∀ s n, p.get? s n = p'.get? s n) :
    (∀ s ∈ settings, ∀ v ∈ s.vars, ∃ given, form.read s v = .ok given) ∧
      ∀ s n, q.get? s n = (p'.fill form.given?
        (settings.flatMap fun t => t.vars.map fun v => (t, v))).get? s n := by
  induction settings generalizing p p' with
  | nil =>
      cases h
      exact ⟨by simp, hp⟩
  | cons t settings ih =>
      rw [readSettings] at h
      obtain ⟨values, hvalues, h⟩ := exists_of_bind_eq_ok h
      obtain ⟨hreads, hget⟩ := readVariables_ok hvalues (p := p') fun n => by
        rw [Payload.valuesOf_get?, hp]
      have hstep : ∀ s n, Payload.get? ⟨p.settings.insert t.name values⟩ s n
          = (p'.fill form.given? (t.vars.map fun v => (t, v))).get? s n := by
        intro s n
        rw [Payload.get?_replace]
        split
        · rename_i hs
          rw [hget, hs]
        · rename_i hs
          -- the walk over this setting leaves the others alone
          rw [Payload.get?_fill_of_not_mem, hp]
          rw [List.map_map, List.mem_map]
          rintro ⟨v, -, hkey⟩
          exact hs (Prod.mk.inj hkey).1.symm
      obtain ⟨hall, hrest⟩ := ih h hstep
      refine ⟨List.forall_mem_cons.mpr ⟨hreads, hall⟩, fun s n => ?_⟩
      rw [hrest, List.flatMap_cons, Payload.fill_append]

/-- Every setting gets an entry, also one without any value. -/
theorem readSettings_names {form : Form} {p q : Payload} {settings : List Setting}
    (h : form.readSettings p settings = .ok q) (name : String) :
    (q.setting? name).isSome ↔ (p.setting? name).isSome ∨ ∃ s ∈ settings, s.name = name := by
  induction settings generalizing p with
  | nil =>
      cases h
      simp
  | cons t settings ih =>
      rw [readSettings] at h
      obtain ⟨values, -, h⟩ := exists_of_bind_eq_ok h
      rw [ih h, Payload.setting?_replace]
      by_cases hname : name = t.name
      · simp [hname]
      · simp [hname, Ne.symm hname]

section Save

variable {form : Form} {schema : Schema} {q : Payload}

theorem read_of_save (h : form.save schema = .ok q) {e : Setting × Variable}
    (he : e ∈ schema.vars) : ∃ given, form.read e.1 e.2 = .ok given :=
  (readSettings_ok h fun _ _ => rfl).1 e.1 (Schema.mem_vars.mp he).1 e.2 (Schema.mem_vars.mp he).2

/--
**A saved payload holds for a variable what its field gives.**

The payload is made setting by setting, each with a dictionary of its own; under the names of a
variable nothing of that shows.
-/
theorem get?_save (hvalid : schema.validate = .ok ()) (h : form.save schema = .ok q)
    {e : Setting × Variable} (he : e ∈ schema.vars) :
    q.get? e.1.name e.2.name = form.given? e := by
  have hfill := (readSettings_ok h fun _ _ => rfl).2 e.1.name e.2.name
  rw [hfill]
  exact (Payload.get?_fill_of_mem (Schema.nodup_keys_vars hvalid) he .empty).trans (Option.or_none)

/-- A saved payload holds nothing but variables of the schema. -/
theorem exists_of_get?_save (h : form.save schema = .ok q) {s n : String} {x : Value}
    (hx : q.get? s n = some x) : ∃ e ∈ schema.vars, e.1.name = s ∧ e.2.name = n := by
  by_contra hnone
  have hkey : (s, n) ∉ schema.vars.map Schema.key := by
    intro hmem
    obtain ⟨e, he, heq⟩ := List.mem_map.mp hmem
    exact hnone ⟨e, he, (Prod.mk.inj heq).1, (Prod.mk.inj heq).2⟩
  have hfill := (readSettings_ok h fun _ _ => rfl).2 s n
  rw [hx] at hfill
  exact Option.some_ne_none x (hfill.trans (Payload.get?_fill_of_not_mem hkey .empty))

/-- Whatever stands in a saved payload was given for a variable of the schema. -/
theorem gives_of_save (hvalid : schema.validate = .ok ()) (h : form.save schema = .ok q)
    {s n : String} {x : Value} (hx : q.get? s n = some x) :
    ∃ e ∈ schema.vars, e.1.name = s ∧ e.2.name = n ∧ e.2.type.Gives x := by
  obtain ⟨e, he, rfl, rfl⟩ := exists_of_get?_save h hx
  rw [get?_save hvalid h he] at hx
  exact ⟨e, he, rfl, rfl, gives_of_given? hx⟩

end Save

end Form

/-! ## From the form to the device -/

/-- A payload as a form for the schema saves it. -/
structure Payload.SavedFor (schema : Schema) (q : Payload) : Prop where
  /-- It has an entry for each setting, and for nothing else. -/
  settings : ∀ name, name ∈ q.settings.names ↔ ∃ s ∈ schema.settings, s.name = name
  /-- It gives values to variables of the schema only. -/
  known : ∀ s n x, q.get? s n = some x → ∃ e ∈ schema.vars, e.1.name = s ∧ e.2.name = n
  checkbox : ∀ e ∈ schema.vars, e.2.type = .checkbox →
    ∃ b, q.get? e.1.name e.2.name = some (.bool b)
  text : ∀ s n, q.get? s n ≠ some (.text "")
  deviceId : ∀ e ∈ schema.vars, e.2.type = .deviceId → q.get? e.1.name e.2.name = none
  unsupported : ∀ e ∈ schema.vars, ∀ name, e.2.type = .unsupported name →
    q.get? e.1.name e.2.name = none

/-- What a form saves has the shape that is wanted of a payload for its schema. -/
theorem Form.savedFor_of_save {form : Form} {schema : Schema} {q : Payload}
    (hvalid : schema.validate = .ok ()) (h : form.save schema = .ok q) : q.SavedFor schema where
  settings name := by
    rw [Dict.mem_names_iff]
    refine (Form.readSettings_names h name).trans ?_
    exact ⟨fun hor => hor.resolve_left (by simp [Payload.setting?, Payload.empty, Dict.get?_empty]),
      .inr⟩
  known s n x hx := Form.exists_of_get?_save h hx
  checkbox e he htype := by
    obtain ⟨given, hread⟩ := Form.read_of_save h he
    rw [Form.get?_save hvalid h he]
    exact Form.given?_checkbox hread htype
  text s n hx := by
    obtain ⟨e, -, -, -, hgives⟩ := Form.gives_of_save hvalid h hx
    exact hgives.ne_empty rfl
  deviceId e he htype := by
    rw [Form.get?_save hvalid h he]
    exact Option.eq_none_iff_forall_not_mem.mpr fun x hx =>
      (Form.gives_of_given? hx).takes_part.1 htype
  unsupported e he name htype := by
    rw [Form.get?_save hvalid h he]
    exact Option.eq_none_iff_forall_not_mem.mpr fun x hx =>
      (Form.gives_of_given? hx).takes_part.2 name htype

/-- What storing a payload does to a store, and to what the store gives out: all that is given is
kept, and all else stays. -/
structure Store.Takes (before : Store) (q : Payload) (after : Store) : Prop where
  schema : after.schema = before.schema
  /-- A value that is given is kept, also a password. -/
  given : ∀ e ∈ before.schema.vars, ∀ x, q.get? e.1.name e.2.name = some x →
    after.values.get? e.1.name e.2.name = some (e.2.type.kept x)
  shown : ∀ e ∈ before.schema.vars, e.2.type ≠ .password → ∀ x,
    q.get? e.1.name e.2.name = some x →
      after.snapshot.get? e.1.name e.2.name = some (e.2.type.kept x)
  /-- What is not given stays as it was. -/
  absent : ∀ s n, q.get? s n = none →
    after.values.get? s n = before.values.get? s n ∧
      after.snapshot.get? s n = before.snapshot.get? s n
  password : ∀ e ∈ before.schema.vars, e.2.type = .password →
    after.snapshot.get? e.1.name e.2.name = none
  deviceId : ∀ e ∈ before.schema.vars, e.2.type = .deviceId →
    after.snapshot.get? e.1.name e.2.name = some (.bytes before.deviceId)

namespace Store

theorem fault?_eq_none {q : Payload} {e : Setting × Variable}
    (h : ∀ x, q.get? e.1.name e.2.name = some x → e.2.type.Gives x) : fault? q e = none := by
  unfold fault?
  cases hx : q.get? e.1.name e.2.name with
  | none => rfl
  | some x => simp only [FieldType.stored_of_gives (h x hx)]

/-- What is taken of a value that a field gives. -/
theorem taken?_eq {q : Payload} {e : Setting × Variable}
    (h : ∀ x, q.get? e.1.name e.2.name = some x → e.2.type.Gives x) :
    taken? q e = (q.get? e.1.name e.2.name).map e.2.type.kept := by
  unfold taken?
  cases hx : q.get? e.1.name e.2.name with
  | none => rfl
  | some x => simp only [FieldType.stored_of_gives (h x hx), Option.map_some]

/--
**A payload of values that fields give is stored.**

There is no condition on the store beyond its schema: what it holds plays no part in whether it
takes a payload.
-/
theorem exists_apply_eq_ok {store : Store} {q : Payload}
    (hgives : ∀ e ∈ store.schema.vars, ∀ x, q.get? e.1.name e.2.name = some x →
      e.2.type.Gives x) : ∃ store', store.apply q = .ok store' := by
  have hfault : store.schema.vars.findSome? (fault? q) = none :=
    List.findSome?_eq_none_iff.mpr fun e he => fault?_eq_none (hgives e he)
  exact ⟨_, apply_eq_ok_iff.mpr ⟨hfault, rfl⟩⟩

section Takes

variable {before after : Store} {q : Payload}

/-- What a variable holds once values that fields give were stored. -/
theorem get?_apply_of_gives (hvalid : before.schema.validate = .ok ())
    (happly : before.apply q = .ok after) {e : Setting × Variable} (he : e ∈ before.schema.vars)
    (hgives : ∀ x, q.get? e.1.name e.2.name = some x → e.2.type.Gives x) :
    after.values.get? e.1.name e.2.name
      = ((q.get? e.1.name e.2.name).map e.2.type.kept).or
          (before.values.get? e.1.name e.2.name) := by
  rw [get?_apply hvalid happly he, taken?_eq hgives]

/-- Storing such a payload changes what is given, and nothing else. -/
theorem takes_of_apply (hvalid : before.schema.validate = .ok ())
    (hgives : ∀ e ∈ before.schema.vars, ∀ x, q.get? e.1.name e.2.name = some x →
      e.2.type.Gives x)
    (happly : before.apply q = .ok after) : before.Takes q after := by
  have hschema := schema_apply happly
  have hid := deviceId_apply happly
  have hvalues := fun e he => get?_apply_of_gives hvalid happly he (hgives e he)
  -- what is given out is asked of the store that came of it
  have hshown : ∀ e ∈ before.schema.vars, after.snapshot.get? e.1.name e.2.name
      = after.shown? e.1 e.2 := by
    rw [← hschema]
    exact fun e he => get?_snapshot (hschema ▸ hvalid) he
  refine ⟨hschema, ?given, ?shown, ?absent, ?password, ?deviceId⟩
  case given =>
    intro e he x hx
    rw [hvalues e he, hx]
    rfl
  case shown =>
    intro e he htype x hx
    have hstored := hvalues e he
    rw [hx] at hstored
    rw [hshown e he]
    unfold shown?
    split
    · rename_i hpassword
      exact absurd hpassword htype
    · rename_i hdevice
      exact absurd hdevice (hgives e he x hx).takes_part.1
    · exact hstored
  -- also of a name that is no variable, about which a payload says nothing to the store
  case absent =>
    intro s n hx
    by_cases hkey : (s, n) ∈ before.schema.vars.map Schema.key
    · obtain ⟨e, he, heq⟩ := List.mem_map.mp hkey
      obtain ⟨rfl, rfl⟩ := Prod.mk.inj heq
      have hstored := hvalues e he
      rw [hx] at hstored
      refine ⟨hstored, ?_⟩
      rw [hshown e he, get?_snapshot hvalid he]
      exact (shown?_congr hid fun _ => hstored.symm).symm
    · refine ⟨get?_apply_of_not_mem happly hkey, ?_⟩
      rw [get?_snapshot_of_not_mem hkey, get?_snapshot_of_not_mem (hschema ▸ hkey)]
  case password =>
    intro e he htype
    rw [hshown e he]
    unfold shown?
    rw [htype]
  case deviceId =>
    intro e he htype
    rw [hshown e he, ← hid]
    unfold shown?
    rw [htype]

end Takes

end Store

theorem WireFormat.decode_encode {q : Payload} (hbytes : ∀ s n bs, q.get? s n ≠ some (.bytes bs))
    (format : WireFormat) (hsize : format = .messagePack → q.Packable) :
    format.decode (format.encode q) = .ok q := by
  rw [decode_encode_readBack format hsize]
  cases format with
  | json => exact congrArg Except.ok (Payload.hexed_eq_self hbytes)
  | messagePack => rfl

/--
**What a form saves, the device takes.**

A payload that is saved comes through every wire format, provided that its lengths fit MessagePack;
every store on the schema takes it; and it has an entry for just the settings, with a value for
every checkbox.

The page and the device have no code in common for this: they share the schema. So a user who
fills in a form never meets an error of the device about what was filled in.
-/
theorem Form.saved_payload_is_taken {schema : Schema} (hvalid : schema.validate = .ok ())
    {form : Form} {q : Payload} (hsave : form.save schema = .ok q) :
    (∀ format : WireFormat, (format = .messagePack → q.Packable) →
      format.decode (format.encode q) = .ok q) ∧
    (∀ store : Store, store.schema = schema →
      ∃ store', store.apply q = .ok store' ∧ store.Takes q store') ∧
    q.SavedFor schema := by
  refine ⟨fun format hsize => ?_, fun store hschema => ?_, Form.savedFor_of_save hvalid hsave⟩
  · refine WireFormat.decode_encode (fun s n bs hx => ?_) format hsize
    obtain ⟨e, -, -, -, hgives⟩ := Form.gives_of_save hvalid hsave hx
    exact hgives.ne_bytes bs rfl
  · subst hschema
    have hgives : ∀ e ∈ store.schema.vars, ∀ x, q.get? e.1.name e.2.name = some x →
        e.2.type.Gives x := by
      intro e he x hx
      rw [Form.get?_save hvalid hsave he] at hx
      exact Form.gives_of_given? hx
    obtain ⟨store', happly⟩ := Store.exists_apply_eq_ok hgives
    exact ⟨store', happly, Store.takes_of_apply hvalid hgives happly⟩

/-- A setting with a port, a checkbox, a password and a device id. -/
def brokerSchema : Schema :=
  ⟨[⟨"mqtt", "Broker", [.group [⟨"port", "Port", .port, []⟩, ⟨"tls", "TLS", .checkbox, []⟩],
    .single ⟨"key", "Key", .password, []⟩, .single ⟨"id", "Id", .deviceId, []⟩]⟩]⟩

/-- Its form, with a port of more than 16 bits and a password. -/
def brokerForm : Form :=
  ((Form.render brokerSchema).setWidget "mqtt_port" (.input .number none "70000")).setWidget
    "mqtt_key" (.input .password none "secret")

/-- What that form saves. -/
def brokerPayload : Payload :=
  .ofEntries [("mqtt", [("key", .text "secret"), ("port", .int 70000), ("tls", .bool false)])]

theorem Form.saved_payload_is_taken_broker :
    brokerSchema.validate = .ok () ∧ brokerForm.save brokerSchema = .ok brokerPayload ∧
      (WireFormat.json.decode (WireFormat.json.encode brokerPayload) = .ok brokerPayload) ∧
      (∃ store', (Store.empty brokerSchema [1, 2, 3, 4, 5, 6]).apply brokerPayload = .ok store' ∧
        (Store.empty brokerSchema [1, 2, 3, 4, 5, 6]).Takes brokerPayload store' ∧
        store'.snapshot.get? "mqtt" "port" = some (.int 4464) ∧
        store'.snapshot.get? "mqtt" "key" = none) ∧
      brokerPayload.SavedFor brokerSchema := by
  have hvalid : brokerSchema.validate = .ok () := by cbv
  have hsave : brokerForm.save brokerSchema = .ok brokerPayload := by cbv
  obtain ⟨hwire, hstore, hsaved⟩ := Form.saved_payload_is_taken hvalid hsave
  obtain ⟨store', happly, htakes⟩ := hstore (.empty brokerSchema [1, 2, 3, 4, 5, 6]) rfl
  have hport := htakes.shown (_, ⟨"port", "Port", .port, []⟩) (List.mem_cons_self) (by simp)
    (.int 70000) (by cbv)
  have hkey := htakes.password (_, ⟨"key", "Key", .password, []⟩)
    (List.mem_cons_of_mem _ (List.mem_cons_of_mem _ List.mem_cons_self)) rfl
  exact ⟨hvalid, hsave, hwire .json (by simp), ⟨store', happly, htakes, hport, hkey⟩, hsaved⟩

end DeviceSetup
