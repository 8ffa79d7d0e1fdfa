import Mathlib
import DeviceSetup.Device.Store
import DeviceSetup.Proofs.SchemaWalk

/-!
# What the store holds and shows

A payload that is offered to a store is refused for the first variable whose value is of the
wrong kind, and then the store is left as it was: nothing is set while the values are looked at
(`gather_eq`). Otherwise the offer comes to a walk that sets what each variable takes
(`offer_eq`). The snapshot is a walk too, over what the store shows. On a valid schema each is told
variable by variable (`get?_apply`, `get?_snapshot`).
-/

namespace DeviceSetup

namespace Store

/-! ## Storing -/

/-- Why a payload is refused on account of one variable. A variable that the payload does not name
is no reason. -/
def fault? (p : Payload) (e : Setting × Variable) : Option ConfigError :=
  match p.get? e.1.name e.2.name with
  | none => none
  | some x =>
    match e.2.type.stored x with
    | .ok _ => none
    | .error why => some why

/-- What the store takes from a payload for one variable. For a device id nothing is taken, although
giving one is no fault. -/
def taken? (p : Payload) (e : Setting × Variable) : Option Value :=
  match p.get? e.1.name e.2.name with
  | none => none
  | some x =>
    match e.2.type.stored x with
    | .ok y => y
    | .error _ => none

/-- What the store takes from a payload for some variables, in order. -/
def takings (p : Payload) (vars : List (Setting × Variable)) : List StoreUpdate :=
  vars.filterMap fun e => (taken? p e).map (StoreUpdate.mk e.1.name e.2.name)

/--
**Looking at the values leaves the store alone**, whether it ends at the last variable or breaks
off at a fault.

The walk has the store in hand and could write to it. That it does not is what makes a refusal
leave no trace, however many values came before the fault.
-/
theorem gather_eq (p : Payload) (s : Store) (aside : List StoreUpdate)
    (vars : List (Setting × Variable)) :
    gather p s aside vars = (s, match vars.findSome? (fault? p) with
      | some why => .error why
      | none => .ok (aside ++ takings p vars)) := by
  -- variable by variable; what was set aside before is kept in front
  induction vars generalizing aside with
  | nil =>
      rw [gather, takings, List.filterMap_nil, List.append_nil]
      rfl
  | cons e vars ih =>
      obtain ⟨setting, v⟩ := e
      rw [gather, List.findSome?_cons, takings, List.filterMap_cons]
      cases hget : p.get? setting.name v.name with
      | none =>
          have hfault : fault? p (setting, v) = none := by simp only [fault?, hget]
          have htaken : taken? p (setting, v) = none := by simp only [taken?, hget]
          simp only [hfault, htaken, Option.map_none, ih, takings]
      | some x =>
          cases hstored : v.type.stored x with
          | error why =>
              -- the walk breaks off here, before anything is set
              have hfault : fault? p (setting, v) = some why := by
                simp only [fault?, hget, hstored]
              simp only [hfault, hstored]
          | ok y =>
              have hfault : fault? p (setting, v) = none := by simp only [fault?, hget, hstored]
              have htaken : taken? p (setting, v) = y := by simp only [taken?, hget, hstored]
              simp only [hfault, hstored, htaken]
              cases y with
              | none => simp only [Option.map_none, ih, takings]
              | some y => simp only [Option.map_some, ih, takings, List.append_assoc,
                  List.singleton_append]

/-- Setting what was put aside, one after the other, is the walk that fills the values. -/
theorem foldl_set_takings (p : Payload) (s : Store) (vars : List (Setting × Variable)) :
    (takings p vars).foldl set s = { s with values := s.values.fill (taken? p) vars } := by
  induction vars generalizing s with
  | nil => rfl
  | cons e vars ih =>
      rw [takings, List.filterMap_cons, Payload.fill_cons]
      unfold Payload.put
      cases taken? p e with
      | none => exact ih s
      | some x => exact ih (s.set ⟨e.1.name, e.2.name, x⟩)

/-- **A payload is refused for its first fault, or else the offer is a walk.** All that is said
about stores below starts from here. -/
theorem offer_eq (s : Store) (p : Payload) :
    s.offer p = match s.schema.vars.findSome? (fault? p) with
      | some why => (s, some why)
      | none => ({ s with values := s.values.fill (taken? p) s.schema.vars }, none) := by
  unfold offer
  rw [gather_eq]
  cases s.schema.vars.findSome? (fault? p) with
  | some why => rfl
  | none =>
      simp only [List.nil_append, foldl_set_takings]

/-- The same without the store that is left. -/
theorem apply_eq (s : Store) (p : Payload) :
    s.apply p = match s.schema.vars.findSome? (fault? p) with
      | some why => .error why
      | none => .ok { s with values := s.values.fill (taken? p) s.schema.vars } := by
  unfold apply
  rw [offer_eq]
  cases s.schema.vars.findSome? (fault? p) <;> rfl

section Apply

variable {s s' : Store} {p : Payload}

/-- A payload that is taken leaves the store that comes of it. -/
theorem offer_of_ok (h : s.apply p = .ok s') : s.offer p = (s', none) := by
  rw [apply_eq] at h
  rw [offer_eq]
  cases hfault : s.schema.vars.findSome? (fault? p) with
  | some why =>
      rw [hfault] at h
      cases h
  | none =>
      rw [hfault] at h
      cases h
      rfl

/-- A payload that is refused leaves the store as it was. -/
theorem offer_of_error {why : ConfigError} (h : s.apply p = .error why) :
    s.offer p = (s, some why) := by
  rw [apply_eq] at h
  rw [offer_eq]
  cases hfault : s.schema.vars.findSome? (fault? p) with
  | some why' =>
      rw [hfault] at h
      cases h
      rfl
  | none =>
      rw [hfault] at h
      cases h

theorem apply_eq_ok_iff :
    s.apply p = .ok s' ↔ s.schema.vars.findSome? (fault? p) = none ∧
      s' = { s with values := s.values.fill (taken? p) s.schema.vars } := by
  rw [apply_eq]
  cases s.schema.vars.findSome? (fault? p) with
  | some why => simp
  | none => simp [eq_comm]

theorem schema_apply (h : s.apply p = .ok s') : s'.schema = s.schema := by
  rw [(apply_eq_ok_iff.mp h).2]

theorem deviceId_apply (h : s.apply p = .ok s') : s'.deviceId = s.deviceId := by
  rw [(apply_eq_ok_iff.mp h).2]

/-- **A variable holds what was taken for it, or else what it held.** A payload that names some of
the variables changes those. -/
theorem get?_apply (hvalid : s.schema.validate = .ok ()) (h : s.apply p = .ok s')
    {e : Setting × Variable} (he : e ∈ s.schema.vars) :
    s'.values.get? e.1.name e.2.name
      = (taken? p e).or (s.values.get? e.1.name e.2.name) := by
  rw [(apply_eq_ok_iff.mp h).2]
  exact Payload.get?_fill_of_mem (Schema.nodup_keys_vars hvalid) he s.values

/-- Under names that are no variable's nothing changes, whatever the payload has there. -/
theorem get?_apply_of_not_mem (h : s.apply p = .ok s') {setting name : String}
    (hkey : (setting, name) ∉ s.schema.vars.map Schema.key) :
    s'.values.get? setting name = s.values.get? setting name := by
  rw [(apply_eq_ok_iff.mp h).2]
  exact Payload.get?_fill_of_not_mem hkey s.values

end Apply

/-! ## Showing -/

/-- Of a password nothing is shown, whatever the store holds. -/
theorem shown?_congr {s s' : Store} {setting : Setting} {v : Variable}
    (hid : s'.deviceId = s.deviceId)
    (hvalues : v.type ≠ .password →
      s.values.get? setting.name v.name = s'.values.get? setting.name v.name) :
    s.shown? setting v = s'.shown? setting v := by
  unfold shown?
  split
  · rfl
  · rw [hid]
  · rename_i htype _
    exact hvalues htype

theorem showSetting_eq (s : Store) (p : Payload) (setting : Setting) :
    s.showSetting p setting = (p.ensureSetting setting.name).fill (fun e => s.shown? e.1 e.2)
      (setting.vars.map fun v => (setting, v)) := by
  unfold showSetting Payload.fill
  rw [List.foldl_map]
  rfl

/-- The snapshot goes setting by setting and makes an entry for each, also for one that shows
nothing; to what is found under two names the entries make no difference. -/
theorem get?_foldl_showSetting (s : Store) (settings : List Setting) (p p' : Payload)
    (h : ∀ setting name, p.get? setting name = p'.get? setting name) (setting name : String) :
    (settings.foldl s.showSetting p).get? setting name
      = (p'.fill (fun e => s.shown? e.1 e.2)
          (settings.flatMap fun t => t.vars.map fun v => (t, v))).get? setting name := by
  induction settings generalizing p p' with
  | nil => exact h setting name
  | cons t settings ih =>
      rw [List.foldl_cons, List.flatMap_cons, Payload.fill_append]
      -- the next setting starts from payloads that are found alike
      apply ih
      intro setting name
      rw [showSetting_eq]
      refine Payload.get?_fill_congr (fun setting name => ?_) _ setting name
      rw [Payload.get?_ensureSetting, h]

theorem get?_snapshot_eq_fill (s : Store) (setting name : String) :
    s.snapshot.get? setting name
      = (Payload.empty.fill (fun e => s.shown? e.1 e.2) s.schema.vars).get? setting name :=
  get?_foldl_showSetting s s.schema.settings .empty .empty (fun _ _ => rfl) setting name

/-- **The snapshot holds for a variable what the store shows for it.** With names of their own no
variable shows another one's value. -/
theorem get?_snapshot {s : Store} (hvalid : s.schema.validate = .ok ()) {e : Setting × Variable}
    (he : e ∈ s.schema.vars) : s.snapshot.get? e.1.name e.2.name = s.shown? e.1 e.2 := by
  rw [get?_snapshot_eq_fill, Payload.get?_fill_of_mem (Schema.nodup_keys_vars hvalid) he,
    Payload.get?_empty, Option.or_none]

theorem get?_snapshot_of_not_mem {s : Store} {setting name : String}
    (h : (setting, name) ∉ s.schema.vars.map Schema.key) :
    s.snapshot.get? setting name = none := by
  rw [get?_snapshot_eq_fill, Payload.get?_fill_of_not_mem h, Payload.get?_empty]

/-- Stores that show the same for every variable give out the same. -/
theorem snapshot_congr {s s' : Store} (hschema : s'.schema = s.schema)
    (h : ∀ e ∈ s.schema.vars, s.shown? e.1 e.2 = s'.shown? e.1 e.2) : s.snapshot = s'.snapshot := by
  unfold snapshot
  rw [hschema]
  -- the payloads themselves are equal here, not only what is found in them
  refine List.foldl_ext _ _ _ fun p setting hsetting => ?_
  unfold showSetting
  refine List.foldl_ext _ _ _ fun p v hv => ?_
  unfold showVariable
  rw [h (setting, v) (Schema.mem_vars.mpr ⟨hsetting, hv⟩)]

end Store

end DeviceSetup
