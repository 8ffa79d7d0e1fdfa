import Mathlib
import DeviceSetup.Payload.Basic
import DeviceSetup.Proofs.Lookup
import DeviceSetup.Schema.Validation

/-!
# Walking the variables of a schema

A valid schema gives every variable a pair of names of its own (`nodup_keys_vars`). The form
that is saved, the payload that is stored and the snapshot that is given out all walk the
variables in order and set a value for some of them. `Payload.fill` is that walk, and with
names of their own the variables do not meet: what is found under a variable's names is
what the walk had for it (`get?_fill_of_mem`).
-/

namespace DeviceSetup

namespace Schema

/-! ## What validation gives -/

/-- Names are new beside one more exactly if that one is not among them. -/
theorem forall_not_mem_cons {α : Type} (name : α → String) (n : String) (seen : List String)
    (xs : List α) :
    (∀ x ∈ xs, name x ∉ n :: seen) ↔ (∀ x ∈ xs, name x ∉ seen) ∧ n ∉ xs.map name := by
  simp only [List.mem_cons, not_or, List.mem_map, not_exists, not_and]
  constructor
  · intro h
    exact ⟨fun x hx => (h x hx).2, fun x hx => (h x hx).1⟩
  · intro h x hx
    exact ⟨h.2 x hx, h.1 x hx⟩

/-- The check passes if no name is empty, none was seen before, and none is used twice. The names
seen grow along the list, which is why they are part of the statement. -/
theorem checkVariables_eq_ok_iff (setting : String) (seen : List String) (vs : List Variable) :
    checkVariables setting seen vs = .ok () ↔
      (∀ v ∈ vs, v.name ≠ "") ∧ (∀ v ∈ vs, v.name ∉ seen) ∧ (vs.map (·.name)).Nodup := by
  induction vs generalizing seen with
  | nil => simp [checkVariables]
  | cons v vs ih =>
      rw [checkVariables, List.map_cons, List.nodup_cons, List.forall_mem_cons,
        List.forall_mem_cons]
      by_cases hempty : v.name = ""
      · simp [hempty]
      by_cases hseen : v.name ∈ seen
      · simp [hempty, hseen]
      rw [if_neg hempty, if_neg hseen, ih (v.name :: seen), forall_not_mem_cons]
      tauto

/-- The names within a setting are as they must be. -/
def NamesVariables (s : Setting) : Prop :=
  (∀ v ∈ s.vars, v.name ≠ "") ∧ (s.vars.map (·.name)).Nodup

/-- The same of settings, each with the check of its own variables. -/
theorem checkSettings_eq_ok_iff (seen : List String) (settings : List Setting) :
    checkSettings seen settings = .ok () ↔
      (∀ s ∈ settings, s.name ≠ "" ∧ NamesVariables s) ∧ (∀ s ∈ settings, s.name ∉ seen) ∧
        (settings.map (·.name)).Nodup := by
  induction settings generalizing seen with
  | nil => simp [checkSettings]
  | cons s settings ih =>
      rw [checkSettings, List.map_cons, List.nodup_cons, List.forall_mem_cons,
        List.forall_mem_cons]
      by_cases hempty : s.name = ""
      · simp [hempty]
      by_cases hseen : s.name ∈ seen
      · simp [hempty, hseen]
      rw [if_neg hempty, if_neg hseen]
      -- the variables of a setting are checked from none seen
      have hvars : checkVariables s.name [] s.vars = .ok () ↔ NamesVariables s := by
        rw [checkVariables_eq_ok_iff]
        simp only [List.not_mem_nil, not_false_eq_true, implies_true, true_and]
        rfl
      cases hcheck : checkVariables s.name [] s.vars with
      | ok u =>
          have hnames := hvars.mp hcheck
          simp only [bind, Except.bind]
          rw [ih (s.name :: seen), forall_not_mem_cons]
          tauto
      | error e =>
          have hnames : ¬ NamesVariables s := by
            rw [← hvars, hcheck]
            exact nofun
          simp [bind, Except.bind, hnames]

/-- **A schema is valid if no name is empty and none is used twice where it must differ.** Variables
of different settings may share a name. -/
theorem validate_eq_ok_iff (schema : Schema) :
    schema.validate = .ok () ↔
      (∀ s ∈ schema.settings, s.name ≠ "" ∧ NamesVariables s) ∧
        (schema.settings.map (·.name)).Nodup := by
  unfold validate
  rw [checkSettings_eq_ok_iff]
  simp only [List.not_mem_nil, not_false_eq_true, implies_true, true_and]

/-- The two names of a variable, under which a payload has its value. -/
def key (e : Setting × Variable) : String × String :=
  (e.1.name, e.2.name)

theorem mem_vars {schema : Schema} {e : Setting × Variable} :
    e ∈ schema.vars ↔ e.1 ∈ schema.settings ∧ e.2 ∈ e.1.vars := by
  unfold vars
  rw [List.mem_flatMap]
  constructor
  · rintro ⟨s, hs, he⟩
    obtain ⟨v, hv, rfl⟩ := List.mem_map.mp he
    exact ⟨hs, hv⟩
  · rintro ⟨hs, hv⟩
    exact ⟨e.1, hs, List.mem_map.mpr ⟨e.2, hv, rfl⟩⟩

/-- **Every variable of a valid schema has names of its own.** All that is proved about single
variables rests on this. -/
theorem nodup_keys_vars {schema : Schema} (h : schema.validate = .ok ()) :
    (schema.vars.map key).Nodup := by
  obtain ⟨hvars, hsettings⟩ := (validate_eq_ok_iff schema).mp h
  unfold vars
  rw [List.map_flatMap, List.nodup_flatMap]
  constructor
  · intro s hs
    rw [List.map_map]
    -- within a setting the second names differ
    have hnodup := (hvars s hs).2.2
    have hkeys : s.vars.map (key ∘ fun v => (s, v)) = (s.vars.map (·.name)).map (s.name, ·) := by
      rw [List.map_map]
      rfl
    rw [hkeys]
    exact hnodup.map (Prod.mk_right_injective s.name)
  · -- and between two settings the first ones
    refine (List.pairwise_map.mp hsettings).imp fun {s t} hne k hks hkt => hne ?_
    obtain ⟨e, he, rfl⟩ := List.mem_map.mp hks
    obtain ⟨v, -, rfl⟩ := List.mem_map.mp he
    obtain ⟨e', he', hkey⟩ := List.mem_map.mp hkt
    obtain ⟨v', -, rfl⟩ := List.mem_map.mp he'
    exact (Prod.mk.inj hkey).1.symm

end Schema

/-! ## The walk -/

namespace Payload

/-- Sets what there is for one variable. -/
def put (f : Setting × Variable → Option Value) (p : Payload) (e : Setting × Variable) : Payload :=
  match f e with
  | some x => p.insert e.1.name e.2.name x
  | none => p

/-- Sets what there is for each of some variables, in order. -/
def fill (f : Setting × Variable → Option Value) (p : Payload)
    (vars : List (Setting × Variable)) : Payload :=
  vars.foldl (put f) p

variable {f : Setting × Variable → Option Value}

/-- One step of the walk is seen under the names of its variable only. -/
theorem get?_put (p : Payload) (e : Setting × Variable) (s n : String) :
    (put f p e).get? s n
      = if (s, n) = Schema.key e then (f e).or (p.get? s n) else p.get? s n := by
  unfold put Schema.key
  cases f e with
  | none => simp
  | some x =>
      rw [get?_insert]
      simp only [Prod.mk.injEq, Option.some_or]

theorem fill_cons (p : Payload) (e : Setting × Variable) (vars : List (Setting × Variable)) :
    fill f p (e :: vars) = fill f (put f p e) vars := rfl

theorem fill_append (p : Payload) (vars vars' : List (Setting × Variable)) :
    fill f p (vars ++ vars') = fill f (fill f p vars) vars' :=
  List.foldl_append

/-- What is no variable's stays as it was. -/
theorem get?_fill_of_not_mem {vars : List (Setting × Variable)} {s n : String}
    (h : (s, n) ∉ vars.map Schema.key) (p : Payload) :
    (fill f p vars).get? s n = p.get? s n := by
  induction vars generalizing p with
  | nil => rfl
  | cons e vars ih =>
      rw [List.map_cons, List.mem_cons, not_or] at h
      rw [fill_cons, ih h.2, get?_put, if_neg h.1]

/--
**Under a variable's names stands what the walk had for it, or else what was there.**

With names of their own the variables can be looked at one at a time, and the order of the walk
drops out.
-/
theorem get?_fill_of_mem {vars : List (Setting × Variable)} (hkeys : (vars.map Schema.key).Nodup)
    {e : Setting × Variable} (he : e ∈ vars) (p : Payload) :
    (fill f p vars).get? e.1.name e.2.name = (f e).or (p.get? e.1.name e.2.name) := by
  induction vars generalizing p with
  | nil => cases he
  | cons d vars ih =>
      rw [List.map_cons, List.nodup_cons] at hkeys
      rw [fill_cons]
      -- its own step, which no later one undoes; or a step before its own
      rcases List.mem_cons.mp he with rfl | he
      · have hself : (e.1.name, e.2.name) = Schema.key e := rfl
        rw [get?_fill_of_not_mem hkeys.1, get?_put, if_pos hself]
      · have hne : (e.1.name, e.2.name) ≠ Schema.key d := fun heq =>
          hkeys.1 (heq ▸ List.mem_map_of_mem he)
        rw [ih hkeys.2 he, get?_put, if_neg hne]

/-- The walk looks at nothing but values. -/
theorem get?_fill_congr {p p' : Payload} (h : ∀ s n, p.get? s n = p'.get? s n)
    (vars : List (Setting × Variable)) (s n : String) :
    (fill f p vars).get? s n = (fill f p' vars).get? s n := by
  induction vars generalizing p p' with
  | nil => exact h s n
  | cons e vars ih =>
      refine ih fun s n => ?_
      rw [get?_put, get?_put, h]

/-- A walk that sets what is there already changes nothing. -/
theorem fill_eq_self {p : Payload} {vars : List (Setting × Variable)}
    (h : ∀ e ∈ vars, ∀ x, f e = some x → p.get? e.1.name e.2.name = some x) :
    fill f p vars = p := by
  induction vars with
  | nil => rfl
  | cons e vars ih =>
      have hput : put f p e = p := by
        unfold put
        cases hx : f e with
        | none => rfl
        | some x => exact insert_eq_self (h e List.mem_cons_self x hx)
      rw [fill_cons, hput]
      exact ih fun d hd => h d (List.mem_cons_of_mem _ hd)

end Payload

end DeviceSetup
