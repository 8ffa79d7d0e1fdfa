import Mathlib
import DeviceSetup.Proofs.SchemaWalk

/-!
# Validation reports the first violation

A schema is checked setting by setting: that the setting has a name, that no earlier setting has
the same one, and then of each of its variables in turn that it has a name and that no earlier
variable of the setting has the same one. `Check` lists these checks with their place in the walk,
and `Fails` says, by positions alone, which of them a schema fails and what the error is.

The walk stops in front of a setting or a variable up to which all is well
(`exists_split_of_checkSettings`), and there it reports the check that failed. An earlier check
that fails would be about names that were found to be well, so there is none.
-/

namespace DeviceSetup.Schema

/-- All names are given, and they differ where they must. The values of a device are addressed by
these names, so nothing else is asked of them. -/
structure WellNamed (schema : Schema) : Prop where
  settings_named : ∀ s ∈ schema.settings, s.name ≠ ""
  settings_differ : (schema.settings.map (·.name)).Nodup
  variables_named : ∀ s ∈ schema.settings, ∀ v ∈ s.vars, v.name ≠ ""
  variables_differ : ∀ s ∈ schema.settings, (s.vars.map (·.name)).Nodup

theorem validate_eq_ok_iff_wellNamed (schema : Schema) :
    schema.validate = .ok () ↔ schema.WellNamed := by
  rw [validate_eq_ok_iff]
  constructor
  · rintro ⟨hsettings, hdiffer⟩
    exact ⟨fun s hs => (hsettings s hs).1, hdiffer, fun s hs => (hsettings s hs).2.1,
      fun s hs => (hsettings s hs).2.2⟩
  · intro h
    exact ⟨fun s hs => ⟨h.settings_named s hs, h.variables_named s hs, h.variables_differ s hs⟩,
      h.settings_differ⟩

/-! ## The checks -/

/-- A check of the setting at a position, or of one of its variables. -/
inductive Check where
  | settingNamed (i : Nat)
  | settingNew (i : Nat)
  | variableNamed (i j : Nat)
  | variableNew (i j : Nat)
  deriving DecidableEq

namespace Check

/-- The position of the setting that a check is about. -/
def setting : Check → Nat
  | .settingNamed i | .settingNew i | .variableNamed i _ | .variableNew i _ => i

/-- The place of a check among those of its setting. -/
def turn : Check → Nat
  | .settingNamed _ => 0
  | .settingNew _ => 1
  | .variableNamed _ j => 2 * j + 2
  | .variableNew _ j => 2 * j + 3

/-- The order of the walk: by setting, and within a setting by turn. A setting's own checks come
before those of its variables, and each variable is done with before the next. -/
def Before (c d : Check) : Prop :=
  c.setting < d.setting ∨ c.setting = d.setting ∧ c.turn < d.turn

theorem eq_of_not_before {c d : Check} (h : ¬ c.Before d) (h' : ¬ d.Before c) : c = d := by
  unfold Before at h h'
  have hsetting : c.setting = d.setting := by omega
  have hturn : c.turn = d.turn := by omega
  cases c <;> cases d <;> grind [setting, turn]

end Check

/-- A check that a schema fails, and the error for it. Several may fail at once; the walk reports
one of them. -/
inductive Fails (schema : Schema) : Check → SchemaError → Prop where
  | emptySetting {i : Nat} {s : Setting} (hs : schema.settings[i]? = some s) (h : s.name = "") :
      Fails schema (.settingNamed i) .emptySetting
  | duplicateSetting {i : Nat} {s : Setting} (hs : schema.settings[i]? = some s)
      (h : s.name ∈ (schema.settings.take i).map (·.name)) :
      Fails schema (.settingNew i) (.duplicateSetting s.name)
  | emptyVariable {i j : Nat} {s : Setting} {v : Variable} (hs : schema.settings[i]? = some s)
      (hv : s.vars[j]? = some v) (h : v.name = "") :
      Fails schema (.variableNamed i j) (.emptyVariable s.name)
  | duplicateVariable {i j : Nat} {s : Setting} {v : Variable} (hs : schema.settings[i]? = some s)
      (hv : s.vars[j]? = some v) (h : v.name ∈ (s.vars.take j).map (·.name)) :
      Fails schema (.variableNew i j) (.duplicateVariable s.name v.name)

theorem Fails.error_eq {schema : Schema} {c : Check} {e e' : SchemaError} (h : schema.Fails c e)
    (h' : schema.Fails c e') : e = e' := by
  cases h with
  | emptySetting _ _ => cases h'; rfl
  | duplicateSetting hs _ =>
      cases h' with
      | duplicateSetting hs' _ =>
          cases hs.symm.trans hs'
          rfl
  | emptyVariable hs _ _ =>
      cases h' with
      | emptyVariable hs' _ _ =>
          cases hs.symm.trans hs'
          rfl
  | duplicateVariable hs hv _ =>
      cases h' with
      | duplicateVariable hs' hv' _ =>
          cases hs.symm.trans hs'
          cases hv.symm.trans hv'
          rfl

/-- A name that stands further in front as well is there twice. -/
theorem not_nodup_of_mem_take {α : Type} {name : α → String} {xs : List α} {k : Nat} {x : α}
    (hx : xs[k]? = some x) (h : name x ∈ (xs.take k).map name) : ¬ (xs.map name).Nodup := by
  intro hnodup
  -- once among those in front and once from its own place on
  rw [← List.take_append_drop k xs, List.map_append, List.nodup_append] at hnodup
  have hdrop : x ∈ xs.drop k := by
    rw [List.drop_eq_getElem?_toList_append, hx]
    exact List.mem_cons_self
  exact hnodup.2.2 _ h _ (List.mem_map_of_mem hdrop) rfl

/-- Where all names are well no check fails. -/
theorem not_fails_of_wellNamed {schema : Schema} (hnames : schema.WellNamed) (c : Check)
    (e : SchemaError) : ¬ schema.Fails c e := by
  intro h
  cases h with
  | emptySetting hs h => exact hnames.settings_named _ (List.mem_of_getElem? hs) h
  | duplicateSetting hs h => exact not_nodup_of_mem_take hs h hnames.settings_differ
  | emptyVariable hs hv h =>
      exact hnames.variables_named _ (List.mem_of_getElem? hs) _ (List.mem_of_getElem? hv) h
  | duplicateVariable hs hv h =>
      exact not_nodup_of_mem_take hv h (hnames.variables_differ _ (List.mem_of_getElem? hs))

/-- A check of an earlier setting looks at nothing behind it. -/
theorem Fails.of_append {before after : List Setting} {c : Check} {e : SchemaError}
    (h : Fails ⟨before ++ after⟩ c e) (hc : c.setting < before.length) : Fails ⟨before⟩ c e := by
  have hget : ∀ {i : Nat} {s : Setting}, i < before.length → (before ++ after)[i]? = some s →
      before[i]? = some s := fun hi hs => by rwa [List.getElem?_append_left hi] at hs
  cases h with
  | emptySetting hs h => exact .emptySetting (hget hc hs) h
  | @duplicateSetting i s hs h =>
      -- what is in front of an earlier setting is the same
      have htake : (before ++ after).take i = before.take i :=
        List.take_append_of_le_length (Nat.le_of_lt hc)
      exact .duplicateSetting (hget hc hs) (htake ▸ h)
  | emptyVariable hs hv h => exact .emptyVariable (hget hc hs) hv h
  | duplicateVariable hs hv h => exact .duplicateVariable (hget hc hs) hv h

/-! ## Where the walk stops -/

/-- The variable at which the walk through a setting stops, behind the names that it has seen. -/
inductive StopsAtVariable (setting : String) (seen : List String) (v : Variable) :
    SchemaError → Prop where
  | empty (h : v.name = "") : StopsAtVariable setting seen v (.emptyVariable setting)
  | duplicate (hnamed : v.name ≠ "") (h : v.name ∈ seen) :
      StopsAtVariable setting seen v (.duplicateVariable setting v.name)

/-- An error comes from a variable up to which all is well. The induction carries the names that
were seen, which at that variable are those of all variables in front. -/
theorem exists_split_of_checkVariables {setting : String} {seen : List String}
    {vs : List Variable} {e : SchemaError} (h : checkVariables setting seen vs = .error e) :
    ∃ before v after, vs = before ++ v :: after ∧ checkVariables setting seen before = .ok () ∧
      StopsAtVariable setting (before.map (·.name) ++ seen) v e := by
  induction vs generalizing seen with
  | nil => cases h
  | cons v vs ih =>
      rw [checkVariables] at h
      by_cases hempty : v.name = ""
      · rw [if_pos hempty] at h
        cases h
        exact ⟨[], v, vs, rfl, rfl, .empty hempty⟩
      rw [if_neg hempty] at h
      by_cases hseen : v.name ∈ seen
      · rw [if_pos hseen] at h
        cases h
        exact ⟨[], v, vs, rfl, rfl, .duplicate hempty hseen⟩
      rw [if_neg hseen] at h
      obtain ⟨before, v', after, rfl, hbefore, hstop⟩ := ih h
      refine ⟨v :: before, v', after, rfl, ?_, ?_⟩
      · rw [checkVariables, if_neg hempty, if_neg hseen, hbefore]
      · cases hstop with
        | empty hname => exact .empty hname
        | duplicate hnamed hmem => exact .duplicate hnamed (by simpa [or_left_comm] using hmem)

/-- The setting at which the walk stops, behind the names that it has seen. -/
inductive StopsAtSetting (seen : List String) (s : Setting) : SchemaError → Prop where
  | empty (h : s.name = "") : StopsAtSetting seen s .emptySetting
  | duplicate (hnamed : s.name ≠ "") (h : s.name ∈ seen) :
      StopsAtSetting seen s (.duplicateSetting s.name)
  | within {e : SchemaError} (hnamed : s.name ≠ "") (hnew : s.name ∉ seen)
      (h : checkVariables s.name [] s.vars = .error e) : StopsAtSetting seen s e

/-- **An error comes from a setting up to which all is well**: from its own name, or from one of its
variables, which are walked through afresh. -/
theorem exists_split_of_checkSettings {seen : List String} {settings : List Setting}
    {e : SchemaError} (h : checkSettings seen settings = .error e) :
    ∃ before s after, settings = before ++ s :: after ∧ checkSettings seen before = .ok () ∧
      StopsAtSetting (before.map (·.name) ++ seen) s e := by
  induction settings generalizing seen with
  | nil => cases h
  | cons s settings ih =>
      rw [checkSettings] at h
      by_cases hempty : s.name = ""
      · rw [if_pos hempty] at h
        cases h
        exact ⟨[], s, settings, rfl, rfl, .empty hempty⟩
      rw [if_neg hempty] at h
      by_cases hseen : s.name ∈ seen
      · rw [if_pos hseen] at h
        cases h
        exact ⟨[], s, settings, rfl, rfl, .duplicate hempty hseen⟩
      rw [if_neg hseen] at h
      cases hvars : checkVariables s.name [] s.vars with
      | error e' =>
          simp only [bind, Except.bind, hvars] at h
          cases h
          exact ⟨[], s, settings, rfl, rfl, .within hempty hseen hvars⟩
      | ok u =>
          simp only [bind, Except.bind, hvars] at h
          -- this setting is well, so it moves to those in front
          obtain ⟨before, s', after, rfl, hbefore, hstop⟩ := ih h
          refine ⟨s :: before, s', after, rfl, ?_, ?_⟩
          · rw [checkSettings, if_neg hempty, if_neg hseen, hvars]
            exact hbefore
          · have hnames : ∀ n, n ∈ before.map (·.name) ++ s.name :: seen ↔
                n ∈ (s :: before).map (·.name) ++ seen := by simp [or_left_comm]
            cases hstop with
            | empty hname => exact .empty hname
            | duplicate hnamed hmem => exact .duplicate hnamed ((hnames _).mp hmem)
            | within hnamed hnew hvars' =>
                exact .within hnamed (fun hmem => hnew ((hnames _).mpr hmem)) hvars'

/-! ## The first violation -/

/-- A failing check that no failing check comes before. -/
structure FirstFailure (schema : Schema) (c : Check) (e : SchemaError) : Prop where
  fails : schema.Fails c e
  first : ∀ c' e', schema.Fails c' e' → ¬ c'.Before c

theorem getElem?_length_append {α : Type} (before after : List α) (x : α) :
    (before ++ x :: after)[before.length]? = some x := by
  simp

/-- All that a failing check of a setting can be about. -/
theorem Fails.at_setting {before after : List Setting} {s : Setting} {c : Check} {e : SchemaError}
    (h : Fails ⟨before ++ s :: after⟩ c e) (hc : c.setting = before.length) :
    (c.turn = 0 ∧ s.name = "") ∨ (c.turn = 1 ∧ s.name ∈ before.map (·.name)) ∨
      ∃ j v, s.vars[j]? = some v ∧ ((c.turn = 2 * j + 2 ∧ v.name = "") ∨
        (c.turn = 2 * j + 3 ∧ v.name ∈ (s.vars.take j).map (·.name))) := by
  have hget := getElem?_length_append before after s
  cases h with
  | emptySetting hs h =>
      obtain rfl := hc
      cases hget.symm.trans hs
      exact Or.inl ⟨rfl, h⟩
  | duplicateSetting hs h =>
      obtain rfl := hc
      cases hget.symm.trans hs
      exact Or.inr (Or.inl ⟨rfl, by simpa using h⟩)
  | @emptyVariable _ j _ v hs hv h =>
      obtain rfl := hc
      cases hget.symm.trans hs
      exact Or.inr (Or.inr ⟨j, v, hv, Or.inl ⟨rfl, h⟩⟩)
  | @duplicateVariable _ j _ v hs hv h =>
      obtain rfl := hc
      cases hget.symm.trans hs
      exact Or.inr (Or.inr ⟨j, v, hv, Or.inr ⟨rfl, h⟩⟩)

section

variable {before after : List Setting} {s : Setting} {e : SchemaError}

/-- A check of a setting is the first that fails, if the settings in front are well named and no
earlier check of this one fails. -/
theorem firstFailure_of_turn (hbefore : WellNamed ⟨before⟩) {c : Check}
    (h : Fails ⟨before ++ s :: after⟩ c e) (hc : c.setting = before.length)
    (hturn : ∀ c' e', Fails ⟨before ++ s :: after⟩ c' e' → c'.setting = before.length →
      ¬ c'.turn < c.turn) : FirstFailure ⟨before ++ s :: after⟩ c e := by
  refine ⟨h, fun c' e' h' hlt => ?_⟩
  rcases hlt with hlt | ⟨heq, hlt⟩
  · rw [hc] at hlt
    exact not_fails_of_wellNamed hbefore c' e' (h'.of_append hlt)
  · exact hturn c' e' h' (heq.trans hc) hlt

/-- A variable in front of the one at which the walk stopped fails no check. -/
theorem not_fails_in_front {vs vs' : List Variable} {setting : String}
    (hvs : checkVariables setting [] vs = .ok ()) {j : Nat} {v : Variable} (hj : j < vs.length)
    (hv : (vs ++ vs')[j]? = some v) :
    v.name ≠ "" ∧ v.name ∉ ((vs ++ vs').take j).map (·.name) := by
  obtain ⟨hnamed, -, hdiffer⟩ := (checkVariables_eq_ok_iff setting [] vs).mp hvs
  rw [List.getElem?_append_left hj] at hv
  rw [List.take_append_of_le_length (Nat.le_of_lt hj)]
  exact ⟨hnamed v (List.mem_of_getElem? hv), fun hmem => not_nodup_of_mem_take hv hmem hdiffer⟩

theorem exists_firstFailure_within (hbefore : WellNamed ⟨before⟩) (hnamed : s.name ≠ "")
    (hnew : s.name ∉ before.map (·.name)) (h : checkVariables s.name [] s.vars = .error e) :
    ∃ c, FirstFailure ⟨before ++ s :: after⟩ c e := by
  have hs := getElem?_length_append before after s
  obtain ⟨vs, v, vs', hvars, hvs, hstop⟩ := exists_split_of_checkVariables h
  have hv : s.vars[vs.length]? = some v := hvars ▸ getElem?_length_append vs vs' v
  have hfront : ∀ {j : Nat} {v' : Variable}, s.vars[j]? = some v' → j < vs.length →
      v'.name ≠ "" ∧ v'.name ∉ (s.vars.take j).map (·.name) := by
    rw [hvars]
    exact fun hv' hj => not_fails_in_front hvs hj hv'
  cases hstop with
  | empty hempty =>
      refine ⟨.variableNamed before.length vs.length,
        firstFailure_of_turn hbefore (.emptyVariable hs hv hempty) rfl fun c' e' h' hc' hlt => ?_⟩
      -- an earlier check is one of the setting, or of a variable in front
      have hlt : c'.turn < 2 * vs.length + 2 := hlt
      rcases h'.at_setting hc' with ⟨-, h⟩ | ⟨-, h⟩ | ⟨j, v', hv', ⟨hturn, h⟩ | ⟨hturn, h⟩⟩
      · exact hnamed h
      · exact hnew h
      · exact (hfront hv' (by omega)).1 h
      · exact (hfront hv' (by omega)).2 h
  | duplicate hvnamed hmem =>
      have hdup : v.name ∈ (s.vars.take vs.length).map (·.name) := by
        simpa [hvars] using hmem
      refine ⟨.variableNew before.length vs.length,
        firstFailure_of_turn hbefore (.duplicateVariable hs hv hdup) rfl
          fun c' e' h' hc' hlt => ?_⟩
      have hlt : c'.turn < 2 * vs.length + 3 := hlt
      rcases h'.at_setting hc' with ⟨-, h⟩ | ⟨-, h⟩ | ⟨j, v', hv', ⟨hturn, h⟩ | ⟨hturn, h⟩⟩
      · exact hnamed h
      · exact hnew h
      · -- or the check that this variable has a name, which it passed
        rcases Nat.lt_or_ge j vs.length with hj | hj
        · exact (hfront hv' hj).1 h
        · obtain rfl : j = vs.length := by omega
          cases hv.symm.trans hv'
          exact hvnamed h
      · exact (hfront hv' (by omega)).2 h

end

/--
**An error of the validation is that of the first check that fails.**

All checks in front of it hold, so the error names the first place that is to be mended.
-/
theorem exists_firstFailure {schema : Schema} {e : SchemaError} (h : schema.validate = .error e) :
    ∃ c, schema.FirstFailure c e := by
  obtain ⟨settings⟩ := schema
  obtain ⟨before, s, after, hsettings, hbefore, hstop⟩ := exists_split_of_checkSettings h
  obtain rfl : settings = before ++ s :: after := hsettings
  have hwell : WellNamed ⟨before⟩ := (validate_eq_ok_iff_wellNamed ⟨before⟩).mp hbefore
  have hs := getElem?_length_append before after s
  rw [List.append_nil] at hstop
  cases hstop with
  | empty hempty =>
      exact ⟨.settingNamed before.length, firstFailure_of_turn hwell (.emptySetting hs hempty) rfl
        fun _ _ _ _ hlt => Nat.not_lt_zero _ hlt⟩
  | duplicate hnamed hmem =>
      have hdup : s.name ∈ ((before ++ s :: after).take before.length).map (·.name) := by
        simpa using hmem
      refine ⟨.settingNew before.length, firstFailure_of_turn hwell (.duplicateSetting hs hdup) rfl
        fun c' e' h' hc' hlt => ?_⟩
      have hlt : c'.turn < 1 := hlt
      rcases h'.at_setting hc' with ⟨-, h⟩ | ⟨hturn, -⟩ | ⟨j, -, -, ⟨hturn, -⟩ | ⟨hturn, -⟩⟩
      · exact hnamed h
      all_goals omega
  | within hnamed hnew hvars => exact exists_firstFailure_within hwell hnamed hnew hvars

/--
**Validation accepts the schemas whose names are well, and of the others it reports the first
violation.**

A schema is accepted just when every setting and every variable has a name, the names of settings
differ and the names of variables differ within each setting. A schema is refused with an error
just when that is the error of a check that fails and no failing check comes before it in the walk.
So whoever mends a schema error by error goes through it from the front, and ends with one that is
accepted.
-/
theorem validation_reports_first_violation (schema : Schema) :
    (schema.validate = .ok () ↔ schema.WellNamed) ∧
      ∀ e, schema.validate = .error e ↔ ∃ c, schema.FirstFailure c e := by
  refine ⟨validate_eq_ok_iff_wellNamed schema, fun e => ⟨exists_firstFailure, ?_⟩⟩
  rintro ⟨c, hc⟩
  cases hvalidate : schema.validate with
  | ok u =>
      have hnames := (validate_eq_ok_iff_wellNamed schema).mp hvalidate
      exact absurd hc.fails (not_fails_of_wellNamed hnames c e)
  | error e' =>
      obtain ⟨c', hc'⟩ := exists_firstFailure hvalidate
      -- two checks of which neither comes before the other are one
      obtain rfl : c = c' :=
        Check.eq_of_not_before (hc'.first c e hc.fails) (hc.first c' e' hc'.fails)
      rw [hc'.fails.error_eq hc.fails]

-- of three violations the one in the group of the first setting comes first
example : validate ⟨[⟨"a", "", [.single ⟨"x", "", .text, []⟩,
      .group [⟨"x", "", .text, []⟩, ⟨"", "", .text, []⟩]]⟩, ⟨"a", "", []⟩]⟩
    = .error (.duplicateVariable "a" "x") := by decide

end DeviceSetup.Schema
