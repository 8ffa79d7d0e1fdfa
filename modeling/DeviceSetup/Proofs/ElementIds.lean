import Mathlib
import DeviceSetup.Proofs.FormInStep
import DeviceSetup.Proofs.SchemaWalk

/-!
# Which variables share an element id

A valid schema gives every variable a pair of names of its own, but an element is addressed by
the two names joined with an underscore. Names may hold underscores, so the seam between them
can be read in several ways: the variable `b_c` of `a` and the variable `c` of `a_b` have one
id. `Schema.Clash` says of two variables that this happens, and `elementId_eq_iff` that it is
the only way to share an id.

Loading, saving, editing and merging a scan all find an element through its id, and find the
first one that has it. So a variable's id reaches the variable's own element just when no
variable before it clashes with it.
-/

namespace DeviceSetup

namespace Schema

/-- The name of one setting is that of the other with an underscore and more behind it, and what
is more there is missing in front of the other's variable. Joined, the two pairs of names are then
one text that is cut in two places. -/
def Continues (d e : Setting × Variable) : Prop :=
  ∃ more, e.1.name = d.1.name ++ "_" ++ more ∧ d.2.name = more ++ "_" ++ e.2.name

/-- Two variables whose names have the underscore that joins them in two places. It can be told
from the schema alone, before any form is made of it. -/
def Clash (d e : Setting × Variable) : Prop :=
  Continues d e ∨ Continues e d

/-- The variables that are shown, in order. -/
def shown (schema : Schema) : List (Setting × Variable) :=
  schema.vars.filter fun e => e.2.type.behavior?.isSome

end Schema

open Schema

/-! ## When ids are the same -/

/-- Two texts are cut at an underscore each, one not before the other. Then the cuts are the same,
or the second begins where the first has its underscore. -/
theorem cut_cases {s n s' n' between : List Char} (hs : s' = s ++ between)
    (hn : '_' :: n = between ++ '_' :: n') :
    (s = s' ∧ n = n') ∨ ∃ more, s' = s ++ '_' :: more ∧ n = more ++ '_' :: n' := by
  cases between with
  | nil => exact Or.inl ⟨by rw [hs, List.append_nil], (List.cons.inj hn).2⟩
  | cons c more =>
      -- what lies between the cuts begins with the first underscore
      obtain ⟨rfl, hmore⟩ := List.cons.inj hn
      exact Or.inr ⟨more, hs, hmore⟩

theorem toList_join (s n : String) : (s ++ "_" ++ n).toList = s.toList ++ '_' :: n.toList := by
  rw [String.toList_append, String.toList_append, List.append_assoc]
  rfl

theorem continues_of_toList {d e : Setting × Variable} {more : List Char}
    (hs : e.1.name.toList = d.1.name.toList ++ '_' :: more)
    (hn : d.2.name.toList = more ++ '_' :: e.2.name.toList) : Continues d e := by
  refine ⟨String.ofList more, String.ext ?_, String.ext ?_⟩
  · rw [toList_join, String.toList_ofList, hs]
  · rw [toList_join, String.toList_ofList, hn]

theorem Schema.Continues.elementId_eq {d e : Setting × Variable} (h : Continues d e) :
    elementId d.1 d.2 = elementId e.1 e.2 := by
  obtain ⟨more, hs, hn⟩ := h
  unfold elementId
  rw [hs, hn]
  simp only [String.append_assoc]

/--
**Ids are the same by the same names or by a clash.**

An id joins two names by an underscore, and a name may have underscores itself. So there is one way
for different names to come to one id: what one setting has behind an underscore leads the name of
the other setting's variable.
-/
theorem elementId_eq_iff {d e : Setting × Variable} :
    elementId d.1 d.2 = elementId e.1 e.2 ↔ key d = key e ∨ Clash d e := by
  constructor
  · intro h
    have hchars := congrArg String.toList h
    unfold elementId at hchars
    rw [toList_join, toList_join] at hchars
    -- one of the two names of settings is the longer, or they are the same
    rcases List.append_eq_append_iff.mp hchars with ⟨between, hs, hn⟩ | ⟨between, hs, hn⟩
    · rcases cut_cases hs hn with ⟨hs, hn⟩ | ⟨more, hs, hn⟩
      · exact Or.inl (Prod.ext (String.ext hs) (String.ext hn))
      · exact Or.inr (Or.inl (continues_of_toList hs hn))
    · rcases cut_cases hs hn with ⟨hs, hn⟩ | ⟨more, hs, hn⟩
      · exact Or.inl (Prod.ext (String.ext hs.symm) (String.ext hn.symm))
      · exact Or.inr (Or.inr (continues_of_toList hs hn))
  · rintro (hkey | hde | hed)
    · obtain ⟨hs, hn⟩ := Prod.mk.inj hkey
      unfold elementId
      rw [hs, hn]
    · exact hde.elementId_eq
    · exact hed.elementId_eq.symm

/-- In a valid schema a variable is told by its names. -/
theorem Schema.eq_of_key_eq {schema : Schema} (hvalid : schema.validate = .ok ())
    {d e : Setting × Variable} (hd : d ∈ schema.vars) (he : e ∈ schema.vars)
    (h : key d = key e) : d = e :=
  List.inj_on_of_nodup_map (nodup_keys_vars hvalid) hd he h

theorem Schema.elementId_eq_iff_of_valid {schema : Schema} (hvalid : schema.validate = .ok ())
    {d e : Setting × Variable} (hd : d ∈ schema.vars) (he : e ∈ schema.vars) :
    elementId d.1 d.2 = elementId e.1 e.2 ↔ d = e ∨ Clash d e := by
  rw [elementId_eq_iff]
  constructor
  · rintro (hkey | hclash)
    · exact Or.inl (eq_of_key_eq hvalid hd he hkey)
    · exact Or.inr hclash
  · rintro (rfl | hclash)
    · exact Or.inl rfl
    · exact Or.inr hclash

/-! ## Which element an id reaches -/

namespace Form

/-- The element at a position is the one behind an id: it is what is found, and nothing else is
changed. Reading, writing and editing all go through these two. -/
structure Reaches (form : Form) (id : String) (k : Nat) : Prop where
  found : form.field? id = form.fields[k]?
  changed : ∀ w, (form.setWidget id w).fields
    = form.fields.modify k fun f => { f with widget := w }

/-- An id reaches the first field that has it. -/
theorem reaches_of_split {form : Form} {before after : List Field} {f : Field}
    (hfields : form.fields = before ++ f :: after) (hbefore : ∀ g ∈ before, g.id ≠ f.id) :
    form.Reaches f.id before.length := by
  have hany : before.any (·.id = f.id) = false := by
    rw [List.any_eq_false]
    intro g hg
    simpa using hbefore g hg
  constructor
  · -- neither the search nor the change stops before the field
    have hnone : before.find? (·.id = f.id) = none := by
      rw [List.find?_eq_none]
      intro g hg
      simpa using hbefore g hg
    unfold field?
    rw [hfields, List.find?_append, hnone]
    simp
  · intro w
    rw [fields_setWidget, hfields, setFirst_append_of_not_any _ hany, setFirst, if_pos rfl]
    simp [List.modify_eq_take_drop]

/-- The fields of a form are those of the variables that are shown, in order. -/
theorem ids_eq_shown {form : Form} {schema : Schema}
    (h : form.skeleton = (render schema).skeleton) :
    form.fields.map (·.id) = schema.shown.map fun e => elementId e.1 e.2 := by
  have hfield : ∀ e : Setting × Variable, (fieldOf? e.1 e.2).map (·.id)
      = if e.2.type.behavior?.isSome then some (elementId e.1 e.2) else none := by
    intro e
    unfold fieldOf?
    cases e.2.type.behavior? <;> rfl
  -- the form has the ids that it was rendered with
  rw [ids_of_skeleton h, fields_render, List.map_filterMap, shown, ← List.filterMap_eq_map,
    List.filterMap_filter]
  congr 1
  funext e
  exact hfield e

end Form

theorem Schema.nodup_shown {schema : Schema} (hvalid : schema.validate = .ok ()) :
    schema.shown.Nodup :=
  (List.Nodup.of_map _ (nodup_keys_vars hvalid)).filter _

theorem Schema.mem_vars_of_shown {schema : Schema} {k : Nat} {e : Setting × Variable}
    (h : schema.shown[k]? = some e) : e ∈ schema.vars :=
  (List.mem_filter.mp (List.mem_of_getElem? h)).1

namespace Form

/-- The field of a shown variable stands at the variable's position. -/
theorem field_at_position {form : Form} {schema : Schema}
    (h : form.skeleton = (render schema).skeleton) {i : Nat} {d : Setting × Variable}
    (hd : schema.shown[i]? = some d) :
    ∃ g, form.fields[i]? = some g ∧ g.id = elementId d.1 d.2 := by
  have hid : (form.fields[i]?).map (·.id) = some (elementId d.1 d.2) := by
    rw [← List.getElem?_map, ids_eq_shown h, List.getElem?_map, hd]
    rfl
  exact Option.map_eq_some_iff.mp hid

/-- Where some field has an id, the first field that has it is not behind that one. -/
theorem exists_first {fields : List Field} {k : Nat} {own : Field}
    (hown : fields[k]? = some own) :
    ∃ before f after, fields = before ++ f :: after ∧ f.id = own.id
      ∧ (∀ g ∈ before, g.id ≠ own.id) ∧ before.length ≤ k := by
  have hsome : (fields.find? (·.id = own.id)).isSome = true := by
    rw [List.find?_isSome]
    exact ⟨own, List.mem_of_getElem? hown, by simp⟩
  obtain ⟨f, hf⟩ := Option.isSome_iff_exists.mp hsome
  obtain ⟨hid, before, after, hfields, hbefore⟩ := List.find?_eq_some_iff_append.mp hf
  have hnone : ∀ g ∈ before, g.id ≠ own.id := by
    intro g hg
    simpa using hbefore g hg
  refine ⟨before, f, after, hfields, by simpa using hid, hnone, ?_⟩
  -- otherwise the field itself would be among those before the first
  by_contra hbehind
  rw [hfields, List.getElem?_append_left (by omega)] at hown
  exact hnone own (List.mem_of_getElem? hown) rfl

/-- The id of a shown variable reaches a position that is not behind the variable's own, and no
position before that has the id. -/
theorem exists_reaches {form : Form} {schema : Schema}
    (h : form.skeleton = (render schema).skeleton) {k : Nat} {e : Setting × Variable}
    (he : schema.shown[k]? = some e) :
    ∃ j ≤ k, form.Reaches (elementId e.1 e.2) j
      ∧ ∀ i d, schema.shown[i]? = some d → i ≤ j →
          (elementId d.1 d.2 = elementId e.1 e.2 ↔ i = j) := by
  obtain ⟨own, hown, hownId⟩ := field_at_position h he
  obtain ⟨before, f, after, hfields, hfId, hbefore, hle⟩ := exists_first hown
  rw [hownId] at hfId hbefore
  refine ⟨before.length, hle, ?_, ?_⟩
  · rw [← hfId]
    exact reaches_of_split hfields (fun g hg => hfId ▸ hbefore g hg)
  · intro i d hd hij
    obtain ⟨g, hg, hgId⟩ := field_at_position h hd
    constructor
    · intro hsame
      -- an id that is met before the first field with it would be the first
      by_contra hne
      rw [hfields, List.getElem?_append_left (by omega)] at hg
      exact hbefore g (List.mem_of_getElem? hg) (hgId.trans hsame)
    · rintro rfl
      rw [hfields, List.getElem?_append_right (Nat.le_refl _), Nat.sub_self] at hg
      cases hg
      rw [← hgId, hfId]

end Form

namespace Schema

/--
**Ids are shared by clashes and only by them.**

In a schema that was accepted, two different variables have one id just when they clash. And in
every form with the skeleton of the schema, the id of a shown variable reaches the first shown
variable that is this one or clashes with it: the variable's own element just when no shown
variable before it clashes with it. A schema whose settings do not begin with one another's names
and an underscore is thus safe; in any other, values may be shown and saved for a variable they
were never given to.
-/
theorem ids_shared_only_by_clashes {text : String} {schema : Schema}
    (h : Schema.ofText text = .ok schema) :
    (∀ d ∈ schema.vars, ∀ e ∈ schema.vars,
      (elementId d.1 d.2 = elementId e.1 e.2 ↔ d = e ∨ Clash d e))
    ∧ ∀ form : Form, form.skeleton = (Form.render schema).skeleton →
        ∀ k e, schema.shown[k]? = some e →
          ∃ j ≤ k, form.Reaches (elementId e.1 e.2) j
            ∧ (∀ d, schema.shown[j]? = some d → d = e ∨ Clash d e)
            ∧ (j = k ↔ ∀ i < k, ∀ d, schema.shown[i]? = some d → ¬ Clash d e) := by
  have hvalid := validate_of_ofText h
  refine ⟨fun d hd e he => elementId_eq_iff_of_valid hvalid hd he, ?_⟩
  intro form hform k e he
  obtain ⟨j, hjk, hreaches, hfirst⟩ := Form.exists_reaches hform he
  have hiff : ∀ (i : Nat) (d : Setting × Variable), schema.shown[i]? = some d →
      (elementId d.1 d.2 = elementId e.1 e.2 ↔ d = e ∨ Clash d e) := by
    intro i d hd
    exact elementId_eq_iff_of_valid hvalid (mem_vars_of_shown hd) (mem_vars_of_shown he)
  refine ⟨j, hjk, hreaches, ?_, ?_⟩
  · intro d hd
    exact (hiff j d hd).mp ((hfirst j d hd (Nat.le_refl j)).mpr rfl)
  · constructor
    · rintro rfl i hi d hd hclash
      have hsame := (hiff i d hd).mpr (Or.inr hclash)
      have hij := (hfirst i d hd (Nat.le_of_lt hi)).mp hsame
      omega
    · intro hnone
      by_contra hne
      have hlt : j < k := by omega
      have hlength : k < schema.shown.length := (List.getElem?_eq_some_iff.mp he).1
      obtain ⟨d, hd⟩ : ∃ d, schema.shown[j]? = some d :=
        ⟨schema.shown[j], List.getElem?_eq_getElem (by omega)⟩
      -- the position that is reached holds this variable or one that clashes with it
      rcases (hiff j d hd).mp ((hfirst j d hd (Nat.le_refl j)).mpr rfl) with rfl | hclash
      · -- a variable is shown once
        exact List.nodup_iff_getElem?_ne_getElem?.mp (nodup_shown hvalid) j k hlt hlength
          (hd.trans he.symm)
      · exact hnone j hlt d hd hclash

/-- Two settings with a variable each. -/
def seamText : String :=
  "[\x7b\"name\":\"a\",\"title\":\"\",\"variables\":["
    ++ "\x7b\"name\":\"b_c\",\"title\":\"\",\"type\":\"hostname\"\x7d]\x7d,"
    ++ "\x7b\"name\":\"a_b\",\"title\":\"\",\"variables\":["
    ++ "\x7b\"name\":\"c\",\"title\":\"\",\"type\":\"hostname\"\x7d]\x7d]"

/-- What `seamText` stands for. -/
def seamSchema : Schema :=
  ⟨[⟨"a", "", [.single ⟨"b_c", "", .hostname, []⟩]⟩,
    ⟨"a_b", "", [.single ⟨"c", "", .hostname, []⟩]⟩]⟩

theorem ofText_seam : Schema.ofText seamText = .ok seamSchema := by
  decide +kernel

/-- A value for each of the two variables. -/
def seamPayload (first second : String) : Payload :=
  (Payload.empty.insert "a" "b_c" (.text first)).insert "a_b" "c" (.text second)

/-- The second variable's id reaches the first one's element. -/
theorem ids_shared_only_by_clashes_seam :
    Schema.ofText seamText = .ok seamSchema
      ∧ (Form.render seamSchema).Reaches (elementId
          ⟨"a_b", "", [.single ⟨"c", "", .hostname, []⟩]⟩ ⟨"c", "", .hostname, []⟩) 0 := by
  refine ⟨ofText_seam, ?_⟩
  obtain ⟨j, hj, hreaches, -, hown⟩ :=
    (ids_shared_only_by_clashes ofText_seam).2 (Form.render seamSchema) rfl 1 _ rfl
  have hclash : Clash (⟨"a", "", [.single ⟨"b_c", "", .hostname, []⟩]⟩, ⟨"b_c", "", .hostname, []⟩)
      (⟨"a_b", "", [.single ⟨"c", "", .hostname, []⟩]⟩, ⟨"c", "", .hostname, []⟩) :=
    Or.inl ⟨"b", by decide, by decide⟩
  have hne : j ≠ 1 := fun h => hown.mp h 0 (by omega) _ rfl hclash
  have hzero : j = 0 := by omega
  exact hzero ▸ hreaches

/-- A schema is accepted in which two variables have one id, and what is loaded for the first of
them is lost to the second. -/
theorem two_variables_one_id :
    Schema.ofText seamText = .ok seamSchema
      ∧ (∃ d ∈ seamSchema.vars, ∃ e ∈ seamSchema.vars,
          key d ≠ key e ∧ elementId d.1 d.2 = elementId e.1 e.2)
      ∧ ((Form.render seamSchema).load seamSchema (seamPayload "one" "two")).2 = none
      ∧ ((Form.render seamSchema).load seamSchema (seamPayload "one" "two")).1.save seamSchema
          = .ok (seamPayload "two" "two") :=
  ⟨ofText_seam, by decide, by decide, by decide⟩

end Schema

end DeviceSetup
