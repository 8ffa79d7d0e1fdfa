import Mathlib
import DeviceSetup.Proofs.FormInStep
import DeviceSetup.Proofs.JsonStructure

/-!
# Schemas survive JSON

A schema is written as a list of objects. The tree that its text is read as shows the form: a
single variable is an object and a group is a list, also one of a single variable or of none;
the values of choices are strings, and empty choices are left out. Only the shape of an entry
tells a group from a single variable, and the two shapes are kept apart (`Entry.ofTree?_toTree`).

The type of a variable is written by its name. A type that was read is the one its name stands
for (`FieldType.IsNamed`), so it comes back; this is all that a schema must have been read for.
-/

namespace DeviceSetup

/-! ## Names of types -/

namespace FieldType

/-- A name is not lost in a type, not even one that stands for no type that is known. -/
theorem name_ofName (n : String) : (ofName n).name = n := by
  have hnamed : ∀ e ∈ named, e.2.name = e.1 := by decide
  unfold ofName
  cases h : named.find? fun e => e.1 = n with
  | none => rfl
  | some e =>
      have hname : e.1 = n := by simpa using List.find?_some h
      exact (hnamed e (List.mem_of_find?_eq_some h)).trans hname

/-- The type is the one that its name stands for. A type that is made by hand need not be: an
unsupported one may have the name of a type that is known. -/
def IsNamed (type : FieldType) : Prop :=
  ofName type.name = type

theorem isNamed_ofName (n : String) : (ofName n).IsNamed := by
  unfold IsNamed
  rw [name_ofName]

end FieldType

/-! ## Trees -/

/-- The tree of a string. -/
def Json.Tree.string (s : String) : Json.Tree := .scalar (.string s)

/-- A choice: a list of two strings. -/
def Choice.toTree (c : Choice) : Json.Tree :=
  .list [.string c.value, .string c.label]

/-- A variable: an object; empty choices are left out. -/
def Variable.toTree (v : Variable) : Json.Tree :=
  .object <|
    [("name", .string v.name), ("title", .string v.title), ("type", .string v.type.name)]
    ++ if v.choices = [] then [] else [("choices", .list (v.choices.map Choice.toTree))]

/-- An entry: a group is a list of variables. -/
def Entry.toTree : Entry → Json.Tree
  | .group vs => .list (vs.map Variable.toTree)
  | .single v => v.toTree

/-- A setting: an object. -/
def Setting.toTree (s : Setting) : Json.Tree :=
  .object [("name", .string s.name), ("title", .string s.title),
    ("variables", .list (s.entries.map Entry.toTree))]

/-- A schema: a list of settings. -/
def Schema.toTree (s : Schema) : Json.Tree :=
  .list (s.settings.map Setting.toTree)

/-! ## From trees -/

theorem Choice.ofTree?_toTree (c : Choice) : Choice.ofTree? c.toTree = some c := rfl

/-- What holds of each element holds of the list. -/
theorem mapM_toTree {α : Type} {ofTree? : Json.Tree → Option α} {toTree : α → Json.Tree}
    {xs : List α} (h : ∀ x ∈ xs, ofTree? (toTree x) = some x) :
    (xs.map toTree).mapM ofTree? = some xs := by
  induction xs with
  | nil => rfl
  | cons x xs ih =>
      rw [List.map_cons, List.mapM_cons, h x List.mem_cons_self,
        ih fun y hy => h y (List.mem_cons_of_mem _ hy)]
      rfl

theorem choicesOfTree?_toTree (cs : List Choice) :
    choicesOfTree? (.list (cs.map Choice.toTree)) = some cs :=
  mapM_toTree fun c _ => c.ofTree?_toTree

theorem Variable.ofParts?_strings {v : Variable} (h : v.type.IsNamed) :
    ofParts? (.string v.name) (.string v.title) (.string v.type.name) v.choices = some v := by
  unfold ofParts? Json.Tree.string textOfTree?
  simp only [Option.pure_def, Option.bind_eq_bind, Option.bind_some]
  rw [show FieldType.ofName v.type.name = v.type from h]

/-- A variable is read from its tree. Choices that were left out are read as none. -/
theorem Variable.ofTree?_toTree {v : Variable} (h : v.type.IsNamed) :
    Variable.ofTree? v.toTree = some v := by
  rw [← ofParts?_strings h]
  obtain ⟨name, title, type, choices⟩ := v
  cases choices with
  | nil => rfl
  | cons c cs =>
      unfold toTree ofTree?
      rw [if_neg (List.cons_ne_nil c cs)]
      simp only [membersNamed, onlyMember?, List.cons_append, List.nil_append, List.filter_cons,
        List.filter_nil, List.map_cons, List.map_nil, String.reduceEq, decide_true, decide_false,
        if_true, Bool.false_eq_true, if_false, Option.bind_eq_bind, Option.bind_some]
      rw [← List.map_cons, choicesOfTree?_toTree]
      rfl

/-- **The two shapes of an entry are kept apart.** A group of one variable is a list of one object,
and is not taken for that variable. -/
theorem Entry.ofTree?_toTree {e : Entry} (h : ∀ v ∈ e.vars, v.type.IsNamed) :
    Entry.ofTree? e.toTree = some e := by
  cases e with
  | group vs =>
      have hvars : (vs.map Variable.toTree).mapM Variable.ofTree? = some vs :=
        mapM_toTree fun v hv => Variable.ofTree?_toTree (h v hv)
      unfold toTree ofTree? groupOfTree?
      dsimp only
      rw [hvars]
      rfl
  | single v =>
      -- an object is no list, so it is not taken for a group
      have hobject : groupOfTree? v.toTree = none := rfl
      unfold toTree ofTree?
      dsimp only
      rw [hobject, Variable.ofTree?_toTree (h v List.mem_cons_self)]
      rfl

/-! ## Written as trees -/

section

open Json

variable (depth : Nat)

theorem Choice.written (c : Choice) : Written (depth + 1) c.toTree c.toJson := by
  have hparts : ∀ s ∈ [c.value, c.label], Written depth (.string s) (writeString s) :=
    fun s _ => written_string depth s
  exact written_list hparts

/-- The depth that is needed grows with the nesting: a choice in a list in an object is three levels
down. -/
theorem Variable.written (v : Variable) : Written (depth + 3) v.toTree v.toJson := by
  have hname := written_string (depth + 2) v.name
  have htitle := written_string (depth + 2) v.title
  have htype := written_string (depth + 2) v.type.name
  have hchoices : Written (depth + 2) (.list (v.choices.map Choice.toTree))
      (writeList (v.choices.map Choice.toJson)) :=
    written_list fun c _ => c.written depth
  -- the members as trees and as octets side by side
  have hmembers : ∀ m ∈ [("name", (Tree.string v.name, writeString v.name)),
      ("title", (Tree.string v.title, writeString v.title)),
      ("type", (Tree.string v.type.name, writeString v.type.name))]
      ++ (if v.choices = [] then []
        else [("choices", (Tree.list (v.choices.map Choice.toTree),
          writeList (v.choices.map Choice.toJson)))]), Written (depth + 2) m.2.1 m.2.2 := by
    intro m hm
    rcases List.mem_append.mp hm with hm | hm
    · simp only [List.mem_cons, List.not_mem_nil, or_false] at hm
      rcases hm with rfl | rfl | rfl
      · exact hname
      · exact htitle
      · exact htype
    · split at hm
      · cases hm
      · rw [List.mem_singleton.mp hm]
        exact hchoices
  have hwritten := written_object hmembers
  unfold toTree toJson
  split <;> rename_i hempty
  · rw [if_pos hempty] at hwritten
    exact hwritten
  · rw [if_neg hempty] at hwritten
    exact hwritten

theorem Entry.written (e : Entry) : Written (depth + 4) e.toTree e.toJson := by
  cases e with
  | group vs => exact written_list fun v _ => v.written depth
  | single v => exact v.written (depth + 1)

theorem Setting.written (s : Setting) : Written (depth + 6) s.toTree s.toJson := by
  have hmembers : ∀ m ∈ [("name", (Tree.string s.name, writeString s.name)),
      ("title", (Tree.string s.title, writeString s.title)),
      ("variables", (Tree.list (s.entries.map Entry.toTree),
        writeList (s.entries.map Entry.toJson)))], Written (depth + 5) m.2.1 m.2.2 := by
    intro m hm
    simp only [List.mem_cons, List.not_mem_nil, or_false] at hm
    rcases hm with rfl | rfl | rfl
    · exact written_string _ s.name
    · exact written_string _ s.title
    · exact written_list fun e _ => e.written depth
  exact written_object hmembers

/--
**The text of a schema is that of its tree.**

The tree says what a reader in another program finds in the text, without any of the readers here.
-/
theorem Schema.written (schema : Schema) : Written (depth + 7) schema.toTree schema.toJson :=
  written_list fun s _ => s.written depth

/-! ## Reading back -/

theorem Entry.reads_toJson {e : Entry} (h : ∀ v ∈ e.vars, v.type.IsNamed) :
    Reads (Entry.reader (depth + 4)) e.toJson e := by
  intro rest hrest
  unfold reader
  simp only [bind, Except.bind, (e.written depth).reads rest hrest, ofTree?_toTree h]
  rfl

theorem text_writeString (s : String) (rest : Bytes) :
    text (writeString s ++ rest) = .ok (s, rest) := by
  unfold text
  simp only [bind, Except.bind, opening_writeString]
  rfl

theorem Setting.reads_toJson {s : Setting} (h : ∀ v ∈ s.vars, v.type.IsNamed) :
    Reads (Setting.rule.reader (depth + 6)) s.toJson s := by
  have hentries : Reads (list (depth + 5) Entry.reader) (writeList (s.entries.map Entry.toJson))
      (s.entries.map id) :=
    reads_writeList
      (fun e he => e.reads_toJson depth fun v hv => h v (List.mem_flatMap.mpr ⟨e, he, hv⟩))
      fun e _ => (e.written depth).begins
  rw [List.map_id] at hentries
  -- from the last member to the first, each with what was read before it
  have hvariables : Setting.rule.Takes (depth + 5) ⟨some s.name, some s.title, none⟩
      [("variables", writeList (s.entries.map Entry.toJson))]
      ⟨some s.name, some s.title, some s.entries⟩ := by
    refine .field rfl rfl (fun rest hrest => ?_) (.none _)
    simp only [bind, Except.bind, hentries rest hrest]
    rfl
  have htitle : Setting.rule.Takes (depth + 5) ⟨some s.name, none, none⟩
      [("title", writeString s.title), ("variables", writeList (s.entries.map Entry.toJson))]
      ⟨some s.name, some s.title, some s.entries⟩ := by
    refine .field rfl rfl (fun rest _ => ?_) hvariables
    simp only [bind, Except.bind, text_writeString]
    rfl
  have hname : Setting.rule.Takes (depth + 5) ⟨none, none, none⟩
      [("name", writeString s.name), ("title", writeString s.title),
        ("variables", writeList (s.entries.map Entry.toJson))]
      ⟨some s.name, some s.title, some s.entries⟩ := by
    refine .field rfl rfl (fun rest _ => ?_) htitle
    simp only [bind, Except.bind, text_writeString]
    rfl
  exact RecordRule.reads_of_takes hname rfl

theorem Schema.reads_toJson {schema : Schema}
    (h : ∀ s ∈ schema.settings, ∀ v ∈ s.vars, v.type.IsNamed) :
    Reads Schema.reader schema.toJson schema := by
  intro rest hrest
  have hsettings : Reads (list 127 Setting.rule.reader)
      (writeList (schema.settings.map Setting.toJson)) (schema.settings.map id) :=
    reads_writeList (fun s hs => s.reads_toJson 120 (h s hs)) fun s _ => (s.written 120).begins
  rw [List.map_id] at hsettings
  unfold reader
  -- the depth that is allowed is far more than a schema needs
  rw [show maxDepth = 127 from rfl]
  simp only [bind, Except.bind, toJson, hsettings rest hrest]
  rfl

end

/-! ## What was read -/

/-- The types of all variables are those that their names stand for. -/
def Schema.TypesNamed (schema : Schema) : Prop :=
  ∀ s ∈ schema.settings, ∀ v ∈ s.vars, v.type.IsNamed

theorem Variable.isNamed_of_ofParts? {name title type : Json.Tree} {choices : List Choice}
    {v : Variable} (h : ofParts? name title type choices = some v) : v.type.IsNamed := by
  unfold ofParts? at h
  simp only [Option.bind_eq_bind, Option.bind_eq_some_iff] at h
  obtain ⟨_, -, _, -, n, -, hv⟩ := h
  cases hv
  exact FieldType.isNamed_ofName n

/-- Whichever way a variable was given, its type was looked up by name. -/
theorem Variable.isNamed_of_ofTree? {t : Json.Tree} {v : Variable} (h : ofTree? t = some v) :
    v.type.IsNamed := by
  -- an object with choices and one without them are finished alike
  have hobject : ∀ {members : List (String × Json.Tree)} {given : Option (List Choice)},
      (do
        let choices ← given
        ofParts? (← onlyMember? "name" members) (← onlyMember? "title" members)
          (← onlyMember? "type" members) choices) = some v → v.type.IsNamed := by
    intro members given h
    simp only [Option.bind_eq_bind, Option.bind_eq_some_iff] at h
    obtain ⟨_, -, _, -, _, -, _, -, hv⟩ := h
    exact isNamed_of_ofParts? hv
  unfold ofTree? at h
  split at h
  · split at h <;> exact hobject h
  · exact isNamed_of_ofParts? h
  · simp only [Option.bind_eq_bind, Option.bind_eq_some_iff] at h
    obtain ⟨_, -, hv⟩ := h
    exact isNamed_of_ofParts? hv
  · cases h

/-- What holds of all that comes of an element holds of all that comes of a list. -/
theorem forall_mem_of_mapM {α β : Type} {f : α → Option β} {P : β → Prop}
    (hf : ∀ a b, f a = some b → P b) {xs : List α} {ys : List β} (h : xs.mapM f = some ys) :
    ∀ y ∈ ys, P y := by
  induction xs generalizing ys with
  | nil =>
      cases h
      exact fun y hy => nomatch hy
  | cons x xs ih =>
      rw [List.mapM_cons] at h
      simp only [Option.bind_eq_bind, Option.bind_eq_some_iff] at h
      obtain ⟨y, hy, ys', hys', heq⟩ := h
      cases heq
      exact List.forall_mem_cons.mpr ⟨hf x y hy, ih hys'⟩

theorem Entry.isNamed_of_ofTree? {t : Json.Tree} {e : Entry} (h : ofTree? t = some e) :
    ∀ v ∈ e.vars, v.type.IsNamed := by
  unfold ofTree? at h
  rw [Option.orElse_eq_orElse, Option.orElse_eq_or, Option.or_eq_some_iff] at h
  rcases h with h | ⟨-, h⟩
  · unfold groupOfTree? at h
    split at h
    · obtain ⟨vs, hvs, rfl⟩ := Option.map_eq_some_iff.mp h
      exact forall_mem_of_mapM (fun _ _ => Variable.isNamed_of_ofTree?) hvs
    · cases h
  · obtain ⟨v, hv, rfl⟩ := Option.map_eq_some_iff.mp h
    exact List.forall_mem_singleton.mpr (Variable.isNamed_of_ofTree? hv)

theorem Entry.isNamed_of_reader {depth : Nat} {bs rest : Bytes} {e : Entry}
    (h : Entry.reader depth bs = .ok (e, rest)) : ∀ v ∈ e.vars, v.type.IsNamed := by
  unfold reader at h
  obtain ⟨⟨t, rest'⟩, -, h⟩ := exists_of_bind_eq_ok h
  dsimp only at h
  split at h
  · rename_i e' hentry
    cases h
    exact isNamed_of_ofTree? hentry
  · cases h

/-- The entries of a setting in the making are named, if it has any. -/
def SettingDraft.TypesNamed (d : SettingDraft) : Prop :=
  ∀ es, d.entries = some es → ∀ e ∈ es, ∀ v ∈ e.vars, v.type.IsNamed

/-- Each member that is read leaves the entries as they were or puts in named ones. -/
theorem Setting.rule_keeps : Setting.rule.Keeps SettingDraft.TypesNamed := by
  intro field hfield depth made bs made' rest hmade hread
  simp only [Setting.rule, List.mem_cons, List.not_mem_nil, or_false] at hfield
  rcases hfield with rfl | rfl | rfl
  · obtain ⟨⟨x, rest'⟩, -, hread⟩ := exists_of_bind_eq_ok hread
    cases hread
    exact hmade
  · obtain ⟨⟨x, rest'⟩, -, hread⟩ := exists_of_bind_eq_ok hread
    cases hread
    exact hmade
  · obtain ⟨⟨es, rest'⟩, hlist, hread⟩ := exists_of_bind_eq_ok hread
    cases hread
    intro es' hes'
    cases hes'
    exact Json.forall_mem_of_list (fun _ _ _ _ => Entry.isNamed_of_reader) hlist

theorem Setting.isNamed_of_reader {depth : Nat} {bs rest : Bytes} {s : Setting}
    (h : Setting.rule.reader depth bs = .ok (s, rest)) : ∀ v ∈ s.vars, v.type.IsNamed := by
  -- a setting is finished only if all three members were there
  have hfinish : ∀ made s, SettingDraft.TypesNamed made → Setting.rule.finish made = .ok s →
      ∀ v ∈ s.vars, v.type.IsNamed := by
    rintro ⟨name, title, entries⟩ s hmade hs
    cases name with
    | none => cases hs
    | some name =>
        cases title with
        | none => cases hs
        | some title =>
            cases entries with
            | none => cases hs
            | some entries =>
                cases hs
                intro v hv
                obtain ⟨e, he, hv⟩ := List.mem_flatMap.mp hv
                exact hmade entries rfl e he v hv
  exact Json.RecordRule.of_reader rule_keeps (fun es hes => nomatch hes) hfinish h

/-- **Types that were read are those that their names stand for.** So a schema that was read needs
no further condition to be written and read again. -/
theorem Schema.typesNamed_of_ofText {text : String} {schema : Schema}
    (h : Schema.ofText text = .ok schema) : schema.TypesNamed := by
  unfold ofText ofJson at h
  obtain ⟨read, hparse, h⟩ := exists_of_bind_eq_ok h
  obtain ⟨u, -, h⟩ := exists_of_bind_eq_ok h
  cases h
  cases hread : Json.parse reader (Utf8.encode text) with
  | error why =>
      rw [hread] at hparse
      cases hparse
  | ok read =>
      rw [hread] at hparse
      cases hparse
      obtain ⟨rest, hread⟩ := Json.exists_rest_of_parse hread
      obtain ⟨⟨settings, rest'⟩, hlist, hread⟩ := exists_of_bind_eq_ok hread
      cases hread
      exact Json.forall_mem_of_list (fun _ _ _ _ => Setting.isNamed_of_reader) hlist

/-- A schema whose types are named is read back, and is as valid as it was. -/
theorem Schema.ofJson_toJson {schema : Schema} (htypes : schema.TypesNamed)
    (hvalid : schema.validate = .ok ()) : Schema.ofJson schema.toJson = .ok schema := by
  unfold ofJson
  rw [Json.parse_of_reads (reads_toJson htypes)]
  simp only [Except.mapError, bind, Except.bind, hvalid]
  rfl

/-- The octets of a schema are those of a text. -/
theorem Schema.exists_text (schema : Schema) : ∃ text, Utf8.encode text = schema.toJson := by
  obtain ⟨cs, hcs⟩ := (schema.written 0).isText
  refine ⟨String.ofList cs, ?_⟩
  unfold Utf8.encode
  rw [String.toList_ofList, hcs]

/--
**A schema that was accepted survives being written and read again.**

Its written text is accepted and gives the same schema: the same settings with the same entries,
each a single variable or a group as it was, with the same types and choices. Writing that schema
gives the same text again. As JSON the text is the tree of the schema, in which a single variable
is an object and a group a list of objects, the values of choices are strings whatever they were
read from, and empty choices are left out.

So a schema may be passed on as text any number of times, from a device to a page and from there
to anywhere, and the written text can stand for the schema: two texts with one schema are written
alike.
-/
theorem Schema.written_schema_is_read_back {text : String} {schema : Schema}
    (h : Schema.ofText text = .ok schema) :
    ∃ written, Utf8.encode written = schema.toJson
      ∧ Schema.ofText written = .ok schema
      ∧ (Schema.ofText written).map Schema.toJson = .ok (Utf8.encode written)
      ∧ Json.parse (Json.tree Json.maxDepth) (Utf8.encode written) = .ok schema.toTree := by
  obtain ⟨written, hwritten⟩ := schema.exists_text
  have hback : Schema.ofText written = .ok schema := by
    unfold ofText
    rw [hwritten]
    exact ofJson_toJson (typesNamed_of_ofText h) (validate_of_ofText h)
  refine ⟨written, hwritten, hback, ?_, ?_⟩
  · rw [hback, hwritten]
    rfl
  · rw [hwritten]
    exact Json.parse_of_reads (schema.written 120).reads

/-- Entries of every shape, with types that are not known and choices of every kind. -/
def shapesText : String :=
  "[\x7b\"name\":\"s\",\"title\":\"\\u0001\\\"é\",\"variables\":["
    ++ "[],[\x7b\"name\":\"a\",\"title\":\"A\",\"type\":\"rgb\"\x7d],"
    ++ "\x7b\"name\":\"b\",\"title\":\"B\",\"type\":\"choice\","
    ++ "\"choices\":[[-1,\"x\"],[true,\"y\"],[\"z\",\"\"]]\x7d,"
    ++ "[\"c\",\"C\",\"port\",[]]]\x7d]"

/-- What `shapesText` stands for. -/
def shapesSchema : Schema :=
  ⟨[⟨"s", "\u0001\"é", [.group [], .group [⟨"a", "A", .unsupported "rgb", []⟩],
    .single ⟨"b", "B", .choice, [⟨"-1", "x"⟩, ⟨"true", "y"⟩, ⟨"z", ""⟩]⟩,
    .single ⟨"c", "C", .port, []⟩]⟩]⟩

theorem Schema.written_schema_is_read_back_shapes :
    Schema.ofText shapesText = .ok shapesSchema ∧
    ∃ written, Utf8.encode written = shapesSchema.toJson
      ∧ Schema.ofText written = .ok shapesSchema
      ∧ (Schema.ofText written).map Schema.toJson = .ok (Utf8.encode written)
      ∧ Json.parse (Json.tree Json.maxDepth) (Utf8.encode written) = .ok shapesSchema.toTree := by
  have h : Schema.ofText shapesText = .ok shapesSchema := by decide +kernel
  exact ⟨h, written_schema_is_read_back h⟩

end DeviceSetup
