import DeviceSetup.Json.Reader
import DeviceSetup.Json.Record
import DeviceSetup.Json.Writer
import DeviceSetup.Schema.Validation

/-!
# Schemas in JSON

A schema is a list of settings. The entries of a setting are read as trees first,
because only their shape tells a group from a single variable: a list of variables is
a group, and anything else that fits is a single variable.
-/

namespace DeviceSetup

/-! ## Entries -/

/-- The text of a string. -/
def textOfTree? : Json.Tree → Option String
  | .scalar (.string s) => some s
  | _ => none

/-- The text of a number in a choice. -/
def numberText : Json.Number → String
  | .natural n => Decimal.ofNat n
  | .negative n => Decimal.ofInt n
  | .float x => NumberLayout.compact.render x

/-- The text of a choice's value: strings, numbers and truth values have one. -/
def choiceText? : Json.Tree → Option String
  | .scalar (.string s) => some s
  | .scalar (.number n) => some (numberText n)
  | .scalar (.bool b) => some (Json.boolWord b)
  | _ => none

/-- A choice, a list of value and label. -/
def Choice.ofTree? : Json.Tree → Option Choice
  | .list [value, label] => do return ⟨← choiceText? value, ← textOfTree? label⟩
  | _ => none

/-- A list of choices. -/
def choicesOfTree? : Json.Tree → Option (List Choice)
  | .list items => items.mapM Choice.ofTree?
  | _ => none

/-- The members of an object that have a name. -/
def membersNamed (name : String) (members : List (String × Json.Tree)) : List Json.Tree :=
  (members.filter (·.1 = name)).map Prod.snd

/-- The only member with a name. -/
def onlyMember? (name : String) (members : List (String × Json.Tree)) : Option Json.Tree :=
  match membersNamed name members with
  | [t] => some t
  | _ => none

namespace Variable

/-- A variable from its parts. -/
def ofParts? (name title type : Json.Tree) (choices : List Choice) : Option Variable := do
  return ⟨← textOfTree? name, ← textOfTree? title, .ofName (← textOfTree? type), choices⟩

/-- A variable: an object, or a list of its fields; choices may be left out. -/
def ofTree? : Json.Tree → Option Variable
  | .object members => do
    let choices ←
      match membersNamed "choices" members with
      | [] => some []
      | [t] => choicesOfTree? t
      | _ => none
    ofParts? (← onlyMember? "name" members) (← onlyMember? "title" members)
      (← onlyMember? "type" members) choices
  | .list [name, title, type] => ofParts? name title type []
  | .list [name, title, type, choices] => do ofParts? name title type (← choicesOfTree? choices)
  | _ => none

end Variable

namespace Entry

/-- A group, a list of variables. -/
def groupOfTree? : Json.Tree → Option Entry
  | .list items => (items.mapM Variable.ofTree?).map .group
  | _ => none

/-- An entry; a list of variables is a group. -/
def ofTree? (t : Json.Tree) : Option Entry :=
  groupOfTree? t <|> (Variable.ofTree? t).map .single

/-- Reads an entry of a setting's list. -/
def reader (depth : Nat) : Json.Reader Entry := fun bs => do
  let (t, rest) ← Json.tree depth bs
  match ofTree? t with
  | some e => return (e, rest)
  | none => throw ⟨.noSuchEntry, Json.afterList rest⟩

end Entry

/-! ## Settings -/

/-- A setting in the making. -/
structure SettingDraft where
  name : Option String
  title : Option String
  entries : Option (List Entry)

namespace Setting

/-- The setting of a draft, or the name of its first missing field. -/
def ofDraft : SettingDraft → Except String Setting
  | ⟨none, _, _⟩ => .error "name"
  | ⟨_, none, _⟩ => .error "title"
  | ⟨_, _, none⟩ => .error "variables"
  | ⟨some name, some title, some entries⟩ => .ok ⟨name, title, entries⟩

/-- How a setting is read. -/
def rule : Json.RecordRule SettingDraft Setting where
  name := "Setting"
  fields :=
    [⟨"name", false, (·.name.isSome), fun _ d bs => do
        let (x, rest) ← Json.text bs
        return ({ d with name := some x }, rest)⟩,
     ⟨"title", false, (·.title.isSome), fun _ d bs => do
        let (x, rest) ← Json.text bs
        return ({ d with title := some x }, rest)⟩,
     ⟨"variables", false, (·.entries.isSome), fun depth d bs => do
        let (x, rest) ← Json.list depth Entry.reader bs
        return ({ d with entries := some x }, rest)⟩]
  empty := ⟨none, none, none⟩
  finish := ofDraft

end Setting

namespace Schema

/-- Reads a schema, valid or not. -/
def reader : Json.Reader Schema := fun bs => do
  let (settings, rest) ← Json.list Json.maxDepth Setting.rule.reader bs
  return (⟨settings⟩, rest)

/-- Reads a valid schema from a text. -/
def ofJson (source : Bytes) : Except SchemaError Schema := do
  let schema ← (Json.parse reader source).mapError .parse
  schema.validate
  return schema

/-- Reads a valid schema from a text. -/
def ofText (text : String) : Except SchemaError Schema :=
  ofJson (Utf8.encode text)

end Schema

/-! ## Writing -/

/-- Writes a choice. -/
def Choice.toJson (c : Choice) : Bytes :=
  Json.writeList [Json.writeString c.value, Json.writeString c.label]

/-- Writes a variable; empty choices are left out. -/
def Variable.toJson (v : Variable) : Bytes :=
  Json.writeObject <|
    [("name", Json.writeString v.name), ("title", Json.writeString v.title),
     ("type", Json.writeString v.type.name)]
    ++ if v.choices = [] then [] else [("choices", Json.writeList (v.choices.map Choice.toJson))]

/-- Writes an entry. -/
def Entry.toJson : Entry → Bytes
  | .group vs => Json.writeList (vs.map Variable.toJson)
  | .single v => v.toJson

/-- Writes a setting. -/
def Setting.toJson (s : Setting) : Bytes :=
  Json.writeObject
    [("name", Json.writeString s.name), ("title", Json.writeString s.title),
     ("variables", Json.writeList (s.entries.map Entry.toJson))]

/-- Writes a schema. -/
def Schema.toJson (s : Schema) : Bytes :=
  Json.writeList (s.settings.map Setting.toJson)

end DeviceSetup
