import DeviceSetup.Payload.Basic

/-!
# Dictionaries and payloads by what is looked up

A dictionary is told by its entries, which stand in order, and a payload by two names at a
time. `get?_insert` says what inserting does to every lookup, once for dictionaries and once
for payloads; `ofList_entries` says that a dictionary is built again from its entries, which
is what a written payload is read back by.
-/

namespace DeviceSetup

namespace Dict

variable {α : Type}

theorem get?_empty (name : String) : (empty : Dict α).get? name = none := rfl

theorem find?_insertEntry (name name' : String) (x : α) (entries : List (String × α)) :
    ((insertEntry name x entries).find? fun e => e.1 = name').map Prod.snd
      = if name' = name then some x
        else (entries.find? fun e => e.1 = name').map Prod.snd := by
  induction entries with
  | nil =>
      by_cases h : name' = name
      · simp [insertEntry, h]
      · simp [insertEntry, h, Ne.symm h]
  | cons e rest ih =>
      rw [insertEntry]
      -- by whether the name that is looked up is the one that is inserted
      by_cases hname : name' = name
      · subst hname
        split
        · simp
        · split
          · simp
          · rename_i hne
            rw [List.find?_cons_of_neg (by simpa using Ne.symm hne), ih, if_pos rfl, if_pos rfl]
      · rw [if_neg hname] at ih ⊢
        split
        · rw [List.find?_cons_of_neg (by simpa using Ne.symm hname)]
        · split
          · rename_i heq
            have he : ¬ e.1 = name' := fun h => hname (h.symm.trans heq.symm)
            rw [List.find?_cons_of_neg (by simpa using Ne.symm hname),
              List.find?_cons_of_neg (by simpa using he)]
          · by_cases he : e.1 = name'
            · rw [List.find?_cons_of_pos (by simpa using he),
                List.find?_cons_of_pos (by simpa using he)]
            · rw [List.find?_cons_of_neg (by simpa using he),
                List.find?_cons_of_neg (by simpa using he), ih]

/-- Inserting is seen under its own name and nowhere else. -/
theorem get?_insert (d : Dict α) (name name' : String) (x : α) :
    (d.insert name x).get? name' = if name' = name then some x else d.get? name' :=
  find?_insertEntry name name' x d.entries

theorem mem_names_iff {d : Dict α} {name : String} : name ∈ d.names ↔ (d.get? name).isSome := by
  unfold names get?
  rw [Option.isSome_map, List.find?_isSome, List.mem_map]
  simp

theorem get?_of_mem {d : Dict α} {name : String} {x : α} (h : (name, x) ∈ d.entries) :
    d.get? name = some x := by
  obtain ⟨before, after, heq⟩ := List.append_of_mem h
  -- the entries are in strict order, so no entry before it has its name
  have hbefore : ∀ e ∈ before, ¬ e.1 = name := by
    intro e he hname
    have hincreasing := d.increasing
    rw [heq] at hincreasing
    have hlt := (List.pairwise_append.mp hincreasing).2.2 e he (name, x) List.mem_cons_self
    exact String.lt_irrefl name (hname ▸ hlt)
  unfold get?
  rw [heq, List.find?_append, List.find?_eq_none.mpr (by simpa using hbefore), Option.none_or,
    List.find?_cons_of_pos (by simp)]
  rfl

theorem mem_of_get? {d : Dict α} {name : String} {x : α} (h : d.get? name = some x) :
    (name, x) ∈ d.entries := by
  obtain ⟨e, hfind, rfl⟩ := Option.map_eq_some_iff.mp h
  have hname : e.1 = name := by simpa using List.find?_some hfind
  subst hname
  exact List.mem_of_find?_eq_some hfind

theorem get?_map {β : Type} (f : α → β) (d : Dict α) (name : String) :
    (d.map f).get? name = (d.get? name).map f := by
  unfold Dict.get? Dict.map
  rw [List.find?_map, Option.map_map, Option.map_map]
  rfl

theorem map_eq_self {f : α → α} {d : Dict α} (h : ∀ e ∈ d.entries, f e.2 = e.2) : d.map f = d := by
  apply ext
  refine (List.map_congr_left fun e he => ?_).trans (List.map_id _)
  exact Prod.ext rfl (h e he)

/-! ## Entries in order -/

/-- A name behind the first entry goes behind it. -/
theorem insertEntry_cons_of_lt {name : String} {x : α} {e : String × α} (he : e.1 < name)
    (rest : List (String × α)) :
    insertEntry name x (e :: rest) = e :: insertEntry name x rest := by
  have hnlt : ¬ name < e.1 := fun hlt => String.lt_irrefl _ (String.lt_trans he hlt)
  have hne : ¬ name = e.1 := fun heq => String.lt_irrefl name (heq ▸ he)
  rw [insertEntry, if_neg hnlt, if_neg hne]

/-- An entry that is there already goes to its place. -/
theorem insertEntry_of_mem {name : String} {x : α} {entries : List (String × α)}
    (hincreasing : Increasing entries) (h : (name, x) ∈ entries) :
    insertEntry name x entries = entries := by
  induction entries with
  | nil => cases h
  | cons e rest ih =>
      obtain ⟨hfirst, hrest⟩ := List.pairwise_cons.mp hincreasing
      rcases List.mem_cons.mp h with rfl | h
      · rw [insertEntry, if_neg (String.lt_irrefl name), if_pos rfl]
      · rw [insertEntry_cons_of_lt (hfirst _ h), ih hrest h]

theorem insert_eq_self {d : Dict α} {name : String} {x : α} (h : d.get? name = some x) :
    d.insert name x = d :=
  ext (insertEntry_of_mem d.increasing (mem_of_get? h))

/-! ## Building from entries -/

/-- A name behind all others goes to the end. -/
theorem insertEntry_last {name : String} {x : α} {entries : List (String × α)}
    (h : ∀ e ∈ entries, e.1 < name) : insertEntry name x entries = entries ++ [(name, x)] := by
  induction entries with
  | nil => rfl
  | cons e rest ih =>
      rw [insertEntry_cons_of_lt (h e List.mem_cons_self),
        ih fun e' he' => h e' (List.mem_cons_of_mem _ he')]
      rfl

theorem foldl_insert_entries (d : Dict α) (more : List (String × α))
    (h : Increasing (d.entries ++ more)) :
    (more.foldl (fun d e => d.insert e.1 e.2) d).entries = d.entries ++ more := by
  induction more generalizing d with
  | nil => simp
  | cons e rest ih =>
      -- the entries come in order, so each goes behind all that are there
      have hbehind : ∀ e' ∈ d.entries, e'.1 < e.1 := fun e' he' =>
        (List.pairwise_append.mp h).2.2 e' he' e List.mem_cons_self
      have hins : (d.insert e.1 e.2).entries = d.entries ++ [e] := insertEntry_last hbehind
      rw [List.foldl_cons, ih (d.insert e.1 e.2)]
      · rw [hins, List.append_assoc]
        rfl
      · rw [hins, List.append_assoc]
        exact h

/-- **A dictionary is built again from its entries.** A reader that puts entries in one after the
other thus gives back the dictionary that they were written from. -/
theorem ofList_entries (d : Dict α) : ofList d.entries = d :=
  ext (foldl_insert_entries empty d.entries d.increasing)

end Dict

namespace Payload

theorem get?_eq (p : Payload) (setting name : String) :
    p.get? setting name = (p.setting? setting).bind fun values => values.get? name := rfl

theorem get?_empty (setting name : String) : empty.get? setting name = none := rfl

theorem valuesOf_get? (p : Payload) (setting name : String) :
    (p.valuesOf setting).get? name = p.get? setting name := by
  unfold valuesOf
  rw [get?_eq]
  cases p.setting? setting with
  | none => rfl
  | some values => rfl

/-- A setting's values replaced. -/
theorem get?_replace (p : Payload) (setting : String) (values : Dict Value) (s n : String) :
    Payload.get? ⟨p.settings.insert setting values⟩ s n
      = if s = setting then values.get? n else p.get? s n := by
  rw [get?_eq, get?_eq]
  unfold setting?
  rw [Dict.get?_insert]
  split <;> rfl

theorem setting?_replace (p : Payload) (setting : String) (values : Dict Value) (s : String) :
    Payload.setting? ⟨p.settings.insert setting values⟩ s
      = if s = setting then some values else p.setting? s :=
  Dict.get?_insert p.settings setting s values

/-- Setting a value is seen under its two names and nowhere else. -/
theorem get?_insert (p : Payload) (setting name : String) (x : Value) (s n : String) :
    (p.insert setting name x).get? s n
      = if s = setting ∧ n = name then some x else p.get? s n := by
  unfold insert
  rw [get?_replace, Dict.get?_insert, valuesOf_get?]
  by_cases hs : s = setting
  · subst hs
    simp
  · simp [hs]

theorem insert_eq_self {p : Payload} {setting name : String} {x : Value}
    (h : p.get? setting name = some x) : p.insert setting name x = p := by
  rw [get?_eq] at h
  obtain ⟨values, hsetting, hname⟩ := Option.bind_eq_some_iff.mp h
  have hvalues : p.valuesOf setting = values := by
    unfold valuesOf
    rw [hsetting]
    rfl
  unfold insert
  rw [hvalues, Dict.insert_eq_self hname, Dict.insert_eq_self hsetting]

theorem get?_ensureSetting (p : Payload) (setting s n : String) :
    (p.ensureSetting setting).get? s n = p.get? s n := by
  unfold ensureSetting
  rw [get?_replace, valuesOf_get?]
  split
  · rename_i h
    rw [h]
  · rfl

theorem get?_of_mem {p : Payload} {setting name : String} {values : Dict Value} {x : Value}
    (hsetting : (setting, values) ∈ p.settings.entries) (hname : (name, x) ∈ values.entries) :
    p.get? setting name = some x := by
  rw [get?_eq]
  unfold setting?
  rw [Dict.get?_of_mem hsetting]
  exact Dict.get?_of_mem hname

theorem ofEntries_entries (p : Payload) :
    ofEntries (p.settings.entries.map fun e => (e.1, e.2.entries)) = p := by
  have hvalues : (p.settings.entries.map fun e => (e.1, e.2.entries)).map
      (fun e => (e.1, Dict.ofList e.2)) = p.settings.entries := by
    rw [List.map_map]
    refine (List.map_congr_left fun e _ => ?_).trans (List.map_id _)
    simp only [Function.comp_apply, Dict.ofList_entries, id_eq]
  unfold ofEntries
  rw [hvalues, Dict.ofList_entries]

end Payload

end DeviceSetup
