/-!
# Dictionaries

A finite map from names, kept as a list of entries in increasing order of name. The
order is part of the type, so two dictionaries with the same entries are equal, and
the order of insertion never shows.
-/

namespace DeviceSetup

/-- Entries with strictly increasing names. -/
def Increasing {α : Type} (entries : List (String × α)) : Prop :=
  entries.Pairwise fun a b => a.1 < b.1

/-- A finite map from names. -/
structure Dict (α : Type) where
  entries : List (String × α)
  increasing : Increasing entries

namespace Dict

variable {α β : Type}

/-- Equal entries make equal dictionaries. -/
@[ext] theorem ext {d e : Dict α} (h : d.entries = e.entries) : d = e := by
  cases d; cases e; cases h; rfl

instance [DecidableEq α] : DecidableEq (Dict α) := fun d e =>
  decidable_of_iff (d.entries = e.entries) ⟨ext, fun h => h ▸ rfl⟩

instance [Repr α] : Repr (Dict α) where
  reprPrec d n := reprPrec d.entries n

/-- The dictionary without entries. -/
def empty : Dict α := ⟨[], List.Pairwise.nil⟩

instance : Inhabited (Dict α) := ⟨empty⟩

/-- Puts an entry in its place, instead of any that has its name. -/
def insertEntry (name : String) (x : α) : List (String × α) → List (String × α)
  | [] => [(name, x)]
  | e :: rest =>
    if name < e.1 then (name, x) :: e :: rest
    else if name = e.1 then (name, x) :: rest
    else e :: insertEntry name x rest

/-- Inserting brings in nothing but the entry. -/
theorem mem_insertEntry {name : String} {x : α} {e : String × α} {entries : List (String × α)}
    (h : e ∈ insertEntry name x entries) : e = (name, x) ∨ e ∈ entries := by
  induction entries with
  | nil => simpa [insertEntry] using h
  | cons d rest ih =>
    simp only [insertEntry] at h
    split at h
    · simpa using h
    · split at h
      · rcases List.mem_cons.1 h with h | h
        · exact .inl h
        · exact .inr (List.mem_cons_of_mem _ h)
      · rcases List.mem_cons.1 h with h | h
        · exact .inr (h ▸ List.mem_cons_self)
        · rcases ih h with h | h
          · exact .inl h
          · exact .inr (List.mem_cons_of_mem _ h)

/-- Inserting keeps the order. -/
theorem increasing_insertEntry (name : String) (x : α) {entries : List (String × α)}
    (h : Increasing entries) : Increasing (insertEntry name x entries) := by
  induction entries with
  | nil => simp [insertEntry, Increasing]
  | cons e rest ih =>
    obtain ⟨hlt, hrest⟩ := List.pairwise_cons.1 h
    simp only [insertEntry]
    split
    · next hname =>
      refine List.pairwise_cons.2 ⟨?_, h⟩
      intro d hd
      rcases List.mem_cons.1 hd with rfl | hd
      · exact hname
      · exact String.lt_trans hname (hlt d hd)
    · next hname =>
      split
      · next heq =>
        refine List.pairwise_cons.2 ⟨?_, hrest⟩
        intro d hd
        exact heq ▸ hlt d hd
      · next hne =>
        refine List.pairwise_cons.2 ⟨?_, ih hrest⟩
        intro d hd
        rcases mem_insertEntry hd with rfl | hd
        · -- a name that is neither less nor equal is greater
          rcases String.le_total e.1 name with hle | hle
          · exact String.not_le.1 fun hge => hne (String.le_antisymm hge hle)
          · exact String.not_le.1 fun hge => hne (String.le_antisymm hge (String.not_lt.1 hname))
        · exact hlt d hd

/-- Sets the value of a name. -/
def insert (d : Dict α) (name : String) (x : α) : Dict α :=
  ⟨insertEntry name x d.entries, increasing_insertEntry name x d.increasing⟩

/-- The value of a name. -/
def get? (d : Dict α) (name : String) : Option α :=
  (d.entries.find? fun e => e.1 = name).map Prod.snd

/-- The dictionary of some entries; of those with one name the last counts. -/
def ofList (entries : List (String × α)) : Dict α :=
  entries.foldl (fun d e => d.insert e.1 e.2) empty

/-- Whether there are no entries. -/
def isEmpty (d : Dict α) : Bool :=
  d.entries.isEmpty

/-- The names in order. -/
def names (d : Dict α) : List String :=
  d.entries.map Prod.fst

/-- Applies a function to every value. -/
def map (f : α → β) (d : Dict α) : Dict β where
  entries := d.entries.map (Prod.map id f)
  increasing := List.Pairwise.map (Prod.map id f) (fun _ _ h => h) d.increasing

end Dict

end DeviceSetup
