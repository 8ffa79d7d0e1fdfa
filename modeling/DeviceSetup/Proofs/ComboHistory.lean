import DeviceSetup.Network.Combo

/-!
# Combos have no history

A scan replaces the options of a combo as a whole, while typing and picking edit them in
place: the typed text in front comes, changes or goes, and the selection moves with it.
The two ways agree. However a combo came about, it is the one that a fresh combo becomes
when the text is put in and the last scan is merged once.

`offering` is that combo. Each operation takes an `offering` to an `offering`, and a fresh
combo to one unless it is a pick, which finds nothing to pick there.
-/

namespace DeviceSetup.NetworkCombo

/-- What may be done to a combo. -/
inductive Op where
  | merge (networks : List Network)
  | select (text : String)
  | pick (index : Nat)

/-- The combo after an operation; a pick of no option changes nothing. -/
def apply (c : NetworkCombo) : Op → NetworkCombo
  | .merge networks => c.mergeScan networks
  | .select text => c.selectText text
  | .pick index => (c.pick? index).getD c

/-- The combo after some operations, from a fresh one. -/
def after (id : String) (ops : List Op) : NetworkCombo :=
  ops.foldl apply (fresh id)

/-- The networks of the last scan after an operation. -/
def scanAfter (networks : List Network) : Op → List Network
  | .merge networks' => networks'
  | _ => networks

/-- The networks of the last scan among some operations, none if there is no scan. -/
def lastScan (ops : List Op) : List Network :=
  ops.foldl scanAfter []

/-- The fresh combo with a text put in and a scan merged. It is the normal form of this module:
whatever is done to a combo, the result is one of these. -/
def offering (id text : String) (networks : List Network) : NetworkCombo :=
  mergeScan { fresh id with text } networks

/-! ## The two shapes of an offering -/

theorem offering_of_found {id text : String} {networks : List Network} {i : Nat}
    (h : networks.findIdx? (·.name = text) = some i) :
    offering id text networks = ⟨id, text, networks.map .scanned, some i⟩ := by
  simp only [offering, mergeScan, fresh, h]

theorem offering_of_missing {id text : String} {networks : List Network}
    (h : networks.findIdx? (·.name = text) = none) :
    offering id text networks = ⟨id, text, .typed text :: networks.map .scanned, some 0⟩ := by
  simp only [offering, mergeScan, fresh, h]

theorem findIdx?_scanned (networks : List Network) (text : String) :
    (networks.map NetworkOption.scanned).findIdx? (·.value = text)
      = networks.findIdx? (·.name = text) := by
  rw [List.findIdx?_map]
  rfl

theorem frontIsTyped_scanned (networks : List Network) :
    frontIsTyped (networks.map .scanned) = false := by
  cases networks <;> rfl

theorem dropTyped_scanned (networks : List Network) :
    dropTyped (networks.map .scanned) = networks.map .scanned := by
  cases networks <;> rfl

/-! ## Operations on an offering -/

theorem mergeScan_text (c : NetworkCombo) (networks : List Network) :
    (c.mergeScan networks).text = c.text := by
  unfold mergeScan
  split <;> rfl

theorem mergeScan_optionsId (c : NetworkCombo) (networks : List Network) :
    (c.mergeScan networks).optionsId = c.optionsId := by
  unfold mergeScan
  split <;> rfl

/-- Merging looks at nothing but the text. -/
theorem mergeScan_eq_offering (c : NetworkCombo) (networks : List Network) :
    c.mergeScan networks = offering c.optionsId c.text networks := by
  simp only [offering, mergeScan, fresh]

theorem offering_text (id text : String) (networks : List Network) :
    (offering id text networks).text = text :=
  mergeScan_text _ _

theorem mergeScan_offering (id text : String) (networks networks' : List Network) :
    (offering id text networks).mergeScan networks' = offering id text networks' := by
  rw [mergeScan_eq_offering, offering_text]
  congr 1
  exact mergeScan_optionsId _ _

theorem selectText_fresh (id text : String) :
    (fresh id).selectText text = offering id text [] := rfl

/--
**Typing edits an offering into the offering of the new text.**

Typing changes the options in place and does not know the scan any more. That it comes to the same
as merging the scan anew is the reason that a combo's past does not show.
-/
theorem selectText_offering (id text : String) (networks : List Network) (text' : String) :
    (offering id text networks).selectText text' = offering id text' networks := by
  cases hold : networks.findIdx? (·.name = text) with
  | some i =>
      -- nothing typed in front: the options are searched as they are
      rw [offering_of_found hold, selectText, findIdx?_scanned]
      cases hnew : networks.findIdx? (·.name = text') with
      | some j => simp [offering_of_found hnew, frontIsTyped_scanned]
      | none => simp [offering_of_missing hnew, dropTyped_scanned]
  | none =>
      rw [offering_of_missing hold, selectText, List.findIdx?_cons, findIdx?_scanned]
      by_cases hsame : text = text'
      · subst hsame
        simp [offering_of_missing hold, NetworkOption.value]
      · -- the front has another text, so the search goes on behind it
        cases hnew : networks.findIdx? (·.name = text') with
        | some j =>
            simp [offering_of_found hnew, NetworkOption.value, hsame, frontIsTyped, dropTyped]
        | none => simp [offering_of_missing hnew, NetworkOption.value, hsame, dropTyped]

/-- Every operation takes an offering to an offering. -/
theorem apply_offering (id text : String) (networks : List Network) (op : Op) :
    ∃ text', (offering id text networks).apply op = offering id text' (scanAfter networks op) := by
  cases op with
  | merge networks' => exact ⟨text, mergeScan_offering id text networks networks'⟩
  | select text' => exact ⟨text', selectText_offering id text networks text'⟩
  | pick index =>
      simp only [apply, pick?, scanAfter]
      cases (offering id text networks).options[index]? with
      | none => exact ⟨text, rfl⟩
      | some o => exact ⟨o.value, selectText_offering id text networks o.value⟩

/-- The step carried along a whole run: what the text comes to depends on the operations, but the
scan is the last one of them. -/
theorem foldl_offering (id text : String) (networks : List Network) (ops : List Op) :
    ∃ text', ops.foldl apply (offering id text networks)
      = offering id text' (ops.foldl scanAfter networks) := by
  induction ops generalizing text networks with
  | nil => exact ⟨text, rfl⟩
  | cons op ops ih =>
      obtain ⟨text', h⟩ := apply_offering id text networks op
      rw [List.foldl_cons, List.foldl_cons, h]
      exact ih text' (scanAfter networks op)

/-- The only operations that leave a combo fresh are picks, since there is nothing to pick. -/
theorem after_cases (id : String) (ops : List Op) :
    (∀ op ∈ ops, ∃ i, op = .pick i ∧ (fresh id).pick? i = none) ∧ after id ops = fresh id
      ∨ ∃ text, after id ops = offering id text (lastScan ops) := by
  unfold after lastScan
  induction ops with
  | nil => exact Or.inl ⟨fun op h => absurd h List.not_mem_nil, rfl⟩
  | cons op ops ih =>
      rw [List.foldl_cons, List.foldl_cons]
      cases op with
      | merge networks => exact Or.inr (foldl_offering id "" networks ops)
      -- typing into a fresh combo is the same as merging a scan of nothing
      | select text => exact Or.inr (foldl_offering id text [] ops)
      | pick i =>
          -- a fresh combo has no options, so the pick might as well not have been made
          rcases ih with ⟨hpicks, hfresh⟩ | hoffer
          · refine Or.inl ⟨fun op h => ?_, hfresh⟩
            rcases List.mem_cons.mp h with rfl | h
            · exact ⟨i, rfl, rfl⟩
            · exact hpicks op h
          · exact Or.inr hoffer

/-! ## What an offering shows -/

/-- The network of a scanned option. -/
def scanned? : NetworkOption → Option Network
  | .scanned n => some n
  | .typed _ => none

theorem filterMap_scanned (networks : List Network) :
    (networks.map NetworkOption.scanned).filterMap scanned? = networks := by
  rw [List.filterMap_map]
  exact List.filterMap_some

/-- The networks that are offered are those of the scan, in its order and with its repetitions. -/
theorem offering_scanned (id text : String) (networks : List Network) :
    (offering id text networks).options.filterMap scanned? = networks := by
  cases h : networks.findIdx? (·.name = text) with
  | some i => rw [offering_of_found h]; exact filterMap_scanned networks
  | none => rw [offering_of_missing h]; exact filterMap_scanned networks

theorem not_typed_scanned {networks : List Network} {i : Nat} {o : NetworkOption}
    (h : (networks.map NetworkOption.scanned)[i]? = some o) : o.isTyped = false := by
  rw [List.getElem?_map, Option.map_eq_some_iff] at h
  obtain ⟨n, -, rfl⟩ := h
  rfl

/-- Typed text stands in front, is the text, and is there just when no scan has it. -/
theorem offering_typed_iff (id text : String) (networks : List Network) (i : Nat)
    (o : NetworkOption) :
    ((offering id text networks).options[i]? = some o ∧ o.isTyped = true)
      ↔ i = 0 ∧ o = .typed text ∧ ∀ n ∈ networks, n.name ≠ text := by
  cases h : networks.findIdx? (·.name = text) with
  | some k =>
      rw [offering_of_found h]
      obtain ⟨hk, hname, -⟩ := List.findIdx?_eq_some_iff_getElem.mp h
      constructor
      · rintro ⟨ho, htyped⟩
        rw [not_typed_scanned ho] at htyped
        exact Bool.noConfusion htyped
      · -- a network of the scan has the text, so it would be among those that have it not
        rintro ⟨-, -, hnone⟩
        exact absurd (of_decide_eq_true hname) (hnone _ (List.getElem_mem hk))
  | none =>
      rw [offering_of_missing h]
      have hnone : ∀ n ∈ networks, n.name ≠ text := fun n hn =>
        of_decide_eq_false (List.findIdx?_eq_none_iff.mp h n hn)
      constructor
      · rintro ⟨ho, htyped⟩
        cases i with
        | zero => exact ⟨rfl, (Option.some.inj ho).symm, hnone⟩
        | succ i =>
            rw [List.getElem?_cons_succ] at ho
            rw [not_typed_scanned ho] at htyped
            exact Bool.noConfusion htyped
      · rintro ⟨rfl, rfl, -⟩
        exact ⟨rfl, rfl⟩

/-- The selection is the first option that has the text. -/
theorem offering_selected (id text : String) (networks : List Network) :
    ∃ i, (offering id text networks).selected = some i
      ∧ (offering id text networks).options.findIdx? (·.value = text) = some i := by
  cases h : networks.findIdx? (·.name = text) with
  | some i =>
      rw [offering_of_found h]
      exact ⟨i, rfl, by rw [findIdx?_scanned, h]⟩
  | none =>
      rw [offering_of_missing h]
      exact ⟨0, rfl, by simp [List.findIdx?_cons, NetworkOption.value]⟩

theorem selectText_text (c : NetworkCombo) (text : String) : (c.selectText text).text = text := by
  unfold selectText
  split
  · split <;> rfl
  · rfl

/--
**A combo is told by its text and its last scan.**

Unless all that happened to it is picks of options that it did not have, it is the combo that a
fresh one becomes with the text put in and the last scan merged. So it shows that scan as received,
the text in front just when no network of the scan has it as its name, and selects the first option
that has the text. Nobody has to know the order in which scans, typing and picks came, and two
combos that hold one text after one scan cannot be told apart.
-/
theorem combo_history_independent (id : String) (ops : List Op) :
    (((∀ op ∈ ops, ∃ i, op = .pick i ∧ (fresh id).pick? i = none) ∧ after id ops = fresh id)
      ∨ after id ops = mergeScan { fresh id with text := (after id ops).text } (lastScan ops)
        ∧ (after id ops).options.filterMap scanned? = lastScan ops
        ∧ (∀ i o, ((after id ops).options[i]? = some o ∧ o.isTyped = true)
            ↔ i = 0 ∧ o = .typed (after id ops).text
              ∧ ∀ n ∈ lastScan ops, n.name ≠ (after id ops).text)
        ∧ ∃ i o, (after id ops).selected = some i ∧ (after id ops).options[i]? = some o
            ∧ o.value = (after id ops).text
            ∧ ∀ j o', j < i → (after id ops).options[j]? = some o' → o'.value ≠ (after id ops).text)
    ∧ (∀ networks, ((after id ops).mergeScan networks).text = (after id ops).text)
    ∧ ∀ text, ((after id ops).selectText text).text = text := by
  refine ⟨?_, mergeScan_text _, selectText_text _⟩
  rcases after_cases id ops with hfresh | ⟨text, hoffer⟩
  · exact Or.inl hfresh
  · right
    rw [hoffer, offering_text]
    refine ⟨rfl, offering_scanned id text _, offering_typed_iff id text _, ?_⟩
    obtain ⟨i, hsel, hfind⟩ := offering_selected id text (lastScan ops)
    obtain ⟨hi, hvalue, hfirst⟩ := List.findIdx?_eq_some_iff_getElem.mp hfind
    refine ⟨i, _, hsel, List.getElem?_eq_getElem hi, of_decide_eq_true hvalue, ?_⟩
    intro j o' hj ho' heq
    obtain ⟨hlen, rfl⟩ := List.getElem?_eq_some_iff.mp ho'
    exact hfirst j hj (decide_eq_true heq)

end DeviceSetup.NetworkCombo
