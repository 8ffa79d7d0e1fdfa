import Mathlib
import DeviceSetup.Proofs.FormInStep

/-!
# Every combo offers the latest scan

The poller keeps the last scan, and each combo of the form keeps a copy of it among its
options. The copies are made by id: a scan is merged into the first field of each tracked
id, and again when a form is rendered after the scan. Between scans typing, picking and
loading edit the options in place.

`Offers` says what a combo should look like beside the scan the poller keeps. Entering
keeps it, because it takes an offering to an offering; merging establishes it, because the
poller tracks every combo of the form (`InStep`) and `field?_merges` says which fields a
merge reaches.
-/

namespace DeviceSetup

/-! ## Combos beside a scan -/

namespace NetworkCombo

/-- The combo shows a scan beside its text; before the first scan it may also be untouched. Its text
is free here, since that is for the user to choose. -/
def Offers (scan : Option (List Network)) (c : NetworkCombo) : Prop :=
  match scan with
  | some networks => c = offering c.optionsId c.text networks
  | none => c = fresh c.optionsId ∨ c = offering c.optionsId c.text []

theorem offering_optionsId (id text : String) (networks : List Network) :
    (offering id text networks).optionsId = id :=
  mergeScan_optionsId _ _

theorem offers_offering (id text : String) (networks : List Network) :
    (offering id text networks).Offers (some networks) := by
  unfold Offers
  rw [offering_optionsId, offering_text]

theorem offers_mergeScan (c : NetworkCombo) (networks : List Network) :
    (c.mergeScan networks).Offers (some networks) := by
  rw [mergeScan_eq_offering]
  exact offers_offering _ _ _

/-- Typing edits what is offered, whatever scan it is. -/
theorem Offers.selectText {scan : Option (List Network)} {c : NetworkCombo} (h : c.Offers scan)
    (text : String) : (c.selectText text).Offers scan := by
  cases scan with
  | some networks =>
      rw [show c = offering c.optionsId c.text networks from h, selectText_offering]
      exact offers_offering _ _ _
  | none =>
      have hempty : c.selectText text = offering c.optionsId text [] := by
        rcases h with h | h
        · rw [h]
          exact selectText_fresh _ text
        · rw [h, selectText_offering, offering_optionsId]
      rw [hempty]
      exact Or.inr (offers_offering _ _ _)

/-- Merging a scan twice is merging it once, so it does no harm that an id is tracked twice. -/
theorem mergeScan_mergeScan (c : NetworkCombo) (networks : List Network) :
    (c.mergeScan networks).mergeScan networks = c.mergeScan networks := by
  rw [mergeScan_eq_offering c, mergeScan_offering]

end NetworkCombo

namespace Widget

/-- An element that is a combo shows the scan. -/
def Offers (scan : Option (List Network)) : Widget → Prop
  | .network c => c.Offers scan
  | _ => True

/-- Entering anything by hand or by loading goes through the text of the combo. -/
theorem Enters.offers {scan : Option (List Network)} {w w' : Widget} (h : w.Enters w')
    (hw : w.Offers scan) : w'.Offers scan := by
  rcases h.cases with ⟨_, _, _, _, rfl, rfl⟩ | ⟨_, _, rfl, rfl⟩ | ⟨_, _, _, rfl, rfl, _⟩
    | ⟨combo, rfl, rfl | ⟨text, rfl⟩⟩
  · trivial
  · trivial
  · trivial
  · exact hw
  · exact NetworkCombo.Offers.selectText hw text

theorem offers_mergeScan (w : Widget) (networks : List Network) :
    (w.mergeScan networks).Offers (some networks) := by
  cases w with
  | network combo => exact combo.offers_mergeScan networks
  | input _ _ _ | checkbox _ | select _ _ => trivial

theorem offers_of_kind_ne {w : Widget} (h : w.kind ≠ .network) (scan : Option (List Network)) :
    w.Offers scan := by
  cases w with
  | network combo => exact absurd rfl h
  | input _ _ _ | checkbox _ | select _ _ => trivial

theorem mergeScan_mergeScan (w : Widget) (networks : List Network) :
    (w.mergeScan networks).mergeScan networks = w.mergeScan networks := by
  cases w with
  | network combo => exact congrArg Widget.network (combo.mergeScan_mergeScan networks)
  | input _ _ _ | checkbox _ | select _ _ => rfl

end Widget

/-! ## Which fields a merge reaches -/

/-- A field with a scan merged into its element. -/
def Field.mergeScan (networks : List Network) (f : Field) : Field :=
  { f with widget := f.widget.mergeScan networks }

namespace Poller

/-- One merge reaches the first field with its id and is not seen under another. -/
theorem field?_mergeInto (networks : List Network) (form : Form) (target id : String) :
    (mergeInto networks form target).field? id
      = (form.field? id).map fun f => if id = target then f.mergeScan networks else f := by
  unfold mergeInto
  cases ht : form.field? target with
  | none =>
      by_cases hid : id = target
      · subst hid
        rw [ht]
        rfl
      · simp [hid]
  | some g =>
      dsimp only
      rw [Form.field?_setWidget]
      by_cases hid : id = target
      · subst hid
        simp [ht, Field.mergeScan]
      · simp [hid]

/-- Merging reaches the first field of each id that is listed, however often it is listed. -/
theorem field?_merges (networks : List Network) (form : Form) (ids : List String) (id : String) :
    (ids.foldl (mergeInto networks) form).field? id
      = (form.field? id).map fun f => if id ∈ ids then f.mergeScan networks else f := by
  induction ids generalizing form with
  | nil => simp
  | cons target rest ih =>
      rw [List.foldl_cons, ih, field?_mergeInto, Option.map_map]
      -- field by field: a listed one is merged now, later, or at both times
      congr 1
      funext f
      by_cases hid : id = target
      · by_cases hmem : id ∈ rest
        · simp [← hid, hmem, Field.mergeScan, Widget.mergeScan_mergeScan]
        · simp [← hid, hmem]
      · simp [hid]

/-- A merge into every combo of a form leaves each one that can be addressed with the scan. -/
theorem offers_mergeLast {p : Poller} {form : Form} {networks : List Network}
    (htracked : p.tracked = form.networkIds) (hscan : p.lastScan = some networks)
    (id : String) (f : Field) (hf : (p.mergeLast form).field? id = some f) :
    f.widget.Offers (some networks) := by
  have hmerge : p.mergeLast form = p.tracked.foldl (mergeInto networks) form := by
    unfold mergeLast
    rw [hscan]
  rw [hmerge, field?_merges] at hf
  obtain ⟨g, hg, rfl⟩ := Option.map_eq_some_iff.mp hf
  by_cases hid : id ∈ p.tracked
  · rw [if_pos hid]
    exact g.widget.offers_mergeScan networks
  · -- a field that is not tracked is no combo
    rw [if_neg hid]
    refine Widget.offers_of_kind_ne (fun hkind => hid ?_) _
    obtain ⟨hmem, hgid⟩ := Form.mem_of_field? hg
    rw [htracked]
    exact Form.mem_networkIds.mpr ⟨g, hmem, hkind, hgid⟩

end Poller

/-- What is rendered has no scan in it yet: the combos are untouched. -/
theorem Form.offers_render {schema : Schema} {id : String} {f : Field}
    (hf : (Form.render schema).field? id = some f) : f.widget.Offers none := by
  have hmem := (mem_of_field? hf).1
  rw [fields_render] at hmem
  obtain ⟨⟨setting, v⟩, _, hfield⟩ := List.mem_filterMap.mp hmem
  unfold fieldOf? at hfield
  obtain ⟨b, _, hb⟩ := Option.bind_eq_some_iff.mp hfield
  obtain rfl := Option.some.inj hb
  cases b with
  | ssid => exact Or.inl rfl
  | text _ _ | port | checkbox | deviceId | choice => trivial

/-! ## Whole runs -/

namespace Model

/-- Every combo that can be addressed shows the scan that the poller keeps. -/
def Offers (m : Model) : Prop :=
  ∀ id f, m.form.field? id = some f → f.widget.Offers m.poller.lastScan

theorem offers_step {m : Model} (hstep : InStep m) (h : Offers m) (e : Event) :
    Offers (update m e).1 := by
  -- a new form, a scan, or something entered: nothing else touches form or scan
  cases formStep m e with
  | installed hvalid hform htracked hscan =>
      unfold Offers
      rw [hform]
      cases hlast : (update m e).1.poller.lastScan with
      | some networks => exact Poller.offers_mergeLast htracked hlast
      | none =>
          unfold Poller.mergeLast
          rw [hlast]
          exact fun id f hf => Form.offers_render hf
  | scanned networks hschema hform htracked hscan =>
      unfold Offers
      rw [hform, hscan]
      exact Poller.offers_mergeLast (htracked.trans hstep.tracked) hscan
  | entered hschema hform hpoller =>
      unfold Offers
      rw [hpoller.lastScan]
      exact hform.forall_field? (fun _ _ => Widget.Enters.offers) h

/-- The invariant along a run. It needs the one on tracked ids beside it, which says that a merge
reaches every combo. -/
theorem offers_after (events : List Event) : Offers (after events) := by
  have h : InStep (after events) ∧ Offers (after events) := by
    refine after_invariant (P := fun m => InStep m ∧ Offers m) ⟨inStep_initial, ?_⟩ ?_ events
    · intro id f hf
      exact absurd hf (by simp [initial, Form.empty, Form.field?, Form.fields])
    · rintro m e ⟨hstep, hoffers⟩
      exact ⟨inStep_step m e hstep, offers_step hstep hoffers e⟩
  exact h.2

/--
**Every combo offers the latest scan.**

After any events, take the first field of an id and let it be a combo. If there has been a scan, the
combo's options and selection are those that merging the last scan gives for the text it holds. If
there has been none, the combo is untouched, or as merging a scan without networks leaves it.

The options are kept twice, by the poller and by each combo, and edited in place in between. This
says that the copies never part: no combo lags behind, whatever was typed, picked or loaded, and
whatever form was put up since the scan came.
-/
theorem combos_offer_last_scan (events : List Event) {id : String} {f : Field} {c : NetworkCombo}
    (hf : (after events).form.field? id = some f) (hw : f.widget = .network c) :
    (∀ networks, (after events).poller.lastScan = some networks →
      c = NetworkCombo.mergeScan { NetworkCombo.fresh c.optionsId with text := c.text } networks)
    ∧ ((after events).poller.lastScan = none →
        (c.text = "" ∧ c.options = [] ∧ c.selected = none)
        ∨ c = NetworkCombo.mergeScan { NetworkCombo.fresh c.optionsId with text := c.text }
            []) := by
  have hoffers := offers_after events id f hf
  rw [hw] at hoffers
  constructor
  · intro networks hscan
    rw [hscan] at hoffers
    exact hoffers
  · intro hscan
    rw [hscan] at hoffers
    rcases hoffers with hfresh | hoffering
    · left
      rw [hfresh]
      exact ⟨rfl, rfl, rfl⟩
    · exact Or.inr hoffering

/-- A scan comes, and another network is typed and then forgotten with a new set-up: the combo
offers an empty entry, which is selected, and the network of the scan. -/
theorem combos_offer_last_scan_after_set_up :
    let settings := "[[\"w\",\"\",[[\"s\",\"\",\"ssid\"]]]]"
    let events : List Event :=
      [.shell (.setUp settings .json), .scanReceived (.ok ⟨[⟨"Home", -40, 6⟩]⟩),
        .shell (.edit "w_s" (.networkText "Away")), .shell (.setUp settings .json)]
    let c : NetworkCombo :=
      ⟨"w_s-options", "", [.typed "", .scanned ⟨"Home", -40, 6⟩], some 0⟩
    (after events).form.field? "w_s" = some ⟨"w_s", "", none, .network c⟩
    ∧ (after events).poller.lastScan = some [⟨"Home", -40, 6⟩]
    ∧ c = NetworkCombo.mergeScan { NetworkCombo.fresh "w_s-options" with text := "" }
        [⟨"Home", -40, 6⟩] := by
  intro settings events c
  have hschema : Schema.ofText settings = .ok ⟨[⟨"w", "", [.single ⟨"s", "", .ssid, []⟩]⟩]⟩ := by
    cbv
  have hf : (after events).form.field? "w_s" = some ⟨"w_s", "", none, .network c⟩ := by
    simp only [events, after, List.foldl_cons, List.foldl_nil, update, setUp, hschema]
    rfl
  have hscan : (after events).poller.lastScan = some [⟨"Home", -40, 6⟩] := by
    simp only [events, after, List.foldl_cons, List.foldl_nil, update, setUp, hschema]
    rfl
  exact ⟨hf, hscan, (combos_offer_last_scan events hf rfl).1 _ hscan⟩

end Model

end DeviceSetup
