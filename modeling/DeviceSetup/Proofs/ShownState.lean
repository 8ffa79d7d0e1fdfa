import Mathlib
import DeviceSetup.Bridge.View
import DeviceSetup.Proofs.BinaryForm
import DeviceSetup.Proofs.ShellEvents

/-!
# The view shows the visible state and nothing else

The shell receives the model as octets and has to find the boundaries of its parts by itself.
`Delimits put Fits` says that it can: if two values are written with anything behind them and
the octets are the same, then the values are the same and so is what stands behind. Every part
of the view has this property, from the numbers up to the form: lengths stand in front of
texts and lists, and numbers in front of alternatives.

The whole view has it too, but only for what it shows. The schema, the count of saves and the
poller leave no trace in the octets.
-/

namespace DeviceSetup

namespace Binary

/-- What is written tells where it ends and which value it is. No reader is mentioned: the shell is
free to read the octets in any way that it likes. -/
def Delimits {α : Type} (put : α → Bytes) (Fits : α → Prop) : Prop :=
  ∀ ⦃x y : α⦄, Fits x → Fits y → ∀ ⦃r s : Bytes⦄, put x ++ r = put y ++ s → x = y ∧ r = s

instance : DecidablePred FitsSize := fun n => inferInstanceAs (Decidable (n < 2 ^ 64))

instance : DecidablePred FitsText :=
  fun s => inferInstanceAs (Decidable (FitsSize (Utf8.encode s).length))

section Laws

variable {α β : Type} {put : α → Bytes} {Fits : α → Prop}

/-- What can be read back is told apart by its reader. -/
theorem Reads.delimits {get : Reader α} (h : Reads get put Fits) : Delimits put Fits := by
  intro x y hx hy r s heq
  have hread : get (put y ++ s) = .ok (x, r) := by
    rw [← heq]
    exact h.get_put hx r
  rw [h.get_put hy s] at hread
  cases hread
  exact ⟨rfl, rfl⟩

/-- What stands for another value in a one-to-one way is told apart as that one is. -/
theorem Delimits.comap (h : Delimits put Fits) {f : β → α} (hf : Function.Injective f)
    (hfits : ∀ b, Fits (f b)) : Delimits (fun b => put (f b)) (fun _ => True) := by
  intro b c _ _ r s heq
  obtain ⟨hbc, hrs⟩ := h (hfits b) (hfits c) heq
  exact ⟨hf hbc, hrs⟩

/-- A value that may be missing has a value that fits, if it has one. -/
def FitsOption (Fits : α → Prop) (o : Option α) : Prop := ∀ x ∈ o, Fits x

instance [DecidablePred Fits] : DecidablePred (FitsOption Fits) :=
  fun o => inferInstanceAs (Decidable (∀ x ∈ o, Fits x))

/-- The octet in front says whether there is a value. -/
theorem delimits_option (h : Delimits put Fits) : Delimits (putOption put) (FitsOption Fits) := by
  intro o o' ho ho' r s heq
  cases o with
  | none =>
      cases o' with
      | none => exact ⟨rfl, (List.cons.inj heq).2⟩
      | some y => exact absurd (List.cons.inj heq).1 (by decide)
  | some x =>
      cases o' with
      | none => exact absurd (List.cons.inj heq).1 (by decide)
      | some y =>
          obtain ⟨rfl, hrs⟩ := h (ho x rfl) (ho' y rfl) (List.cons.inj heq).2
          exact ⟨rfl, hrs⟩

/-- A list whose length eight octets hold, and each of whose elements fits. -/
def FitsList (Fits : α → Prop) (xs : List α) : Prop :=
  FitsSize xs.length ∧ ∀ x ∈ xs, Fits x

instance [DecidablePred Fits] : DecidablePred (FitsList Fits) :=
  fun xs => inferInstanceAs (Decidable (FitsSize xs.length ∧ ∀ x ∈ xs, Fits x))

/-- Elements in a row are told apart one by one, once it is known how many there are. -/
theorem Delimits.elements (h : Delimits put Fits) {xs ys : List α} (hxs : ∀ x ∈ xs, Fits x)
    (hys : ∀ y ∈ ys, Fits y) (hlength : xs.length = ys.length) {r s : Bytes}
    (heq : xs.flatMap put ++ r = ys.flatMap put ++ s) : xs = ys ∧ r = s := by
  induction xs generalizing ys with
  | nil =>
      have hnil : ys = [] := List.length_eq_zero_iff.mp hlength.symm
      subst hnil
      exact ⟨rfl, heq⟩
  | cons x xs ih =>
      cases ys with
      | nil => cases hlength
      | cons y ys =>
          simp only [List.flatMap_cons, List.append_assoc] at heq
          obtain ⟨rfl, hrest⟩ := h (hxs x List.mem_cons_self) (hys y List.mem_cons_self) heq
          have htail : xs.length = ys.length := Nat.succ.inj hlength
          obtain ⟨rfl, hrs⟩ := ih (fun z hz => hxs z (List.mem_cons_of_mem _ hz))
            (fun z hz => hys z (List.mem_cons_of_mem _ hz)) htail hrest
          exact ⟨rfl, hrs⟩

/-- A list is told apart if its elements are. -/
theorem delimits_list (h : Delimits put Fits) : Delimits (putList put) (FitsList Fits) := by
  intro xs ys hxs hys r s heq
  simp only [putList, List.append_assoc] at heq
  -- the lengths in front are the same, so there are as many elements to tell apart
  obtain ⟨hlength, hrest⟩ := reads_size.delimits hxs.1 hys.1 heq
  exact h.elements hxs.2 hys.2 hlength hrest

end Laws

theorem delimits_text : Delimits putText FitsText := reads_text.delimits

theorem delimits_size : Delimits putSize FitsSize := reads_size.delimits

theorem delimits_bool : Delimits putBool (fun _ => True) := reads_bool.delimits

theorem delimits_variant : Delimits putVariant (fun n => n < 2 ^ 32) := (reads_nat 4).delimits

theorem delimits_octet : Delimits (fun n : UInt8 => [n]) (fun _ => True) := by
  intro m n _ _ r s heq
  exact ⟨(List.cons.inj heq).1, (List.cons.inj heq).2⟩

/-- A value is written with the number of its alternative in front. -/
def OpensWith {α : Type} (put : α → Bytes) (x : α) (n : Nat) : Prop :=
  n < 2 ^ 32 ∧ putVariant n <+: put x

/-- Values that begin alike are of the same alternative. So only values of one alternative are left
to compare. -/
theorem OpensWith.unique {α : Type} {put : α → Bytes} {x y : α} {m n : Nat}
    (hx : OpensWith put x m) (hy : OpensWith put y n) {r s : Bytes}
    (h : put x ++ r = put y ++ s) : m = n := by
  obtain ⟨hm, content, hcontent⟩ := hx
  obtain ⟨hn, content', hcontent'⟩ := hy
  rw [← hcontent, ← hcontent', List.append_assoc, List.append_assoc] at h
  exact (delimits_variant hm hn h).1

end Binary

open Binary

/-!
## Elements

`Fits` says of a value that its lengths and indices fit the octets they are written in.
-/

/-- The number of a kind of input among the alternatives. -/
def InputKind.variant : InputKind → Nat
  | .text => 0
  | .password => 1
  | .number => 2
  | .readOnly => 3

/-- A kind of input is written as its number, and the numbers differ. -/
theorem InputKind.delimits : Delimits InputKind.put (fun _ => True) := by
  have hput : InputKind.put = fun kind => putVariant kind.variant := by
    funext kind
    cases kind <;> rfl
  have hinjective : Function.Injective InputKind.variant := by
    intro kind kind' h
    cases kind <;> cases kind' <;> simp_all [InputKind.variant]
  have hfits : ∀ kind : InputKind, kind.variant < 2 ^ 32 := by
    intro kind
    cases kind <;> decide
  rw [hput]
  exact delimits_variant.comap hinjective hfits

def SelectOption.Fits (o : SelectOption) : Prop := FitsText o.value ∧ FitsText o.label

instance : DecidablePred SelectOption.Fits :=
  fun o => inferInstanceAs (Decidable (FitsText o.value ∧ FitsText o.label))

theorem SelectOption.delimits : Delimits SelectOption.put SelectOption.Fits := by
  rintro ⟨value, label⟩ ⟨value', label'⟩ hx hy r s h
  simp only [put, List.append_assoc] at h
  obtain ⟨rfl, hlabel⟩ := delimits_text hx.1 hy.1 h
  obtain ⟨rfl, hrest⟩ := delimits_text hx.2 hy.2 hlabel
  exact ⟨rfl, hrest⟩

theorem delimits_rssi : Delimits (fun n : Int32 => putNat 4 n.toUInt32.toNat) (fun _ => True) := by
  have hinjective : Function.Injective fun n : Int32 => n.toUInt32.toNat := by
    rintro ⟨m⟩ ⟨n⟩ h
    exact congrArg Int32.ofUInt32 (UInt32.toNat_inj.mp h)
  exact (reads_nat 4).delimits.comap hinjective fun n => n.toUInt32.toNat_lt

theorem delimits_channel : Delimits (fun n : UInt32 => putNat 4 n.toNat) (fun _ => True) := by
  have hinjective : Function.Injective UInt32.toNat := by
    intro m n h
    exact UInt32.toNat_inj.mp h
  exact (reads_nat 4).delimits.comap hinjective fun n => n.toNat_lt

/-- The number of an option of a combo among the alternatives. -/
def NetworkOption.variant : NetworkOption → Nat
  | .scanned _ => 0
  | .typed _ => 1

/-- An option begins with the number of its alternative. -/
theorem NetworkOption.opens (o : NetworkOption) : OpensWith put o o.variant := by
  have hlt : o.variant < 2 ^ 32 := by cases o <;> simp [variant]
  refine ⟨hlt, ?_⟩
  cases o <;> simp only [put, variant, List.append_assoc] <;> exact List.prefix_append _ _

def NetworkOption.Fits (o : NetworkOption) : Prop := FitsText o.value

instance : DecidablePred NetworkOption.Fits :=
  fun o => inferInstanceAs (Decidable (FitsText o.value))

theorem NetworkOption.delimits : Delimits NetworkOption.put NetworkOption.Fits := by
  intro x y hx hy r s h
  -- a scanned network is never taken for typed text
  have hvariant : x.variant = y.variant := x.opens.unique y.opens h
  cases x with
  | scanned n =>
      cases y with
      | scanned n' =>
          obtain ⟨name, rssi, channel⟩ := n
          obtain ⟨name', rssi', channel'⟩ := n'
          simp only [put, List.append_assoc] at h
          have hname := List.append_cancel_left h
          obtain ⟨rfl, hrssi⟩ := delimits_text hx hy hname
          obtain ⟨rfl, hchannel⟩ := delimits_rssi trivial trivial hrssi
          obtain ⟨rfl, hrest⟩ := delimits_channel trivial trivial hchannel
          exact ⟨rfl, hrest⟩
      | typed text' => cases hvariant
  | typed text =>
      cases y with
      | scanned n' => cases hvariant
      | typed text' =>
          simp only [put, List.append_assoc] at h
          have htext := List.append_cancel_left h
          obtain ⟨rfl, hrest⟩ := delimits_text hx hy htext
          exact ⟨rfl, hrest⟩

def NetworkCombo.Fits (c : NetworkCombo) : Prop :=
  FitsText c.optionsId ∧ FitsText c.text ∧ FitsList NetworkOption.Fits c.options
    ∧ FitsOption FitsSize c.selected

instance : DecidablePred NetworkCombo.Fits := fun c =>
  inferInstanceAs (Decidable (FitsText c.optionsId ∧ FitsText c.text
    ∧ FitsList NetworkOption.Fits c.options ∧ FitsOption FitsSize c.selected))

/-- A combo is told apart part by part, each part beginning where the one before it ended. All
records below go the same way. -/
theorem NetworkCombo.delimits : Delimits NetworkCombo.put NetworkCombo.Fits := by
  rintro ⟨optionsId, text, options, selected⟩ ⟨optionsId', text', options', selected'⟩ hx hy r s h
  simp only [put, List.append_assoc] at h
  obtain ⟨hid, htext, hoptions, hselected⟩ := hx
  obtain ⟨hid', htext', hoptions', hselected'⟩ := hy
  -- from the front, each equality leaves the octets behind it
  obtain ⟨rfl, h₁⟩ := delimits_text hid hid' h
  obtain ⟨rfl, h₂⟩ := delimits_text htext htext' h₁
  obtain ⟨rfl, h₃⟩ := delimits_list NetworkOption.delimits hoptions hoptions' h₂
  obtain ⟨rfl, hrest⟩ := delimits_option delimits_size hselected hselected' h₃
  exact ⟨rfl, hrest⟩

/-- The number of an element among the alternatives. -/
def Widget.variant : Widget → Nat
  | .input .. => 0
  | .checkbox _ => 1
  | .select .. => 2
  | .network _ => 3

theorem Widget.opens (w : Widget) : OpensWith put w w.variant := by
  have hlt : w.variant < 2 ^ 32 := by cases w <;> simp [variant]
  refine ⟨hlt, ?_⟩
  cases w <;> simp only [put, variant, List.append_assoc] <;> exact List.prefix_append _ _

def Widget.Fits : Widget → Prop
  | .input _ placeholder value => FitsOption FitsText placeholder ∧ FitsText value
  | .checkbox _ => True
  | .select options selected => FitsList SelectOption.Fits options ∧ FitsOption FitsSize selected
  | .network combo => combo.Fits

instance : DecidablePred Widget.Fits
  | .input _ placeholder value =>
    inferInstanceAs (Decidable (FitsOption FitsText placeholder ∧ FitsText value))
  | .checkbox _ => inferInstanceAs (Decidable True)
  | .select options selected => inferInstanceAs
      (Decidable (FitsList SelectOption.Fits options ∧ FitsOption FitsSize selected))
  | .network combo => inferInstanceAs (Decidable combo.Fits)

theorem Widget.delimits : Delimits Widget.put Widget.Fits := by
  intro x y hx hy r s h
  -- the number in front tells the kind; only equal kinds are left to compare
  have hvariant : x.variant = y.variant := x.opens.unique y.opens h
  cases x with
  | input kind placeholder value =>
      cases y with
      | input kind' placeholder' value' =>
          simp only [put, List.append_assoc] at h
          have hkind := List.append_cancel_left h
          obtain ⟨rfl, hplaceholder⟩ := InputKind.delimits trivial trivial hkind
          obtain ⟨rfl, hvalue⟩ := delimits_option delimits_text hx.1 hy.1 hplaceholder
          obtain ⟨rfl, hrest⟩ := delimits_text hx.2 hy.2 hvalue
          exact ⟨rfl, hrest⟩
      | checkbox _ | select _ _ | network _ => cases hvariant
  | checkbox checked =>
      cases y with
      | checkbox checked' =>
          simp only [put, List.append_assoc] at h
          have hchecked := List.append_cancel_left h
          obtain ⟨rfl, hrest⟩ := delimits_bool trivial trivial hchecked
          exact ⟨rfl, hrest⟩
      | input _ _ _ | select _ _ | network _ => cases hvariant
  | select options selected =>
      cases y with
      | select options' selected' =>
          simp only [put, List.append_assoc] at h
          have hoptions := List.append_cancel_left h
          obtain ⟨rfl, hselected⟩ := delimits_list SelectOption.delimits hx.1 hy.1 hoptions
          obtain ⟨rfl, hrest⟩ := delimits_option delimits_size hx.2 hy.2 hselected
          exact ⟨rfl, hrest⟩
      | input _ _ _ | checkbox _ | network _ => cases hvariant
  | network combo =>
      cases y with
      | network combo' =>
          simp only [put, List.append_assoc] at h
          have hcombo := List.append_cancel_left h
          obtain ⟨rfl, hrest⟩ := NetworkCombo.delimits hx hy hcombo
          exact ⟨rfl, hrest⟩
      | input _ _ _ | checkbox _ | select _ _ => cases hvariant

/-! ## The form -/

def Field.Fits (f : Field) : Prop := FitsText f.id ∧ FitsText f.label ∧ f.widget.Fits

instance : DecidablePred Field.Fits :=
  fun f => inferInstanceAs (Decidable (FitsText f.id ∧ FitsText f.label ∧ f.widget.Fits))

theorem Field.delimits : Delimits Field.put Field.Fits := by
  rintro ⟨id, label, columns, widget⟩ ⟨id', label', columns', widget'⟩ hx hy r s h
  simp only [put, List.append_assoc] at h
  obtain ⟨hid, hlabel, hwidget⟩ := hx
  obtain ⟨hid', hlabel', hwidget'⟩ := hy
  obtain ⟨rfl, h₁⟩ := delimits_text hid hid' h
  obtain ⟨rfl, h₂⟩ := delimits_text hlabel hlabel' h₁
  obtain ⟨rfl, h₃⟩ := delimits_option delimits_octet (fun _ _ => trivial) (fun _ _ => trivial) h₂
  obtain ⟨rfl, hrest⟩ := Widget.delimits hwidget hwidget' h₃
  exact ⟨rfl, hrest⟩

def Row.Fits (r : Row) : Prop := FitsList Field.Fits r.fields

instance : DecidablePred Row.Fits :=
  fun r => inferInstanceAs (Decidable (FitsList Field.Fits r.fields))

theorem Row.delimits : Delimits Row.put Row.Fits := by
  rintro ⟨fields⟩ ⟨fields'⟩ hx hy r s h
  obtain ⟨rfl, hrest⟩ := delimits_list Field.delimits hx hy h
  exact ⟨rfl, hrest⟩

def Section.Fits (s : Section) : Prop :=
  FitsText s.name ∧ FitsText s.title ∧ FitsList Row.Fits s.rows

instance : DecidablePred Section.Fits := fun s =>
  inferInstanceAs (Decidable (FitsText s.name ∧ FitsText s.title ∧ FitsList Row.Fits s.rows))

theorem Section.delimits : Delimits Section.put Section.Fits := by
  rintro ⟨name, title, rows⟩ ⟨name', title', rows'⟩ hx hy r s h
  simp only [put, List.append_assoc] at h
  obtain ⟨hname, htitle, hrows⟩ := hx
  obtain ⟨hname', htitle', hrows'⟩ := hy
  obtain ⟨rfl, h₁⟩ := delimits_text hname hname' h
  obtain ⟨rfl, h₂⟩ := delimits_text htitle htitle' h₁
  obtain ⟨rfl, hrest⟩ := delimits_list Row.delimits hrows hrows' h₂
  exact ⟨rfl, hrest⟩

def Form.Fits (form : Form) : Prop := FitsList Section.Fits form.sections

instance : DecidablePred Form.Fits :=
  fun form => inferInstanceAs (Decidable (FitsList Section.Fits form.sections))

theorem Form.delimits : Delimits Form.put Form.Fits := by
  rintro ⟨sections⟩ ⟨sections'⟩ hx hy r s h
  obtain ⟨rfl, hrest⟩ := delimits_list Section.delimits hx hy h
  exact ⟨rfl, hrest⟩

/-! ## The model -/

namespace Model

/-- The models whose visible part has a binary form: lengths and indices fit eight octets, as they
do for whatever is held in memory. -/
def Fits (m : Model) : Prop :=
  m.form.Fits ∧ FitsOption FitsText m.error ∧ FitsOption FitsText m.success

instance : DecidablePred Fits := fun m => inferInstanceAs
  (Decidable (m.form.Fits ∧ FitsOption FitsText m.error ∧ FitsOption FitsText m.success))

/-- Two models show the same to the shell. -/
structure ShowsSame (m n : Model) : Prop where
  form : m.form = n.form
  format : m.format = n.format
  isLoading : m.isLoading = n.isLoading
  isSaving : m.isSaving = n.isSaving
  saveEnabled : m.saveEnabled = n.saveEnabled
  error : m.error = n.error
  success : m.success = n.success

/-- The whole view is a row of such parts, and each of them is visible. -/
theorem showsSame_of_view_append {m n : Model} (hm : m.Fits) (hn : n.Fits) {r s : Bytes}
    (h : m.view ++ r = n.view ++ s) : m.ShowsSame n ∧ r = s := by
  simp only [view, List.append_assoc] at h
  obtain ⟨hform, herror, hsuccess⟩ := hm
  obtain ⟨hform', herror', hsuccess'⟩ := hn
  obtain ⟨heqForm, h₁⟩ := Form.delimits hform hform' h
  obtain ⟨heqFormat, h₂⟩ := WireFormat.reads.delimits trivial trivial h₁
  obtain ⟨heqLoading, h₃⟩ := delimits_bool trivial trivial h₂
  obtain ⟨heqSaving, h₄⟩ := delimits_bool trivial trivial h₃
  obtain ⟨heqEnabled, h₅⟩ := delimits_bool trivial trivial h₄
  obtain ⟨heqError, h₆⟩ := delimits_option delimits_text herror herror' h₅
  obtain ⟨heqSuccess, hrest⟩ := delimits_option delimits_text hsuccess hsuccess' h₆
  have hsame : m.ShowsSame n :=
    ⟨heqForm, heqFormat, heqLoading, heqSaving, heqEnabled, heqError, heqSuccess⟩
  exact ⟨hsame, hrest⟩

theorem ShowsSame.view_eq {m n : Model} (h : m.ShowsSame n) : m.view = n.view := by
  unfold view
  rw [h.form, h.format, h.isLoading, h.isSaving, h.saveEnabled, h.error, h.success]

/--
**The view tells the visible state and nothing else.**

Two models have the same octets just when they show the same, whatever their schemas, counts
of saves and pollers are. And the octets end by themselves: those of one model are never a
proper beginning of those of another.

A shell may therefore compare the octets with the last ones and draw again only where they differ:
it misses no change that a user could see, and is not woken by one that nobody can.
-/
theorem view_tells_the_visible {m n : Model} (hm : m.Fits) (hn : n.Fits) :
    (m.view = n.view ↔ m.ShowsSame n) ∧ (m.view <+: n.view → m.view = n.view) := by
  constructor
  · constructor
    · intro h
      exact (showsSame_of_view_append hm hn (congrArg (· ++ []) h)).1
    · exact ShowsSame.view_eq
  · -- a view that goes on behind another one goes on with nothing
    rintro ⟨rest, hrest⟩
    have happend : m.view ++ rest = n.view ++ [] := by rw [hrest, List.append_nil]
    exact (showsSame_of_view_append hm hn happend).1.view_eq

/-- A combo whose text no scan has, beside a message with octets beyond ASCII. -/
def comboShown : Model :=
  { initial with
    form := ⟨[⟨"w", "WiFi", [⟨[⟨"w_s", "SSID", none, .network ⟨"w_s-options", "café",
      [.typed "café", .scanned ⟨"Home", -40, 6⟩], some 0⟩⟩]⟩]⟩]⟩
    error := some "später" }

/-- The same combo with another schema, a save behind it and a scan to come. -/
def comboShownLater : Model :=
  { comboShown with
    schema := ⟨[⟨"w", "", []⟩]⟩
    saveGeneration := 1
    poller := { comboShown.poller with running := true, tracked := ["w_s"] } }

theorem view_tells_the_visible_later :
    comboShown.Fits ∧ comboShownLater.Fits ∧ comboShown ≠ comboShownLater
      ∧ comboShown.view = comboShownLater.view := by
  have hfits : comboShown.Fits := by decide
  have hlater : comboShownLater.Fits := by decide
  refine ⟨hfits, hlater, by decide, ?_⟩
  exact (view_tells_the_visible hfits hlater).1.mpr ⟨rfl, rfl, rfl, rfl, rfl, rfl, rfl⟩

end Model

end DeviceSetup
