import Mathlib
import DeviceSetup.Bridge.Basic
import DeviceSetup.Proofs.BinaryForm

/-!
# Only the shell's own events come from the shell

An event stands in octets as the number of its kind, the number of the event within its kind,
and its content. The answers to requests and the outputs of timers are events too; within
their kinds they are numbered after those of the shell (`Event.numbers`), and they are not
among what is read.

The reader and the writer of the shell's events belong together in both directions
(`ShellEvent.reads`). So what the bridge takes for an event is one that the shell could have
written, from the first octet on, and octets that begin like any other event are refused.
-/

namespace DeviceSetup

open Binary

/-- A format is one of two numbers, and no other number is a format. -/
theorem WireFormat.reads : Reads WireFormat.get WireFormat.put (fun _ => True) := by
  intro bs format rest
  unfold WireFormat.get
  rw [(reads_variant (by decide)).bind_eq_ok_iff]
  constructor
  · rintro ⟨n, rest', hn, rfl, hformat⟩
    have hcases : n = 0 ∨ n = 1 := by omega
    rcases hcases with rfl | rfl
    · cases hformat
      exact ⟨trivial, rfl⟩
    · cases hformat
      exact ⟨trivial, rfl⟩
  · rintro ⟨-, rfl⟩
    cases format with
    | json => exact ⟨0, rest, by decide, rfl, rfl⟩
    | messagePack => exact ⟨1, rest, by decide, rfl, rfl⟩

/-- The edits whose content has a binary form. -/
def Edit.Fits : Edit → Prop
  | .input text | .networkText text => FitsText text
  | .checked _ => True
  | .choose index | .pickNetwork index => FitsSize index

namespace ShellEvent

/-- The events that have a binary form: lengths and indices fit their octets. Others cannot come
from the shell, which holds them in numbers of that width. -/
def Sendable : ShellEvent → Prop
  | .setUp settings _ => FitsText settings
  | .edit id e => FitsText id ∧ e.Fits
  | .reload | .save | .startScanning | .stopScanning | .rescan | .clearError | .clearSuccess => True

/-! ## Edits -/

section Edits

variable {α : Type} {n : Nat} {edit : α → Edit} {get : Reader α} {put : α → Bytes}
  {Fits : α → Prop} {bs rest : Bytes}

/-- What is read as an edit is its id and its content, one behind the other. -/
theorem getEdit_eq_ok_iff {s : ShellEvent} (h : Reads get put Fits) :
    getEdit get edit bs = .ok (s, rest)
      ↔ ∃ id x, s = .edit id (edit x) ∧ (FitsText id ∧ Fits x)
        ∧ bs = putText id ++ (put x ++ rest) := by
  unfold getEdit
  rw [reads_text.bind_eq_ok_iff]
  constructor
  · rintro ⟨id, rest', hid, rfl, hrest⟩
    obtain ⟨x, rest'', hx, rfl, hs⟩ := h.bind_eq_ok_iff.mp hrest
    cases hs
    exact ⟨id, x, rfl, ⟨hid, hx⟩, rfl⟩
  · rintro ⟨id, x, rfl, ⟨hid, hx⟩, rfl⟩
    refine ⟨id, put x ++ rest, hid, rfl, ?_⟩
    exact h.bind_eq_ok_iff.mpr ⟨x, rest, hx, rfl, rfl⟩

/-- The edits of one kind in octets: their number among the events of the form, and what their
content is read with. The five kinds differ in nothing else, so what follows is proved once. -/
structure EditForm (n : Nat) (edit : α → Edit) (get : Reader α) (put : α → Bytes)
    (Fits : α → Prop) : Prop where
  content : Reads get put Fits
  fits : ∀ x, (edit x).Fits ↔ Fits x
  written : ∀ id x, putEdit id (edit x) = putVariant n ++ putText id ++ put x
  read : ∀ bs, getForm (putVariant n ++ bs) = getEdit get edit bs

theorem inputForm : EditForm 1 .input getText putText FitsText :=
  ⟨reads_text, fun _ => Iff.rfl, fun _ _ => rfl,
    fun bs => (reads_variant (by decide)).bind_put (by decide) bs _⟩

theorem checkedForm : EditForm 2 .checked getBool putBool (fun _ => True) :=
  ⟨reads_bool, fun _ => Iff.rfl, fun _ _ => rfl,
    fun bs => (reads_variant (by decide)).bind_put (by decide) bs _⟩

theorem chooseForm : EditForm 3 .choose getSize putSize FitsSize :=
  ⟨reads_size, fun _ => Iff.rfl, fun _ _ => rfl,
    fun bs => (reads_variant (by decide)).bind_put (by decide) bs _⟩

theorem networkTextForm : EditForm 4 .networkText getText putText FitsText :=
  ⟨reads_text, fun _ => Iff.rfl, fun _ _ => rfl,
    fun bs => (reads_variant (by decide)).bind_put (by decide) bs _⟩

theorem pickNetworkForm : EditForm 5 .pickNetwork getSize putSize FitsSize :=
  ⟨reads_size, fun _ => Iff.rfl, fun _ _ => rfl,
    fun bs => (reads_variant (by decide)).bind_put (by decide) bs _⟩

/-- An edit that was written is read back. -/
theorem EditForm.get_put (h : EditForm n edit get put Fits) {id : String} {x : α}
    (hid : FitsText id) (hx : (edit x).Fits) (rest : Bytes) :
    getForm (putEdit id (edit x) ++ rest) = .ok (.edit id (edit x), rest) := by
  rw [h.written, List.append_assoc, List.append_assoc, h.read]
  exact (getEdit_eq_ok_iff h.content).mpr ⟨id, x, rfl, ⟨hid, (h.fits x).mp hx⟩, rfl⟩

/-- What is read behind the number of an edit was written as that edit. -/
theorem EditForm.put_of_get (h : EditForm n edit get put Fits) {s : ShellEvent}
    (hs : getForm (putVariant n ++ bs) = .ok (s, rest)) :
    s.Sendable ∧ putVariant 1 ++ (putVariant n ++ bs) = s.put ++ rest := by
  rw [h.read] at hs
  obtain ⟨id, x, rfl, ⟨hid, hx⟩, rfl⟩ := (getEdit_eq_ok_iff h.content).mp hs
  refine ⟨⟨hid, (h.fits x).mpr hx⟩, ?_⟩
  simp only [ShellEvent.put, h.written, List.append_assoc]

end Edits

theorem getForm_putEdit {id : String} {e : Edit} (hid : FitsText id) (he : e.Fits)
    (rest : Bytes) : getForm (putEdit id e ++ rest) = .ok (.edit id e, rest) := by
  cases e with
  | input text => exact inputForm.get_put hid he rest
  | checked b => exact checkedForm.get_put hid he rest
  | choose index => exact chooseForm.get_put hid he rest
  | networkText text => exact networkTextForm.get_put hid he rest
  | pickNetwork index => exact pickNetworkForm.get_put hid he rest

/-! ## Events -/

theorem get_form (bs : Bytes) : get (putVariant 1 ++ bs) = getForm bs :=
  (reads_variant (by decide)).bind_put (by decide) bs _

theorem getForm_reload (bs : Bytes) : getForm (putVariant 0 ++ bs) = .ok (.reload, bs) :=
  (reads_variant (by decide)).bind_put (by decide) bs _

theorem getForm_save (bs : Bytes) : getForm (putVariant 6 ++ bs) = .ok (.save, bs) :=
  (reads_variant (by decide)).bind_put (by decide) bs _

theorem put_of_getForm {bs rest : Bytes} {s : ShellEvent} (h : getForm bs = .ok (s, rest)) :
    s.Sendable ∧ putVariant 1 ++ bs = s.put ++ rest := by
  -- an event of the form begins with one of seven numbers
  have hnumber : ∃ n bs', n < 7 ∧ bs = putVariant n ++ bs' := by
    obtain ⟨n, bs', hn, hbs, -⟩ := (reads_variant (by decide)).bind_eq_ok_iff.mp h
    exact ⟨n, bs', hn, hbs⟩
  obtain ⟨n, bs', hn, rfl⟩ := hnumber
  have hcases : n = 0 ∨ n = 1 ∨ n = 2 ∨ n = 3 ∨ n = 4 ∨ n = 5 ∨ n = 6 := by omega
  rcases hcases with rfl | rfl | rfl | rfl | rfl | rfl | rfl
  · rw [getForm_reload] at h
    cases h
    exact ⟨trivial, (List.append_assoc _ _ _).symm⟩
  · exact inputForm.put_of_get h
  · exact checkedForm.put_of_get h
  · exact chooseForm.put_of_get h
  · exact networkTextForm.put_of_get h
  · exact pickNetworkForm.put_of_get h
  · rw [getForm_save] at h
    cases h
    exact ⟨trivial, (List.append_assoc _ _ _).symm⟩

/-- An event that was written is read back, with the rest untouched. -/
theorem get_put {s : ShellEvent} (hs : s.Sendable) (rest : Bytes) :
    get (s.put ++ rest) = .ok (s, rest) := by
  cases s with
  | setUp settings format =>
      simp only [put, List.append_assoc]
      refine ((reads_variant (by decide)).bind_put (by decide) _ _).trans ?_
      refine (reads_text.bind_put hs _ _).trans ?_
      exact WireFormat.reads.bind_put trivial rest _
  | reload => rw [put, List.append_assoc, get_form, getForm_reload]
  | edit id e => rw [put, List.append_assoc, get_form, getForm_putEdit hs.1 hs.2]
  | save => rw [put, List.append_assoc, get_form, getForm_save]
  | startScanning | stopScanning | rescan | clearError | clearSuccess =>
      -- two numbers and no content
      rw [put, List.append_assoc]
      refine ((reads_variant (by decide)).bind_put (by decide) _ _).trans ?_
      exact (reads_variant (by decide)).bind_put (by decide) rest _

/-- What is read as an event was written as that event. -/
theorem put_of_get {bs rest : Bytes} {s : ShellEvent} (h : get bs = .ok (s, rest)) :
    s.Sendable ∧ bs = s.put ++ rest := by
  obtain ⟨n, bs', hn, rfl, hkind⟩ := (reads_variant (by decide)).bind_eq_ok_iff.mp h
  -- by kind: the set-up, the form, the scans, the messages
  have hcases : n = 0 ∨ n = 1 ∨ n = 2 ∨ n = 3 := by omega
  rcases hcases with rfl | rfl | rfl | rfl
  · obtain ⟨settings, bs', hsettings, rfl, hformat⟩ := reads_text.bind_eq_ok_iff.mp hkind
    obtain ⟨format, bs', -, rfl, hs⟩ := WireFormat.reads.bind_eq_ok_iff.mp hformat
    cases hs
    refine ⟨hsettings, ?_⟩
    simp only [put, List.append_assoc]
  · exact put_of_getForm hkind
  · obtain ⟨n, bs', hn, rfl, hs⟩ := (reads_variant (by decide)).bind_eq_ok_iff.mp hkind
    have hcases : n = 0 ∨ n = 1 ∨ n = 2 := by omega
    rcases hcases with rfl | rfl | rfl <;>
      cases hs <;> exact ⟨trivial, (List.append_assoc _ _ _).symm⟩
  · obtain ⟨n, bs', hn, rfl, hs⟩ := (reads_variant (by decide)).bind_eq_ok_iff.mp hkind
    have hcases : n = 0 ∨ n = 1 := by omega
    rcases hcases with rfl | rfl <;>
      cases hs <;> exact ⟨trivial, (List.append_assoc _ _ _).symm⟩

theorem reads : Reads get put Sendable := by
  intro bs s rest
  constructor
  · exact put_of_get
  · rintro ⟨hs, rfl⟩
    exact get_put hs rest

end ShellEvent

/-! ## Events that are not the shell's -/

namespace Event

/-- Whether an event is the answer to a request or the output of a timer. A shell that could send
these could make the app believe that a save had succeeded. -/
def isInternal : Event → Bool
  | .shell _ => false
  | .configReceived _ | .saveAnswered _ _ | .saveTimer _ | .scanReceived _ | .pollTimer _ => true

/-- The number of an event's kind and its number within the kind: setting up, the form, the
scans, the messages. The internal events come after those of the shell. -/
def numbers : Event → List Nat
  | .shell (.setUp _ _) => [0]
  | .shell .reload => [1, 0]
  | .shell (.edit _ (.input _)) => [1, 1]
  | .shell (.edit _ (.checked _)) => [1, 2]
  | .shell (.edit _ (.choose _)) => [1, 3]
  | .shell (.edit _ (.networkText _)) => [1, 4]
  | .shell (.edit _ (.pickNetwork _)) => [1, 5]
  | .shell .save => [1, 6]
  | .configReceived _ => [1, 7]
  | .saveAnswered _ _ => [1, 8]
  | .saveTimer _ => [1, 9]
  | .shell .startScanning => [2, 0]
  | .shell .stopScanning => [2, 1]
  | .shell .rescan => [2, 2]
  | .scanReceived _ => [2, 3]
  | .pollTimer _ => [2, 4]
  | .shell .clearError => [3, 0]
  | .shell .clearSuccess => [3, 1]

/-- The octets that an event begins with. -/
def opening (e : Event) : Bytes :=
  e.numbers.flatMap putVariant

/-- Reads an event, as the bridge does. -/
def get : Reader Event := fun bs => do
  let (s, rest) ← ShellEvent.get bs
  return (.shell s, rest)

theorem opening_of_numbers {e : Event} {kind n : Nat} (h : e.numbers = [kind, n]) :
    e.opening = putVariant kind ++ putVariant n := by
  unfold opening
  rw [h, List.flatMap_cons, List.flatMap_singleton]

/-- The numbers are those that the writer puts in front of an event. -/
theorem opening_put (s : ShellEvent) : (Event.shell s).opening <+: s.put := by
  cases s with
  | setUp settings format =>
      rw [ShellEvent.put, List.append_assoc]
      exact List.prefix_append _ _
  | edit id e =>
      have hedit : ∃ n content, (Event.shell (.edit id e)).numbers = [1, n]
          ∧ ShellEvent.putEdit id e = putVariant n ++ content := by
        cases e <;> exact ⟨_, _, rfl, List.append_assoc _ _ _⟩
      obtain ⟨n, content, hnumbers, hput⟩ := hedit
      rw [opening_of_numbers hnumbers, ShellEvent.put, hput, ← List.append_assoc]
      exact List.prefix_append _ _
  | reload | save | startScanning | stopScanning | rescan | clearError | clearSuccess =>
      rw [opening_of_numbers rfl]
      exact List.prefix_rfl

theorem get_eq_ok_iff {bs rest : Bytes} {e : Event} :
    get bs = .ok (e, rest) ↔ ∃ s, e = .shell s ∧ s.Sendable ∧ bs = s.put ++ rest := by
  unfold get
  rw [ShellEvent.reads.bind_eq_ok_iff]
  constructor
  · rintro ⟨s, rest', hs, rfl, he⟩
    cases he
    exact ⟨s, rfl, hs, rfl⟩
  · rintro ⟨s, rfl, hs, rfl⟩
    exact ⟨s, rest, hs, rfl, rfl⟩

/-- Octets that begin like an internal event are refused at its number within the kind. The number
is beyond those that are read there, whatever follows it. -/
theorem get_internal {e : Event} (he : e.isInternal = true) (rest : Bytes) :
    ∃ kind n count, e.numbers = [kind, n] ∧ count ≤ n
      ∧ ShellEvent.get (e.opening ++ rest) = .error (.badVariant n count) := by
  -- internal events are of the form or of the scans, numbered after the shell's
  have hnumbers : ∃ kind n, e.numbers = [kind, n] ∧ n < 2 ^ 32
      ∧ (kind = 1 ∧ 7 ≤ n ∨ kind = 2 ∧ 3 ≤ n) := by
    cases e with
    | shell s => cases he
    | configReceived _ => exact ⟨1, 7, rfl, by decide, by decide⟩
    | saveAnswered _ _ => exact ⟨1, 8, rfl, by decide, by decide⟩
    | saveTimer _ => exact ⟨1, 9, rfl, by decide, by decide⟩
    | scanReceived _ => exact ⟨2, 3, rfl, by decide, by decide⟩
    | pollTimer _ => exact ⟨2, 4, rfl, by decide, by decide⟩
  obtain ⟨kind, n, hn, hlt, hkind⟩ := hnumbers
  rw [opening_of_numbers hn, List.append_assoc]
  rcases hkind with ⟨rfl, hbeyond⟩ | ⟨rfl, hbeyond⟩
  · refine ⟨1, n, 7, hn, hbeyond, ?_⟩
    rw [ShellEvent.get_form]
    exact bind_variant_beyond hbeyond hlt rest _
  · refine ⟨2, n, 3, hn, hbeyond, ?_⟩
    refine ((reads_variant (by decide)).bind_put (by decide) _ _).trans ?_
    exact bind_variant_beyond hbeyond hlt rest _

end Event

namespace Bridge

theorem send_of_ok (b : Bridge) {octets rest : Bytes} {s : ShellEvent}
    (h : ShellEvent.get octets = .ok (s, rest)) :
    b.send octets = ((b.handle (.shell s)).1, .ok (b.handle (.shell s)).2) := by
  unfold send
  rw [h]

theorem send_of_error (b : Bridge) {octets : Bytes} {f : Fault}
    (h : ShellEvent.get octets = .error f) : b.send octets = (b, .error (.badEvent f)) := by
  unfold send
  rw [h]

/--
**Events of the shell survive the octets, and nothing else comes out of them.**

What is read from any octets is an event of the shell whose octets stand in front, whatever follows;
it is never the answer to a request or the output of a timer. Octets that begin like one of those
are refused and change nothing, and so are all others that no event of the shell begins.

So answers reach the app only by the way that checks whether anything was asked. The octets behind
an event are not looked at, and a shell that sends too many is not told.
-/
theorem takes_only_shell_events (b : Bridge) (octets : Bytes) :
    (∀ e rest, Event.get octets = .ok (e, rest)
      ↔ ∃ s, e = .shell s ∧ s.Sendable ∧ octets = s.put ++ rest)
    ∧ (∀ e rest, Event.get octets = .ok (e, rest) → e.isInternal = false)
    ∧ (∀ s, (Event.shell s).opening <+: s.put)
    ∧ (∀ e : Event, e.isInternal = true → e.opening <+: octets →
        ∃ kind n count, e.numbers = [kind, n] ∧ count ≤ n
          ∧ b.send octets = (b, .error (.badEvent (.badVariant n count))))
    ∧ ((∃ s rest, ShellEvent.Sendable s ∧ octets = s.put ++ rest
          ∧ b.send octets = ((b.handle (.shell s)).1, .ok (b.handle (.shell s)).2))
      ∨ (¬∃ s rest, ShellEvent.Sendable s ∧ octets = s.put ++ rest)
          ∧ ∃ f, b.send octets = (b, .error (.badEvent f))) := by
  refine ⟨fun e rest => Event.get_eq_ok_iff, ?_, Event.opening_put, ?_, ?_⟩
  · intro e rest he
    obtain ⟨s, rfl, -, -⟩ := Event.get_eq_ok_iff.mp he
    rfl
  · rintro e he ⟨rest, rfl⟩
    obtain ⟨kind, n, count, hnumbers, hcount, hget⟩ := Event.get_internal he rest
    exact ⟨kind, n, count, hnumbers, hcount, b.send_of_error hget⟩
  · cases hget : ShellEvent.get octets with
    | ok found =>
        obtain ⟨s, rest⟩ := found
        obtain ⟨hs, hoctets⟩ := ShellEvent.put_of_get hget
        exact Or.inl ⟨s, rest, hs, hoctets, b.send_of_ok hget⟩
    | error f =>
        refine Or.inr ⟨?_, f, b.send_of_error hget⟩
        rintro ⟨s, rest, hs, rfl⟩
        rw [ShellEvent.get_put hs rest] at hget
        cases hget

/-- The highest index in a combo with a name beyond ASCII, and two octets too many. -/
theorem takes_only_shell_events_pick :
    Event.get ((ShellEvent.edit "café" (.pickNetwork (2 ^ 64 - 1))).put ++ [0xFF, 0x00])
      = .ok (.shell (.edit "café" (.pickNetwork (2 ^ 64 - 1))), [0xFF, 0x00]) := by
  have hsendable : (ShellEvent.edit "café" (.pickNetwork (2 ^ 64 - 1))).Sendable := by
    constructor
    · show (Utf8.encode "café").length < 2 ^ 64
      decide
    · show 2 ^ 64 - 1 < 2 ^ 64
      decide
  exact ((takes_only_shell_events .initial _).1 _ _).mpr ⟨_, rfl, hsendable, rfl⟩

end Bridge

end DeviceSetup
