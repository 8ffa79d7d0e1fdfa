import Mathlib
import DeviceSetup.Schema.Json
import DeviceSetup.Proofs.LoadThenSave
import DeviceSetup.Proofs.ScansAside

/-!
# Loading what was saved

A choice is saved as the integer that the text of its option stands for, and it is loaded by the
decimal text of that integer. An integer has one decimal text but many spellings: `01`, `+1` and
`1` with a blank in front all stand for 1. An option that is spelled in another way than its
decimal text is saved, and is not found again (`Variable.Loses`).

That is the only way in which a form changes by loading what it has saved. Numbers and truth
values in a schema are never spelled so (`Choice.isPlain_of_ofTree?`); strings may be.
-/

namespace DeviceSetup

open Decimal

/-! ## Spellings -/

namespace Decimal

/-- Whether a character may stand in an integer or around it. A text with any other character is
none. -/
def inInteger (c : Char) : Bool :=
  isDigit c || c = '+' || c = '-' || Text.isBlank c

theorem Denotes.inInteger {cs : List Char} {z : Int} (h : Denotes cs z) {c : Char} (hc : c ∈ cs) :
    inInteger c = true := by
  have hdigit : ∀ {ds : List Char}, Digits ds → c ∈ ds → Decimal.inInteger c = true := by
    intro ds hds hmem
    unfold Decimal.inInteger
    rw [hds.2 c hmem]
    rfl
  cases h with
  | plain h => exact hdigit h hc
  | plus h =>
      rcases List.mem_cons.mp hc with rfl | hmem
      · rfl
      · exact hdigit h hmem
  | minus h =>
      rcases List.mem_cons.mp hc with rfl | hmem
      · rfl
      · exact hdigit h hmem

/-- Trimming takes away blanks and nothing else. -/
theorem mem_trimStart {cs : List Char} {c : Char} (hc : c ∈ cs) (hblank : Text.isBlank c = false) :
    c ∈ Text.trimStart cs := by
  rw [← List.takeWhile_append_dropWhile (p := Text.isBlank) (l := cs)] at hc
  rcases List.mem_append.mp hc with hfront | hrest
  · rw [List.mem_takeWhile_imp hfront] at hblank
    cases hblank
  · exact hrest

/-- A text with any other character in it is no integer. -/
theorem not_denotes_of_mem {cs : List Char} {c : Char} (hc : c ∈ cs)
    (hother : inInteger c = false) (z : Int) : ¬ Denotes (Text.trimChars cs) z := by
  intro h
  -- it is no blank, so it is still there when the ends are trimmed
  have hblank : Text.isBlank c = false := by
    unfold inInteger at hother
    simp only [Bool.or_eq_false_iff] at hother
    exact hother.2
  have hmem : c ∈ Text.trimChars cs := by
    unfold Text.trimChars
    rw [List.mem_reverse]
    exact mem_trimStart (List.mem_reverse.mpr (mem_trimStart hc hblank)) hblank
  rw [h.inInteger hmem] at hother
  cases hother

end Decimal

/-! ## Choices that are numbers -/

/-- If the choice is an integer, it is written as the decimal text of it. Such a choice is found
again by the integer it was saved as. -/
def Choice.IsPlain (c : Choice) : Prop :=
  ∀ n : Int64, Denotes (Text.trimChars c.value.toList) n.toInt → c.value = Decimal.ofInt n.toInt

namespace NumberLayout

theorem point_mem_positionalChars (digits : List Char) (exponent : Int) :
    '.' ∈ positionalChars true digits exponent := by
  unfold positionalChars
  cases exponent with
  | ofNat k => simp
  | negSucc k =>
      dsimp only
      split <;> simp

theorem mark_mem_exponentChars (digits : List Char) (top : Int) :
    'e' ∈ exponentChars digits top := by
  unfold exponentChars
  simp

/-- The text of a double has a point, an exponent or a letter in it. So no choice that is given by
one is an integer, not even by `2.0`. -/
theorem exists_mem_render (x : Double) :
    ∃ c ∈ (compact.render x).toList, inInteger c = false := by
  cases x with
  | finite negative size =>
      have hsize : ∃ c ∈ compact.sizeChars size, inInteger c = false := by
        unfold sizeChars
        dsimp only
        split
        · exact ⟨'.', point_mem_positionalChars _ _, by decide⟩
        · exact ⟨'e', mark_mem_exponentChars _ _, by decide⟩
      obtain ⟨c, hc, hother⟩ := hsize
      refine ⟨c, ?_, hother⟩
      rw [render, String.toList_ofList]
      exact List.mem_append_right _ hc
  | infinite negative => exact ⟨'n', by cases negative <;> decide, by decide⟩
  | nan => exact ⟨'N', by decide, by decide⟩

end NumberLayout

namespace Choice

theorem isPlain_of_mem {c : Choice} {k : Char} (hk : k ∈ c.value.toList)
    (hother : inInteger k = false) : c.IsPlain :=
  fun n hn => absurd hn (not_denotes_of_mem hk hother n.toInt)

/-- A choice that is written as an integer is written as that integer. -/
theorem isPlain_ofInt (z : Int) (label : String) : IsPlain ⟨Decimal.ofInt z, label⟩ := by
  intro n hn
  have hz := denotes_intChars z
  rw [Decimal.ofInt, String.toList_ofList, trimChars_numeral hz] at hn
  rw [hz.unique hn]

/-- **A choice that a schema gives as anything but a string is plain.** Whoever writes the values of
choices as numbers cannot be caught by this. -/
theorem isPlain_of_ofTree? {value label : Json.Tree} {c : Choice}
    (h : Choice.ofTree? (.list [value, label]) = some c)
    (hvalue : ∀ s, value ≠ .scalar (.string s)) : c.IsPlain := by
  obtain ⟨text, htext, hrest⟩ := Option.bind_eq_some_iff.mp h
  obtain ⟨shown, -, hc⟩ := Option.bind_eq_some_iff.mp hrest
  obtain rfl := Option.some.inj hc
  -- a string is ruled out; what remains are numbers and truth values
  unfold choiceText? at htext
  split at htext
  · exact absurd rfl (hvalue _)
  · rename_i number
    obtain rfl := Option.some.inj htext
    cases number with
    | natural n => exact isPlain_ofInt (.ofNat n) shown
    | negative z => exact isPlain_ofInt z shown
    | float x =>
        obtain ⟨k, hk, hother⟩ := NumberLayout.exists_mem_render x
        exact isPlain_of_mem hk hother
  · rename_i b
    obtain rfl := Option.some.inj htext
    have hword : 'e' ∈ (Json.boolWord b).toList := by cases b <;> decide
    exact isPlain_of_mem hword (by decide)
  · cases htext

end Choice

/-! ## What is lost -/

/-- The variable is a choice that was saved as an integer whose decimal text no option is. Loading
finds no option for it then, and leaves none selected. -/
def Variable.Loses (v : Variable) (saved : Option Value) : Prop :=
  v.type = .choice ∧ ∃ n : Int64, saved = some (.int n)
    ∧ ∀ c ∈ v.choices, c.value ≠ Decimal.ofInt n.toInt

theorem Variable.not_loses_none (v : Variable) : ¬ v.Loses none := by
  rintro ⟨-, n, hsaved, -⟩
  cases hsaved

/-- A value that a field gives comes back, or else it is lost. -/
theorem Variable.Returns.of_gives {v : Variable} {x : Value} {given : Option Value}
    (h : v.Returns x given) (hgives : v.type.Gives x) :
    ¬ v.Loses (some x) ∧ given = some x ∨ v.Loses (some x) ∧ given = none := by
  by_cases hloses : v.Loses (some x)
  · refine .inr ⟨hloses, ?_⟩
    obtain ⟨htype, n, hx, hnone⟩ := hloses
    obtain rfl := Option.some.inj hx
    unfold Returns at h
    rw [htype] at h
    refine Option.eq_none_iff_forall_ne_some.mpr fun y hy => ?_
    obtain ⟨m, -, ⟨c, hc, hvalue⟩, -⟩ := (h y).mp hy
    exact hnone c hc hvalue
  · refine .inl ⟨hloses, h.eq_of_keeps ?_⟩
    generalize htype : v.type = type at hgives
    cases hgives with
    | text htext hs => exact .text (htype ▸ htext) hs
    | port n => exact .port htype n
    | checkbox b => exact .checkbox htype b
    | choice n =>
        refine .choice htype ?_
        by_contra hnone
        exact hloses ⟨htype, n, rfl, fun c hc hvalue => hnone ⟨c, hc, hvalue⟩⟩

namespace Form

open Schema

section Reload

variable {form : Form} {schema : Schema} {q q' : Payload} {e : Setting × Variable}

/-- The integer that is saved for a choice stands in one of its options. -/
theorem exists_choice_of_given? (hskeleton : form.skeleton = (render schema).skeleton)
    (hids : schema.OwnIds) (he : e ∈ schema.vars) (htype : e.2.type = .choice) {n : Int64}
    (hn : form.given? e = some (.int n)) :
    ∃ c ∈ e.2.choices, Denotes (Text.trimChars c.value.toList) n.toInt := by
  have hb : e.2.type.behavior? = some .choice := by rw [htype]; rfl
  obtain ⟨f, hf, -, hblank⟩ := exists_field hskeleton (hids.behind? (mem_shown he hb)) hb
  cases hwidget : f.widget with
  | select options selected =>
      rw [hwidget] at hblank
      have hoptions : options = e.2.choices.map fun c => ⟨c.value, c.label⟩ :=
        (Widget.select.inj hblank).1
      have hread : form.read e.1 e.2
          = .ok ((Behavior.selectedInt? options selected).map .int) :=
        read_of_field hb hf (by rw [hwidget]; rfl)
      rw [given?, hread] at hn
      obtain ⟨m, hm, heq⟩ := Option.map_eq_some_iff.mp hn
      obtain rfl := Value.int.inj heq
      -- the option that is selected
      obtain ⟨i, -, hi⟩ := Option.bind_eq_some_iff.mp hm
      obtain ⟨o, ho, hvalue⟩ := Option.bind_eq_some_iff.mp hi
      have hmem := List.mem_of_getElem? ho
      rw [hoptions] at hmem
      obtain ⟨c, hc, rfl⟩ := List.mem_map.mp hmem
      exact ⟨c, hc, wholeInt?_eq_some_iff.mp hvalue⟩
  | input kind placeholder text | checkbox checked | network combo =>
      rw [hwidget] at hblank
      cases hblank

/-- What a variable gives once the form was loaded with what it had saved: the same, or nothing if
it is lost. -/
theorem get?_reload (hvalid : schema.validate = .ok ())
    (hskeleton : form.skeleton = (render schema).skeleton) (hids : schema.OwnIds)
    (hq : form.save schema = .ok q) (hq' : (form.load schema q).1.save schema = .ok q')
    (he : e ∈ schema.vars) :
    ¬ e.2.Loses (q.get? e.1.name e.2.name)
        ∧ q'.get? e.1.name e.2.name = q.get? e.1.name e.2.name
      ∨ e.2.Loses (q.get? e.1.name e.2.name) ∧ q'.get? e.1.name e.2.name = none := by
  have hgiven := get?_save hvalid hq he
  have hgiven' := get?_save hvalid hq' he
  cases hx : q.get? e.1.name e.2.name with
  | none =>
      -- nothing was saved for it, so loading leaves its field alone
      refine .inl ⟨e.2.not_loses_none, ?_⟩
      rw [hgiven', given?, read_load_of_none hids he hx, ← given?, ← hgiven, hx]
  | some x =>
      rw [hx] at hgiven
      have hgives := gives_of_given? hgiven.symm
      obtain ⟨given, hread⟩ := read_of_save hq he
      -- a variable that gives something is shown
      have hshown : e ∈ schema.shown := by
        rcases read_ok hread with ⟨-, rfl⟩ | ⟨b, w, hb, -⟩
        · rw [given?, hread] at hgiven
          cases hgiven
        · exact mem_shown he hb
      obtain ⟨given', hread', hreturns⟩ := read_load_of_some hskeleton hids hshown hx
      rw [hgiven', given?, hread']
      exact hreturns.of_gives hgives

/-- Saved payloads are equal if they are so on the schema's variables. -/
theorem eq_of_save {form' : Form} (hvalid : schema.validate = .ok ())
    (hq : form.save schema = .ok q) (hq' : form'.save schema = .ok q')
    (h : ∀ e ∈ schema.vars, q'.get? e.1.name e.2.name = q.get? e.1.name e.2.name) : q' = q := by
  have hread : ∀ s ∈ schema.settings, ∀ v ∈ s.vars, form'.read s v = form.read s v := by
    intro s hs v hv
    have he : (s, v) ∈ schema.vars := mem_vars.mpr ⟨hs, hv⟩
    obtain ⟨given, hgiven⟩ := read_of_save hq he
    obtain ⟨given', hgiven'⟩ := read_of_save hq' he
    have hsame := h (s, v) he
    rw [get?_save hvalid hq he, get?_save hvalid hq' he, given?, given?, hgiven, hgiven'] at hsame
    rw [hgiven, hgiven', show given' = given from hsame]
  exact Except.ok.inj (hq'.symm.trans ((save_congr hread).trans hq))

end Reload

/--
**Loading what was saved changes nothing but choices in another spelling.**

Let every shown variable of an accepted schema have an id of its own, and let a form of the schema
have gone through any acts. Then what it saves is loaded without an error and the form is saved
again. The second payload differs from the first in just those choices whose integer is the decimal
text of no option, and has nothing for them. So the two are equal if every choice is plain, as all
choices are that the schema gives by numbers or truth values.

A page that shows what it has just saved thus shows it unchanged, but for a choice whose value is
a string such as `"01"`: that one looks as if nothing had been chosen.
-/
theorem reload_loses_only_respelled_choices {text : String} {schema : Schema}
    (h : Schema.ofText text = .ok schema) (hids : schema.OwnIds) (acts : List Act) {q : Payload}
    (hsave : (after schema acts).save schema = .ok q) :
    ((after schema acts).load schema q).2 = none
    ∧ (∃ q', ((after schema acts).load schema q).1.save schema = .ok q'
      ∧ (∀ e ∈ schema.vars, ¬ e.2.Loses (q.get? e.1.name e.2.name) →
        q'.get? e.1.name e.2.name = q.get? e.1.name e.2.name)
      ∧ (∀ e ∈ schema.vars, e.2.Loses (q.get? e.1.name e.2.name) →
        q'.get? e.1.name e.2.name = none)
      ∧ (q' = q ↔ ∀ e ∈ schema.vars, ¬ e.2.Loses (q.get? e.1.name e.2.name))
      ∧ ((∀ e ∈ schema.vars, ∀ c ∈ e.2.choices, c.IsPlain) → q' = q))
    ∧ ∀ value label c, Choice.ofTree? (.list [value, label]) = some c →
        (∀ s, value ≠ .scalar (.string s)) → c.IsPlain := by
  have hvalid := validate_of_ofText h
  have hskeleton := skeleton_after schema acts
  obtain ⟨q', hq'⟩ := exists_save (skeleton_load hskeleton q) hids
  -- variable by variable; the payloads are compared through their variables at the end
  have hreload := fun e (he : e ∈ schema.vars) => get?_reload hvalid hskeleton hids hsave hq' he
  have hkept : ∀ e ∈ schema.vars, ¬ e.2.Loses (q.get? e.1.name e.2.name) →
      q'.get? e.1.name e.2.name = q.get? e.1.name e.2.name := by
    intro e he hkeeps
    rcases hreload e he with ⟨-, hsame⟩ | ⟨hloses, -⟩
    · exact hsame
    · exact absurd hloses hkeeps
  have hlost : ∀ e ∈ schema.vars, e.2.Loses (q.get? e.1.name e.2.name) →
      q'.get? e.1.name e.2.name = none := by
    intro e he hloses
    rcases hreload e he with ⟨hkeeps, -⟩ | ⟨-, hnone⟩
    · exact absurd hloses hkeeps
    · exact hnone
  have heq : (∀ e ∈ schema.vars, ¬ e.2.Loses (q.get? e.1.name e.2.name)) → q' = q :=
    fun hkeeps => eq_of_save hvalid hsave hq' fun e he => hkept e he (hkeeps e he)
  refine ⟨hids.eq_none (failsBy_load hskeleton q), ⟨q', hq', hkept, hlost, ⟨?_, heq⟩, ?_⟩,
    fun value label c => Choice.isPlain_of_ofTree?⟩
  · rintro rfl e he hloses
    rw [hlost e he hloses] at hloses
    exact e.2.not_loses_none hloses
  · intro hplain
    refine heq ?_
    rintro e he ⟨htype, n, hsaved, hnone⟩
    rw [get?_save hvalid hsave he] at hsaved
    obtain ⟨c, hc, hdenotes⟩ := exists_choice_of_given? hskeleton hids he htype hsaved
    exact hnone c hc (hplain e he c hc n hdenotes)

/-- A choice that is the string 01 and a choice that is the number 2. -/
def respelledText : String :=
  "[\x7b\"name\":\"s\",\"title\":\"\",\"variables\":["
    ++ "\x7b\"name\":\"m\",\"title\":\"\",\"type\":\"choice\",\"choices\":[[\"01\",\"A\"]]\x7d,"
    ++ "\x7b\"name\":\"k\",\"title\":\"\",\"type\":\"choice\",\"choices\":[[2,\"B\"]]\x7d]\x7d]"

/-- The setting that `respelledText` has. -/
def respelled : Setting :=
  ⟨"s", "", [.single ⟨"m", "", .choice, [⟨"01", "A"⟩]⟩, .single ⟨"k", "", .choice, [⟨"2", "B"⟩]⟩]⟩

theorem ofText_respelled : Schema.ofText respelledText = .ok ⟨[respelled]⟩ := by
  decide +kernel

/-- What the form saves when nothing was entered. -/
def respelledValues : Payload :=
  (Payload.empty.insert "s" "m" (.int 1)).insert "s" "k" (.int 2)

theorem save_respelled :
    (after ⟨[respelled]⟩ []).save ⟨[respelled]⟩ = .ok respelledValues := by
  decide

/-- The number is kept and the string is lost. -/
theorem reload_loses_only_respelled_choices_string :
    Schema.ofText respelledText = .ok ⟨[respelled]⟩ ∧ Schema.OwnIds ⟨[respelled]⟩
      ∧ (after ⟨[respelled]⟩ []).save ⟨[respelled]⟩ = .ok respelledValues
      ∧ ∃ q', ((after ⟨[respelled]⟩ []).load ⟨[respelled]⟩ respelledValues).1.save ⟨[respelled]⟩
          = .ok q' ∧ q'.get? "s" "m" = none ∧ q'.get? "s" "k" = some (.int 2) := by
  have hids : Schema.OwnIds ⟨[respelled]⟩ := by decide
  refine ⟨ofText_respelled, hids, save_respelled, ?_⟩
  obtain ⟨-, ⟨q', hq', hkept, hlost, -⟩, -⟩ :=
    reload_loses_only_respelled_choices ofText_respelled hids [] save_respelled
  refine ⟨q', hq', hlost (respelled, ⟨"m", "", .choice, [⟨"01", "A"⟩]⟩) (by decide) ?_,
    (hkept (respelled, ⟨"k", "", .choice, [⟨"2", "B"⟩]⟩) (by decide) ?_).trans (by decide)⟩
  · exact ⟨rfl, 1, by decide, by decide⟩
  · rintro ⟨-, n, hsaved, hnone⟩
    have hn : n = 2 := by
      have htwo : respelledValues.get? "s" "k" = some (.int 2) := by decide
      exact Value.int.inj (Option.some.inj (hsaved.symm.trans htwo))
    subst hn
    exact hnone ⟨"2", "B"⟩ (by decide) (by decide)

/-- A schema is accepted whose form, loaded with what it saved, does not save it again. -/
theorem saved_choice_not_found_again :
    Schema.ofText respelledText = .ok ⟨[respelled]⟩ ∧ Schema.OwnIds ⟨[respelled]⟩
      ∧ (after ⟨[respelled]⟩ []).save ⟨[respelled]⟩ = .ok respelledValues
      ∧ ((after ⟨[respelled]⟩ []).load ⟨[respelled]⟩ respelledValues).2 = none
      ∧ ((after ⟨[respelled]⟩ []).load ⟨[respelled]⟩ respelledValues).1.save ⟨[respelled]⟩
          ≠ .ok respelledValues :=
  ⟨ofText_respelled, by decide, save_respelled, by decide, by decide⟩

end Form

end DeviceSetup
