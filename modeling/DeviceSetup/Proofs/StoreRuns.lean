import Mathlib
import DeviceSetup.Proofs.PasswordFlow
import DeviceSetup.Proofs.SavedPayload

/-!
# What a store holds after a run of payloads

A device is offered one payload after the other. A payload is refused for the first variable
to which it gives a value of another kind than the variable wants, and then nothing of it is
stored. Otherwise it leaves a value for every variable that it names. So after a run each
variable holds the value that the last accepted payload with a value for it gave, cut to the
width of its type (`get?_run`), and nothing else is held (`sound_run`).

Both come from one table: `stored_eq` says what becomes of a value by the kind that the
variable wants and the kind that the value has.
-/

namespace DeviceSetup

/-! ## Kinds -/

/-- The kinds of values that variables want. Each has one complaint, so a refusal says which kind
was wanted and not for which variable. -/
inductive ValueKind where
  | text
  | int
  | bool
  deriving Repr, DecidableEq

/-- What is said of a value that is not of the kind that is wanted. -/
def ValueKind.refusal : ValueKind → ConfigError
  | .text => .notText
  | .int => .notInt
  | .bool => .notBool

/-- The kind of a value; octets are of none that is wanted. -/
def Value.kind? : Value → Option ValueKind
  | .text _ => some .text
  | .int _ => some .int
  | .bool _ => some .bool
  | .bytes _ => none

namespace FieldType

/-- The kind that a variable wants; none for a device id and a type that is not supported. -/
def kind? : FieldType → Option ValueKind
  | .username | .password | .hostname | .text | .ssid => some .text
  | .port | .choice => some .int
  | .checkbox => some .bool
  | .deviceId | .unsupported _ => none

/-- The values that a variable may hold in the store. Unlike what a field gives, a text may be
empty, and the numbers are within the width of their type. -/
inductive Holds : FieldType → Value → Prop where
  | text {type : FieldType} (htype : type.isText = true) (s : String) : Holds type (.text s)
  | port {n : Int64} (hlo : 0 ≤ n.toInt) (hhi : n.toInt ≤ 65535) : Holds .port (.int n)
  | choice {n : Int64} (hlo : -2147483648 ≤ n.toInt) (hhi : n.toInt ≤ 2147483647) :
      Holds .choice (.int n)
  | checkbox (b : Bool) : Holds .checkbox (.bool b)

/-- **What becomes of a value that is given to a variable.** The table of types in three lines: no
kind is wanted, or the kind is right, or it is wrong. -/
theorem stored_eq (type : FieldType) (x : Value) :
    type.stored x = match type.kind? with
      | none => .ok none
      | some k => if x.kind? = some k then .ok (some (type.kept x)) else .error k.refusal := by
  cases type with
  | port =>
      cases x with
      | int n => simp only [stored, kind?, Value.kind?, if_true, kept, storedPort_eq]
      | text s => rfl
      | bool b => rfl
      | bytes bs => rfl
  | choice =>
      cases x with
      | int n => simp only [stored, kind?, Value.kind?, if_true, kept, storedChoice_eq]
      | text s => rfl
      | bool b => rfl
      | bytes bs => rfl
  | username | password | hostname | text | ssid => cases x <;> rfl
  | checkbox => cases x <;> rfl
  | deviceId | unsupported name => rfl

/-- A value of the wanted kind is cut to one that the variable may hold. -/
theorem holds_kept {type : FieldType} {x : Value} {k : ValueKind} (htype : type.kind? = some k)
    (hx : x.kind? = some k) : type.Holds (type.kept x) := by
  cases type with
  | port =>
      cases htype
      cases x <;> simp only [Value.kind?, Option.some.injEq, reduceCtorEq] at hx
      rename_i n
      -- 16 bits and no sign
      have hlo := Int.emod_nonneg n.toInt (show (65536 : Int) ≠ 0 by decide)
      have hhi := Int.emod_lt_of_pos n.toInt (show (0 : Int) < 65536 by decide)
      have hint := Int64.toInt_ofInt_of_le (n := n.toInt % 65536) (by omega) (by omega)
      exact .port (by omega) (by omega)
  | choice =>
      cases htype
      cases x <;> simp only [Value.kind?, Option.some.injEq, reduceCtorEq] at hx
      rename_i n
      -- 32 bits with a sign
      have hlo := Int.le_bmod (x := n.toInt) (m := 4294967296) (by decide)
      have hhi := Int.bmod_lt (x := n.toInt) (m := 4294967296) (by decide)
      have hint := Int64.toInt_ofInt_of_le (n := n.toInt.bmod 4294967296) (by omega) (by omega)
      exact .choice (by omega) (by omega)
  | checkbox =>
      cases htype
      cases x <;> simp only [Value.kind?, Option.some.injEq, reduceCtorEq] at hx
      exact .checkbox _
  | username | password | hostname | text | ssid =>
      cases htype
      cases x <;> simp only [Value.kind?, Option.some.injEq, reduceCtorEq] at hx
      exact .text rfl _
  | deviceId | unsupported name => cases htype

/-- What may be held is of the kind that is wanted. -/
theorem Holds.kind {type : FieldType} {x : Value} (h : type.Holds x) :
    ∃ k, type.kind? = some k ∧ x.kind? = some k := by
  cases h with
  | text htype s => cases type <;> simp only [isText, reduceCtorEq] at htype <;> exact ⟨_, rfl, rfl⟩
  | port hlo hhi => exact ⟨_, rfl, rfl⟩
  | choice hlo hhi => exact ⟨_, rfl, rfl⟩
  | checkbox b => exact ⟨_, rfl, rfl⟩

end FieldType

/-! ## Refusals -/

/-- The payload gives the variable, which wants values of kind `k`, a value that is of another. -/
def Payload.Misfits (p : Payload) (e : Setting × Variable) (k : ValueKind) : Prop :=
  e.2.type.kind? = some k ∧ ∃ x, p.get? e.1.name e.2.name = some x ∧ x.kind? ≠ some k

/-- The first of some variables that the payload does not suit wants values of kind `k`. The order
is that of the schema, not that of the payload. -/
def Payload.FirstMisfit (p : Payload) (vars : List (Setting × Variable)) (k : ValueKind) : Prop :=
  ∃ before e after, vars = before ++ e :: after ∧ p.Misfits e k ∧
    ∀ d ∈ before, ∀ k', ¬ p.Misfits d k'

namespace Store

section

variable {p : Payload} {e : Setting × Variable}

/--
**A payload is refused on account of a variable exactly if it does not suit the variable.**

Only the kinds are compared. A number of the right kind is never refused, however large it is.
-/
theorem fault?_eq_some_iff {why : ConfigError} :
    fault? p e = some why ↔ ∃ k, p.Misfits e k ∧ why = k.refusal := by
  unfold fault? Payload.Misfits
  cases hget : p.get? e.1.name e.2.name with
  | none => simp
  | some x =>
      simp only [FieldType.stored_eq]
      cases hkind : e.2.type.kind? with
      | none => simp
      | some k =>
          by_cases hx : x.kind? = some k
          · simp [hx]
          · have hswap : k.refusal = why ↔ why = k.refusal := eq_comm
            simp [hx, hswap]

theorem fault?_eq_none_iff : fault? p e = none ↔ ∀ k, ¬ p.Misfits e k := by
  rw [Option.eq_none_iff_forall_not_mem]
  constructor
  · intro h k hk
    exact h k.refusal (fault?_eq_some_iff.mpr ⟨k, hk, rfl⟩)
  · intro h why hwhy
    obtain ⟨k, hk, -⟩ := fault?_eq_some_iff.mp hwhy
    exact h k hk

/-- Of a payload that suits a variable the value is taken, cut to its width. -/
theorem taken?_of_kind {k : ValueKind} (hkind : e.2.type.kind? = some k) (h : ¬ p.Misfits e k) :
    taken? p e = (p.get? e.1.name e.2.name).map e.2.type.kept := by
  unfold taken?
  cases hget : p.get? e.1.name e.2.name with
  | none => rfl
  | some x =>
      have hx : x.kind? = some k := by
        by_contra hne
        exact h ⟨hkind, x, hget, hne⟩
      simp only [FieldType.stored_eq, hkind, hx, if_true, Option.map_some]

/-- For a variable that wants nothing, nothing is taken. -/
theorem taken?_of_no_kind (hkind : e.2.type.kind? = none) : taken? p e = none := by
  unfold taken?
  cases p.get? e.1.name e.2.name with
  | none => rfl
  | some x => simp only [FieldType.stored_eq, hkind]

end

/-- The schema's variables are gone through in order, and the first that does not fit decides. -/
theorem apply_eq_error_iff {s : Store} {p : Payload} {why : ConfigError} :
    s.apply p = .error why ↔ ∃ k, p.FirstMisfit s.schema.vars k ∧ why = k.refusal := by
  have herror : s.apply p = .error why ↔ s.schema.vars.findSome? (fault? p) = some why := by
    rw [apply_eq]
    cases s.schema.vars.findSome? (fault? p) <;> simp
  rw [herror, List.findSome?_eq_some_iff]
  constructor
  · rintro ⟨before, e, after, hvars, hfault, hbefore⟩
    obtain ⟨k, hk, rfl⟩ := fault?_eq_some_iff.mp hfault
    exact ⟨k, ⟨before, e, after, hvars, hk, fun d hd => fault?_eq_none_iff.mp (hbefore d hd)⟩, rfl⟩
  · rintro ⟨k, ⟨before, e, after, hvars, hk, hbefore⟩, rfl⟩
    exact ⟨before, e, after, hvars, fault?_eq_some_iff.mpr ⟨k, hk, rfl⟩,
      fun d hd => fault?_eq_none_iff.mpr (hbefore d hd)⟩

/-- A payload that is taken suits every variable. -/
theorem not_misfits_of_apply {s s' : Store} {p : Payload} (h : s.apply p = .ok s')
    {e : Setting × Variable} (he : e ∈ s.schema.vars) (k : ValueKind) : ¬ p.Misfits e k :=
  fault?_eq_none_iff.mp (List.findSome?_eq_none_iff.mp (apply_eq_ok_iff.mp h).1 e he) k

/-- A payload is refused exactly if there is a variable that it does not suit. -/
theorem exists_error_iff {s : Store} {p : Payload} :
    (∃ why, s.apply p = .error why) ↔ ∃ e ∈ s.schema.vars, ∃ k, p.Misfits e k := by
  constructor
  · rintro ⟨why, h⟩
    obtain ⟨k, ⟨before, e, after, hvars, hk, -⟩, -⟩ := apply_eq_error_iff.mp h
    exact ⟨e, hvars ▸ List.mem_append_right _ List.mem_cons_self, k, hk⟩
  · rintro ⟨e, he, k, hk⟩
    cases h : s.apply p with
    | error why => exact ⟨why, rfl⟩
    | ok s' => exact absurd hk (not_misfits_of_apply h he k)

/-! ## Runs -/

/-- The store after it was offered some payloads, one after the other. -/
def run (s : Store) (ps : List Payload) : Store :=
  ps.foldl (fun s p => (s.offer p).1) s

/-- The payloads of a run that are accepted, each by the store as it is when it comes. -/
def accepted (s : Store) : List Payload → List Payload
  | [] => []
  | p :: rest =>
    match s.apply p with
    | .ok s' => p :: s'.accepted rest
    | .error _ => s.accepted rest

end Store

/-- The value that the last of some payloads with a value for a variable gives it. -/
def Payload.lastGiven? (ps : List Payload) (setting name : String) : Option Value :=
  ps.reverse.findSome? fun p => p.get? setting name

/-- What is given later goes before what is given first. -/
theorem Payload.lastGiven?_cons (p : Payload) (ps : List Payload) (setting name : String) :
    lastGiven? (p :: ps) setting name = (lastGiven? ps setting name).or (p.get? setting name) := by
  unfold lastGiven?
  rw [List.reverse_cons, List.findSome?_append, List.findSome?_singleton]

namespace Store

theorem run_append (s : Store) (ps qs : List Payload) : s.run (ps ++ qs) = (s.run ps).run qs :=
  List.foldl_append

theorem schema_offer (s : Store) (p : Payload) : (s.offer p).1.schema = s.schema := by
  cases h : s.apply p with
  | ok s' => rw [offer_of_ok h, schema_apply h]
  | error why => rw [offer_of_error h]

theorem schema_run (s : Store) (ps : List Payload) : (s.run ps).schema = s.schema := by
  induction ps generalizing s with
  | nil => rfl
  | cons p ps ih => exact (ih (s.offer p).1).trans (schema_offer s p)

/-- **After a run a variable holds what the last accepted payload with a value for it gave.**
Refused payloads might as well not have come. -/
theorem get?_run {s : Store} (hvalid : s.schema.validate = .ok ()) {e : Setting × Variable}
    (he : e ∈ s.schema.vars) {k : ValueKind} (hkind : e.2.type.kind? = some k)
    (ps : List Payload) :
    (s.run ps).values.get? e.1.name e.2.name
      = ((Payload.lastGiven? (s.accepted ps) e.1.name e.2.name).map e.2.type.kept).or
          (s.values.get? e.1.name e.2.name) := by
  induction ps generalizing s with
  | nil => rfl
  | cons p ps ih =>
      rw [run, List.foldl_cons, accepted]
      cases h : s.apply p with
      | error why =>
          rw [offer_of_error h]
          exact ih hvalid he
      | ok s' =>
          have hschema := schema_apply h
          have hstep := get?_apply hvalid h he
          rw [taken?_of_kind hkind (not_misfits_of_apply h he k)] at hstep
          have hrest := ih (hschema ▸ hvalid) (hschema ▸ he)
          -- what the rest gives goes before what this payload gives, and that before what was there
          rw [hstep] at hrest
          rw [offer_of_ok h, Payload.lastGiven?_cons, Option.map_or, Option.or_assoc]
          exact hrest

/-- Whatever is held is held for a variable, and is a value that the variable may hold. This is what
every payload keeps, and so what a store can be relied on for. -/
def Sound (s : Store) : Prop :=
  ∀ setting name x, s.values.get? setting name = some x →
    ∃ e ∈ s.schema.vars, Schema.key e = (setting, name) ∧ e.2.type.Holds x

theorem sound_empty (schema : Schema) (deviceId : Bytes) : (empty schema deviceId).Sound := by
  intro setting name x hx
  cases hx

/-- A payload that is taken brings only values that were checked and cut. -/
theorem sound_apply {s s' : Store} {p : Payload} (hvalid : s.schema.validate = .ok ())
    (h : s.apply p = .ok s') (hs : s.Sound) : s'.Sound := by
  intro setting name x hx
  rw [schema_apply h]
  by_cases hkey : (setting, name) ∈ s.schema.vars.map Schema.key
  · obtain ⟨e, he, heq⟩ := List.mem_map.mp hkey
    obtain ⟨rfl, rfl⟩ := Prod.mk.inj heq
    rw [get?_apply hvalid h he, Option.or_eq_some_iff] at hx
    rcases hx with htaken | ⟨-, hold⟩
    · -- the value comes from this payload
      cases hkind : e.2.type.kind? with
      | none =>
          rw [taken?_of_no_kind hkind] at htaken
          cases htaken
      | some k =>
          have hsuits := not_misfits_of_apply h he k
          rw [taken?_of_kind hkind hsuits] at htaken
          obtain ⟨y, hy, rfl⟩ := Option.map_eq_some_iff.mp htaken
          refine ⟨e, he, rfl, FieldType.holds_kept hkind ?_⟩
          by_contra hne
          exact hsuits ⟨hkind, y, hy, hne⟩
    · exact hs _ _ x hold
  · -- no variable has the names, so nothing was stored under them
    rw [get?_apply_of_not_mem h hkey] at hx
    exact hs _ _ x hx

theorem sound_offer {s : Store} (hvalid : s.schema.validate = .ok ()) (hs : s.Sound)
    (p : Payload) : (s.offer p).1.Sound := by
  cases h : s.apply p with
  | ok s' =>
      rw [offer_of_ok h]
      exact sound_apply hvalid h hs
  | error why =>
      rw [offer_of_error h]
      exact hs

/--
**A store that holds only what it may does so after every run.**

It does not matter what the payloads are, or how many of them were refused on the way.
-/
theorem sound_run {s : Store} (hvalid : s.schema.validate = .ok ()) (hs : s.Sound)
    (ps : List Payload) : (s.run ps).Sound := by
  induction ps generalizing s with
  | nil => exact hs
  | cons p ps ih => exact ih (schema_offer s p ▸ hvalid) (sound_offer hvalid hs p)

section Sound

variable {s : Store}

/-- With names of their own, the variable that a value is held for is the one that has the names. -/
theorem Sound.holds (hs : s.Sound) (hvalid : s.schema.validate = .ok ()) {e : Setting × Variable}
    (he : e ∈ s.schema.vars) {x : Value} (hx : s.values.get? e.1.name e.2.name = some x) :
    e.2.type.Holds x := by
  obtain ⟨d, hd, hkey, hholds⟩ := hs _ _ x hx
  have heq : d = e := List.inj_on_of_nodup_map (Schema.nodup_keys_vars hvalid) hd he hkey
  exact heq ▸ hholds

/-- Nothing is held under names that no variable which wants a value has. -/
theorem Sound.get?_eq_none (hs : s.Sound) {setting name : String}
    (h : ∀ e ∈ s.schema.vars, Schema.key e = (setting, name) → e.2.type.kind? = none) :
    s.values.get? setting name = none := by
  rw [Option.eq_none_iff_forall_not_mem]
  intro x hx
  obtain ⟨e, he, hkey, hholds⟩ := hs _ _ x hx
  obtain ⟨k, hkind, -⟩ := hholds.kind
  rw [h e he hkey] at hkind
  cases hkind

end Sound

end Store

/-! ## Requests -/

namespace Server

/-- A body is let in, and then it is not too long, or it is answered with another status than
200. -/
theorem bodyRefusal?_cases (r : ServerRequest) :
    (bodyRefusal? r = none ∧ r.body.length ≤ maxBodyBytes) ∨
      ∃ refusal, bodyRefusal? r = some refusal ∧ refusal.status ≠ 200 := by
  -- the actual length is looked at with and without a stated one
  have hactual : ∀ o, o = (if maxBodyBytes < r.body.length then some bodyTooLong else none) →
      (o = none ∧ r.body.length ≤ maxBodyBytes) ∨
        ∃ refusal, o = some refusal ∧ refusal.status ≠ 200 := by
    rintro o rfl
    split
    · exact .inr ⟨bodyTooLong, rfl, by decide⟩
    · rename_i hle
      exact .inl ⟨rfl, Nat.not_lt.mp hle⟩
  unfold bodyRefusal?
  dsimp only
  split
  · exact hactual _ rfl
  · -- a length is stated
    split
    · exact .inr ⟨lengthUnknown, rfl, by decide⟩
    · split
      · exact .inr ⟨bodyTooLong, rfl, by decide⟩
      · exact hactual _ rfl

/-- A configuration that is saved was short enough, could be read, and was taken by the store. -/
theorem saveConfig_eq_none {s : Server} {r : ServerRequest} {store : Store}
    (h : s.saveConfig r = (store, none)) :
    r.body.length ≤ s.maxConfigBytes ∧ ∃ p,
      (WireFormat.ofContentType (r.header? "content-type")).decode r.body = .ok p ∧
        s.store.apply p = .ok store := by
  unfold saveConfig at h
  split at h
  · cases h
  rename_i hsize
  split at h
  · cases h
  · rename_i p hdecode
    refine ⟨Nat.not_lt.mp hsize, p, hdecode, ?_⟩
    unfold Store.apply
    rw [h]

/-- A request that is refused leaves the store as it was. -/
theorem saveConfig_eq_some {s : Server} {r : ServerRequest} {store : Store} {why : ConfigError}
    (h : s.saveConfig r = (store, some why)) : store = s.store := by
  rcases saveConfig_cases s.maxConfigBytes r with ⟨why', hwhy⟩ | ⟨p, hp⟩
  · rw [hwhy s rfl] at h
    exact (Prod.mk.inj h).1.symm
  · rw [hp s rfl] at h
    cases happly : s.store.apply p with
    | ok store' =>
        rw [Store.offer_of_ok happly] at h
        cases h
    | error why' =>
        rw [Store.offer_of_error happly] at h
        exact (Prod.mk.inj h).1.symm

theorem postConfig_of_none {s : Server} {r : ServerRequest} {store : Store}
    (hbody : bodyRefusal? r = none) (hsave : s.saveConfig r = (store, none)) :
    s.postConfig r = ({ s with store }, ⟨200, none, Utf8.encode "Saved"⟩) := by
  unfold postConfig
  rw [hbody, hsave]

theorem postConfig_of_some {r : ServerRequest} {refusal : ServerReply}
    (h : bodyRefusal? r = some refusal) (s : Server) : s.postConfig r = (s, refusal) := by
  unfold postConfig
  rw [h]

/-- **A configuration is taken and stored, or the device stays as it is.** A page can tell by the
status which of the two it was. -/
theorem postConfig_cases (s : Server) (r : ServerRequest) :
    (∃ store, s.saveConfig r = (store, none) ∧ s.postConfig r
        = ({ s with store }, ⟨200, none, Utf8.encode "Saved"⟩)) ∨
      ((s.postConfig r).1 = s ∧ (s.postConfig r).2.status ≠ 200) := by
  rcases bodyRefusal?_cases r with ⟨hbody, -⟩ | ⟨refusal, hbody, hstatus⟩
  · rcases hsave : s.saveConfig r with ⟨store, why?⟩
    cases why? with
    | none => exact .inl ⟨store, rfl, postConfig_of_none hbody hsave⟩
    | some why =>
        obtain rfl := saveConfig_eq_some hsave
        unfold postConfig
        rw [hbody, hsave]
        exact .inr ⟨rfl, (by decide : (400 : Nat) ≠ 200)⟩
  · rw [postConfig_of_some hbody]
    exact .inr ⟨rfl, hstatus⟩

/-- How a request to save goes at a device: the device changes only with an answer of 200, and
then as its store does by the payload in the request. -/
structure AnswersSave (s : Server) (r : ServerRequest) : Prop where
  refused : (s.postConfig r).2.status ≠ 200 → (s.postConfig r).1 = s
  taken : (s.postConfig r).2.status = 200 → ∃ p,
    (WireFormat.ofContentType (r.header? "content-type")).decode r.body = .ok p ∧
      s.store.apply p = .ok (s.postConfig r).1.store
  /-- A payload that fits is taken, if its body is not too long. -/
  takes : bodyRefusal? r = none → r.body.length ≤ s.maxConfigBytes → ∀ p store,
    (WireFormat.ofContentType (r.header? "content-type")).decode r.body = .ok p →
      s.store.apply p = .ok store → (s.postConfig r).2.status = 200

/-- Every request to save goes so, at every device. -/
theorem answersSave (s : Server) (r : ServerRequest) : s.AnswersSave r := by
  have htakes : bodyRefusal? r = none → r.body.length ≤ s.maxConfigBytes → ∀ p store,
      (WireFormat.ofContentType (r.header? "content-type")).decode r.body = .ok p →
        s.store.apply p = .ok store → (s.postConfig r).2.status = 200 := by
    intro hbody hsize p store hdecode happly
    have hsave := saveConfig_of_decode hsize hdecode
    rw [Store.offer_of_ok happly] at hsave
    rw [postConfig_of_none hbody hsave]
  rcases s.postConfig_cases r with ⟨store, hsave, hpost⟩ | ⟨hsame, hstatus⟩
  · obtain ⟨-, p, hdecode, happly⟩ := saveConfig_eq_none hsave
    refine ⟨?_, ?_, htakes⟩
    · rw [hpost]
      exact fun h => absurd rfl h
    · rw [hpost]
      exact fun _ => ⟨p, hdecode, happly⟩
  · exact ⟨fun _ => hsame, fun h => absurd h hstatus, htakes⟩

end Server

/-! ## The store over a run -/

namespace Store

/-- What a store on a schema does and holds once it has accepted some payloads, and no others. -/
structure Outcome (schema : Schema) (accepted : List Payload) (s : Store) : Prop where
  refuses : ∀ p, (∃ why, s.apply p = .error why) ↔ ∃ e ∈ schema.vars, ∃ k, p.Misfits e k
  /-- The first variable that a payload does not suit gives the error. -/
  error : ∀ p why, s.apply p = .error why ↔
    ∃ k, p.FirstMisfit schema.vars k ∧ why = k.refusal
  unchanged : ∀ p why, s.apply p = .error why → (s.offer p).1 = s
  /-- A variable that wants a value holds the last one it was given, if any. -/
  last : ∀ e ∈ schema.vars, e.2.type.kind? ≠ none →
    (s.stored e.1.name).get? e.2.name
      = (Payload.lastGiven? accepted e.1.name e.2.name).map e.2.type.kept
  /-- Under all other names nothing is held. -/
  nothing : ∀ setting name,
    (∀ e ∈ schema.vars, Schema.key e = (setting, name) → e.2.type.kind? = none) →
      (s.stored setting).get? name = none
  range : ∀ e ∈ schema.vars, ∀ x, (s.stored e.1.name).get? e.2.name = some x → e.2.type.Holds x

/--
**A store over whole runs.**

After any payloads a new store refuses just the payloads with a value of the wrong kind, for the
first such value and without a trace; it holds the last value that was accepted for each variable,
within the range of its type, and nothing besides; and a request that is not answered with 200
leaves a device and its store alone.

What a device holds can thus be told from the payloads that it has accepted. No refused payload,
and no order in which payloads came, leaves anything in it that was not asked for.
-/
theorem contents_after_run {schema : Schema} (hvalid : schema.validate = .ok ())
    (deviceId : Bytes) (ps : List Payload) :
    Outcome schema ((empty schema deviceId).accepted ps) ((empty schema deviceId).run ps) ∧
      ∀ (server : Server) (r : ServerRequest), server.AnswersSave r := by
  have hschema : ((empty schema deviceId).run ps).schema = schema := schema_run _ ps
  have hsound : ((empty schema deviceId).run ps).Sound :=
    sound_run hvalid (sound_empty schema deviceId) ps
  have hstored : ∀ setting name, (((empty schema deviceId).run ps).stored setting).get? name
      = ((empty schema deviceId).run ps).values.get? setting name :=
    Payload.valuesOf_get? _
  refine ⟨⟨?refuses, ?error, ?unchanged, ?last, ?nothing, ?range⟩, Server.answersSave⟩
  case refuses =>
    intro p
    rw [exists_error_iff, hschema]
  case error =>
    intro p why
    rw [apply_eq_error_iff, hschema]
  case unchanged =>
    intro p why h
    rw [offer_of_error h]
  case last =>
    intro e he hkind
    obtain ⟨k, hk⟩ := Option.ne_none_iff_exists'.mp hkind
    rw [hstored, get?_run hvalid he hk]
    exact Option.or_none
  case nothing =>
    intro setting name h
    rw [← hschema] at h
    rw [hstored]
    exact hsound.get?_eq_none h
  case range =>
    intro e he x hx
    rw [hstored] at hx
    rw [← hschema] at he
    exact hsound.holds (by rw [hschema]; exact hvalid) he hx

/-- A port of more than 16 bits, with a password. -/
def firstBrokerPayload : Payload :=
  .ofEntries [("mqtt", [("key", .text "secret"), ("port", .int 70000)])]

/-- Another port, with a number for a checkbox. -/
def wrongBrokerPayload : Payload :=
  .ofEntries [("mqtt", [("port", .int 1), ("tls", .int 1)])]

/-- A negative port, a device id and a setting that the schema does not have. -/
def lastBrokerPayload : Payload :=
  .ofEntries [("log", [("level", .int 3)]), ("mqtt", [("id", .text "ff"), ("port", .int (-1))])]

theorem contents_after_run_broker :
    brokerSchema.validate = .ok () ∧
    Outcome brokerSchema [firstBrokerPayload, lastBrokerPayload]
      ((empty brokerSchema [1, 2]).run
        [firstBrokerPayload, wrongBrokerPayload, lastBrokerPayload]) ∧
    (((empty brokerSchema [1, 2]).run
      [firstBrokerPayload, wrongBrokerPayload, lastBrokerPayload]).stored "mqtt").get? "port"
        = some (.int 65535) := by
  have hvalid : brokerSchema.validate = .ok () := by decide
  have haccepted : (empty brokerSchema [1, 2]).accepted
      [firstBrokerPayload, wrongBrokerPayload, lastBrokerPayload]
        = [firstBrokerPayload, lastBrokerPayload] := by decide
  have hrun := (contents_after_run hvalid [1, 2]
    [firstBrokerPayload, wrongBrokerPayload, lastBrokerPayload]).1
  rw [haccepted] at hrun
  have hport := hrun.last (_, ⟨"port", "Port", .port, []⟩) List.mem_cons_self
    (Option.some_ne_none ValueKind.int)
  exact ⟨hvalid, hrun, hport.trans (by decide)⟩

end Store

end DeviceSetup
