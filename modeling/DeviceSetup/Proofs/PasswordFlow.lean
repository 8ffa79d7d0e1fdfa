import Mathlib
import DeviceSetup.Device.Server
import DeviceSetup.Proofs.StoreContents

/-!
# Passwords do not flow out of the device

Two devices are alike if they differ at most in the values of password variables. Calls are
paired if they are the same, or if both save a configuration and the two payloads differ at
most in the passwords they give. A pair of calls to devices that are alike gets the same
answer and leaves them alike (`handle_paired`), so two runs of paired calls cannot be told
apart.

This rests on the names of a valid schema: no other variable is stored where a password is.
-/

namespace DeviceSetup

/-- Whether the names are those of a password variable. A payload is read by names, so this is how
passwords are told from the rest of it. -/
def Schema.IsPassword (schema : Schema) (s n : String) : Prop :=
  ∃ e ∈ schema.vars, Schema.key e = (s, n) ∧ e.2.type = .password

theorem Schema.not_isPassword {schema : Schema} (hvalid : schema.validate = .ok ())
    {e : Setting × Variable} (he : e ∈ schema.vars) (htype : e.2.type ≠ .password) :
    ¬ schema.IsPassword e.1.name e.2.name := by
  rintro ⟨d, hd, hkey, hpassword⟩
  -- names are not used twice, so the password would be this very variable
  have heq : d = e := List.inj_on_of_nodup_map (Schema.nodup_keys_vars hvalid) hd he hkey
  exact htype (heq ▸ hpassword)

/-! ## Payloads that differ in passwords -/

/-- Nothing, or a text. -/
def Value.IsTextIfAny (x : Option Value) : Prop :=
  ∀ y, x = some y → ∃ t, y = .text t

/-- Payloads that differ at most in whether, and as which text, passwords are given. A password of
another type is no text to keep secret but a mistake that the device may complain about, so there
they must be the same. -/
structure Payload.Alike (schema : Schema) (p p' : Payload) : Prop where
  password : ∀ s n, schema.IsPassword s n → p.get? s n = p'.get? s n ∨
    (Value.IsTextIfAny (p.get? s n) ∧ Value.IsTextIfAny (p'.get? s n))
  other : ∀ s n, ¬ schema.IsPassword s n → p.get? s n = p'.get? s n

theorem Payload.Alike.refl (schema : Schema) (p : Payload) : p.Alike schema p :=
  ⟨fun _ _ _ => .inl rfl, fun _ _ _ => rfl⟩

/-- A payload with a password and the same payload without it. -/
theorem Payload.Alike.insert_password {schema : Schema} {s n : String}
    (hkey : schema.IsPassword s n) {p : Payload} (hp : Value.IsTextIfAny (p.get? s n))
    (t : String) : (p.insert s n (.text t)).Alike schema p where
  password s' n' _ := by
    rw [get?_insert]
    split
    · rename_i hsame
      rw [hsame.1, hsame.2]
      exact .inr ⟨fun y hy => ⟨t, (Option.some.inj hy).symm⟩, hp⟩
    · exact .inl rfl
  other s' n' hno := by
    rw [get?_insert, if_neg]
    rintro ⟨rfl, rfl⟩
    exact hno hkey

/-- Stores that differ at most in the passwords they hold. -/
structure Store.Alike (a b : Store) : Prop where
  schema : b.schema = a.schema
  deviceId : b.deviceId = a.deviceId
  values : ∀ s n, ¬ a.schema.IsPassword s n → a.values.get? s n = b.values.get? s n

namespace Store

/-- Any text is a password, so a text in its place is never a fault. -/
theorem fault?_of_text {p : Payload} {e : Setting × Variable} (htype : e.2.type = .password)
    (h : Value.IsTextIfAny (p.get? e.1.name e.2.name)) : fault? p e = none := by
  unfold fault?
  cases hx : p.get? e.1.name e.2.name with
  | none => rfl
  | some x =>
      obtain ⟨t, rfl⟩ := h x hx
      rw [htype]
      rfl

section

variable {schema : Schema} {p p' : Payload} {e : Setting × Variable}

/-- Payloads that are alike are refused for the same reason. -/
theorem fault?_alike (hvalid : schema.validate = .ok ()) (h : p.Alike schema p')
    (he : e ∈ schema.vars) : fault? p e = fault? p' e := by
  by_cases htype : e.2.type = .password
  · rcases h.password e.1.name e.2.name ⟨e, he, rfl, htype⟩ with heq | ⟨htext, htext'⟩
    · unfold fault?
      rw [heq]
    · rw [fault?_of_text htype htext, fault?_of_text htype htext']
  · unfold fault?
    rw [h.other _ _ (Schema.not_isPassword hvalid he htype)]

theorem findSome?_fault?_alike (hvalid : schema.validate = .ok ()) (h : p.Alike schema p') :
    schema.vars.findSome? (fault? p) = schema.vars.findSome? (fault? p') := by
  rw [← List.head?_filterMap, ← List.head?_filterMap,
    List.filterMap_congr fun _ he => fault?_alike hvalid h he]

end

/-- Where alike payloads are taken, alike stores stay alike: whatever is not a password comes from
the payload in both or stays in both. -/
theorem alike_of_apply {a b a' b' : Store} (hvalid : a.schema.validate = .ok ()) (hab : a.Alike b)
    {p p' : Payload} (h : p.Alike a.schema p') (ha : a.apply p = .ok a')
    (hb : b.apply p' = .ok b') : a'.Alike b' where
  schema := by rw [schema_apply ha, schema_apply hb, hab.schema]
  deviceId := by rw [deviceId_apply ha, deviceId_apply hb, hab.deviceId]
  values s n hno := by
    rw [schema_apply ha] at hno
    by_cases hkey : (s, n) ∈ a.schema.vars.map Schema.key
    · obtain ⟨e, he, heq⟩ := List.mem_map.mp hkey
      obtain ⟨rfl, rfl⟩ := Prod.mk.inj heq
      have htaken : taken? p e = taken? p' e := by
        unfold taken?
        rw [h.other _ _ hno]
      rw [get?_apply hvalid ha he,
        get?_apply (hab.schema ▸ hvalid) hb (hab.schema ▸ he), htaken, hab.values _ _ hno]
    · rw [get?_apply_of_not_mem ha hkey, get?_apply_of_not_mem hb (hab.schema ▸ hkey),
        hab.values _ _ hno]

/--
**Alike payloads leave alike stores alike, or are refused alike.**

Even the reason is the same, so an error says nothing about a password either.
-/
theorem apply_alike {a b : Store} (hvalid : a.schema.validate = .ok ()) (hab : a.Alike b)
    {p p' : Payload} (h : p.Alike a.schema p') :
    (∃ why, a.apply p = .error why ∧ b.apply p' = .error why) ∨
      ∃ a' b', a.apply p = .ok a' ∧ b.apply p' = .ok b' ∧ a'.Alike b' ∧ a'.schema = a.schema := by
  have hfault : b.schema.vars.findSome? (fault? p') = a.schema.vars.findSome? (fault? p) := by
    rw [hab.schema, findSome?_fault?_alike hvalid h]
  cases hwhy : a.schema.vars.findSome? (fault? p) with
  | some why =>
      rw [hwhy] at hfault
      exact .inl ⟨why, by rw [apply_eq, hwhy], by rw [apply_eq, hfault]⟩
  | none =>
      rw [hwhy] at hfault
      have ha := apply_eq_ok_iff.mpr ⟨hwhy, rfl⟩
      have hb := apply_eq_ok_iff.mpr ⟨hfault, rfl⟩
      exact .inr ⟨_, _, ha, hb, alike_of_apply hvalid hab h ha hb, rfl⟩

/-- Stores that are alike give out the same: passwords are the values that are never shown. -/
theorem snapshot_alike {a b : Store} (hvalid : a.schema.validate = .ok ()) (hab : a.Alike b) :
    a.snapshot = b.snapshot := by
  refine snapshot_congr hab.schema fun e he => shown?_congr hab.deviceId fun htype => ?_
  exact hab.values _ _ (Schema.not_isPassword hvalid he htype)

end Store

/-! ## Devices and runs -/

namespace Server

/-- Devices that differ at most in the passwords they hold. -/
structure Alike (a b : Server) : Prop where
  store : a.store.Alike b.store
  cache : b.cache = a.cache
  settings : b.settings = a.settings
  maxConfigBytes : b.maxConfigBytes = a.maxConfigBytes

theorem Alike.refl (s : Server) : s.Alike s :=
  ⟨⟨rfl, rfl, fun _ _ _ => rfl⟩, rfl, rfl, rfl⟩

/-- A request with what lies around the device when it comes in. -/
structure Call where
  surroundings : Surroundings
  now : Nat
  request : ServerRequest

/-- The answers to some calls, one after the other. -/
def replies (s : Server) : List Call → List ServerReply
  | [] => []
  | c :: rest =>
    (s.handle c.surroundings c.now c.request).2
      :: (s.handle c.surroundings c.now c.request).1.replies rest

/-- A call that saves a configuration, in a body that is not too long. The length of a body depends
on the passwords in it, so whether it is too long is not asked of the two bodies alike. -/
structure Call.Saves (c : Call) (limit : Nat) (p : Payload) : Prop where
  method : c.request.method = "POST"
  path : pathOf c.request.path = "/config"
  body : bodyRefusal? c.request = none
  size : c.request.body.length ≤ limit
  payload : (WireFormat.ofContentType (c.request.header? "content-type")).decode c.request.body
    = .ok p

/-- Calls that differ at most in the passwords they give. -/
inductive Paired (schema : Schema) (limit : Nat) : Call → Call → Prop where
  | same (c : Call) : Paired schema limit c c
  | save {c c' : Call} {p p' : Payload} (hc : c.Saves limit p) (hc' : c'.Saves limit p')
      (h : p.Alike schema p') : Paired schema limit c c'

theorem saveConfig_of_decode {s : Server} {r : ServerRequest} {p : Payload}
    (hsize : r.body.length ≤ s.maxConfigBytes)
    (hdecode : (WireFormat.ofContentType (r.header? "content-type")).decode r.body = .ok p) :
    s.saveConfig r = s.store.offer p := by
  unfold saveConfig
  rw [if_neg (Nat.not_lt.mpr hsize), hdecode]

/-- A request is refused before the store is asked, or brings it a payload. -/
theorem saveConfig_cases (limit : Nat) (r : ServerRequest) :
    (∃ why, ∀ s : Server, s.maxConfigBytes = limit → s.saveConfig r = (s.store, some why)) ∨
      ∃ p, ∀ s : Server, s.maxConfigBytes = limit → s.saveConfig r = s.store.offer p := by
  by_cases hsize : limit < r.body.length
  · refine .inl ⟨.tooLarge, ?_⟩
    rintro s rfl
    unfold saveConfig
    rw [if_pos hsize]
  cases hdecode : (WireFormat.ofContentType (r.header? "content-type")).decode r.body with
  | error why =>
      refine .inl ⟨.unreadable, ?_⟩
      rintro s rfl
      unfold saveConfig
      rw [if_neg hsize, hdecode]
  | ok p =>
      refine .inr ⟨p, ?_⟩
      rintro s rfl
      exact saveConfig_of_decode (Nat.not_lt.mp hsize) hdecode

/-- What a step leaves alone, beside the store. -/
structure Keeps (s s' : Server) : Prop where
  schema : s'.store.schema = s.store.schema
  maxConfigBytes : s'.maxConfigBytes = s.maxConfigBytes

/-- What two answers to paired calls have in common. -/
structure SameAnswer (a : Server) (x y : Server × ServerReply) : Prop where
  reply : x.2 = y.2
  alike : x.1.Alike y.1
  keeps : a.Keeps x.1

section

variable {a b : Server}

theorem sameAnswer_unchanged (hab : a.Alike b) (reply : ServerReply) :
    SameAnswer a (a, reply) (b, reply) :=
  ⟨rfl, hab, rfl, rfl⟩

/-- A configuration saved on both devices, with passwords that may differ. -/
theorem sameAnswer_save (hvalid : a.store.schema.validate = .ok ()) (hab : a.Alike b)
    {r r' : ServerRequest} (hrefusal : bodyRefusal? r = bodyRefusal? r')
    {p p' : Payload} (hp : p.Alike a.store.schema p')
    (hr : a.saveConfig r = a.store.offer p) (hr' : b.saveConfig r' = b.store.offer p') :
    SameAnswer a (a.postConfig r) (b.postConfig r') := by
  unfold postConfig
  rw [← hrefusal, hr, hr']
  cases bodyRefusal? r with
  | some refusal => exact sameAnswer_unchanged hab refusal
  | none =>
      -- refused by both for one reason, or taken by both
      rcases Store.apply_alike hvalid hab.store hp with ⟨why, ha, hb⟩ | ⟨s, s', ha, hb, hs, hschema⟩
      · rw [Store.offer_of_error ha, Store.offer_of_error hb]
        exact sameAnswer_unchanged hab _
      · rw [Store.offer_of_ok ha, Store.offer_of_ok hb]
        exact ⟨rfl, ⟨hs, hab.cache, hab.settings, hab.maxConfigBytes⟩, hschema, rfl⟩

theorem sameAnswer_post (hvalid : a.store.schema.validate = .ok ()) (hab : a.Alike b)
    (r : ServerRequest) : SameAnswer a (a.postConfig r) (b.postConfig r) := by
  rcases saveConfig_cases a.maxConfigBytes r with ⟨why, hwhy⟩ | ⟨p, hp⟩
  · unfold postConfig
    rw [hwhy a rfl, hwhy b hab.maxConfigBytes]
    cases bodyRefusal? r <;> exact sameAnswer_unchanged hab _
  · exact sameAnswer_save hvalid hab rfl (Payload.Alike.refl a.store.schema p) (hp a rfl)
      (hp b hab.maxConfigBytes)

/-- The same call to alike devices. -/
theorem handle_same (hvalid : a.store.schema.validate = .ok ()) (hab : a.Alike b)
    (w : Surroundings) (now : Nat) (r : ServerRequest) :
    SameAnswer a (a.handle w now r) (b.handle w now r) := by
  unfold handle
  -- the branches are told apart by method and path, the same on both devices
  generalize r.method = method
  generalize pathOf r.path = path
  split
  · rw [hab.settings]
    exact sameAnswer_unchanged hab _
  · unfold getConfig
    rw [Store.snapshot_alike hvalid hab.store]
    exact sameAnswer_unchanged hab _
  · exact sameAnswer_post hvalid hab r
  · unfold getScan
    rw [hab.cache]
    exact ⟨rfl, ⟨hab.store, rfl, hab.settings, hab.maxConfigBytes⟩, rfl, rfl⟩
  -- the page's files and the methods that no path takes
  all_goals exact sameAnswer_unchanged hab _

theorem handle_post {c : Call} (hmethod : c.request.method = "POST")
    (hpath : pathOf c.request.path = "/config") (s : Server) :
    s.handle c.surroundings c.now c.request = s.postConfig c.request := by
  unfold handle
  rw [hmethod, hpath]
  rfl

/-- **Paired calls get the same answer and leave alike devices alike.** This is the step; a run is a
row of such steps. -/
theorem handle_paired (hvalid : a.store.schema.validate = .ok ()) (hab : a.Alike b) {c c' : Call}
    (h : Paired a.store.schema a.maxConfigBytes c c') :
    SameAnswer a (a.handle c.surroundings c.now c.request)
      (b.handle c'.surroundings c'.now c'.request) := by
  cases h with
  | same => exact handle_same hvalid hab _ _ _
  | save hc hc' hp =>
      rw [handle_post hc.method hc.path, handle_post hc'.method hc'.path]
      exact sameAnswer_save hvalid hab (hc.body.trans hc'.body.symm) hp
        (saveConfig_of_decode hc.size hc.payload)
        (saveConfig_of_decode (hab.maxConfigBytes ▸ hc'.size) hc'.payload)

end

/--
**Passwords do not flow out.**

Devices that differ at most in passwords, asked the same but for passwords, give the same answers
throughout.

So nobody who asks a device over its own interface learns anything about a password that it holds:
every run looks as it would with another password in its place. Leaving the passwords out of what
is shown would not be enough for that, since the answer to a later call could depend on them.
-/
theorem passwords_do_not_flow_out {a b : Server} (hvalid : a.store.schema.validate = .ok ())
    (hab : a.Alike b) {calls calls' : List Call}
    (h : List.Forall₂ (Paired a.store.schema a.maxConfigBytes) calls calls') :
    a.replies calls = b.replies calls' := by
  -- call by call, the devices being alike before each one
  induction calls generalizing a b calls' with
  | nil =>
      cases h
      rfl
  | cons c calls ih =>
      cases h with
      | cons hc hrest =>
          have hanswer := handle_paired hvalid hab hc
          rw [replies, replies, hanswer.reply]
          refine congrArg _ (ih ?_ hanswer.alike ?_)
          · rw [hanswer.keeps.schema]
            exact hvalid
          · rw [hanswer.keeps.schema, hanswer.keeps.maxConfigBytes]
            exact hrest

/-- A device for a host and a password. -/
def wifiServer : Server :=
  ⟨.empty ⟨[⟨"wifi", "Wi-Fi", [.single ⟨"host", "Host", .hostname, []⟩,
    .single ⟨"key", "Key", .password, []⟩]⟩]⟩ [1, 2, 3, 4, 5, 6], .empty, "", 1024⟩

/-- A request that comes in at the start, with no files around. -/
def callAtStart (method : String) (body : Bytes) : Call :=
  ⟨⟨none, .missing, ⟨[], 0⟩⟩, 0, ⟨method, "/config", [], body⟩⟩

/-- A configuration without the password. -/
def wifiPayload : Payload :=
  .ofEntries [("wifi", [("host", .text "printer")])]

theorem passwords_do_not_flow_out_wifi :
    wifiServer.store.schema.validate = .ok () ∧
    wifiServer.replies
        [callAtStart "POST" (wifiPayload.insert "wifi" "key" (.text "s3cret")).toJson,
          callAtStart "GET" []]
      = wifiServer.replies [callAtStart "POST" wifiPayload.toJson, callAtStart "GET" []] := by
  have hvalid : wifiServer.store.schema.validate = .ok () := by cbv
  have hkey : wifiServer.store.schema.IsPassword "wifi" "key" :=
    ⟨_, List.mem_cons_of_mem _ List.mem_cons_self, rfl, rfl⟩
  have habsent : wifiPayload.get? "wifi" "key" = none := by cbv
  have htext : Value.IsTextIfAny (wifiPayload.get? "wifi" "key") := by
    intro y hy
    rw [habsent] at hy
    cases hy
  have halike := Payload.Alike.insert_password hkey htext "s3cret"
  have hwith : (callAtStart "POST" (wifiPayload.insert "wifi" "key" (.text "s3cret")).toJson).Saves
      wifiServer.maxConfigBytes (wifiPayload.insert "wifi" "key" (.text "s3cret")) :=
    ⟨rfl, by cbv, by cbv, by cbv, by cbv⟩
  have hwithout : (callAtStart "POST" wifiPayload.toJson).Saves wifiServer.maxConfigBytes
      wifiPayload := ⟨rfl, by cbv, by cbv, by cbv, by cbv⟩
  exact ⟨hvalid, passwords_do_not_flow_out hvalid (Alike.refl wifiServer)
    (.cons (.save hwith hwithout halike) (.cons (.same _) .nil))⟩

end Server

end DeviceSetup
