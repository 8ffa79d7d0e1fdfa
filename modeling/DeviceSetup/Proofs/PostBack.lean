import Mathlib
import DeviceSetup.Proofs.StoreRuns

/-!
# Posting a configuration back

A page may fetch the configuration and post it back as it is. The device gives out less than
it holds, since passwords stay inside, and more than it stores, since the device id is its
own; and in JSON the id has become a text. None of this does harm: what is missing is kept,
what is not stored is passed over, and every other value is one that the store would hold, so
storing it again changes nothing (`apply_readBack_snapshot`).

Yet it may not get so far. No request may have a body beyond a length that is the same for every
device, whatever a device allows for its configuration, and a store that was filled piece by
piece can give out more than that. Such a body is turned away before it is read
(`bodyRefusal?_of_statesLength`), and the device is left as it was.
-/

namespace DeviceSetup

/-! ## Storing what is there -/

/-- A value that a variable may hold is not cut again. -/
theorem FieldType.Holds.kept_eq {type : FieldType} {x : Value} (h : type.Holds x) :
    type.kept x = x := by
  cases h with
  | text htype s => cases type <;> rfl
  | port hlo hhi =>
      rw [kept, Int.emod_eq_of_lt hlo (by omega), Int64.ofInt_toInt]
  | choice hlo hhi =>
      rw [kept, Int.bmod_eq_of_le (by omega) (by omega), Int64.ofInt_toInt]
  | checkbox b => rfl

namespace Store

/-- A payload that gives every variable what it holds already leaves the store as it is. -/
theorem apply_eq_self {s : Store} {p : Payload}
    (hfault : ∀ e ∈ s.schema.vars, fault? p e = none)
    (htaken : ∀ e ∈ s.schema.vars, ∀ x, taken? p e = some x →
      s.values.get? e.1.name e.2.name = some x) : s.apply p = .ok s := by
  refine apply_eq_ok_iff.mpr ⟨List.findSome?_eq_none_iff.mpr hfault, ?_⟩
  rw [Payload.fill_eq_self htaken]

section Snapshot

variable {s : Store} {e : Setting × Variable} {k : ValueKind}

/-- Of a variable that wants a value, nothing is given out but what it holds. -/
theorem get?_of_snapshot (hvalid : s.schema.validate = .ok ()) (he : e ∈ s.schema.vars)
    (hkind : e.2.type.kind? = some k) {x : Value}
    (hx : s.snapshot.get? e.1.name e.2.name = some x) :
    s.values.get? e.1.name e.2.name = some x := by
  rw [get?_snapshot hvalid he] at hx
  unfold shown? at hx
  split at hx
  · cases hx
  · rename_i htype
    rw [htype] at hkind
    cases hkind
  · exact hx

/-- The same holds of what comes back over the wire. -/
theorem get?_of_readBack (hvalid : s.schema.validate = .ok ()) (hs : s.Sound)
    (he : e ∈ s.schema.vars) (hkind : e.2.type.kind? = some k) (format : WireFormat) {x : Value}
    (hx : (format.readBack s.snapshot).get? e.1.name e.2.name = some x) :
    s.values.get? e.1.name e.2.name = some x := by
  rcases format.get?_readBack s.snapshot e.1.name e.2.name with hsame | ⟨bs, hbytes, -⟩
  · exact get?_of_snapshot hvalid he hkind (hsame ▸ hx)
  · -- octets are held for no variable
    have hheld := hs.holds hvalid he (get?_of_snapshot hvalid he hkind hbytes)
    obtain ⟨k', -, hk'⟩ := hheld.kind
    cases hk'

/--
**Storing what was given out changes nothing**, in whichever format it went out and back.

Two things could go wrong: a value that comes back may be of another kind than the variable wants,
or it may be cut. A sound store holds only values that are of the right kind and that a cut
leaves as they are.
-/
theorem apply_readBack_snapshot (hvalid : s.schema.validate = .ok ()) (hs : s.Sound)
    (format : WireFormat) : s.apply (format.readBack s.snapshot) = .ok s := by
  -- what comes back for a variable is what it holds, and so of the kind that it wants
  have hfits : ∀ e ∈ s.schema.vars, ∀ k, ¬ (format.readBack s.snapshot).Misfits e k := by
    rintro e he k ⟨hkind, x, hx, hne⟩
    obtain ⟨k', hkind', hx'⟩ :=
      (hs.holds hvalid he (get?_of_readBack hvalid hs he hkind format hx)).kind
    rw [hkind] at hkind'
    exact hne (hx'.trans hkind'.symm)
  refine apply_eq_self (fun e he => fault?_eq_none_iff.mpr (hfits e he)) fun e he y hy => ?_
  cases hkind : e.2.type.kind? with
  | none =>
      rw [taken?_of_no_kind hkind] at hy
      cases hy
  | some k =>
      rw [taken?_of_kind hkind (hfits e he k)] at hy
      obtain ⟨x, hx, rfl⟩ := Option.map_eq_some_iff.mp hy
      have hheld := get?_of_readBack hvalid hs he hkind format hx
      rw [(hs.holds hvalid he hheld).kept_eq]
      exact hheld

end Snapshot

end Store

/-! ## Devices -/

theorem WireFormat.ofContentType_contentType (format : WireFormat) :
    ofContentType (some format.contentType) = format := by
  cases format <;> decide

/-- What is written of a payload depends on its entries alone. -/
theorem Payload.toJson_eq_entries (p : Payload) : p.toJson
    = Json.writeObject ((p.settings.entries.map fun e => (e.1, e.2.entries)).map fun e =>
      (e.1, Json.writeObject (e.2.map fun e => (e.1, e.2.toJson)))) := by
  rw [List.map_map]
  rfl

namespace Server

/-- The device after a call, and its answer. -/
def answer (s : Server) (c : Call) : Server × ServerReply :=
  s.handle c.surroundings c.now c.request

/-- The device after some calls, one after the other. -/
def after (s : Server) (calls : List Call) : Server :=
  calls.foldl (fun s c => (s.answer c).1) s

/-- The device started with a store without values, and has had some calls since. This is where
the store's own rules come from: whatever it holds was checked when it was stored. -/
def Reached (schema : Schema) (deviceId : Bytes) (s : Server) : Prop :=
  ∃ start : Server, start.store = .empty schema deviceId ∧ ∃ calls, s = start.after calls

/-- A call leaves the store alone or stores a payload. -/
theorem store_answer (s : Server) (c : Call) : ∃ ps, (s.answer c).1.store = s.store.run ps := by
  have hpost : ∃ ps, (s.postConfig c.request).1.store = s.store.run ps := by
    rcases s.postConfig_cases c.request with ⟨store, hsave, hpost⟩ | ⟨hsame, -⟩
    · obtain ⟨-, p, -, happly⟩ := saveConfig_eq_none hsave
      refine ⟨[p], ?_⟩
      rw [hpost]
      exact (congrArg Prod.fst (Store.offer_of_ok happly)).symm
    · exact ⟨[], by rw [hsame]; rfl⟩
  unfold answer handle
  generalize c.request.method = method
  generalize pathOf c.request.path = path
  split
  case h_3 => exact hpost
  -- no other call touches the store
  all_goals exact ⟨[], rfl⟩

/--
**Whatever a device is asked, its store goes through a run of payloads.**

So what holds of stores over runs of payloads holds of devices over runs of calls.
-/
theorem store_after (s : Server) (calls : List Call) :
    ∃ ps, (s.after calls).store = s.store.run ps := by
  induction calls generalizing s with
  | nil => exact ⟨[], rfl⟩
  | cons c calls ih =>
      obtain ⟨ps, hps⟩ := store_answer s c
      obtain ⟨qs, hqs⟩ := ih (s.answer c).1
      refine ⟨ps ++ qs, ?_⟩
      rw [Store.run_append, ← hps]
      exact hqs

theorem Reached.store {schema : Schema} {deviceId : Bytes} {s : Server}
    (h : s.Reached schema deviceId) (hvalid : schema.validate = .ok ()) :
    s.store.schema = schema ∧ s.store.Sound := by
  obtain ⟨start, hstart, calls, rfl⟩ := h
  obtain ⟨ps, hps⟩ := store_after start calls
  rw [hps, hstart]
  exact ⟨Store.schema_run _ ps, Store.sound_run hvalid (Store.sound_empty schema deviceId) ps⟩

/-- The call asks for the configuration. -/
structure Call.Gets (c : Call) : Prop where
  method : c.request.method = "GET"
  path : pathOf c.request.path = "/config"

/-- The call posts an answer back, with its content type. -/
structure Call.PostsBack (c : Call) (reply : ServerReply) : Prop where
  method : c.request.method = "POST"
  path : pathOf c.request.path = "/config"
  contentType : c.request.header? "content-type" = reply.contentType
  body : c.request.body = reply.body

/-- Asking for the configuration leaves the device as it is. -/
theorem answer_get {c : Call} (h : c.Gets) (s : Server) :
    s.answer c = (s, s.getConfig c.request) := by
  unfold answer handle
  rw [h.method, h.path]
  rfl

theorem answer_post {c : Call} (hmethod : c.request.method = "POST")
    (hpath : pathOf c.request.path = "/config") (s : Server) :
    s.answer c = s.postConfig c.request :=
  handle_post hmethod hpath s

/-! ## Bodies that are too long -/

/-- The length that a request states, if it states one, is that of its body. -/
def StatesLength (r : ServerRequest) : Prop :=
  ∀ length ∈ (r.values "content-length").head?,
    Decimal.readNat (2 ^ 64 - 1) length.toList = .ok r.body.length

/-- **A request that states its length is turned away just for a body that is too long.** The limit
is that of the server and not the one a device allows for its configuration. -/
theorem bodyRefusal?_of_statesLength {r : ServerRequest} (h : StatesLength r) :
    bodyRefusal? r = if r.body.length ≤ maxBodyBytes then none else some bodyTooLong := by
  unfold bodyRefusal?
  dsimp only
  cases hlength : (r.values "content-length").head? with
  | none =>
      by_cases hle : r.body.length ≤ maxBodyBytes
      · rw [if_pos hle]
        exact if_neg (Nat.not_lt.mpr hle)
      · rw [if_neg hle]
        exact if_pos (Nat.lt_of_not_le hle)
  | some length =>
      -- the stated length and the actual one are looked at in turn, and are the same
      have hread := h length hlength
      simp only [hread]
      by_cases hle : r.body.length ≤ maxBodyBytes
      · simp only [if_neg (Nat.not_lt.mpr hle), if_pos hle]
      · rw [if_pos (Nat.lt_of_not_le hle), if_neg hle]

/-- A body that is let in has at most the length that is allowed for every request. -/
theorem length_of_bodyRefusal? {r : ServerRequest} (h : bodyRefusal? r = none) :
    r.body.length ≤ maxBodyBytes := by
  rcases bodyRefusal?_cases r with ⟨-, hlength⟩ | ⟨refusal, hrefusal, -⟩
  · exact hlength
  · rw [h] at hrefusal
    cases hrefusal

/-- The answer to a configuration that was stored. -/
def saved : ServerReply := ⟨200, none, Utf8.encode "Saved"⟩

/-- What comes of posting back with the call `post` what the call `get` had fetched. -/
structure PostedBack (s : Server) (get post : Call) : Prop where
  /-- The store takes the payload, and is the same with it. -/
  stored : (replyFormat get.request = .messagePack → post.request.body.length < 2 ^ 32) →
    s.saveConfig post.request = (s.store, none)
  /-- Whatever is answered, the device is as before, with its passwords. -/
  device : (s.answer post).1 = s
  /-- So it answers any call after this one as if there had been none. -/
  next : ∀ next : Call, (s.answer post).1.answer next = s.answer next
  /-- A body that is let in is saved. -/
  letIn : bodyRefusal? post.request = none → (s.answer post).2 = saved
  /-- The length of the body decides whether it is let in. -/
  length : StatesLength post.request →
    (s.answer post).2 = if post.request.body.length ≤ maxBodyBytes then saved else bodyTooLong

/--
**Posting back what was fetched is refused for its length or changes nothing.**

Let a device be asked for its configuration at any time after it started, in either format, and let
the answer be posted back with its content type, within the length that the device allows for a
configuration. The store takes the payload and is the same with it, passwords included, so a page
may send back a whole form of which the user changed nothing. It is answered with 200 only if its
body is let in (`bodyRefusal?`): with more than `maxBodyBytes` octets it is answered with 413,
although the device allows it. Either way the device stays as it was and answers as before.
-/
theorem post_back_refused_only_for_length {schema : Schema} (hvalid : schema.validate = .ok ())
    {deviceId : Bytes} {s : Server} (hs : s.Reached schema deviceId) {get post : Call}
    (hget : get.Gets) (hpost : post.PostsBack (s.answer get).2)
    (hsize : post.request.body.length ≤ s.maxConfigBytes) : s.PostedBack get post := by
  obtain ⟨hschema, hsound⟩ := hs.store hvalid
  have hbody : post.request.body = (replyFormat get.request).encode s.store.snapshot := by
    rw [hpost.body, answer_get hget]
    rfl
  -- it is read in the format that it was written in
  have htype : WireFormat.ofContentType (post.request.header? "content-type")
      = replyFormat get.request := by
    rw [hpost.contentType, answer_get hget]
    exact WireFormat.ofContentType_contentType _
  have hstored : (replyFormat get.request = .messagePack → post.request.body.length < 2 ^ 32) →
      s.saveConfig post.request = (s.store, none) := by
    intro hlength
    -- the lengths in the body are bounded by the body's own
    have hpackable : replyFormat get.request = .messagePack → s.store.snapshot.Packable := by
      intro hformat
      have hlt := hlength hformat
      rw [hbody, hformat] at hlt
      exact Payload.packable_of_length_lt hlt
    have hdecode := WireFormat.decode_encode_readBack _ hpackable
    rw [← hbody, ← htype] at hdecode
    rw [saveConfig_of_decode hsize hdecode]
    exact Store.offer_of_ok (Store.apply_readBack_snapshot (hschema ▸ hvalid) hsound _)
  have hanswer := answer_post hpost.method hpost.path s
  -- a body that is let in is short enough for every format
  have hletIn : bodyRefusal? post.request = none → s.answer post = (s, saved) := by
    intro hnone
    have hlength : post.request.body.length < 2 ^ 32 :=
      Nat.lt_of_le_of_lt (length_of_bodyRefusal? hnone) (by decide)
    rw [hanswer, postConfig_of_none hnone (hstored fun _ => hlength)]
    rfl
  have hdevice : (s.answer post).1 = s := by
    cases hrefusal : bodyRefusal? post.request with
    | none => rw [hletIn hrefusal]
    | some refusal => rw [hanswer, postConfig_of_some hrefusal]
  refine ⟨hstored, hdevice, ?_, ?_, ?_⟩
  · intro next
    rw [hdevice]
  · intro hnone
    rw [hletIn hnone]
  · intro hstates
    have hrefusal := bodyRefusal?_of_statesLength hstates
    by_cases hle : post.request.body.length ≤ maxBodyBytes
    · rw [if_pos hle] at hrefusal ⊢
      rw [hletIn hrefusal]
    · rw [if_neg hle] at hrefusal ⊢
      rw [hanswer, postConfig_of_some hrefusal]

/-- A call about the configuration, with a header. -/
def callWith (header : Http.Header) (method : String) (body : Bytes) : Call :=
  ⟨⟨none, .missing, ⟨[], 0⟩⟩, 0, ⟨method, "/config", [header], body⟩⟩

/-- A device for a broker that has a port and a password. -/
def brokerServer : Server :=
  ⟨⟨brokerSchema, [1, 2], .ofEntries [("mqtt", [("key", .text "secret"), ("port", .int 4464)])]⟩,
    .empty, "", 1024⟩

/-- What the device gives out, with its id. -/
def brokerView : Payload :=
  .ofEntries [("mqtt", [("id", .bytes [1, 2]), ("port", .int 4464)])]

theorem post_back_refused_only_for_length_broker :
    brokerServer.Reached brokerSchema [1, 2] ∧
    (brokerServer.answer (callAtStart "GET" [])).2
      = ⟨200, some "application/json", brokerView.toJson⟩ ∧
    (brokerServer.answer
      (callWith ⟨"content-type", "application/json"⟩ "POST" brokerView.toJson)).2 = saved ∧
    (brokerServer.answer
      (callWith ⟨"content-type", "application/json"⟩ "POST" brokerView.toJson)).1 = brokerServer ∧
    brokerServer.store.values.get? "mqtt" "key" = some (.text "secret") := by
  have hreached : brokerServer.Reached brokerSchema [1, 2] :=
    ⟨⟨.empty brokerSchema [1, 2], .empty, "", 1024⟩, rfl,
      [callWith ⟨"content-type", "application/msgpack"⟩ "POST"
        Store.firstBrokerPayload.toMessagePack], by decide⟩
  have hget : (callAtStart "GET" []).Gets := ⟨rfl, by decide⟩
  have hreply : (brokerServer.answer (callAtStart "GET" [])).2
      = ⟨200, some "application/json", brokerView.toJson⟩ := by decide
  have hpost : (callWith ⟨"content-type", "application/json"⟩ "POST" brokerView.toJson).PostsBack
      (brokerServer.answer (callAtStart "GET" [])).2 := by
    rw [hreply]
    exact ⟨rfl, by decide, by decide, rfl⟩
  have hback := post_back_refused_only_for_length (by decide) hreached hget hpost (by decide)
  exact ⟨hreached, hreply, hback.letIn (by decide), hback.device, by decide⟩

/-! ## Notes that were posted one by one -/

/-- A call that posts a payload in JSON. -/
def postJson (p : Payload) : Call :=
  callWith ⟨"content-type", "application/json"⟩ "POST" p.toJson

theorem pathOf_postJson (p : Payload) : pathOf (postJson p).request.path = "/config" := by
  show pathOf "/config" = "/config"
  decide

theorem statesLength_postJson (p : Payload) : StatesLength (postJson p).request := by
  have hnone : ((postJson p).request.values "content-length").head? = none := rfl
  intro length hlength
  rw [hnone] at hlength
  cases hlength

/-- A payload that a store takes is stored by a call that posts it, if it is not too long. -/
theorem answer_postJson {s : Server} {p : Payload} {store : Store}
    (hlength : p.toJson.length ≤ maxBodyBytes) (hsize : p.toJson.length ≤ s.maxConfigBytes)
    (happly : s.store.apply p.hexed = .ok store) :
    s.answer (postJson p) = ({ s with store }, saved) := by
  have hrefusal : bodyRefusal? (postJson p).request = none := by
    rw [bodyRefusal?_of_statesLength (statesLength_postJson p)]
    exact if_pos hlength
  have hdecode : (WireFormat.ofContentType ((postJson p).request.header? "content-type")).decode
      (postJson p).request.body = .ok p.hexed :=
    WireFormat.decode_encode_readBack (p := p) .json nofun
  have hsave := saveConfig_of_decode hsize hdecode
  rw [Store.offer_of_ok happly] at hsave
  rw [answer_post rfl (pathOf_postJson p), postConfig_of_none hrefusal hsave]
  rfl

/-- A schema for two notes. -/
def notesSchema : Schema :=
  ⟨[⟨"n", "Notes", [.single ⟨"a", "First", .text, []⟩, .single ⟨"b", "Second", .text, []⟩]⟩]⟩

/-- Notes under their names. -/
def notes (entries : List (String × String)) : Payload :=
  .ofEntries [("n", entries.map fun e => (e.1, .text e.2))]

/-- A device with these notes that allows a configuration of a million octets. -/
def notesServer (entries : Payload) : Server :=
  ⟨⟨notesSchema, [1, 2], entries⟩, .empty, "", 1000000⟩

/-- A note of 150000 letters. -/
def longNote : String := String.ofList (List.replicate 150000 'x')

theorem length_writeString_replicate (n : Nat) :
    (Json.writeString (String.ofList (List.replicate n 'x'))).length = n + 2 := by
  have hletter : (Json.escapeChar 'x').length = 1 := by decide
  simp [Json.writeString, hletter]

theorem length_writeString_longNote : (Json.writeString longNote).length = 150002 :=
  length_writeString_replicate 150000

theorem length_toJson_note (name text : String) : (notes [(name, text)]).toJson.length
    = (Json.writeString name).length + (Json.writeString text).length + 9 := by
  show (Json.writeObject [("n", Json.writeObject [(name, Json.writeString text)])]).length = _
  have hn : (Json.writeString "n").length = 3 := by decide
  simp [Json.writeObject, Json.writeMember, Json.commas, hn]
  omega

/-- The length of a body with two notes, beyond what the notes themselves take. -/
theorem length_toJson_notes (text text' : String) :
    (notes [("a", text), ("b", text')]).toJson.length
      = (Json.writeString text).length + (Json.writeString text').length + 17 := by
  -- the order of the names is decided here, with the texts left open
  have hentries : ((notes [("a", text), ("b", text')]).settings.entries.map fun e =>
      (e.1, e.2.entries)) = [("n", [("a", .text text), ("b", .text text')])] := by cbv
  have hn : (Json.writeString "n").length = 3 := by decide
  have ha : (Json.writeString "a").length = 3 := by decide
  have hb : (Json.writeString "b").length = 3 := by decide
  rw [Payload.toJson_eq_entries, hentries]
  simp [Json.writeObject, Json.writeMember, Json.commas, Value.toJson, hn, ha, hb]
  omega

theorem apply_first_note (text : String) :
    (notesServer .empty).store.apply (notes [("a", text)]).hexed
      = .ok (notesServer (notes [("a", text)])).store := rfl

theorem apply_second_note (text text' : String) :
    (notesServer (notes [("a", text)])).store.apply (notes [("b", text')]).hexed
      = .ok (notesServer (notes [("a", text), ("b", text')])).store := by cbv

theorem snapshot_notes (text text' : String) :
    (notesServer (notes [("a", text), ("b", text')])).store.snapshot
      = notes [("a", text), ("b", text')] := by cbv

/--
Two notes of 150000 letters each, posted one after the other, fill a device that allows
a million octets. It gives out both in one body, and that body is refused when it comes back.
-/
theorem long_notes_not_taken_back :
    let s := notesServer (notes [("a", longNote), ("b", longNote)])
    let get := callAtStart "GET" []
    let post := postJson (notes [("a", longNote), ("b", longNote)])
    notesSchema.validate = .ok () ∧ s.Reached notesSchema [1, 2] ∧ get.Gets ∧
    post.PostsBack (s.answer get).2 ∧ StatesLength post.request ∧
    post.request.body.length ≤ s.maxConfigBytes ∧
    s.answer post = (s, ⟨413, some "text/plain; charset=utf-8",
      Utf8.encode "payload reached size limit"⟩) := by
  intro s get post
  have hlengths : (Json.writeString longNote).length = 150002 := length_writeString_longNote
  have hlength : post.request.body.length = 300021 := by
    show (notes [("a", longNote), ("b", longNote)]).toJson.length = 300021
    rw [length_toJson_notes, hlengths]
  have hnote : ∀ name, (Json.writeString name).length = 3 →
      (notes [(name, longNote)]).toJson.length = 150014 := by
    intro name hname
    rw [length_toJson_note, hlengths, hname]
  have ha := hnote "a" (by decide)
  have hb := hnote "b" (by decide)
  -- each note is short enough alone, so the device takes one after the other
  have hreached : s = (notesServer .empty).after
      [postJson (notes [("a", longNote)]), postJson (notes [("b", longNote)])] := by
    have hfirst := answer_postJson (s := notesServer .empty) (ha ▸ by decide) (ha ▸ by decide)
      (apply_first_note longNote)
    have hsecond := answer_postJson (s := notesServer (notes [("a", longNote)]))
      (hb ▸ by decide) (hb ▸ by decide) (apply_second_note longNote longNote)
    unfold after
    rw [List.foldl_cons, List.foldl_cons, List.foldl_nil, hfirst]
    exact (congrArg Prod.fst hsecond).symm
  have hget : get.Gets := ⟨rfl, by decide⟩
  have hpost : post.PostsBack (s.answer get).2 := by
    rw [answer_get hget]
    refine ⟨rfl, pathOf_postJson _, rfl, ?_⟩
    show (notes [("a", longNote), ("b", longNote)]).toJson = s.store.snapshot.toJson
    rw [snapshot_notes]
  have hstates : StatesLength post.request := statesLength_postJson _
  have hrefusal := bodyRefusal?_of_statesLength hstates
  rw [if_neg (hlength ▸ by decide)] at hrefusal
  refine ⟨by decide, ⟨notesServer .empty, rfl, _, hreached⟩, hget, hpost, hstates, ?_, ?_⟩
  · rw [hlength]
    decide
  · rw [answer_post rfl (pathOf_postJson _)]
    exact postConfig_of_some hrefusal s

end Server

end DeviceSetup
