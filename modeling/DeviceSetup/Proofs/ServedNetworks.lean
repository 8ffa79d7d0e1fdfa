import Mathlib
import DeviceSetup.Device.Server
import DeviceSetup.Proofs.Octets
import DeviceSetup.Proofs.ScanTurns

/-!
# Only valid networks are served

A scan file is checked when it is read, and an answer is given much later: from a cache that
some earlier read filled, or from a second read of its own for the connected access point. The
file may have changed between any two reads.

`Network.InBounds` is what the check stands for and `ScanFile.Holds` what a content says before
it is checked. A read comes to something only if every record of the content is in bounds
(`read_eq_ok_iff`), so whatever a scanner on a file gives is a record of a good content. That the
cache holds nothing else is told by the turns before (`ScanTurn.Follows`).
-/

namespace DeviceSetup

/-! ## What the check stands for -/

/-- A record is within bounds: a name of 1 to 32 characters as a reader counts them, a signal that
is not positive, and a channel that exists. -/
structure Network.InBounds (n : Network) : Prop where
  name : 1 ≤ Text.clusterCount n.name ∧ Text.clusterCount n.name ≤ 32
  rssi : -127 ≤ n.rssi.toInt ∧ n.rssi.toInt ≤ 0
  channel : 1 ≤ n.channel.toNat ∧ n.channel.toNat ≤ 196

/-- There is nothing to complain about just when the number is within both bounds. -/
theorem boundComplaints_isEmpty_iff (complaint : String → Int → String) (lo hi n : Int) :
    (boundComplaints complaint lo hi n).isEmpty = true ↔ lo ≤ n ∧ n ≤ hi := by
  unfold boundComplaints
  by_cases hlo : n < lo
  · have hnot : ¬ lo ≤ n := by omega
    simp [hlo, hnot]
  by_cases hhi : hi < n
  · have hnot : ¬ n ≤ hi := by omega
    simp [hlo, hhi, hnot]
  · have hin : lo ≤ n ∧ n ≤ hi := by omega
    simp [hlo, hhi, hin]

theorem Network.isValid_iff (n : Network) : n.isValid = true ↔ n.InBounds := by
  unfold isValid complaints
  simp only [List.all_cons, List.all_nil, Bool.and_true, Bool.and_eq_true,
    boundComplaints_isEmpty_iff]
  constructor
  · rintro ⟨hname, hrssi, hchannel⟩
    exact ⟨by omega, hrssi, by omega⟩
  · rintro ⟨hname, hrssi, hchannel⟩
    exact ⟨by omega, hrssi, by omega⟩

namespace ScanFile

/-- A content is the text of a scan file, whatever its records are. -/
def Holds (content : FileContent) (file : ScanFile) : Prop :=
  ∃ text, content.text = .ok text
    ∧ Json.parse (rule.reader Json.maxDepth) (Utf8.encode text) = .ok file

/-- A network is a record of a content in which no record is out of bounds. One bad record spoils
the whole content, also for the good ones. -/
def Vouches (content : FileContent) (n : Network) : Prop :=
  ∃ file, Holds content file ∧ (∀ r ∈ file.records, r.InBounds) ∧ n ∈ file.records

theorem find?_invalid_eq_none_iff (file : ScanFile) :
    file.records.find? (!·.isValid) = none ↔ ∀ r ∈ file.records, r.InBounds := by
  rw [List.find?_eq_none]
  refine forall₂_congr fun r _ => ?_
  rw [← Network.isValid_iff]
  simp

/-- What comes of a content that is the text of a scan file. -/
theorem read_of_holds {content : FileContent} {file : ScanFile} (h : Holds content file)
    (path : String) :
    read (some path) content = match file.records.find? (!·.isValid) with
      | some record => .error (.invalid record)
      | none => .ok file := by
  obtain ⟨text, htext, hparse⟩ := h
  unfold read ofText
  simp only [htext, hparse]
  rfl

/-- **A read comes to something just when no record is out of bounds.** So nobody behind a read has
to check again. -/
theorem read_eq_ok_iff {path : String} {content : FileContent} {file : ScanFile} :
    read (some path) content = .ok file
      ↔ Holds content file ∧ ∀ r ∈ file.records, r.InBounds := by
  constructor
  · intro h
    -- a content that is no text of a scan file fails before any check
    have hholds : Holds content file := by
      unfold read at h
      cases htext : content.text with
      | error why =>
          rw [htext] at h
          cases h
      | ok text =>
          rw [htext] at h
          refine ⟨text, htext, ?_⟩
          unfold ofText at h
          obtain ⟨found, hparse, h⟩ := exists_of_bind_eq_ok h
          cases hread : Json.parse (rule.reader Json.maxDepth) (Utf8.encode text) with
          | error why =>
              rw [hread] at hparse
              cases hparse
          | ok found' =>
              rw [hread] at hparse
              cases hparse
              split at h
              · cases h
              · cases h
                rfl
    refine ⟨hholds, (find?_invalid_eq_none_iff file).mp ?_⟩
    rw [read_of_holds hholds] at h
    split at h
    · cases h
    · assumption
  · rintro ⟨hholds, hall⟩
    rw [read_of_holds hholds, (find?_invalid_eq_none_iff file).mpr hall]

/-- Nothing but a record of a good content is found by a scan. -/
theorem vouches_of_scan {path : Option String} {atScan atConnected : FileContent}
    {networks : List Network} (h : (scanner path atScan atConnected).scan = .ok networks)
    {n : Network} (hn : n ∈ networks) : Vouches atScan n := by
  obtain ⟨file, hread, rfl⟩ := map_eq_ok_iff.mp h
  cases path with
  | none =>
      cases hread
      cases hn
  | some path =>
      obtain ⟨hholds, hall⟩ := read_eq_ok_iff.mp hread
      exact ⟨file, hholds, hall, List.mem_append_right _ hn⟩

/-- Nothing but a record of a good content is given as the connected access point. -/
theorem vouches_of_connected {path : Option String} {atScan atConnected : FileContent}
    {n : Network} (h : (scanner path atScan atConnected).connected = some n) :
    Vouches atConnected n := by
  obtain ⟨file, hread, hfile⟩ := Option.bind_eq_some_iff.mp h
  cases path with
  | none =>
      cases hread
      cases hfile
  | some path =>
      obtain ⟨hholds, hall⟩ := read_eq_ok_iff.mp (eq_ok_of_toOption hread)
      refine ⟨file, hholds, hall, List.mem_append_left _ ?_⟩
      rw [hfile]
      exact List.mem_singleton_self n

/--
**One record out of bounds fails the scan**, and the first such record is named.

Good records of the same content are not served either. The connected access point counts as the
first of the records.
-/
theorem scan_of_invalid {content : FileContent} {file : ScanFile} (h : Holds content file)
    {r : Network} (hr : r ∈ file.records) (hinvalid : ¬ r.InBounds) (path : String)
    (atConnected : FileContent) :
    ∃ before first after, file.records = before ++ first :: after
      ∧ (∀ d ∈ before, d.InBounds) ∧ ¬ first.InBounds
      ∧ (scanner (some path) content atConnected).scan = .error (.invalid first) := by
  cases hfind : file.records.find? (!·.isValid) with
  | none => exact absurd ((find?_invalid_eq_none_iff file).mp hfind r hr) hinvalid
  | some first =>
      obtain ⟨hfirst, before, after, hrecords, hbefore⟩ := List.find?_eq_some_iff_append.mp hfind
      refine ⟨before, first, after, hrecords, fun d hd => ?_, ?_, ?_⟩
      · have hvalid := hbefore d hd
        rw [← Network.isValid_iff]
        simpa using hvalid
      · rw [← Network.isValid_iff]
        simpa using hfirst
      · have hread := read_of_holds h path
        rw [hfind] at hread
        unfold scanner
        rw [hread]
        rfl

end ScanFile

/-! ## Requests in turn -/

/-- A request for the networks in reach: when it comes, and what the scan file would be found to
hold each time that the scanner is asked. The two need not be the same, since the file is read
anew. -/
structure ScanVisit where
  now : Nat
  found : ScannerCall → FileContent

namespace Server

/-- The scanner that serves a visit. -/
def scannerFor (path : Option String) (v : ScanVisit) : Scanner ScanError :=
  ScanFile.scanner path (v.found .scan) (v.found .connected)

/-- A device serves visits in turn: for each of them, what the scanner was asked and the reply. -/
def visits (path : Option String) (s : Server) :
    List ScanVisit → List (List ScannerCall × ServerReply)
  | [] => []
  | v :: rest =>
    (s.cache.calls (scannerFor path v) v.now, (s.getScan (scannerFor path v) v.now).2)
      :: visits path (s.getScan (scannerFor path v) v.now).1 rest

/-- A reply with networks. -/
def networksReply (networks : List Network) : ServerReply :=
  ⟨200, some WireFormat.json.contentType, (ScanReport.mk networks).toJson⟩

/-- A device replies as its cache serves. -/
theorem visits_eq_serve (path : Option String) (s : Server) (vs : List ScanVisit) :
    s.visits path vs
      = (s.cache.serve (vs.map fun v => (v.now, scannerFor path v))).map
          fun t => (t.calls, networksReply t.answer) := by
  induction vs generalizing s with
  | nil => rfl
  | cons v rest ih =>
      rw [visits, ih, List.map_cons, ScanCache.serve, List.map_cons]
      rfl

end Server

namespace ScanCache

open ScanTurn Server

/-- The scans that turns made came from the turns. -/
theorem exists_turn_of_mem_scans {ε : Type} {turns : List (ScanTurn ε)}
    {scan : Nat × List Network} (h : scan ∈ scans turns) :
    ∃ (j : Nat) (t : ScanTurn ε), turns[j]? = some t ∧ .scan ∈ t.calls
      ∧ t.scanner.scan = .ok scan.2 := by
  obtain ⟨t, ht, hscan⟩ := List.mem_filterMap.mp h
  obtain ⟨j, hj⟩ := List.mem_iff_getElem?.mp ht
  refine ⟨j, t, hj, (made_of_scan? hscan).1, ?_⟩
  unfold scan? at hscan
  rw [if_pos (made_of_scan? hscan).1] at hscan
  obtain ⟨networks, hok, rfl⟩ := Option.map_eq_some_iff.mp hscan
  exact eq_ok_of_toOption hok

/-- A network of an answer was found by a scan, this turn's or one before it, or it is the
connected access point. -/
theorem source_of_mem_answer {ε : Type} {interval : Nat} {requests : List (Nat × Scanner ε)}
    {i : Nat} {t : ScanTurn ε} (h : ((ScanCache.empty interval).serve requests)[i]? = some t)
    {n : Network} (hn : n ∈ t.answer) :
    (∃ j ≤ i, ∃ t' networks, ((ScanCache.empty interval).serve requests)[j]? = some t'
        ∧ .scan ∈ t'.calls ∧ t'.scanner.scan = .ok networks ∧ n ∈ networks)
      ∨ .connected ∈ t.calls ∧ t.scanner.connected = some n := by
  obtain ⟨hlt, hget⟩ := List.getElem?_eq_some_iff.mp h
  have hsplit : (ScanCache.empty interval).serve requests
      = ((ScanCache.empty interval).serve requests).take i ++ t
          :: ((ScanCache.empty interval).serve requests).drop (i + 1) := by
    rw [← hget, List.cons_getElem_drop_succ, List.take_append_drop]
  have hfollows : t.Follows interval
      ([] ++ scans (((ScanCache.empty interval).serve requests).take i)) := follows_serve hsplit
  rw [List.nil_append] at hfollows
  have hanswer := hfollows.answer
  have hscans : scans (((ScanCache.empty interval).serve requests).take (i + 1))
      = scans (((ScanCache.empty interval).serve requests).take i) ++ t.scan?.toList := by
    rw [List.take_add_one, h, scans, List.filterMap_append]
    exact congrArg _ ((scans_cons t []).trans (List.append_nil _))
  rw [← hscans] at hanswer
  -- the latest scan is from some turn; without one the access point stands in
  cases hlast : (scans (((ScanCache.empty interval).serve requests).take (i + 1))).getLast? with
  | some last =>
      left
      rw [hlast] at hanswer
      rw [hanswer] at hn
      obtain ⟨j, t', hj, hcall, hok⟩ := exists_turn_of_mem_scans (List.mem_of_getLast? hlast)
      rw [List.getElem?_take] at hj
      split at hj
      · rename_i hlt
        exact ⟨j, by omega, t', last.2, hj, hcall, hok, hn⟩
      · cases hj
  | none =>
      right
      rw [hlast] at hanswer
      rw [hanswer] at hn
      have hnone := List.getLast?_eq_none_iff.mp hlast
      rw [hscans] at hnone
      exact ⟨hfollows.standsIn.mpr hnone, by simpa using hn⟩

end ScanCache

namespace Server

open ScanFile

/-- A scan that fails leaves the device as it is, and its cached list is the answer. -/
theorem getScan_of_error {s : Server} {scanner : Scanner ScanError} {why : ScanError}
    (h : scanner.scan = .error why) (now : Nat) :
    (s.getScan scanner now).1 = s
      ∧ ∀ networks, s.cache.networks = some networks →
          (s.getScan scanner now).2 = networksReply networks := by
  have hcache : s.cache.refresh scanner now = s.cache := by
    unfold ScanCache.refresh ScanCache.record
    rw [h]
    split <;> rfl
  have hscan : s.getScan scanner now = (s, networksReply (s.cache.answer scanner)) := by
    unfold getScan
    rw [hcache]
    rfl
  refine ⟨by rw [hscan], fun networks hnetworks => ?_⟩
  have hanswer : s.cache.answer scanner = networks := by
    unfold ScanCache.answer
    rw [hnetworks]
    rfl
  rw [hscan, hanswer]

/-- The device before its first scan. -/
def beforeScans (s : Server) : Server :=
  { s with cache := .empty s.cache.interval }

/-- A network is vouched for by a content that visit number `i`, or one before it, did read. What
was read before counts, since answers come from the cache. -/
def VouchedFor (s : Server) (path : Option String) (vs : List ScanVisit) (i : Nat) (n : Network) :
    Prop :=
  ∃ j ≤ i, ∃ v calls reply, vs[j]? = some v ∧ (s.visits path vs)[j]? = some (calls, reply)
    ∧ ∃ call ∈ calls, Vouches (ScanVisit.found v call) n

section Turns

variable {s : Server} {path : Option String} {vs : List ScanVisit} {i j : Nat}
  {t : ScanTurn ScanError}

theorem visits_beforeScans_getElem? :
    (s.beforeScans.visits path vs)[i]?
      = (((ScanCache.empty s.cache.interval).serve
            (vs.map fun v => (v.now, scannerFor path v)))[i]?).map
          fun t => (t.calls, networksReply t.answer) := by
  rw [visits_eq_serve]
  exact List.getElem?_map

/-- What the scanner gave to a turn, it gave to the turn's visit. -/
theorem vouchedFor_of_turn
    (h : ((ScanCache.empty s.cache.interval).serve
      (vs.map fun v => (v.now, scannerFor path v)))[j]? = some t)
    (hji : j ≤ i) {call : ScannerCall} (hcall : call ∈ t.calls) {n : Network}
    (hn : ∀ v, t.scanner = scannerFor path v → Vouches (v.found call) n) :
    s.beforeScans.VouchedFor path vs i n := by
  -- the turn is that of visit number `j`, with its scanner
  have hrequest : (vs.map fun v => (v.now, scannerFor path v))[j]? = some (t.now, t.scanner) := by
    rw [← ScanCache.map_serve (ScanCache.empty s.cache.interval) (vs.map _), List.getElem?_map, h]
    rfl
  rw [List.getElem?_map] at hrequest
  obtain ⟨v, hv, heq⟩ := Option.map_eq_some_iff.mp hrequest
  refine ⟨j, hji, v, t.calls, networksReply t.answer, hv, ?_, call, hcall,
    hn v (Prod.mk.inj heq).2.symm⟩
  rw [visits_beforeScans_getElem?, h]
  rfl

/-- Whatever stands in an answer was read, for this visit or for one before it. -/
theorem vouchedFor_of_mem_answer
    (h : ((ScanCache.empty s.cache.interval).serve
      (vs.map fun v => (v.now, scannerFor path v)))[i]? = some t)
    {n : Network} (hn : n ∈ t.answer) : s.beforeScans.VouchedFor path vs i n := by
  rcases ScanCache.source_of_mem_answer h hn with
    ⟨j, hji, t', networks, ht', hcall, hscan, hmem⟩ | ⟨hcall, hconnected⟩
  · refine vouchedFor_of_turn ht' hji hcall fun v hscanner => ?_
    rw [hscanner] at hscan
    exact vouches_of_scan hscan hmem
  · refine vouchedFor_of_turn h (Nat.le_refl i) hcall fun v hscanner => ?_
    rw [hscanner] at hconnected
    exact vouches_of_connected hconnected

theorem VouchedFor.inBounds {n : Network} (h : s.VouchedFor path vs i n) : n.InBounds := by
  obtain ⟨-, -, -, -, -, -, -, -, -, file, -, hall, hn⟩ := h
  exact hall n hn

end Turns

/--
**Only valid networks are served.**

A device that has made no scan yet serves visits in turn, at any times, while the scan file is
found to hold anything at all each time it is read. Every visit is answered with a list of
networks. Each of them is in bounds, and it is a record of a content that this visit or one
before it did read, and in which every record is in bounds.

One record out of bounds, anywhere in a content, fails the scan that reads it with the first such
record. The device stays as it is, and goes on to answer with the list that it has cached.

Whoever writes the scan file may write it while the device reads it. Neither that nor a broken
file can bring a record into an answer that was not checked together with the rest of its file.
-/
theorem only_valid_networks_served (s : Server) (path : Option String) (vs : List ScanVisit) :
    (∀ i calls reply, (s.beforeScans.visits path vs)[i]? = some (calls, reply) →
      ∃ networks, reply = networksReply networks
        ∧ ∀ n ∈ networks, n.InBounds ∧ s.beforeScans.VouchedFor path vs i n)
    ∧ ∀ (file : ScanFile) (path : String) (v : ScanVisit) (r : Network),
        Holds (v.found .scan) file → r ∈ file.records → ¬ r.InBounds →
          (∃ before first after, file.records = before ++ first :: after
            ∧ (∀ d ∈ before, d.InBounds) ∧ ¬ first.InBounds
            ∧ (scannerFor (some path) v).scan = .error (.invalid first))
          ∧ ∀ s' : Server, (s'.getScan (scannerFor (some path) v) v.now).1 = s'
            ∧ ∀ networks, s'.cache.networks = some networks →
                (s'.getScan (scannerFor (some path) v) v.now).2 = networksReply networks := by
  constructor
  · intro i calls reply hreply
    rw [visits_beforeScans_getElem?] at hreply
    obtain ⟨t, ht, heq⟩ := Option.map_eq_some_iff.mp hreply
    refine ⟨t.answer, (Prod.mk.inj heq).2.symm, fun n hn => ?_⟩
    have hvouched : s.beforeScans.VouchedFor path vs i n := vouchedFor_of_mem_answer ht hn
    exact ⟨hvouched.inBounds, hvouched⟩
  · intro file path v r hholds hr hinvalid
    obtain ⟨before, first, after, hrecords, hbefore, hfirst, hscan⟩ :=
      scan_of_invalid hholds hr hinvalid path (v.found .connected)
    exact ⟨⟨before, first, after, hrecords, hbefore, hfirst, hscan⟩,
      fun s' => getScan_of_error hscan v.now⟩

/-- A scan file with a network `A`, and a connected access point `B` of some signal strength. -/
def smallFile (rssi : String) : FileContent :=
  .octets (Utf8.encode ("\x7b\"networks\":[[\"A\",-60,6]],\"connected\":[\"B\"," ++ rssi
    ++ ",1]\x7d"))

/-- There is no file; then there is one, but only at the second read; then it is there to be
scanned; and when a scan is due again, its access point is too strong. -/
def smallVisits : List ScanVisit :=
  [⟨0, fun _ => .missing⟩, ⟨1, fun call => if call = .scan then .missing else smallFile "-40"⟩,
    ⟨2, fun _ => smallFile "-40"⟩, ⟨40000, fun _ => smallFile "12"⟩]

/-- A device without settings. -/
def bareDevice : Server := ⟨.empty .empty [], .empty, "", 0⟩

theorem only_valid_networks_served_small :
    bareDevice.beforeScans.visits (some "f") smallVisits
        = [([.scan, .connected], networksReply []),
           ([.scan, .connected], networksReply [⟨"B", -40, 1⟩]),
           ([.scan], networksReply [⟨"A", -60, 6⟩]), ([.scan], networksReply [⟨"A", -60, 6⟩])]
      ∧ (∃ networks, networksReply [⟨"A", -60, 6⟩] = networksReply networks
        ∧ ∀ n ∈ networks, n.InBounds ∧ bareDevice.beforeScans.VouchedFor (some "f") smallVisits 3 n)
      ∧ (scannerFor (some "f") ⟨40000, fun _ => smallFile "12"⟩).scan
          = .error (.invalid ⟨"B", 12, 1⟩) := by
  have hreplies : bareDevice.beforeScans.visits (some "f") smallVisits
      = [([.scan, .connected], networksReply []),
         ([.scan, .connected], networksReply [⟨"B", -40, 1⟩]),
         ([.scan], networksReply [⟨"A", -60, 6⟩]), ([.scan], networksReply [⟨"A", -60, 6⟩])] := by
    decide +kernel
  have hholds : Holds (smallFile "12") ⟨some ⟨"B", 12, 1⟩, [⟨"A", -60, 6⟩]⟩ := by
    refine ⟨_, rfl, ?_⟩
    decide +kernel
  have hstrong : ¬ Network.InBounds ⟨"B", 12, 1⟩ := fun h => absurd h.rssi.2 (by decide)
  obtain ⟨hserved, hfails⟩ := only_valid_networks_served bareDevice (some "f") smallVisits
  have hlast := hserved 3 [.scan] (networksReply [⟨"A", -60, 6⟩]) (by rw [hreplies]; rfl)
  obtain ⟨⟨before, first, after, hrecords, hbefore, hfirst, hscan⟩, -⟩ :=
    hfails _ "f" ⟨40000, fun _ => smallFile "12"⟩ _ hholds List.mem_cons_self hstrong
  refine ⟨hreplies, hlast, ?_⟩
  -- nothing stands before the access point
  cases before with
  | nil => exact (List.cons.inj hrecords).1 ▸ hscan
  | cons d before =>
      exact absurd ((List.cons.inj hrecords).1 ▸ hbefore d List.mem_cons_self) hstrong

end Server

end DeviceSetup
