import Mathlib
import DeviceSetup.Http.Reply
import DeviceSetup.Proofs.JsonStructure
import DeviceSetup.Proofs.LossyText

/-!
# Odd names in a scan

A device sends the names of networks as the octets it received, so the body of a scan need not be
text. It is made text as a whole (`Utf8.mend`), before anything in it is read.

In such a body every name stands between ASCII marks. What is made of it therefore depends on
nothing around it (`mendsTo_quoted`), and the marks stay where they are: the mended body is the
same object with each name mended by itself. The marks that end or escape a string are ASCII too,
and mending adds none of them, so each name is read up to its own closing quote
(`isPlain_mend`).
-/

namespace DeviceSetup

/-! ## Mending -/

namespace Utf8

/-- Octets made text: U+FFFD takes the place of each ill-formed stretch. This is what the body of a
reply goes through before it is read. -/
def mend (bs : Bytes) : Bytes :=
  encode (decodeLossy bs)

theorem mend_eq (bs : Bytes) : mend bs = encodeChars (lossyChars bs) := by
  unfold mend encode decodeLossy
  rw [String.toList_ofList]
  rfl

/-- What stands in front of ASCII is mended by itself. -/
theorem mend_append (xs : Bytes) {ys : Bytes} (hys : EndsChar ys) :
    mend (xs ++ ys) = mend xs ++ mend ys := by
  rw [mend_eq, mend_eq, mend_eq, lossyChars_append xs hys, encodeChars_append]

/-- Text in front stays as it is, whatever comes behind it. -/
theorem mend_text (cs : List Char) (rest : Bytes) :
    mend (encodeChars cs ++ rest) = encodeChars cs ++ mend rest := by
  -- no condition on the rest: a character ends where its octets end
  have hchars : lossyChars (encodeChars cs ++ rest) = cs ++ lossyChars rest := by
    induction cs with
    | nil => rfl
    | cons c cs ih =>
        rw [encodeChars_cons, List.append_assoc, lossyChars_char, ih]
        rfl
  rw [mend_eq, mend_eq, hchars, encodeChars_append]

/-- What octets are mended to that no character in front of them goes on with. The two facts go
together, so that what is put together of such pieces is mended piece by piece. -/
structure MendsTo (bs bs' : Bytes) : Prop where
  apart : EndsChar bs
  mends : mend bs = bs'

theorem mendsTo_nil : MendsTo [] [] := ⟨trivial, rfl⟩

theorem MendsTo.append {xs xs' ys ys' : Bytes} (hx : MendsTo xs xs') (hy : MendsTo ys ys') :
    MendsTo (xs ++ ys) (xs' ++ ys') where
  apart := by
    cases xs with
    | nil => exact hy.apart
    | cons x xs => exact hx.apart
  mends := by rw [mend_append xs hy.apart, hx.mends, hy.mends]

theorem mendsTo_flatMap {α : Type} {xs : List α} {f g : α → Bytes}
    (h : ∀ x ∈ xs, MendsTo (f x) (g x)) : MendsTo (xs.flatMap f) (xs.flatMap g) := by
  induction xs with
  | nil => exact mendsTo_nil
  | cons x xs ih =>
      have hrest := ih fun y hy => h y (List.mem_cons_of_mem _ hy)
      rw [List.flatMap_cons, List.flatMap_cons]
      exact (h x List.mem_cons_self).append hrest

/-- An ASCII mark stays, and what is behind it is mended by itself. -/
theorem mendsTo_mark {c : Char} (hc : c.toNat < 0x80) (bs : Bytes) :
    MendsTo (c.toUInt8 :: bs) (c.toUInt8 :: mend bs) where
  apart := by
    have hoctet := toNat_toUInt8 hc
    show c.toUInt8.toNat < 0x80
    omega
  mends := by
    have hoctet : encodeChars [c] = [c.toUInt8] :=
      encodeChars_ascii fun d hd => List.mem_singleton.mp hd ▸ hc
    have hmend := mend_text [c] bs
    rwa [hoctet] at hmend

theorem MendsTo.mark {bs bs' : Bytes} (h : MendsTo bs bs') {c : Char} (hc : c.toNat < 0x80) :
    MendsTo (c.toUInt8 :: bs) (c.toUInt8 :: bs') := by
  have hmark := mendsTo_mark hc bs
  rwa [h.mends] at hmark

theorem mendsTo_ascii {cs : List Char} (h : ∀ c ∈ cs, c.toNat < 0x80) :
    MendsTo (Json.ascii cs) (Json.ascii cs) := by
  have hmap : Json.ascii cs = cs.flatMap fun c => [c.toUInt8] := List.map_eq_flatMap
  rw [hmap]
  exact mendsTo_flatMap fun c hc => mendsTo_nil.mark (h c hc)

/-- Text that begins with ASCII stays as it is. -/
theorem mendsTo_of_isText {bs : Bytes} (htext : Json.IsText bs) (hbegins : EndsChar bs) :
    MendsTo bs bs := by
  obtain ⟨cs, rfl⟩ := htext
  have hmend := mend_text cs []
  rw [List.append_nil] at hmend
  exact ⟨hbegins, hmend.trans (List.append_nil _)⟩

/-- Mending adds no control, no quote and no backslash. So a string that ended at its closing quote
still ends there. -/
theorem isPlain_mend {bs : Bytes} (h : ∀ b ∈ bs, Json.IsPlain b) :
    ∀ b ∈ mend bs, Json.IsPlain b := by
  intro b hb
  rw [mend_eq] at hb
  obtain ⟨c, hc, hb⟩ := List.mem_flatMap.mp hb
  -- an octet of the result is one of U+FFFD or was in the input
  rcases (stretches_lossyChars bs).mem hc with rfl | hall
  · have hreplacement : ∀ b ∈ String.utf8EncodeChar '�', Json.IsPlain b :=
      Json.isPlain_utf8EncodeChar (by decide) (by decide) (by decide)
    exact hreplacement b hb
  · exact h b (hall b hb)

end Utf8

/-! ## Mending what was written -/

namespace Json

open Utf8

/-- A string of octets that stand for themselves. -/
def quoted (bs : Bytes) : Bytes :=
  '"'.toUInt8 :: (bs ++ ['"'.toUInt8])

/-- **A string is mended by itself.** Its closing quote breaks off whatever character its octets
leave open. -/
theorem mendsTo_quoted (bs : Bytes) : MendsTo (quoted bs) (quoted (mend bs)) := by
  have hquote : MendsTo ['"'.toUInt8] ['"'.toUInt8] := mendsTo_nil.mark (by decide)
  have hmark : MendsTo (quoted bs) ('"'.toUInt8 :: mend (bs ++ ['"'.toUInt8])) :=
    mendsTo_mark (by decide) (bs ++ ['"'.toUInt8])
  rw [mend_append bs hquote.apart, hquote.mends] at hmark
  exact hmark

/-- A comma is ASCII, so what stands between commas is mended by itself. -/
theorem mendsTo_commas {α : Type} {xs : List α} {f g : α → Bytes}
    (h : ∀ x ∈ xs, MendsTo (f x) (g x)) :
    MendsTo (commas (xs.map f)) (commas (xs.map g)) := by
  cases xs with
  | nil => exact mendsTo_nil
  | cons x xs =>
      have hcomma : ∀ y ∈ xs, MendsTo (','.toUInt8 :: f y) (','.toUInt8 :: g y) := by
        intro y hy
        exact (h y (List.mem_cons_of_mem _ hy)).mark (by decide)
      have hrest := mendsTo_flatMap hcomma
      rw [List.map_cons, List.map_cons, commas_cons, commas_cons, List.flatMap_map,
        List.flatMap_map]
      exact (h x List.mem_cons_self).append hrest

/-- What stands between two ASCII marks. -/
theorem mendsTo_between {c d : Char} (hc : c.toNat < 0x80) (hd : d.toNat < 0x80) {bs bs' : Bytes}
    (h : MendsTo bs bs') :
    MendsTo (c.toUInt8 :: bs ++ [d.toUInt8]) (c.toUInt8 :: bs' ++ [d.toUInt8]) :=
  (h.mark hc).append (mendsTo_nil.mark hd)

theorem mendsTo_writeList {α : Type} {xs : List α} {f g : α → Bytes}
    (h : ∀ x ∈ xs, MendsTo (f x) (g x)) :
    MendsTo (writeList (xs.map f)) (writeList (xs.map g)) :=
  mendsTo_between (by decide) (by decide) (mendsTo_commas h)

theorem mendsTo_writeString (s : String) : MendsTo (writeString s) (writeString s) := by
  have hbegins : EndsChar (writeString s) := by
    show ('"'.toUInt8).toNat < 0x80
    decide
  exact mendsTo_of_isText (isText_writeString s) hbegins

/-- An object is mended value by value; the names of its members are text and stay. -/
theorem mendsTo_writeObject {ms : List (String × (Bytes × Bytes))}
    (h : ∀ m ∈ ms, MendsTo m.2.1 m.2.2) :
    MendsTo (writeObject (ms.map fun m => (m.1, m.2.1)))
      (writeObject (ms.map fun m => (m.1, m.2.2))) := by
  have hmember : ∀ m ∈ ms, MendsTo (writeMember (m.1, m.2.1)) (writeMember (m.1, m.2.2)) := by
    intro m hm
    exact (mendsTo_writeString m.1).append ((h m hm).mark (by decide))
  have hmembers := mendsTo_commas hmember
  unfold writeObject
  rw [List.map_map, List.map_map]
  exact mendsTo_between (by decide) (by decide) hmembers

theorem mendsTo_writeInt (n : Int) : MendsTo (writeInt n) (writeInt n) := by
  -- digits and the minus are ASCII, so a number stays as it is
  have hdigit : ∀ k, ∀ c ∈ Decimal.natDigits k, c.toNat < 0x80 := by
    intro k c hc
    have hdigit := Nat.isDigit_of_mem_toDigits (by decide) (by decide) hc
    have hhi : c.toNat ≤ 0x39 := (Char.isDigit_iff_toNat.mp hdigit).2
    omega
  refine mendsTo_ascii fun c hc => ?_
  cases n with
  | ofNat k => exact hdigit k c hc
  | negSucc k =>
      rcases List.mem_cons.mp hc with rfl | hc
      · decide
      · exact hdigit (k + 1) c hc

/-! ## Reading what was written -/

/-- A string of octets that stand for themselves is read as the text they are. -/
theorem reads_quoted {s : String} (h : ∀ b ∈ encode s, IsPlain b) :
    Reads text (quoted (encode s)) s := by
  intro rest _
  have hstring : string (encode s ++ '"'.toUInt8 :: rest) = .ok (s, rest) := by
    -- none of its octets ends or escapes anything before the closing quote
    have hoctets : stringOctets .plain [] (encode s ++ '"'.toUInt8 :: rest)
        = .ok (encode s, rest) := by
      rw [stringOctets_plain h, List.append_nil]
      show Except.ok ((encode s).reverse.reverse, rest) = _
      rw [List.reverse_reverse]
    unfold string
    simp only [bind, Except.bind, hoctets, decode?_encode]
    rfl
  have hopening : opening (quoted (encode s) ++ rest) = .ok (.scalar (.string s), rest) := by
    have hshape : quoted (encode s) ++ rest
        = '"'.toUInt8 :: (encode s ++ '"'.toUInt8 :: rest) := by simp [quoted]
    unfold opening
    rw [hshape, skipBlank_cons rfl]
    dsimp only
    rw [if_pos rfl, hstring]
    rfl
  unfold text
  simp only [bind, Except.bind, hopening]
  rfl

/-- An integer is read back between bounds that fit 64 bits. -/
theorem reads_integer {lo hi n : Int} (expected : String) (hlo : lo ≤ n) (hhi : n ≤ hi)
    (hmin : -2 ^ 63 ≤ lo) (hmax : hi ≤ maxWord) :
    Reads (integer lo hi expected) (writeInt n) n := by
  intro rest hrest
  cases n with
  | ofNat k =>
      have hle : (k : Int) ≤ hi := hhi
      have hword : k ≤ maxWord := by omega
      have hopening : opening (writeInt (.ofNat k) ++ rest)
          = .ok (.scalar (.number (.natural k)), rest) := opening_digits hword hrest
      unfold integer
      simp only [bind, Except.bind, hopening]
      rw [if_pos hle]
      rfl
  | negSucc k =>
      have hlow : k + 1 ≤ 2 ^ 63 := by omega
      have hopening : opening (writeInt (.negSucc k) ++ rest)
          = .ok (.scalar (.number (.negative (.negSucc k))), rest) :=
        opening_minus (Nat.succ_pos k) hlow hrest
      unfold integer
      simp only [bind, Except.bind, hopening]
      rw [if_pos hlo]
      rfl

theorem reads_int32 (n : Int32) : Reads int32Reader (writeInt n.toInt) n := by
  intro rest hrest
  have hlo : -2 ^ 31 ≤ n.toInt := n.le_toInt
  have hhi : n.toInt ≤ 2 ^ 31 - 1 := Int.le_sub_one_of_lt n.toInt_lt
  have hread := reads_integer "i32" hlo hhi (by decide) (by decide)
  unfold int32Reader
  simp only [bind, Except.bind, hread rest hrest]
  exact congrArg (fun m => Except.ok (m, rest)) (Int32.ofInt_toInt n)

theorem reads_uint32 (n : UInt32) : Reads uint32Reader (writeInt n.toNat) n := by
  intro rest hrest
  have hlt := n.toNat_lt
  have hlo : (0 : Int) ≤ n.toNat := Int.natCast_nonneg _
  have hhi : (n.toNat : Int) ≤ 2 ^ 32 - 1 := by omega
  have hread := reads_integer "u32" hlo hhi (by decide) (by decide)
  unfold uint32Reader
  simp only [bind, Except.bind, hread rest hrest, Int.toNat_natCast]
  exact congrArg (fun m => Except.ok (m, rest)) (UInt32.ofNat_toNat)

end Json

/-! ## Scans -/

/-- A network as a device sends it. Its name is octets as they were received, text or not, without
the controls and marks that JSON would have escaped. -/
structure RawNetwork where
  name : Bytes
  rssi : Int32
  channel : UInt32
  plain : ∀ b ∈ name, Json.IsPlain b

namespace RawNetwork

open Json Utf8

/-- Writes a network whose name is given by octets. -/
def write (name : Bytes) (rssi : Int32) (channel : UInt32) : Bytes :=
  writeObject
    [("name", quoted name), ("rssi", writeInt rssi.toInt), ("channel", writeInt channel.toNat)]

/-- The body of a scan, each name in the octets that were received. -/
def scanBody (networks : List RawNetwork) : Bytes :=
  writeObject [("networks", writeList (networks.map fun n => write n.name n.rssi n.channel))]

/-- The network with its name decoded, U+FFFD for what is not text in it. -/
def decoded (n : RawNetwork) : Network :=
  ⟨decodeLossy n.name, n.rssi, n.channel⟩

theorem mendsTo_write (name : Bytes) (rssi : Int32) (channel : UInt32) :
    MendsTo (write name rssi channel) (write (mend name) rssi channel) := by
  have hmembers : ∀ m ∈ [("name", (quoted name, quoted (mend name))),
      ("rssi", (writeInt rssi.toInt, writeInt rssi.toInt)),
      ("channel", (writeInt channel.toNat, writeInt channel.toNat))], MendsTo m.2.1 m.2.2 := by
    intro m hm
    simp only [List.mem_cons, List.not_mem_nil, or_false] at hm
    rcases hm with rfl | rfl | rfl
    · exact mendsTo_quoted name
    · exact mendsTo_writeInt rssi.toInt
    · exact mendsTo_writeInt channel.toNat
  exact mendsTo_writeObject hmembers

/-- **A body is mended name by name.** The marks of the body stay where they are, so this is the
body of the same scan with each name mended. -/
theorem mend_scanBody (networks : List RawNetwork) :
    mend (scanBody networks)
      = writeObject [("networks",
          writeList (networks.map fun n => write (mend n.name) n.rssi n.channel))] := by
  have hlist : MendsTo (writeList (networks.map fun n => write n.name n.rssi n.channel))
      (writeList (networks.map fun n => write (mend n.name) n.rssi n.channel)) :=
    mendsTo_writeList fun n _ => mendsTo_write n.name n.rssi n.channel
  have hmembers : ∀ m ∈ [("networks",
      (writeList (networks.map fun n => write n.name n.rssi n.channel),
        writeList (networks.map fun n => write (mend n.name) n.rssi n.channel)))],
      MendsTo m.2.1 m.2.2 := by
    intro m hm
    rw [List.mem_singleton.mp hm]
    exact hlist
  exact (mendsTo_writeObject hmembers).mends

/-- A network is read with its name decoded. The members are taken in the order they are written,
each one adding its field to what was taken before. -/
theorem reads_write (n : RawNetwork) (depth : Nat) :
    Reads (Network.rule.reader (depth + 1)) (write (mend n.name) n.rssi n.channel) n.decoded := by
  have hname : Reads text (quoted (mend n.name)) (decodeLossy n.name) :=
    reads_quoted (isPlain_mend n.plain)
  have hrssi := reads_int32 n.rssi
  have hchannel := reads_uint32 n.channel
  have htakesChannel : Network.rule.Takes depth ⟨some (decodeLossy n.name), some n.rssi, none⟩
      [("channel", writeInt n.channel.toNat)]
      ⟨some (decodeLossy n.name), some n.rssi, some n.channel⟩ := by
    refine .field rfl rfl (fun rest hrest => ?_) (.none _)
    simp only [bind, Except.bind, hchannel rest hrest]
    rfl
  have htakesRssi : Network.rule.Takes depth ⟨some (decodeLossy n.name), none, none⟩
      [("rssi", writeInt n.rssi.toInt), ("channel", writeInt n.channel.toNat)]
      ⟨some (decodeLossy n.name), some n.rssi, some n.channel⟩ := by
    refine .field rfl rfl (fun rest hrest => ?_) htakesChannel
    simp only [bind, Except.bind, hrssi rest hrest]
    rfl
  have htakesName : Network.rule.Takes depth ⟨none, none, none⟩
      [("name", quoted (mend n.name)), ("rssi", writeInt n.rssi.toInt),
        ("channel", writeInt n.channel.toNat)]
      ⟨some (decodeLossy n.name), some n.rssi, some n.channel⟩ := by
    refine .field rfl rfl (fun rest hrest => ?_) htakesRssi
    simp only [bind, Except.bind, hname rest hrest]
    rfl
  exact RecordRule.reads_of_takes htakesName rfl

/-- A mended body is read network by network. -/
theorem ofJson_mend_scanBody (networks : List RawNetwork) :
    ScanReport.ofJson (mend (scanBody networks)) = .ok ⟨networks.map decoded⟩ := by
  have hlist : Reads (list 126 Network.rule.reader)
      (writeList (networks.map fun n => write (mend n.name) n.rssi n.channel))
      (networks.map decoded) :=
    reads_writeList (fun n _ => n.reads_write 124) fun n _ => beginsValue_writeObject _
  have htakes : ScanReport.rule.Takes 126 none
      [("networks", writeList (networks.map fun n => write (mend n.name) n.rssi n.channel))]
      (some (networks.map decoded)) := by
    refine .field rfl rfl (fun rest hrest => ?_) (.none _)
    simp only [bind, Except.bind, hlist rest hrest]
    rfl
  have hreads : Reads (ScanReport.rule.reader maxDepth) (mend (scanBody networks))
      ⟨networks.map decoded⟩ := by
    rw [mend_scanBody]
    exact RecordRule.reads_of_takes htakes rfl
  exact parse_of_reads hreads

end RawNetwork

namespace Http

/--
**No odd name hides another network.**

Let a device answer a scan with status 200, with any headers, and with a body in which the names
are octets of any kind but controls, quotes and backslashes. Then the reply comes to a scan. It has
the same networks in the same order, each with its signal and channel, and each name is decoded
as if its octets were all there is.

Anyone can put up a network with a name that is not text. Without this such a neighbour would keep
every other network out of the list.
-/
theorem odd_names_hide_no_network (networks : List RawNetwork) (headers : List Header) :
    scanReply (.ok ⟨200, headers, some (RawNetwork.scanBody networks)⟩)
      = .ok ⟨networks.map fun n => ⟨Utf8.decodeLossy n.name, n.rssi, n.channel⟩⟩ := by
  have hread := RawNetwork.ofJson_mend_scanBody networks
  have hcontent : Response.content ⟨200, headers, some (RawNetwork.scanBody networks)⟩
      = .ok (RawNetwork.scanBody networks) := rfl
  unfold scanReply received
  simp only [Except.mapError, bind, Except.bind, hcontent]
  -- the reader of the body starts from the mended octets
  rw [show Utf8.encode (Utf8.decodeLossy (RawNetwork.scanBody networks))
    = Utf8.mend (RawNetwork.scanBody networks) from rfl, hread]
  rfl

/-- A name in another encoding, and one that is cut off inside a character. -/
def cutNames : List RawNetwork :=
  [⟨[0x43, 0xE9], -40, 6, by rw [List.forall_mem_cons, List.forall_mem_singleton]; decide⟩,
    ⟨[0xE2, 0x82], -2147483648, 4294967295,
      by rw [List.forall_mem_cons, List.forall_mem_singleton]; decide⟩]

theorem odd_names_hide_no_network_cut :
    RawNetwork.scanBody cutNames
        = Utf8.encode "\x7b\"networks\":[\x7b\"name\":\"C" ++ [0xE9]
          ++ Utf8.encode "\",\"rssi\":-40,\"channel\":6\x7d,\x7b\"name\":\"" ++ [0xE2, 0x82]
          ++ Utf8.encode "\",\"rssi\":-2147483648,\"channel\":4294967295\x7d]\x7d"
      ∧ scanReply (.ok ⟨200, [], some (RawNetwork.scanBody cutNames)⟩)
        = .ok ⟨[⟨"C\uFFFD", -40, 6⟩, ⟨"\uFFFD", -2147483648, 4294967295⟩]⟩ := by
  refine ⟨by decide +kernel, ?_⟩
  rw [odd_names_hide_no_network]
  decide +kernel

end Http

end DeviceSetup
