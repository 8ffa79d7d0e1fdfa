import DeviceSetup.Text.Utf8

/-!
# Texts survive UTF-8

The octets of a text are read back as that text. The reader goes octet by octet and keeps
its place in a state, so the statement that carries the proof is about one character in
front of anything: the reader takes its octets, adds the character and is between
characters again (`readFrom_char`).

Nor is anything else read as a text. The reader takes no octet that the shortest form of a
character would not have in its place, so octets that it reads without a fault begin with
those of a character (`exists_encodeChar`) and are, in the end, those of the text.
-/

namespace DeviceSetup.Utf8

/-! ## The octets of a character -/

theorem readFrom_cons (state : State) (done : List Symbol) (b : UInt8) (rest : Bytes) :
    readFrom state done (b :: rest)
      = readFrom (step state b.toNat).2 ((step state b.toNat).1.reverse ++ done) rest := rfl

theorem start_single {b : Nat} (h : b < 0x80) :
    start b = (some (.char (Char.ofNat b)), .between) := by
  unfold start
  rw [if_pos h]

/-- The two octets below would begin a longer form than needed, so they begin nothing. -/
theorem start_double {b : Nat} (hlo : 0xC2 ≤ b) (hhi : b < 0xE0) :
    start b = (none, .within 1 1 (b - 0xC0) 0x80 0xBF) := by
  unfold start
  rw [if_neg (by omega), if_neg (by omega), if_pos hhi]

/-- The lowest octet that may follow the first of three. -/
def tripleLow (b : Nat) : Nat := if b = 0xE0 then 0xA0 else 0x80

/-- The highest octet that may follow the first of three. -/
def tripleHigh (b : Nat) : Nat := if b = 0xED then 0x9F else 0xBF

theorem start_triple {b : Nat} (hlo : 0xE0 ≤ b) (hhi : b < 0xF0) :
    start b = (none, .within 1 2 (b - 0xE0) (tripleLow b) (tripleHigh b)) := by
  unfold start tripleLow tripleHigh
  rw [if_neg (by omega), if_neg (by omega), if_neg (by omega)]
  by_cases h0 : b = 0xE0
  · subst h0
    rfl
  · rw [if_neg h0, if_neg h0]
    by_cases hD : b = 0xED
    · subst hD
      rfl
    · rw [if_neg hD, if_neg hD, if_pos hhi]

/-- The lowest octet that may follow the first of four. -/
def quadrupleLow (b : Nat) : Nat := if b = 0xF0 then 0x90 else 0x80

/-- The highest octet that may follow the first of four. -/
def quadrupleHigh (b : Nat) : Nat := if b = 0xF4 then 0x8F else 0xBF

theorem start_quadruple {b : Nat} (hlo : 0xF0 ≤ b) (hhi : b ≤ 0xF4) :
    start b = (none, .within 1 3 (b - 0xF0) (quadrupleLow b) (quadrupleHigh b)) := by
  unfold start quadrupleLow quadrupleHigh
  rw [if_neg (by omega), if_neg (by omega), if_neg (by omega), if_neg (by omega),
    if_neg (by omega), if_neg (by omega)]
  by_cases h0 : b = 0xF0
  · subst h0
    rfl
  · rw [if_neg h0, if_neg h0]
    by_cases h4 : b = 0xF4
    · subst h4
      rfl
    · rw [if_pos (show b < 0xF4 by omega), if_neg h4]

theorem step_last {seen acc lo hi b : Nat} (hlo : lo ≤ b) (hhi : b ≤ hi) :
    step (.within seen 1 acc lo hi) b
      = ([.char (Char.ofNat (acc * 64 + (b - 0x80)))], .between) := by
  rw [step, if_pos ⟨hlo, hhi⟩]
  exact if_pos (Nat.le_refl 1)

theorem step_more {seen need acc lo hi b : Nat} (hlo : lo ≤ b) (hhi : b ≤ hi) :
    step (.within seen (need + 2) acc lo hi) b
      = ([], .within (seen + 1) (need + 1) (acc * 64 + (b - 0x80)) 0x80 0xBF) := by
  rw [step, if_pos ⟨hlo, hhi⟩]
  exact if_neg (by omega)

theorem toNat_octet {n : Nat} (h : n < 256) : (UInt8.ofNat n).toNat = n := by
  rw [UInt8.toNat_ofNat']
  exact Nat.mod_eq_of_lt h

/-! ## Characters -/

/-- The code points that are characters. -/
theorem char_range (c : Char) :
    c.val.toNat < 0xD800 ∨ 0xDFFF < c.val.toNat ∧ c.val.toNat < 0x110000 := c.valid

theorem ofNat_val (c : Char) : Char.ofNat c.val.toNat = c :=
  Char.ofNat_toNat c

/-- **A character in front is read as that character.** The bounds on the second octet, which keep
out longer forms and surrogates, let every character through. -/
theorem readFrom_char (done : List Symbol) (c : Char) (rest : Bytes) :
    readFrom .between done (String.utf8EncodeChar c ++ rest)
      = readFrom .between (.char c :: done) rest := by
  have hrange := char_range c
  have hchar := ofNat_val c
  unfold String.utf8EncodeChar
  generalize c.val.toNat = v at hrange hchar
  dsimp only
  split
  · rename_i h1
    rw [List.cons_append, List.nil_append, readFrom_cons, toNat_octet (by omega), step,
      start_single (by omega), hchar]
    rfl
  split
  · rename_i h1 h2
    -- two octets
    have hval : (v / 64 % 32 + 192 - 0xC0) * 64 + (v % 64 + 128 - 0x80) = v := by omega
    simp only [List.cons_append, List.nil_append, readFrom_cons]
    rw [toNat_octet (by omega), toNat_octet (by omega), step, start_double (by omega) (by omega),
      step_last (by omega) (by omega), hval, hchar]
    rfl
  split
  · rename_i h1 h2 h3
    -- three octets: the first one bounds the second
    have hlo : tripleLow (v / 4096 % 16 + 224) ≤ v / 64 % 64 + 128 := by
      unfold tripleLow
      split <;> omega
    have hhi : v / 64 % 64 + 128 ≤ tripleHigh (v / 4096 % 16 + 224) := by
      unfold tripleHigh
      split <;> omega
    have hval : ((v / 4096 % 16 + 224 - 0xE0) * 64 + (v / 64 % 64 + 128 - 0x80)) * 64
        + (v % 64 + 128 - 0x80) = v := by omega
    simp only [List.cons_append, List.nil_append, readFrom_cons]
    rw [toNat_octet (by omega), toNat_octet (by omega), toNat_octet (by omega), step,
      start_triple (by omega) (by omega), step_more hlo hhi,
      step_last (by omega) (by omega), hval, hchar]
    rfl
  · rename_i h1 h2 h3
    -- four octets
    have hlo : quadrupleLow (v / 262144 % 8 + 240) ≤ v / 4096 % 64 + 128 := by
      unfold quadrupleLow
      split <;> omega
    have hhi : v / 4096 % 64 + 128 ≤ quadrupleHigh (v / 262144 % 8 + 240) := by
      unfold quadrupleHigh
      split <;> omega
    have hval : (((v / 262144 % 8 + 240 - 0xF0) * 64 + (v / 4096 % 64 + 128 - 0x80)) * 64
        + (v / 64 % 64 + 128 - 0x80)) * 64 + (v % 64 + 128 - 0x80) = v := by omega
    simp only [List.cons_append, List.nil_append, readFrom_cons]
    rw [toNat_octet (by omega), toNat_octet (by omega), toNat_octet (by omega),
      toNat_octet (by omega), step, start_quadruple (by omega) (by omega), step_more hlo hhi,
      step_more (by omega) (by omega), step_last (by omega) (by omega), hval, hchar]
    rfl

/-! ## Octets of characters -/

theorem encodeChars_cons (c : Char) (cs : List Char) :
    encodeChars (c :: cs) = String.utf8EncodeChar c ++ encodeChars cs := rfl

theorem encodeChars_append (cs ds : List Char) :
    encodeChars (cs ++ ds) = encodeChars cs ++ encodeChars ds :=
  List.flatMap_append

theorem encodeChar_ascii {c : Char} (h : c.toNat < 0x80) :
    String.utf8EncodeChar c = [c.toUInt8] := by
  have hc : c.toNat ≤ 0x7F := Nat.le_of_lt_succ h
  simp only [String.utf8EncodeChar, Char.toNat_val, if_pos hc]
  rfl

/-- ASCII characters are an octet each. -/
theorem encodeChars_ascii {cs : List Char} (h : ∀ c ∈ cs, c.toNat < 0x80) :
    encodeChars cs = cs.map Char.toUInt8 := by
  induction cs with
  | nil => rfl
  | cons c cs ih =>
      have hc := encodeChar_ascii (h c List.mem_cons_self)
      have hrest := ih fun d hd => h d (List.mem_cons_of_mem _ hd)
      rw [encodeChars_cons, hc, hrest]
      rfl

theorem toNat_toUInt8 {c : Char} (h : c.toNat < 0x80) : c.toUInt8.toNat = c.toNat := by
  have hoctet : c.toUInt8.toNat = c.toNat % 256 := UInt32.toNat_toUInt8 c.val
  omega

/-- Every octet of a character beyond ASCII is beyond ASCII. -/
theorem le_of_mem_encodeChar {c : Char} (h : 0x80 ≤ c.toNat) {b : UInt8}
    (hb : b ∈ String.utf8EncodeChar c) : 0x80 ≤ b.toNat := by
  have hrange := char_range c
  have hc : 0x80 ≤ c.val.toNat := h
  unfold String.utf8EncodeChar at hb
  generalize c.val.toNat = v at hrange hc hb
  dsimp only at hb
  rw [if_neg (by omega)] at hb
  have hoctet : ∃ n, 0x80 ≤ n ∧ n < 256 ∧ b = UInt8.ofNat n := by
    split at hb
    · simp only [List.mem_cons, List.not_mem_nil, or_false] at hb
      rcases hb with rfl | rfl
      · exact ⟨_, by omega, by omega, rfl⟩
      · exact ⟨_, by omega, by omega, rfl⟩
    split at hb
    · simp only [List.mem_cons, List.not_mem_nil, or_false] at hb
      rcases hb with rfl | rfl | rfl
      · exact ⟨_, by omega, by omega, rfl⟩
      · exact ⟨_, by omega, by omega, rfl⟩
      · exact ⟨_, by omega, by omega, rfl⟩
    · simp only [List.mem_cons, List.not_mem_nil, or_false] at hb
      rcases hb with rfl | rfl | rfl | rfl
      · exact ⟨_, by omega, by omega, rfl⟩
      · exact ⟨_, by omega, by omega, rfl⟩
      · exact ⟨_, by omega, by omega, rfl⟩
      · exact ⟨_, by omega, by omega, rfl⟩
  obtain ⟨n, hlo, hhi, rfl⟩ := hoctet
  rw [toNat_octet hhi]
  exact hlo

/-! ## Texts -/

/-- Character by character, with what was read before kept in reverse. -/
theorem readFrom_encodeChars (done : List Symbol) (cs : List Char) :
    readFrom .between done (encodeChars cs) = done.reverse ++ cs.map .char := by
  induction cs generalizing done with
  | nil => rfl
  | cons c rest ih =>
      rw [encodeChars, List.flatMap_cons, readFrom_char]
      rw [encodeChars] at ih
      rw [ih, List.reverse_cons, List.append_assoc]
      rfl

theorem symbols_encodeChars (cs : List Char) : symbols (encodeChars cs) = cs.map .char :=
  readFrom_encodeChars [] cs

theorem collect_chars (index : Nat) (done cs : List Char) :
    collect index done (cs.map .char) = .ok (done.reverse ++ cs) := by
  induction cs generalizing index done with
  | nil => simp [collect]
  | cons c rest ih =>
      rw [List.map_cons, collect, ih, List.reverse_cons, List.append_assoc]
      rfl

/--
**A text survives UTF-8.**

Every format writes its texts in this way, so each round trip of a format ends here.
-/
theorem decode_encode (s : String) : decode (encode s) = .ok s := by
  unfold decode encode
  rw [symbols_encodeChars, collect_chars]
  exact congrArg Except.ok (String.ofList_toList)

theorem decode?_encode (s : String) : decode? (encode s) = some s := by
  unfold decode?
  rw [decode_encode]
  rfl

/-! ## Only the octets of a text are read as that text -/

/-- What was read before is only put in front. -/
theorem readFrom_done (state : State) (done : List Symbol) (bs : Bytes) :
    readFrom state done bs = done.reverse ++ readFrom state [] bs := by
  induction bs generalizing state done with
  | nil => simp [readFrom]
  | cons b rest ih =>
      rw [readFrom_cons, readFrom_cons, ih, ih _ (_ ++ [])]
      simp

/-- An octet that may not stand inside a character breaks it off and is read anew. -/
theorem readFrom_broken {seen need acc lo hi : Nat} {b : UInt8}
    (h : ¬ (lo ≤ b.toNat ∧ b.toNat ≤ hi)) (rest : Bytes) :
    readFrom (.within seen need acc lo hi) [] (b :: rest) = .ill seen :: symbols (b :: rest) := by
  have hanew : symbols (b :: rest)
      = (start b.toNat).1.toList ++ readFrom (start b.toNat).2 [] rest := by
    rw [symbols, readFrom_cons, readFrom_done, step]
    simp
  rw [hanew, readFrom_cons, readFrom_done, step, if_neg h]
  simp

/-- Reading begins with a stretch that is no character, and goes on between characters. -/
def BeginsIll (bs : Bytes) (found : List Symbol) : Prop :=
  ∃ bad rest s, bs = bad ++ rest ∧ found = s :: symbols rest ∧ ∀ c, s ≠ .char c

theorem BeginsIll.cons {bs : Bytes} {found : List Symbol} (h : BeginsIll bs found) (b : UInt8) :
    BeginsIll (b :: bs) found := by
  obtain ⟨bad, rest, s, rfl, hfound, hs⟩ := h
  exact ⟨b :: bad, rest, s, rfl, hfound, hs⟩

/-- Inside a character the input goes on with an octet that may stand there, or is ill-formed. -/
theorem beginsIll_or_octet (seen need acc lo hi : Nat) (bs : Bytes) :
    BeginsIll bs (readFrom (.within seen need acc lo hi) [] bs)
      ∨ ∃ b rest, bs = b :: rest ∧ lo ≤ b.toNat ∧ b.toNat ≤ hi := by
  cases bs with
  | nil => exact .inl ⟨[], [], .cut seen, rfl, rfl, nofun⟩
  | cons b rest =>
      by_cases hb : lo ≤ b.toNat ∧ b.toNat ≤ hi
      · exact .inr ⟨b, rest, rfl, hb⟩
      · exact .inl ⟨[], b :: rest, .ill seen, rfl, readFrom_broken hb rest, nofun⟩

theorem beginsIll_or_more (seen need acc lo hi : Nat) (bs : Bytes) :
    BeginsIll bs (readFrom (.within seen (need + 2) acc lo hi) [] bs)
      ∨ ∃ b rest, bs = b :: rest ∧ (lo ≤ b.toNat ∧ b.toNat ≤ hi)
        ∧ readFrom (.within seen (need + 2) acc lo hi) [] bs
          = readFrom (.within (seen + 1) (need + 1) (acc * 64 + (b.toNat - 0x80)) 0x80 0xBF) []
              rest := by
  rcases beginsIll_or_octet seen (need + 2) acc lo hi bs with hill | ⟨b, rest, rfl, hlo, hhi⟩
  · exact .inl hill
  · refine .inr ⟨b, rest, rfl, ⟨hlo, hhi⟩, ?_⟩
    rw [readFrom_cons, step_more hlo hhi]
    rfl

theorem val_ofNat {n : Nat} (h : n.isValidChar) : (Char.ofNat n).val.toNat = n := by
  unfold Char.ofNat
  rw [dif_pos h]
  rfl

theorem octet_eq {n : Nat} {b : UInt8} (h : n = b.toNat) : UInt8.ofNat n = b := by
  rw [h, UInt8.ofNat_toNat]

/-- What the first of three octets leaves to the second: no longer form than needed, no
surrogate. -/
theorem triple_second {b b₁ : Nat} (h : tripleLow b ≤ b₁ ∧ b₁ ≤ tripleHigh b) :
    (0x80 ≤ b₁ ∧ b₁ ≤ 0xBF) ∧ (b = 0xE0 → 0xA0 ≤ b₁) ∧ (b = 0xED → b₁ ≤ 0x9F) := by
  unfold tripleLow tripleHigh at h
  split at h <;> split at h <;> omega

/-- What the first of four octets leaves to the second: no longer form than needed, and nothing
above the last code point. -/
theorem quadruple_second {b b₁ : Nat} (h : quadrupleLow b ≤ b₁ ∧ b₁ ≤ quadrupleHigh b) :
    (0x80 ≤ b₁ ∧ b₁ ≤ 0xBF) ∧ (b = 0xF0 → 0x90 ≤ b₁) ∧ (b = 0xF4 → b₁ ≤ 0x8F) := by
  unfold quadrupleLow quadrupleHigh at h
  split at h <;> split at h <;> omega

section Characters

variable {b b₁ b₂ b₃ : UInt8}

theorem encodeChar_single (hb : b.toNat < 0x80) :
    String.utf8EncodeChar (Char.ofNat b.toNat) = [b] := by
  unfold String.utf8EncodeChar
  rw [val_ofNat (by unfold Nat.isValidChar; omega)]
  dsimp only
  rw [if_pos (by omega), UInt8.ofNat_toNat]

/-- Octets that the reader takes for a character are those that the character is written in. -/
theorem encodeChar_double (hb : 0xC2 ≤ b.toNat ∧ b.toNat < 0xE0)
    (h₁ : 0x80 ≤ b₁.toNat ∧ b₁.toNat ≤ 0xBF) :
    String.utf8EncodeChar (Char.ofNat ((b.toNat - 0xC0) * 64 + (b₁.toNat - 0x80))) = [b, b₁] := by
  unfold String.utf8EncodeChar
  rw [val_ofNat (by unfold Nat.isValidChar; omega)]
  dsimp only
  rw [if_neg (by omega), if_pos (by omega), octet_eq (b := b) (by omega),
    octet_eq (b := b₁) (by omega)]

theorem encodeChar_triple (hb : 0xE0 ≤ b.toNat ∧ b.toNat < 0xF0)
    (h₁ : tripleLow b.toNat ≤ b₁.toNat ∧ b₁.toNat ≤ tripleHigh b.toNat)
    (h₂ : 0x80 ≤ b₂.toNat ∧ b₂.toNat ≤ 0xBF) :
    String.utf8EncodeChar
        (Char.ofNat (((b.toNat - 0xE0) * 64 + (b₁.toNat - 0x80)) * 64 + (b₂.toNat - 0x80)))
      = [b, b₁, b₂] := by
  have hsecond := triple_second h₁
  clear h₁
  unfold String.utf8EncodeChar
  rw [val_ofNat (by unfold Nat.isValidChar; omega)]
  dsimp only
  rw [if_neg (by omega), if_neg (by omega), if_pos (by omega), octet_eq (b := b) (by omega),
    octet_eq (b := b₁) (by omega), octet_eq (b := b₂) (by omega)]

theorem encodeChar_quadruple (hb : 0xF0 ≤ b.toNat ∧ b.toNat ≤ 0xF4)
    (h₁ : quadrupleLow b.toNat ≤ b₁.toNat ∧ b₁.toNat ≤ quadrupleHigh b.toNat)
    (h₂ : 0x80 ≤ b₂.toNat ∧ b₂.toNat ≤ 0xBF) (h₃ : 0x80 ≤ b₃.toNat ∧ b₃.toNat ≤ 0xBF) :
    String.utf8EncodeChar
        (Char.ofNat ((((b.toNat - 0xF0) * 64 + (b₁.toNat - 0x80)) * 64 + (b₂.toNat - 0x80)) * 64
          + (b₃.toNat - 0x80)))
      = [b, b₁, b₂, b₃] := by
  have hsecond := quadruple_second h₁
  clear h₁
  unfold String.utf8EncodeChar
  rw [val_ofNat (by unfold Nat.isValidChar; omega)]
  dsimp only
  rw [if_neg (by omega), if_neg (by omega), if_neg (by omega), octet_eq (b := b) (by omega),
    octet_eq (b := b₁) (by omega), octet_eq (b := b₂) (by omega), octet_eq (b := b₃) (by omega)]

/-- **Any octets begin with those of a character, or with some that are none.** There is no third
way to go on, so everything about octets of any kind can be told from the front. -/
theorem beginsIll_or_char (b : UInt8) (rest : Bytes) :
    BeginsIll (b :: rest) (symbols (b :: rest))
      ∨ ∃ c rest', b :: rest = String.utf8EncodeChar c ++ rest' := by
  rw [symbols, readFrom_cons, step]
  by_cases hsingle : b.toNat < 0x80
  · exact .inr ⟨_, rest, by rw [encodeChar_single hsingle]; rfl⟩
  by_cases hill : b.toNat < 0xC2 ∨ 0xF4 < b.toNat
  · -- no character begins so
    have hstart : start b.toNat = (some (.ill 1), .between) := by
      unfold start
      rw [if_neg hsingle]
      rcases hill with hlo | hhi
      · rw [if_pos hlo]
      · rw [if_neg (by omega), if_neg (by omega), if_neg (by omega), if_neg (by omega),
          if_neg (by omega), if_neg (by omega), if_neg (by omega), if_neg (by omega)]
    rw [hstart, readFrom_done]
    exact .inl ⟨[b], rest, .ill 1, rfl, rfl, nofun⟩
  -- the first octet says how many are to follow, and each of them may fail to
  have hfirst : 0xC2 ≤ b.toNat ∧ b.toNat ≤ 0xF4 := by omega
  by_cases hdouble : b.toNat < 0xE0
  · rw [start_double hfirst.1 hdouble]
    rcases beginsIll_or_octet 1 1 _ _ _ rest with hbad | ⟨b₁, rest₁, rfl, h₁⟩
    · exact .inl (hbad.cons b)
    · exact .inr ⟨_, rest₁, by rw [encodeChar_double ⟨hfirst.1, hdouble⟩ h₁]; rfl⟩
  by_cases htriple : b.toNat < 0xF0
  · rw [start_triple (by omega) htriple]
    rcases beginsIll_or_more 1 0 _ _ _ rest with hbad | ⟨b₁, rest₁, rfl, h₁, hread⟩
    · exact .inl (hbad.cons b)
    rcases beginsIll_or_octet 2 1 _ 0x80 0xBF rest₁ with hbad | ⟨b₂, rest₂, rfl, h₂⟩
    · rw [← hread] at hbad
      exact .inl ((hbad.cons b₁).cons b)
    · exact .inr ⟨_, rest₂, by rw [encodeChar_triple ⟨by omega, htriple⟩ h₁ h₂]; rfl⟩
  · rw [start_quadruple (by omega) hfirst.2]
    rcases beginsIll_or_more 1 1 _ _ _ rest with hbad | ⟨b₁, rest₁, rfl, h₁, hread⟩
    · exact .inl (hbad.cons b)
    rcases beginsIll_or_more 2 0 _ 0x80 0xBF rest₁ with hbad | ⟨b₂, rest₂, rfl, h₂, hread₂⟩
    · rw [← hread] at hbad
      exact .inl ((hbad.cons b₁).cons b)
    rcases beginsIll_or_octet 3 1 _ 0x80 0xBF rest₂ with hbad | ⟨b₃, rest₃, rfl, h₃⟩
    · rw [← hread₂, ← hread] at hbad
      exact .inl (((hbad.cons b₂).cons b₁).cons b)
    · exact .inr ⟨_, rest₃, by rw [encodeChar_quadruple ⟨by omega, hfirst.2⟩ h₁ h₂ h₃]; rfl⟩

/-- Octets that are read as characters begin with those of a character. -/
theorem exists_encodeChar {rest : Bytes} {cs : List Char}
    (h : symbols (b :: rest) = cs.map .char) :
    ∃ c rest', b :: rest = String.utf8EncodeChar c ++ rest' := by
  rcases beginsIll_or_char b rest with ⟨bad, rest', s, -, hfound, hs⟩ | hchar
  · rw [hfound] at h
    cases cs with
    | nil => cases h
    | cons c cs => exact absurd (List.cons.inj h).1 (hs c)
  · exact hchar

end Characters

theorem symbols_char (c : Char) (rest : Bytes) :
    symbols (String.utf8EncodeChar c ++ rest) = .char c :: symbols rest := by
  rw [symbols, readFrom_char, readFrom_done]
  rfl

/-- Octets in which nothing ill-formed was found are those of the characters that were. -/
theorem eq_encodeChars_of_symbols {bs : Bytes} {cs : List Char} (h : symbols bs = cs.map .char) :
    bs = encodeChars cs := by
  -- character by character, each with its octets off the front
  induction cs generalizing bs with
  | nil =>
      cases bs with
      | nil => rfl
      | cons b rest =>
          obtain ⟨c, rest', hfront⟩ := exists_encodeChar h
          rw [hfront, symbols_char] at h
          cases h
  | cons c cs ih =>
      cases bs with
      | nil => cases h
      | cons b rest =>
          obtain ⟨c', rest', hfront⟩ := exists_encodeChar h
          rw [hfront, symbols_char] at h
          obtain ⟨hc, hrest⟩ := List.cons.inj h
          cases hc
          rw [hfront, encodeChars, List.flatMap_cons, ih hrest, encodeChars]

/-- What was collected was characters throughout. -/
theorem exists_chars_of_collect {index : Nat} {done out : List Char} {found : List Symbol}
    (h : collect index done found = .ok out) :
    ∃ cs, found = cs.map .char ∧ out = done.reverse ++ cs := by
  induction found generalizing index done with
  | nil =>
      cases h
      exact ⟨[], rfl, (List.append_nil _).symm⟩
  | cons s found ih =>
      cases s with
      | char c =>
          rw [collect] at h
          obtain ⟨cs, rfl, rfl⟩ := ih h
          exact ⟨c :: cs, rfl, by simp⟩
      | ill len => cases h
      | cut len => cases h

/--
**Octets are read as a text exactly if they are the octets of that text.**

So a text has one form in octets, and comparing octets is comparing texts.
-/
theorem decode_eq_ok_iff {bs : Bytes} {s : String} : decode bs = .ok s ↔ bs = encode s := by
  constructor
  · intro h
    unfold decode at h
    cases hcollect : collect 0 [] (symbols bs) with
    | error f =>
        rw [hcollect] at h
        cases h
    | ok out =>
        rw [hcollect] at h
        cases h
        obtain ⟨cs, hsymbols, rfl⟩ := exists_chars_of_collect hcollect
        rw [encode, String.toList_ofList]
        exact eq_encodeChars_of_symbols hsymbols
  · intro h
    rw [h, decode_encode]

end DeviceSetup.Utf8
