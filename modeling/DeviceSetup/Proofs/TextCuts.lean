import DeviceSetup.Proofs.Utf8RoundTrip

/-!
# Texts cut by octets

A place in a text can be given by the number of octets in front of it. Not every number is such a
place: it may lie inside a character, or behind the end. `cut?` and `slice?` take a text apart at
places that are given so, and give nothing where there is no place.
-/

namespace DeviceSetup.Utf8

/-- The number of octets of a text. -/
def size (cs : List Char) : Nat :=
  (encodeChars cs).length

/-- Cuts a text behind `n` octets; none inside a character and behind the end. -/
def cut? (n : Nat) : List Char → Option (List Char × List Char)
  | [] => if n = 0 then some ([], []) else none
  | c :: cs =>
    if n = 0 then some ([], c :: cs)
    else if c.utf8Size ≤ n then
      (cut? (n - c.utf8Size) cs).map fun parts => (c :: parts.1, parts.2)
    else none

/-- The part of a text from `i` octets on up to `j` octets. -/
def slice? (i j : Nat) (cs : List Char) : Option (List Char) := do
  let upTo ← cut? j cs
  let parts ← cut? i upTo.1
  return parts.2

theorem size_cons (c : Char) (cs : List Char) : size (c :: cs) = c.utf8Size + size cs := by
  unfold size
  rw [encodeChars_cons, List.length_append, String.length_utf8EncodeChar]

theorem size_append (cs ds : List Char) : size (cs ++ ds) = size cs + size ds := by
  unfold size
  rw [encodeChars_append, List.length_append]

/-- In ASCII octets are counted as characters are. -/
theorem size_ascii {cs : List Char} (h : ∀ c ∈ cs, c.toNat < 0x80) : size cs = cs.length := by
  unfold size
  rw [encodeChars_ascii h, List.length_map]

/-- **A text is cut just at the places between its characters.** So whoever gives a place by octets
gets two texts or nothing, and never half a character. -/
theorem cut?_eq_some_iff {n : Nat} {cs front back : List Char} :
    cut? n cs = some (front, back) ↔ cs = front ++ back ∧ size front = n := by
  induction cs generalizing n front with
  | nil =>
      rw [cut?]
      constructor
      · intro h
        split at h
        · rename_i hn
          cases h
          exact ⟨rfl, hn.symm⟩
        · cases h
      · rintro ⟨hparts, rfl⟩
        obtain ⟨rfl, rfl⟩ := List.append_eq_nil_iff.mp hparts.symm
        rfl
  | cons c cs ih =>
      -- a character takes octets, so the place behind none is in front of it
      have hpos := c.utf8Size_pos
      rw [cut?]
      constructor
      · intro h
        split at h
        · rename_i hn
          cases h
          exact ⟨rfl, hn.symm⟩
        split at h
        · rename_i hle
          obtain ⟨⟨front', back'⟩, hcut, heq⟩ := Option.map_eq_some_iff.mp h
          cases heq
          obtain ⟨rfl, hsize⟩ := ih.mp hcut
          rw [size_cons, hsize]
          exact ⟨rfl, by omega⟩
        · cases h
      · rintro ⟨hparts, rfl⟩
        cases front with
        | nil =>
            have hzero : size [] = 0 := rfl
            rw [if_pos hzero, hparts]
            rfl
        | cons d front =>
            obtain ⟨rfl, rfl⟩ := List.cons.inj hparts
            rw [size_cons, if_neg (by omega), if_pos (Nat.le_add_right _ _),
              Nat.add_sub_cancel_left, ih.mpr ⟨rfl, rfl⟩]
            rfl

/-- Where two texts were joined, they can be cut. -/
theorem cut?_append (front back : List Char) :
    cut? (size front) (front ++ back) = some (front, back) :=
  cut?_eq_some_iff.mpr ⟨rfl, rfl⟩

/-- A text that stands between two others is found by the octets in front of it and its own. -/
theorem slice?_append (front middle back : List Char) :
    slice? (size front) (size front + size middle) (front ++ (middle ++ back)) = some middle := by
  have hupTo := cut?_append (front ++ middle) back
  rw [size_append, List.append_assoc] at hupTo
  unfold slice?
  simp only [hupTo, cut?_append, Option.bind_eq_bind, Option.bind_some, Option.pure_def]

end DeviceSetup.Utf8
