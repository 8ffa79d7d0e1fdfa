import DeviceSetup.Text.Property

/-!
# Clusters of characters

What a reader takes for one character may be several: a letter and its accents, a
carriage return and its line feed, a syllable spelled out, consonants linked by a
sign, a joined picture, a pair of regional letters. `clusterCount` counts those.
-/

namespace DeviceSetup.Text

/-- How a character takes part in clusters. -/
inductive ClusterClass where
  | carriageReturn
  | lineFeed
  | control
  | extend
  | linker
  | nonJoiner
  | joiner
  | prepend
  | spacing
  | regional
  | picture
  | leading
  | vowel
  | trailing
  | syllable
  | closedSyllable
  | consonant
  | other
  deriving Repr, DecidableEq

/-- The class of a character. -/
def clusterClass (c : Char) : ClusterClass :=
  let n := c.toNat
  if n = 0x0D then .carriageReturn
  else if n = 0x0A then .lineFeed
  else if n = 0x200D then .joiner
  else if n = 0x200C then .nonJoiner
  else if inRanges linkerRanges c then .linker
  else if inRanges extendRanges c || (0x1F3FB ≤ n && n ≤ 0x1F3FF) then .extend
  else if inRanges controlRanges c then .control
  else if inRanges spacingRanges c then .spacing
  else if inRanges prependRanges c then .prepend
  else if inRanges consonantRanges c then .consonant
  else if 0x1F1E6 ≤ n && n ≤ 0x1F1FF then .regional
  else if (0x1100 ≤ n && n ≤ 0x115F) || (0xA960 ≤ n && n ≤ 0xA97C) then .leading
  else if (0x1160 ≤ n && n ≤ 0x11A7) || (0xD7B0 ≤ n && n ≤ 0xD7C6) || n = 0x16D63
      || (0x16D67 ≤ n && n ≤ 0x16D6A) then .vowel
  else if (0x11A8 ≤ n && n ≤ 0x11FF) || (0xD7CB ≤ n && n ≤ 0xD7FB) then .trailing
  else if 0xAC00 ≤ n && n ≤ 0xD7A3 then
    if (n - 0xAC00) % 28 = 0 then .syllable else .closedSyllable
  else if inRanges pictureRanges c then .picture
  else .other

/-- Whether characters of a class extend the one before them, whatever it is. -/
def ClusterClass.extends : ClusterClass → Bool
  | .extend | .linker | .nonJoiner => true
  | _ => false

/-- How far consonants led up to a character: not at all, to a consonant and its extenders, or to
one that is linked on. -/
inductive Conjunct where
  | none
  | begun
  | linked
  deriving Repr, DecidableEq

/-- How far consonants lead after a character. -/
def Conjunct.after : Conjunct → ClusterClass → Conjunct
  | _, .consonant => .begun
  | .begun, .linker | .linked, .linker => .linked
  | led, .extend | led, .joiner => led
  | _, _ => .none

/-- What the rules look at before a character: the class just before it, whether a picture and
its extenders led up to it, whether an odd number of regional letters did, and how far
consonants did. -/
structure ClusterState where
  last : ClusterClass
  afterPicture : Bool
  oddRegional : Bool
  conjunct : Conjunct

/-- Whether a character continues the cluster before it. -/
def continues (s : ClusterState) (next : ClusterClass) : Bool :=
  match s.last, next with
  | .carriageReturn, .lineFeed => true
  | .carriageReturn, _ | .lineFeed, _ | .control, _ => false
  | _, .carriageReturn | _, .lineFeed | _, .control => false
  | .leading, .leading | .leading, .vowel | .leading, .syllable | .leading, .closedSyllable => true
  | .syllable, .vowel | .syllable, .trailing | .vowel, .vowel | .vowel, .trailing => true
  | .closedSyllable, .trailing | .trailing, .trailing => true
  | _, .extend | _, .linker | _, .nonJoiner | _, .joiner | _, .spacing => true
  | .prepend, _ => true
  | _, .consonant => s.conjunct = .linked
  | .joiner, .picture => s.afterPicture
  | .regional, .regional => s.oddRegional
  | _, _ => false

/-- The state after a character. -/
def ClusterState.after (s : ClusterState) (next : ClusterClass) : ClusterState where
  last := next
  afterPicture :=
    next = .picture || ((next.extends || next = .joiner) && s.afterPicture && s.last ≠ .joiner)
  oddRegional := next = .regional && !(s.last = .regional && s.oddRegional)
  conjunct := s.conjunct.after next

/-- Counts the clusters that start after a state. -/
def countFrom (s : ClusterState) (count : Nat) : List Char → Nat
  | [] => count
  | c :: rest =>
    let k := clusterClass c
    countFrom (s.after k) (if continues s k then count else count + 1) rest

/-- The number of clusters of a text. -/
def clusterCount (s : String) : Nat :=
  countFrom ⟨.control, false, false, .none⟩ 0 s.toList

end DeviceSetup.Text
