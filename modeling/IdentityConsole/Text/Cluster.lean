import IdentityConsole.Text.CellWidth
import IdentityConsole.Text.ClusterBreak

/-!
# Clusters

What a reader takes for one character may be written by several: a base with its marks, a syllable
of Hangul, a pair of regional indicators, a sequence of emoji, a conjunct of consonants. A text is
divided into such clusters, and each takes none, one or two cells of the screen.
-/

namespace IdentityConsole.Text

/-- What decides whether two neighbouring characters belong together. -/
inductive Break
  | carriageReturn
  | lineFeed
  | control
  | extend
  | joiner
  | spacingMark
  | prepend
  | regional
  | leading
  | vowel
  | trailing
  | syllable
  | closedSyllable
  | other
deriving DecidableEq, Repr

namespace Break

def ofChar (c : Char) : Break :=
  let n := c.toNat
  if n < 0x300 then
    if n = 0x0D then .carriageReturn
    else if n = 0x0A then .lineFeed
    else if inRanges n controlRanges then .control
    else .other
  else if n = 0x200D then .joiner
  else if inRanges n extendRanges then .extend
  else if inRanges n spacingMarkRanges then .spacingMark
  else if inRanges n controlRanges then .control
  else if inRanges n prependRanges then .prepend
  else if inRanges n [(0x1F1E6, 0x1F1FF)] then .regional
  else if inRanges n [(0x1100, 0x115F), (0xA960, 0xA97C)] then .leading
  else if inRanges n [(0x1160, 0x11A7), (0xD7B0, 0xD7C6)] then .vowel
  else if inRanges n [(0x11A8, 0x11FF), (0xD7CB, 0xD7FB)] then .trailing
  else if inRanges n [(0xAC00, 0xD7A3)] then
    if (n - 0xAC00) % 28 = 0 then .syllable else .closedSyllable
  else .other

/-- Line ends and controls stand alone. -/
def isolates : Break → Bool
  | .carriageReturn | .lineFeed | .control => true
  | _ => false

/-- Whether the second joins the first by the syllables of Hangul. -/
def joinsSyllable : Break → Break → Bool
  | .leading, .leading | .leading, .vowel | .leading, .syllable | .leading, .closedSyllable
  | .syllable, .vowel | .syllable, .trailing | .vowel, .vowel | .vowel, .trailing
  | .closedSyllable, .trailing | .trailing, .trailing => true
  | _, _ => false

end Break

def isPictographic (c : Char) : Bool :=
  inRanges c.toNat pictographicRanges

def isConjunctConsonant (c : Char) : Bool :=
  inRanges c.toNat conjunctConsonantRanges

def isConjunctLinker (c : Char) : Bool :=
  inRanges c.toNat conjunctLinkerRanges

/-- How far a sequence has come: it has begun, or it is ready to draw in one more character. -/
inductive Progress
  | idle
  | begun
  | ready
deriving DecidableEq, Repr

/-- What is known of the cluster being read. `emoji` is begun by a pictographic and ready after a
joiner, `conjunct` is begun by a consonant and ready after a linker, and `halfPair` says that a
regional indicator waits for its second. -/
structure ClusterState where
  last : Break
  emoji : Progress
  conjunct : Progress
  halfPair : Bool
deriving DecidableEq, Repr

namespace ClusterState

/-- The state after a character; `before` is that of the cluster it belongs to, if it is not the
first. -/
def after (before : Option ClusterState) (c : Char) : ClusterState :=
  let kind := Break.ofChar c
  let emoji : Progress := (before.map (·.emoji)).getD .idle
  let conjunct : Progress := (before.map (·.conjunct)).getD .idle
  { last := kind
    emoji :=
      if isPictographic c then .begun
      else if emoji = .begun then
        if kind = .extend then .begun else if kind = .joiner then .ready else .idle
      else .idle
    conjunct :=
      if isConjunctConsonant c then .begun
      else if conjunct = .idle then .idle
      else if isConjunctLinker c then .ready
      else if kind = .extend ∨ kind = .joiner then conjunct
      else .idle
    halfPair := kind = .regional && !(before.map (·.halfPair)).getD false }

/-- Whether a character belongs to the cluster read so far. -/
def draws (state : ClusterState) (c : Char) : Bool :=
  let next := Break.ofChar c
  if state.last = .carriageReturn ∧ next = .lineFeed then true
  else if state.last.isolates || next.isolates then false
  else
    state.last.joinsSyllable next || next = .extend || next = .joiner || next = .spacingMark ||
      state.last = .prepend || (state.conjunct = .ready && isConjunctConsonant c) ||
      (state.emoji = .ready && isPictographic c) || (state.halfPair && next = .regional)

end ClusterState

/-- Reads on from a cluster, of which `read` holds the characters, the latest first. -/
def clustersFrom (state : ClusterState) (read : List Char) : List Char → List (List Char)
  | [] => [read.reverse]
  | c :: rest =>
    if state.draws c then clustersFrom (.after (some state) c) (c :: read) rest
    else read.reverse :: clustersFrom (.after none c) [c] rest

def clusters : List Char → List (List Char)
  | [] => []
  | c :: rest => clustersFrom (.after none c) [c] rest

/-- The cells a character takes by itself. -/
def charWidth (c : Char) : Nat :=
  let n := c.toNat
  if n < 0x300 then 1
  else if inRanges n emptyRanges then 0
  else if inRanges n wideRanges then 2
  else 1

def isEmojiModifier (c : Char) : Bool :=
  inRanges c.toNat [(0x1F3FB, 0x1F3FF)]

/-- The cells of a cluster. A sequence of emoji takes two however long it is, and the selectors
U+FE0E and U+FE0F decide whether a character is shown narrow or wide. -/
def clusterWidth : List Char → Nat
  | [] => 0
  | '\r' :: '\n' :: _ => 1
  | [c] => charWidth c
  | c :: rest =>
    let plain := (c :: rest).foldr (charWidth · + ·) 0
    if isPictographic c && rest.any (fun d => isPictographic d || isEmojiModifier d) then 2
    else if rest.head?.map Char.toNat = some 0xFE0F && inRanges c.toNat emojiOnRequestRanges then
      plain + 1
    else if rest.head?.map Char.toNat = some 0xFE0E && isPictographic c && charWidth c = 2 then
      plain - 1
    else plain

end IdentityConsole.Text
