/-
Extended grapheme clusters: the pieces of a text that a reader takes for single
characters. Between two code points there is a break unless a rule joins them: a
carriage return and its line feed, the jamo of a Hangul syllable, a character
and the marks that extend it, the parts of a conjunct, of an emoji sequence and
of a flag.
-/
import CallGuard.Text.Printable

namespace CallGuard.Text

/-! ### Classes of code points -/

/-- Controls and formats, which stand alone. -/
def controls : CodeSet := .ofRuns #[
  0, 10, 1, 2, 1, 18, 95, 33, 13, 1, 1390, 1, 4593, 1, 2044, 1, 2, 2, 24, 7, 49, 16, 56975, 1, 240,
  12, 13364, 16, 34912, 4, 5327, 8, 798341, 32, 96, 128, 240, 3600]

/-- Marks with a width of their own that belong to the character before them. -/
def spacingMarks : CodeSet := .ofRuns #[
  2307, 1, 55, 1, 2, 3, 8, 4, 1, 2, 50, 2, 59, 2, 6, 2, 2, 2, 54, 1, 58, 3, 66, 1, 58, 3, 8, 1, 1,
  2, 53, 2, 60, 1, 6, 2, 2, 2, 114, 1, 1, 2, 3, 3, 1, 3, 52, 3, 61, 4, 61, 2, 58, 1, 1, 2, 1, 2, 2,
  2, 1, 2, 39, 1, 14, 2, 59, 2, 5, 3, 1, 3, 53, 2, 76, 2, 6, 7, 19, 2, 63, 1, 127, 1, 138, 2, 63,
  1, 177, 1, 9, 2, 25, 2, 44, 1, 1680, 1, 30, 1, 129, 1, 7, 8, 1, 2, 346, 4, 2, 3, 4, 2, 1, 6, 224,
  2, 58, 1, 1, 1, 21, 6, 145, 1, 54, 1, 1, 5, 1, 2, 61, 1, 30, 1, 4, 2, 2, 1, 60, 1, 2, 3, 1, 1, 3,
  2, 48, 8, 8, 2, 171, 1, 21, 1, 35627, 2, 2, 1, 88, 2, 50, 16, 142, 2, 47, 1, 48, 2, 4, 2, 2, 3,
  110, 2, 2, 2, 24, 1, 157, 1, 2, 2, 5, 1, 237, 2, 1, 2, 1, 2, 1, 1, 25619, 1, 1, 1, 127, 1, 45, 3,
  4, 2, 115, 1, 24, 2, 59, 1, 48, 3, 9, 2, 13, 1, 93, 3, 3, 2, 1, 1, 170, 3, 31, 2, 59, 1, 1, 4, 2,
  2, 2, 3, 20, 2, 209, 3, 8, 2, 3, 1, 107, 2, 6, 1, 1, 2, 1, 1, 2, 1, 238, 2, 6, 4, 2, 1, 113, 3,
  8, 2, 1, 1, 109, 1, 1, 2, 6, 1, 111, 1, 261, 3, 9, 1, 248, 5, 1, 2, 4, 1, 2, 1, 1, 1, 142, 3, 8,
  4, 4, 1, 84, 1, 29, 2, 62, 1, 407, 1, 14, 1, 106, 1, 7, 1, 2, 1, 213, 5, 4, 2, 1, 1, 350, 2, 12,
  1, 48, 2, 8, 2, 1, 1, 20495, 55, 104, 2, 24948, 1, 6, 1]

/-- Signs that belong to the character after them. -/
def prepended : CodeSet := .ofRuns #[
  1536, 6, 215, 1, 49, 1, 384, 2, 80, 1, 1131, 1, 66414, 1, 15, 1, 244, 2, 1915, 1, 1, 1, 248, 1,
  73, 6, 700, 1, 443, 1]

/-- Code points that can take part in an emoji sequence. -/
def pictographs : CodeSet := .ofRuns #[
  169, 1, 4, 1, 8077, 1, 12, 1, 216, 1, 22, 1, 90, 6, 15, 2, 367, 2, 12, 1, 95, 1, 70, 1, 25, 11,
  4, 3, 199, 1, 231, 2, 10, 1, 9, 1, 58, 4, 1, 6, 1, 12, 1, 114, 10, 118, 2, 11, 1, 1, 1, 1, 6, 1,
  3, 1, 6, 1, 10, 2, 15, 1, 2, 1, 4, 1, 1, 1, 4, 3, 1, 1, 11, 5, 45, 3, 9, 1, 14, 1, 14, 1, 372, 2,
  463, 3, 19, 2, 51, 1, 4, 1, 1242, 1, 12, 1, 601, 1, 1, 1, 114022, 256, 13, 3, 31, 1, 60, 6, 12,
  2, 14, 1, 2, 10, 18, 57, 27, 15, 10, 1, 20, 1, 2, 9, 1, 4, 9, 434, 5, 318, 8, 266, 48, 128, 116,
  12, 85, 43, 12, 4, 56, 8, 10, 6, 40, 8, 30, 82, 12, 47, 1, 10, 1, 441, 256, 1022]

/-- Consonants of the scripts that write conjuncts with a linker. -/
def conjoining : CodeSet := .ofRuns #[
  2325, 37, 30, 8, 24, 8, 21, 20, 1, 7, 1, 1, 3, 4, 34, 2, 1, 1, 16, 2, 163, 20, 1, 7, 1, 2, 1, 5,
  63, 1, 27, 20, 1, 7, 1, 2, 1, 5, 34, 2, 1, 1, 17, 1, 163, 20, 1, 16, 30, 3, 186, 38]

/-- The signs that link two such consonants. -/
def linkers : CodeSet := .ofRuns #[
  2381, 1, 127, 1, 255, 1, 127, 1, 255, 1, 255, 1]

/-- What a code point may be joined to. -/
inductive JoinClass where
  | carriageReturn | lineFeed | control
  | extender | joiner | spacingMark | prepended
  | leading | vowel | trailing | openSyllable | closedSyllable
  | regional | pictograph | other
  deriving DecidableEq

/-- Class of a code point from U+0300 upwards; below it only a few code points are not `other`. -/
def wideJoinClass (c : Char) : JoinClass :=
  let n := c.toNat
  if n = 0x200d then .joiner
  else if extendsCluster c || (0x1f3fb ≤ n && n < 0x1f400) then .extender
  else if controls.contains c then .control
  else if spacingMarks.contains c then .spacingMark
  else if prepended.contains c then .prepended
  else if (0x1100 ≤ n && n < 0x1160) || (0xa960 ≤ n && n < 0xa97d) then .leading
  else if (0x1160 ≤ n && n < 0x11a8) || (0xd7b0 ≤ n && n < 0xd7c7) then .vowel
  else if (0x11a8 ≤ n && n < 0x1200) || (0xd7cb ≤ n && n < 0xd7fc) then .trailing
  else if 0xac00 ≤ n && n < 0xd7a4 then
    if (n - 0xac00) % 28 = 0 then .openSyllable else .closedSyllable
  else if 0x1f1e6 ≤ n && n < 0x1f200 then .regional
  else if pictographs.contains c then .pictograph
  else .other

def joinClass (c : Char) : JoinClass :=
  let n := c.toNat
  if 0x300 ≤ n then wideJoinClass c
  else if n = 13 then .carriageReturn
  else if n = 10 then .lineFeed
  else if n < 32 || (127 ≤ n && n < 160) || n = 0xad then .control
  else if n = 0xa9 || n = 0xae then .pictograph
  else .other

/-! ### Joining -/

/-- How far the text just read has come in a conjunct: after a consonant, or after a consonant and
a linker. -/
inductive Conjunct where
  | outside | consonant | linked
  deriving DecidableEq

/-- What the rules remember of the text read so far. -/
structure JoinState where
  last : JoinClass
  /-- An odd number of regional indicators ends here. -/
  oddRegional : Bool
  /-- A pictograph and its extenders end here, perhaps followed by a joiner. -/
  pictured : Bool
  conjunct : Conjunct

namespace JoinState

def conjunctAfter (state : Conjunct) (c : Char) (joins : JoinClass) : Conjunct :=
  if conjoining.contains c then .consonant
  else if linkers.contains c then if state = .outside then .outside else .linked
  else if joins = .extender || joins = .joiner then state
  else .outside

/-- The state after one more character. -/
def next (state : JoinState) (c : Char) : JoinState :=
  let joins := joinClass c
  { last := joins
    oddRegional := joins = .regional && !state.oddRegional
    pictured := joins = .pictograph || (state.pictured && state.last ≠ .joiner &&
      (joins = .extender || joins = .joiner))
    conjunct := if c.toNat < 0x300 then .outside else conjunctAfter state.conjunct c joins }

/-- The state before any text, as after a control. -/
def start : JoinState := ⟨.control, false, false, .outside⟩

def isStop : JoinClass → Bool
  | .carriageReturn | .lineFeed | .control => true
  | _ => false

/-- Whether a character belongs to the cluster that the text read so far ends with. -/
def joins (state : JoinState) (c : Char) : Bool :=
  let after := joinClass c
  match state.last, after with
  | .carriageReturn, .lineFeed => true
  | last, after =>
    if isStop last || isStop after then false
    else match last, after with
      | .leading, .leading | .leading, .vowel | .leading, .openSyllable
      | .leading, .closedSyllable => true
      | .openSyllable, .vowel | .openSyllable, .trailing | .vowel, .vowel
      | .vowel, .trailing => true
      | .closedSyllable, .trailing | .trailing, .trailing => true
      | _, .extender | _, .joiner | _, .spacingMark => true
      | .prepended, _ => true
      | .joiner, .pictograph => state.pictured
      | .regional, .regional => state.oddRegional
      | _, _ => state.conjunct = .linked && conjoining.contains c

end JoinState

/-- Splits the rest of a text after the cluster `current`, which is held in reverse. -/
def clustersFrom (state : JoinState) (current : List Char) : List Char → List (List Char)
  | [] => [current.reverse]
  | c :: rest =>
    if state.joins c then clustersFrom (state.next c) (c :: current) rest
    else current.reverse :: clustersFrom (state.next c) [c] rest

/-- The clusters of a text, in order. -/
def clusters : List Char → List (List Char)
  | [] => []
  | c :: rest => clustersFrom (JoinState.start.next c) [c] rest

end CallGuard.Text
