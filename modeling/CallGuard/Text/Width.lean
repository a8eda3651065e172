/-
The number of terminal columns a text takes. Ideographs, syllables and emoji
take two, marks and invisible code points none, everything else one. Inside a
cluster an emoji with its variation sign or skin tone, and the emoji joined to
it, take two columns together. The width of a text is the sum over its
clusters.
-/
import CallGuard.Text.Cluster
import CallGuard.Text.Blank

namespace CallGuard.Text

/-! ### Single characters -/

/-- Code points of double width. -/
def wides : CodeSet := .ofRuns #[
  4352, 96, 4538, 2, 13, 2, 190, 4, 3, 1, 2, 1, 521, 2, 21, 2, 50, 12, 43, 1, 19, 1, 13, 1, 8, 2,
  17, 2, 5, 2, 8, 1, 5, 1, 21, 1, 7, 2, 1, 1, 4, 1, 2, 1, 7, 1, 4, 2, 28, 1, 35, 1, 1, 1, 4, 3, 1,
  1, 61, 3, 24, 1, 14, 1, 859, 2, 51, 1, 4, 1, 810, 26, 1, 89, 12, 214, 26, 12, 4, 63, 2, 86, 2,
  103, 5, 43, 1, 94, 1, 84, 12, 47, 1, 40, 8, 7024, 64, 22157, 3, 55, 1177, 29, 643, 11172, 8540,
  512, 784, 10, 22, 35, 1, 19, 1, 4, 149, 96, 127, 7, 28665, 5, 11, 2, 14, 6136, 8, 1238, 42, 9,
  8935, 4, 1, 7, 1, 2, 1, 291, 15, 1, 29, 3, 2, 1, 14, 4, 8, 396, 15624, 1, 202, 1, 190, 1, 2, 10,
  101, 3, 13, 44, 4, 9, 7, 2, 14, 6, 154, 33, 12, 9, 1, 70, 1, 22, 12, 43, 4, 5, 12, 17, 3, 1, 3,
  71, 1, 1, 1, 187, 2, 63, 13, 4, 1, 24, 18, 1, 26, 2, 13, 1, 86, 85, 48, 70, 6, 1, 3, 3, 2, 3, 4,
  4, 11, 2, 7, 9, 227, 12, 4, 1, 283, 47, 1, 10, 1, 185, 112, 13, 3, 9, 7, 46, 1, 7, 8, 14, 4, 9,
  7, 9, 1287, 65534, 2, 65534]

/-- Code points that are invisible where they are not understood. -/
def ignorables : CodeSet := .ofRuns #[
  173, 1, 673, 1, 716, 1, 2882, 2, 1619, 2, 85, 5, 2043, 5, 26, 5, 49, 16, 4340, 1, 52379, 16, 239,
  1, 160, 1, 79, 9, 48295, 4, 5327, 8, 798341, 4096]

/-- Code points with an emoji form. -/
def emojis : CodeSet := .ofRuns #[
  35, 1, 6, 1, 5, 10, 111, 1, 4, 1, 8077, 1, 12, 1, 216, 1, 22, 1, 90, 6, 15, 2, 367, 2, 12, 1,
  166, 1, 25, 11, 4, 3, 199, 1, 231, 2, 10, 1, 9, 1, 58, 4, 1, 5, 9, 1, 2, 1, 2, 2, 2, 1, 4, 1, 2,
  1, 1, 2, 2, 1, 3, 1, 3, 2, 8, 3, 5, 1, 1, 1, 5, 12, 11, 2, 2, 1, 1, 2, 1, 1, 18, 1, 2, 2, 18, 6,
  1, 1, 1, 2, 3, 2, 5, 1, 2, 2, 4, 2, 11, 2, 5, 2, 2, 1, 5, 2, 1, 1, 1, 2, 20, 2, 5, 6, 1, 4, 2, 1,
  4, 1, 2, 1, 2, 6, 1, 1, 2, 1, 1, 1, 1, 1, 6, 1, 3, 1, 6, 1, 10, 2, 15, 1, 2, 1, 4, 1, 1, 1, 4, 3,
  1, 1, 11, 2, 48, 3, 9, 1, 14, 1, 14, 1, 372, 2, 463, 3, 19, 2, 51, 1, 4, 1, 1242, 1, 12, 1, 601,
  1, 1, 1, 114026, 1, 202, 1, 160, 2, 12, 2, 14, 1, 2, 10, 75, 26, 1, 2, 23, 1, 20, 1, 2, 9, 21, 2,
  174, 34, 2, 112, 2, 2, 1, 3, 2, 83, 2, 3, 1, 263, 1, 63, 11, 6, 1, 24, 7, 2, 2, 8, 12, 1, 2, 4,
  2, 1, 4, 2, 13, 2, 2, 1, 8, 2, 9, 1, 5, 3, 12, 3, 8, 3, 2, 1, 1, 1, 4, 1, 6, 1, 3, 1, 6, 86, 48,
  70, 5, 8, 2, 3, 4, 10, 3, 1, 1, 2, 3, 1, 2, 10, 227, 12, 4, 1, 283, 47, 1, 10, 1, 185, 112, 13,
  3, 9, 7, 46, 1, 7, 8, 14, 4, 9, 7, 9]

/-- Code points shown as emoji unless told otherwise. -/
def pictorials : CodeSet := .ofRuns #[
  8986, 2, 205, 4, 3, 1, 2, 1, 521, 2, 21, 2, 50, 12, 43, 1, 19, 1, 13, 1, 8, 2, 17, 2, 5, 2, 8, 1,
  5, 1, 21, 1, 7, 2, 1, 1, 4, 1, 2, 1, 7, 1, 4, 2, 28, 1, 35, 1, 1, 1, 4, 3, 1, 1, 61, 3, 24, 1,
  14, 1, 859, 2, 51, 1, 4, 1, 115886, 1, 202, 1, 190, 1, 2, 10, 75, 26, 1, 1, 24, 1, 20, 1, 2, 5,
  1, 3, 21, 2, 174, 33, 12, 9, 1, 70, 1, 22, 12, 43, 4, 5, 12, 17, 3, 1, 3, 71, 1, 1, 1, 187, 2,
  63, 13, 4, 1, 24, 18, 1, 26, 2, 13, 1, 86, 85, 48, 70, 6, 1, 3, 3, 2, 3, 4, 4, 11, 2, 7, 9, 227,
  12, 4, 1, 283, 47, 1, 10, 1, 185, 112, 13, 3, 9, 7, 46, 1, 7, 8, 14, 4, 9, 7, 9]

/-- Emoji that take a skin tone. -/
def toneBases : CodeSet := .ofRuns #[
  9757, 1, 219, 1, 16, 4, 117879, 1, 60, 3, 2, 1, 2, 3, 117, 2, 2, 11, 21, 19, 3, 1, 4, 3, 1, 3, 7,
  1, 1, 1, 24, 1, 201, 2, 4, 1, 21, 1, 4, 2, 174, 3, 3, 5, 83, 1, 16, 3, 9, 1, 11, 1, 575, 1, 2, 1,
  8, 8, 6, 1, 9, 10, 2, 3, 56, 1, 61, 2, 1, 2, 1, 1, 17, 3, 1, 13, 229, 3, 42, 9]

/-- Width of a code point from U+0300 upwards. -/
def wideCharWidth (c : Char) : Nat :=
  let n := c.toNat
  if n = 0x115f then 2
  else if extendsCluster c || ignorables.contains c || (0x1160 ≤ n && n < 0x1200) ||
      (0xd7b0 ≤ n && n < 0xd7c7) || (0xd7cb ≤ n && n < 0xd7fc) then 0
  else if wides.contains c then 2
  else 1

/-- Width of a character on its own. -/
def charWidth (c : Char) : Nat :=
  if 0x300 ≤ c.toNat then wideCharWidth c
  else if isControl c || c.toNat = 0xad then 0
  else 1

/-! ### Clusters -/

/-- An emoji with what presents it: a variation sign, a skin tone, or nothing where it is shown as
an emoji anyway. Gives what follows. -/
def emojiUnit : List Char → Option (List Char)
  | [] => none
  | c :: rest =>
    if !emojis.contains c || (0x1f1e6 ≤ c.toNat && c.toNat < 0x1f200) then none
    else match rest with
      | [] => if pictorials.contains c then some [] else none
      | d :: after =>
        if d.toNat = 0xfe0f then some after
        else if (0x1f3fb ≤ d.toNat && d.toNat < 0x1f400) && toneBases.contains c then some after
        else if pictorials.contains c then some rest
        else none

/-- What follows the longest run of emoji held together by joiners. -/
def emojiRun : Nat → List Char → Option (List Char)
  | 0, _ => none
  | fuel + 1, text =>
    match emojiUnit text with
    | none => none
    | some rest =>
      match rest with
      | [] => some []
      | c :: after =>
        if c.toNat = 0x200d then (emojiRun fuel after).orElse fun _ => some rest
        else some rest

/-- The columns that pieces of the given widths take up together. -/
def columns {α : Type} (width : α → Nat) (pieces : List α) : Nat :=
  pieces.foldl (fun total piece => total + width piece) 0

/-- Width of one cluster. -/
def clusterWidth (cluster : List Char) : Nat :=
  match emojiRun cluster.length cluster with
  | some rest => 2 + columns charWidth rest
  | none => columns charWidth cluster

/-- Width of a text, cluster by cluster. -/
def width (text : List Char) : Nat := columns clusterWidth (clusters text)

/-! ### Truncation -/

/-- Texts up to this width are shown whole. -/
def maxShownWidth : Nat := 72

/-- How texts are cut into clusters, and how many columns clusters and texts take. -/
structure Measure where
  clusters : List Char → List (List Char)
  clusterWidth : List Char → Nat
  width : List Char → Nat

namespace Measure

/-- The clusters that fit into `room` columns, from the first on. -/
def fitting (measure : Measure) : Nat → List (List Char) → List (List Char)
  | _, [] => []
  | room, cluster :: rest =>
    if measure.clusterWidth cluster ≤ room then
      cluster :: measure.fitting (room - measure.clusterWidth cluster) rest
    else []

/-- A text of at most `maxShownWidth` columns: itself, or as many of its first clusters as leave
room for three dots. -/
def truncate (measure : Measure) (text : String) : String :=
  if measure.width text.toList ≤ maxShownWidth then text
  else String.ofList ((measure.fitting (maxShownWidth - 3) (measure.clusters text.toList)).flatten ++
    ['.', '.', '.'])

end Measure

/-- Clusters and columns of a terminal. -/
def terminal : Measure := ⟨clusters, clusterWidth, width⟩

/-- A text as it is shown on a terminal. -/
def truncate (text : String) : String := terminal.truncate text

end CallGuard.Text
