/-
Where the integers come from that decide which items are looked at. A source is
a rule that gives the integer of each draw by its number: always the same one,
a list over and over, or a stream of pseudo-random words. The stream runs the
ChaCha permutation with twelve rounds over a counter; its key is grown from a
64-bit seed by a multiplicative generator.
-/

namespace CallGuard

/-! ### The stream -/

namespace Keystream

/-- One step of the generator that grows the key. -/
def advance (state : UInt64) : UInt64 := state * 6364136223846793005 + 11634580027462260723

/-- The key word that a state of the generator gives. -/
def keyWord (state : UInt64) : UInt32 :=
  let folded := (((state >>> 18) ^^^ state) >>> 27).toUInt32
  let turn := (state >>> 59).toUInt32
  (folded >>> turn) ||| (folded <<< ((32 - turn) % 32))

/-- The next `count` key words after a state. -/
def keyWords : Nat → UInt64 → List UInt32
  | 0, _ => []
  | count + 1, state => keyWord (advance state) :: keyWords count (advance state)

def rotate (word turn : UInt32) : UInt32 := (word <<< turn) ||| (word >>> (32 - turn))

/-- The sixteen words of a block. -/
abbrev Block := Vector UInt32 16

/-- Mixes four words of a block. -/
def quarterRound (block : Block) (a b c d : Fin 16) : Block :=
  let block := block.set a (block[a] + block[b])
  let block := block.set d (rotate (block[d] ^^^ block[a]) 16)
  let block := block.set c (block[c] + block[d])
  let block := block.set b (rotate (block[b] ^^^ block[c]) 12)
  let block := block.set a (block[a] + block[b])
  let block := block.set d (rotate (block[d] ^^^ block[a]) 8)
  let block := block.set c (block[c] + block[d])
  block.set b (rotate (block[b] ^^^ block[c]) 7)

/-- Two rounds: the four columns, then the four diagonals. -/
def doubleRound (block : Block) : Block :=
  let block := quarterRound block 0 4 8 12
  let block := quarterRound block 1 5 9 13
  let block := quarterRound block 2 6 10 14
  let block := quarterRound block 3 7 11 15
  let block := quarterRound block 0 5 10 15
  let block := quarterRound block 1 6 11 12
  let block := quarterRound block 2 7 8 13
  quarterRound block 3 4 9 14

/-- The block before mixing: four constants, the key, the block number and two zeros. -/
def initial (key : List UInt32) (number : Nat) : Block :=
  let word (position : Nat) : UInt32 := key.getD position 0
  ⟨#[0x61707865, 0x3320646e, 0x79622d32, 0x6b206574,
    word 0, word 1, word 2, word 3, word 4, word 5, word 6, word 7,
    .ofNat number, .ofNat (number >>> 32), 0, 0], rfl⟩

/-- The block of the stream with the given number. -/
def block (key : List UInt32) (number : Nat) : Block :=
  let start := initial key number
  let mixed := (List.range 6).foldl (fun block _ => doubleRound block) start
  Vector.zipWith (· + ·) start mixed

/-- The word of the stream with the given number. -/
def word (seed : UInt64) (number : Nat) : UInt32 :=
  (block (keyWords 8 seed) (number / 16))[number % 16]

end Keystream

/-! ### Sources -/

/-- The rule of a source. -/
inductive DrawRule where
  | fixed (number : UInt32)
  | cycle (numbers : List UInt32)
  | seeded (seed : UInt64)
  deriving DecidableEq

/-- A source of integers, told apart from others with the same rule by its serial number. -/
structure IndexSource where
  serial : Nat
  rule : DrawRule
  deriving DecidableEq

/-- The integer of the draw with the given number. -/
def DrawRule.draw (rule : DrawRule) (number : Nat) : UInt32 :=
  match rule with
  | fixed value => value
  | cycle numbers => numbers.getD (number % numbers.length) 0
  | seeded seed => Keystream.word seed number

end CallGuard
