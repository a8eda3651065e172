/-
Double-precision numbers as 64-bit words. A word is read as a sign, an exponent
and a fraction; everything else here is exact integer arithmetic on those three:
equality as the standard defines it (zeros are equal, a not-a-number equals
nothing), and the rounding of a ratio of natural numbers to the nearest word,
ties to the even one.
-/

namespace CallGuard

/-- A double-precision number, given by its 64 bits. -/
structure Binary64 where
  bits : UInt64
  deriving DecidableEq, Inhabited

namespace Binary64

/-! ### The fields of a word -/

/-- The fraction, the low 52 bits. -/
def fraction (x : Binary64) : Nat := x.bits.toNat % (1 <<< 52)

/-- The biased exponent, the 11 bits above the fraction. -/
def exponent (x : Binary64) : Nat := (x.bits.toNat >>> 52) % (1 <<< 11)

/-- The sign, the top bit. -/
def isNegative (x : Binary64) : Bool := 1 <<< 63 ≤ x.bits.toNat

def isNaN (x : Binary64) : Bool := x.exponent = 2047 ∧ x.fraction ≠ 0

def isInfinite (x : Binary64) : Bool := x.exponent = 2047 ∧ x.fraction = 0

def isFinite (x : Binary64) : Bool := x.exponent ≠ 2047

def isZero (x : Binary64) : Bool := x.exponent = 0 ∧ x.fraction = 0

/-- The integer significand: a finite number is `significand * 2 ^ (scale - 1075)` up to sign. -/
def significand (x : Binary64) : Nat :=
  if x.exponent = 0 then x.fraction else (1 <<< 52) + x.fraction

/-- The exponent of the last place, biased by 1075. Subnormal numbers share that of the smallest
normal ones. -/
def scale (x : Binary64) : Nat := max x.exponent 1

/-- The magnitude of a finite number as a ratio. -/
def ratio (x : Binary64) : Nat × Nat :=
  if 1075 ≤ x.scale then (x.significand <<< (x.scale - 1075), 1)
  else (x.significand, 1 <<< (1075 - x.scale))

/-! ### Equality -/

/-- Equality of the numbers: a not-a-number differs from everything, the two zeros are equal. -/
def eq (x y : Binary64) : Bool :=
  !x.isNaN && !y.isNaN && (x.bits == y.bits || (x.isZero && y.isZero))

/-! ### Rounding -/

/-- The quotient of two naturals rounded to the nearest integer, a half to the even one. -/
def roundQuotient (numerator denominator : Nat) : Nat :=
  let quotient := numerator / denominator
  let twice := 2 * (numerator % denominator)
  if twice < denominator then quotient
  else if denominator < twice then quotient + 1
  else quotient + quotient % 2

/-- The bits of positive infinity; every finite magnitude has a smaller word. -/
def infinityWord : Nat := 2047 <<< 52

/-- The word of a magnitude whose last place is `2 ^ (place - 1074)`: the quotient is rounded to
that place, and a carry out of the significand moves to the next exponent by itself. -/
def wordAt (numerator denominator place : Nat) : Nat :=
  let rounded :=
    if 1074 ≤ place then roundQuotient numerator (denominator <<< (place - 1074))
    else roundQuotient (numerator <<< (1074 - place)) denominator
  min ((place <<< 52) + rounded) infinityWord

/-- The place of the last significand bit of a ratio, biased by 1074: the least one at which the
quotient has at most 53 bits. -/
def lastPlace (numerator denominator : Nat) : Nat :=
  let guess := (1074 + numerator.log2) - (denominator.log2 + 53)
  let quotient :=
    if 1074 ≤ guess then numerator / (denominator <<< (guess - 1074))
    else (numerator <<< (1074 - guess)) / denominator
  if quotient < 1 <<< 53 then guess else guess + 1

/-- The number nearest to a ratio, ties to the even significand; magnitudes beyond the largest
finite number become infinite. -/
def ofRatio (negative : Bool) (numerator denominator : Nat) : Binary64 :=
  let magnitude :=
    if numerator = 0 then 0 else wordAt numerator denominator (lastPlace numerator denominator)
  ⟨.ofNat (magnitude + if negative then 1 <<< 63 else 0)⟩

/-- The number nearest to an integer. -/
def ofInt (n : Int) : Binary64 := ofRatio (n < 0) n.natAbs 1

/-- The product of two finite numbers, rounded once; the sign is that of the first. -/
def scaleUp (x : Binary64) (factor : Nat × Nat) : Binary64 :=
  ofRatio x.isNegative (x.ratio.1 * factor.1) (x.ratio.2 * factor.2)

/-- The quotient of a finite number by a positive ratio, rounded once. -/
def scaleDown (x : Binary64) (divisor : Nat × Nat) : Binary64 :=
  ofRatio x.isNegative (x.ratio.1 * divisor.2) (x.ratio.2 * divisor.1)

/-- The same number with the opposite sign. -/
def neg (x : Binary64) : Binary64 := ⟨x.bits ^^^ 0x8000000000000000⟩

/-- Whether the number is finite and has no fractional part. -/
def isIntegral (x : Binary64) : Bool :=
  x.isFinite && x.ratio.1 % x.ratio.2 == 0

end Binary64

end CallGuard
