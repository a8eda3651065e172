/-
Decimal numbers written in positional notation: a coefficient and a power of
ten, printed digit by digit with no exponent, whatever their size.
-/

namespace CallGuard

/-- The number `coefficient * 10 ^ exponent`. -/
structure Decimal where
  coefficient : Nat
  exponent : Int
  deriving DecidableEq

namespace Decimal

/-- The decimal digits of a natural number, most significant first. -/
def digits (n : Nat) : List Char := Nat.toDigits 10 n

/-- Digits with the last `places` of them behind a point; at least one digit stands before it. -/
def pointed (places : Nat) (digits : List Char) : List Char :=
  let padded := List.replicate (places + 1 - digits.length) '0' ++ digits
  padded.take (padded.length - places) ++ '.' :: padded.drop (padded.length - places)

/-- All digits of the number, with a point only if it has decimal places. -/
def positional (d : Decimal) : List Char :=
  match d.exponent with
  | .ofNat zeros =>
    if d.coefficient = 0 then ['0'] else digits d.coefficient ++ List.replicate zeros '0'
  | .negSucc places => pointed (places + 1) (digits d.coefficient)

end Decimal

end CallGuard
