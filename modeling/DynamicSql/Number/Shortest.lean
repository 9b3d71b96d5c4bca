/-
The shortest decimal number that reads back as a given float.

Every float owns the real numbers that lie nearer to it than to any other
float; a decimal number in that interval reads back as the float. The
ends of the interval belong to it when the mantissa is even, because a
number halfway between two floats is read as the even one.

# The search

On the grid of decimal numbers with a given count of digits, only the two
neighbours of the float need be looked at: if any point of the grid lies in
the interval, so does one of them. The count goes up from one, the first
grid with a hit wins, and of two hits the nearer one. Seventeen digits
always suffice.

# Ties

The float can lie exactly halfway between two hits. Which of them is
written is a decision of the format and not of the search, so it is a
parameter.
-/
import DynamicSql.Number.Binary64

namespace DynamicSql

/-- Which of two equally near decimal numbers is written. -/
inductive Tie where
  | awayFromZero
  | toEven
deriving DecidableEq, Repr, Inhabited

/-- The number `coefficient * 10 ^ exponent`. -/
structure Decimal where
  coefficient : Nat
  exponent : Int
deriving DecidableEq, Repr, Inhabited

namespace Decimal

/-- The number of decimal digits of a natural number; zero has one. -/
def digitCount (n : Nat) : Nat := (Nat.toDigits 10 n).length

/-- The number of digits before the point of `m * 2 ^ q`, for a positive
`m`. It is zero or negative when the number has zeros after the point
before its first digit. No power of two below one is a power of ten, so
counting the digits of the inverse is exact there. -/
def leadingPlace (m : Nat) (q : Int) : Int :=
  let whole := m * Nat.pow 2 q.toNat
  let parts := Nat.pow 2 (-q).toNat
  if parts ≤ whole then digitCount (whole / parts)
  else 1 - digitCount (parts / whole)

/-- The fraction that `x * 2 ^ q / 10 ^ k` multiplies `x` by. -/
def gridFactor (q k : Int) : Nat × Nat :=
  (Nat.pow 2 q.toNat * Nat.pow 10 (-k).toNat, Nat.pow 2 (-q).toNat * Nat.pow 10 k.toNat)

/-- The point of the grid of multiples of `10 ^ k` that is written for
`m * 2 ^ q`, if any neighbour of the number on that grid reads back.

Lengths are measured in quarters of the last bit, so that all ends of
intervals are whole: the upper end is two quarters away, and so is the
lower one, except below a power of two, where floats are twice as close. -/
def onGrid? (tie : Tie) (m : Nat) (q k : Int) : Option Nat :=
  let (num, den) := gridFactor (q - 2) k
  let value := 4 * m * num
  let low := value - (if m = Nat.pow 2 52 ∧ q ≠ Binary64.minExponent then 1 else 2) * num
  let high := value + 2 * num
  let below := value / den
  let above := below + 1
  let even := m % 2 == 0
  let belowHits := if even then low ≤ below * den else low < below * den
  let aboveHits := if even then above * den ≤ high else above * den < high
  if belowHits ∧ aboveHits then
    let rest := 2 * (value % den)
    if rest < den then some below
    else if den < rest then some above
    else match tie with
      | .awayFromZero => some above
      | .toEven => some (if below % 2 = 0 then below else above)
  else if belowHits then some below
  else if aboveHits then some above
  else none

/-- Tries the grids of `digits`, `digits + 1`, … digits, `steps` of them. -/
def search (tie : Tie) (m : Nat) (q place : Int) (digits : Nat) : (steps : Nat) → Decimal
  | 0 => ⟨m * Nat.pow 2 q.toNat, 0⟩
  | steps + 1 =>
    let k := place - digits
    match onGrid? tie m q k with
    | some c => ⟨c, k⟩
    | none => search tie m q place (digits + 1) steps

/-- The digits of a decimal number without zeros at the end, and the power
of ten of the last of them. -/
def significant (d : Decimal) : List Char × Int :=
  let digits := Nat.toDigits 10 d.coefficient
  let kept := (digits.reverse.dropWhile (· == '0')).reverse
  (kept, d.exponent + (digits.length - kept.length : Nat))

/-- The shortest decimal number that reads back as `m * 2 ^ q`. -/
def shortest (tie : Tie) (m : Nat) (q : Int) : Decimal :=
  if m = 0 then ⟨0, 0⟩ else search tie m q (leadingPlace m q) 1 17

end Decimal

end DynamicSql
