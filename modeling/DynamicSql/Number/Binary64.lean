/-
Floating point numbers of 64 bits, taken apart and put together.

A finite number is a whole number of at most 53 bits times a power of
two. All that this library computes about floats beyond the four
operations of the hardware (their shortest decimal text, the remainder
of a division) is exact arithmetic on these two parts.
-/
namespace DynamicSql

/-- What a float stands for. -/
inductive Binary64 where
  | nan
  | infinite (negative : Bool)
  /-- The number `mantissa * 2 ^ exponent`, or its negative. -/
  | finite (negative : Bool) (mantissa : Nat) (exponent : Int)
deriving DecidableEq, Repr, Inhabited

namespace Binary64

/-- The exponent of the smallest numbers; no number has a smaller one. -/
def minExponent : Int := -1074

/-- Takes the 64 bits apart: one for the sign, eleven for the exponent,
the rest for the mantissa. Numbers of the smallest exponent have all bits
of their mantissa written down, all others leave out the highest, which is
one. -/
def ofBits (bits : Nat) : Binary64 :=
  let negative := bits / Nat.pow 2 63 == 1
  let scale := bits / Nat.pow 2 52 % Nat.pow 2 11
  let fraction := bits % Nat.pow 2 52
  if scale = 2047 then
    if fraction = 0 then .infinite negative else .nan
  else if scale = 0 then .finite negative fraction minExponent
  else .finite negative (fraction + Nat.pow 2 52) (minExponent + (scale - 1 : Nat))

def ofFloat (x : Float) : Binary64 := ofBits x.toBits.toNat

/-- The float `mantissa * 2 ^ exponent`, for a number that a float can hold
exactly. Bits of the mantissa beyond the 53rd must be zero; they are cut
off, so that no rounding enters. -/
def toFloat (negative : Bool) (mantissa : Nat) (exponent : Int) : Float :=
  let extra := mantissa.log2 - 52
  let x := (Float.ofNat (mantissa / Nat.pow 2 extra)).scaleB (exponent + extra)
  if negative then -x else x

-- =========================================================== remainder

/-- What an operation without a result gives. -/
def notANumber : Float := Float.ofBits 0x7FF8000000000000

/-- The remainder of dividing one finite number by another: the quotient is
cut to a whole number, and what is left has the sign of the dividend. Both
are brought to the smaller of the two exponents, where the division is one
of whole numbers. -/
def remFinite (negative : Bool) (m : Nat) (p : Int) (n : Nat) (q : Int) : Float :=
  let common := min p q
  let left := m * Nat.pow 2 (p - common).toNat
  let right := n * Nat.pow 2 (q - common).toNat
  toFloat negative (left % right) common

/-- The remainder of a division of floats. There is none by zero or of an
infinite number; dividing by an infinite number leaves everything. -/
def rem (a b : Float) : Float :=
  match ofFloat a, ofFloat b with
  | .finite _ _ _, .infinite _ => a
  | .finite negative m p, .finite _ n q =>
    if n = 0 then notANumber else remFinite negative m p n q
  | _, _ => notANumber

end Binary64

end DynamicSql
