/-
Numbers written with digits, read.
-/
namespace DynamicSql

/-- The value of a digit in a base of at most sixteen. Letters are digits
from ten on, in either case. -/
def digitIn? (base : Nat) (c : Char) : Option Nat :=
  let value :=
    if c.isDigit then c.toNat - 48
    else if 'a' ≤ c ∧ c ≤ 'f' then c.toNat - 87
    else if 'A' ≤ c ∧ c ≤ 'F' then c.toNat - 55
    else base
  if value < base then some value else none

/-- The natural number that decimal digits stand for. -/
def digitsValue (cs : List Char) : Nat :=
  cs.foldl (fun n c => 10 * n + (c.toNat - 48)) 0

/-- The float nearest to `mantissa * 10 ^ exponent`; of two equally near
ones, that with the even mantissa. -/
def nearestFloat (mantissa : Nat) (exponent : Int) : Float :=
  Float.ofScientific mantissa (exponent < 0) exponent.natAbs

end DynamicSql
