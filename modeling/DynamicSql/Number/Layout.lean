/-
How a float is written. The digits are those of the shortest decimal
number that reads back (`DynamicSql.Number.Shortest`); a layout says what
is put around them.

Two layouts are in use. Text that goes into SQL never has an exponent: a
reader of SQL would take it for a different type. A JSON text writes very
large and very small numbers with one, and keeps a fraction on whole
numbers, so that a float stays a float when it is read again.
-/
import DynamicSql.Number.Shortest

namespace DynamicSql

/-- The decisions of a format for floats. -/
structure Layout where
  tie : Tie
  /-- The powers of ten of the first digit, from the least to the greatest,
  for which no exponent is written; all of them if there is no bound. -/
  positional : Option (Int × Int)
  /-- What follows the digits of a whole number. -/
  wholeMark : String
  nan : String
  infinity : String
  minusInfinity : String

namespace Layout

/-- Floats within SQL: every digit in its place, and no fraction on whole
numbers. -/
def plain : Layout :=
  ⟨.awayFromZero, none, "", "NaN", "inf", "-inf"⟩

/-- Floats within JSON: an exponent from 10^16 on and below 10^-5, and a
fraction on whole numbers. JSON has no name for what is not a number. -/
def json : Layout :=
  ⟨.toEven, some (-5, 15), ".0", "null", "null", "null"⟩

def zeros (n : Nat) : List Char := List.replicate n '0'

/-- The digits in their places; `last` is the power of ten of the last
one. -/
def positionalText (layout : Layout) (digits : List Char) (last : Int) : String :=
  let places := digits.length + last
  if 0 ≤ last then String.ofList (digits ++ zeros last.toNat) ++ layout.wholeMark
  else if 0 < places then
    String.ofList (digits.take places.toNat ++ '.' :: digits.drop places.toNat)
  else String.ofList ('0' :: '.' :: zeros (-places).toNat ++ digits)

/-- One digit before the point, and the power of ten that it stands for. -/
def scientificText (digits : List Char) (first : Int) : String :=
  let mantissa := match digits with
    | [] => []
    | [d] => [d]
    | d :: ds => d :: '.' :: ds
  let sign := if first < 0 then "-" else "+"
  String.ofList mantissa ++ "e" ++ sign ++ toString first.natAbs

/-- The text of a number that is not negative. -/
def magnitude (layout : Layout) (m : Nat) (q : Int) : String :=
  if m = 0 then positionalText layout ['0'] 0
  else
    let (digits, last) := (Decimal.shortest layout.tie m q).significant
    let first := last + digits.length - 1
    match layout.positional with
    | none => positionalText layout digits last
    | some (least, greatest) =>
      if least ≤ first ∧ first ≤ greatest then positionalText layout digits last
      else scientificText digits first

/-- The text of a float. A zero keeps its sign. -/
def text (layout : Layout) (x : Float) : String :=
  match Binary64.ofFloat x with
  | .nan => layout.nan
  | .infinite negative => if negative then layout.minusInfinity else layout.infinity
  | .finite negative m q => (if negative then "-" else "") ++ layout.magnitude m q

end Layout

end DynamicSql
