/-
Whole numbers of 64 bits, and arithmetic on them that is exact or refused.

An operation is carried out on the unbounded integers. Its result is an
answer if it lies in the range of 64 bits, and otherwise there is none:
nothing wraps around. Division goes toward zero and a remainder takes
the sign of the dividend; neither has an answer for the divisor zero.

There is one refusal that the range does not explain. The least number
divided by -1 lies outside the range, and its remainder is refused along
with its quotient, although that remainder is zero.
-/
namespace DynamicSql.Whole

/-- The integer as a 64-bit number, if it is one. -/
def ofInt? (n : Int) : Option Int64 :=
  if Int64.minValue.toInt ≤ n ∧ n ≤ Int64.maxValue.toInt then some (Int64.ofInt n) else none

theorem toInt_of_ofInt? {n : Int} {i : Int64} (h : ofInt? n = some i) : i.toInt = n := by
  unfold ofInt? at h
  split at h
  · next hn =>
    cases h
    exact Int64.toInt_ofInt_of_le hn.1 (Int.lt_add_one_of_le hn.2)
  · simp at h

def add? (a b : Int64) : Option Int64 := ofInt? (a.toInt + b.toInt)

def sub? (a b : Int64) : Option Int64 := ofInt? (a.toInt - b.toInt)

def mul? (a b : Int64) : Option Int64 := ofInt? (a.toInt * b.toInt)

def neg? (a : Int64) : Option Int64 := ofInt? (-a.toInt)

def div? (a b : Int64) : Option Int64 :=
  if b.toInt = 0 then none else ofInt? (Int.tdiv a.toInt b.toInt)

/-- A remainder exists exactly where the quotient does. -/
def rem? (a b : Int64) : Option Int64 :=
  (div? a b).bind fun _ => ofInt? (Int.tmod a.toInt b.toInt)

/-- A number that is not negative, as 64 bits if it fits and otherwise as
the nearest float. -/
def ofNat (n : Nat) : Int64 ⊕ Float :=
  match ofInt? n with
  | some i => .inl i
  | none => .inr (Float.ofNat n)

/-- Written in decimal, with a minus sign before a negative number. -/
def text (i : Int64) : String := toString i.toInt

end DynamicSql.Whole
