/-
Arithmetic on integers is exact or refused.

An expression of integers has two readings. One is over the unbounded
integers (`IntegerExpr.exact`), where nothing can go wrong; division goes
toward zero there, and a remainder has the sign of the dividend. The other is
the evaluation of the expression that it stands for, in 64 bits. What ties
them together is the list of the operations that are carried out, in the
order of evaluation and with their operands as they are over the unbounded
integers: those of the left operand, those of the right one, the operation
itself.

If all of them can be done, the evaluation has the exact value. If not, then
the first that cannot be done decides, and no later one is seen.

# What cannot be done

A division by zero, and whatever has a result of more than 64 bits. There is
one operation besides: the remainder of the least number and -1 is zero, and
is refused with the quotient, which has 65 bits.
-/
import DynamicSql.Expr.Eval

namespace DynamicSql

-- ============================================================= the range

namespace Whole

/-- The integer is one of those that 64 bits are for. -/
def Fits (n : Int) : Prop := Int64.minValue.toInt ≤ n ∧ n ≤ Int64.maxValue.toInt

instance (n : Int) : Decidable (Fits n) := inferInstanceAs (Decidable (_ ∧ _))

theorem fits_toInt (i : Int64) : Fits i.toInt :=
  ⟨i.minValue_le_toInt, i.toInt_le⟩

theorem exists_ofInt?_of_fits {n : Int} (h : Fits n) : ∃ i, ofInt? n = some i ∧ i.toInt = n :=
  have hi : ofInt? n = some (Int64.ofInt n) := if_pos h
  ⟨_, hi, toInt_of_ofInt? hi⟩

theorem ofInt?_of_not_fits {n : Int} (h : ¬ Fits n) : ofInt? n = none := if_neg h

/-- A quotient fits, but for that of the least number and -1. -/
theorem fits_tdiv_iff {a b : Int} (ha : Fits a) (hb : b ≠ 0) :
    Fits (a.tdiv b) ↔ ¬ (a = Int64.minValue.toInt ∧ b = -1) := by
  have hmin : Int64.minValue.toInt = -9223372036854775808 := rfl
  have hmax : Int64.maxValue.toInt = 9223372036854775807 := rfl
  unfold Fits at *
  constructor
  · rintro hfits ⟨rfl, rfl⟩
    revert hfits
    decide
  · intro hne
    have habs : (a.tdiv b).natAbs = a.natAbs / b.natAbs := Int.natAbs_tdiv a b
    have hle : a.natAbs / b.natAbs ≤ a.natAbs := Nat.div_le_self _ _
    by_cases hone : b.natAbs = 1
    · obtain rfl | rfl : b = 1 ∨ b = -1 := by omega
      · rwa [Int.tdiv_one]
      · rw [Int.tdiv_neg, Int.tdiv_one]
        omega
    · -- a divisor of two or more halves what it divides
      have hhalf : a.natAbs / b.natAbs ≤ a.natAbs / 2 := Nat.div_le_div_left (by omega) (by omega)
      omega

end Whole

-- ================================================== the exact arithmetic

/-- The operators of arithmetic. -/
inductive ArithmeticOp where
  | add
  | sub
  | mul
  | div
  | rem
deriving DecidableEq

namespace ArithmeticOp

def toBinary : ArithmeticOp → BinaryOp
  | .add => .add
  | .sub => .sub
  | .mul => .mul
  | .div => .div
  | .rem => .rem

/-- The result over the unbounded integers. -/
def exact (op : ArithmeticOp) (a b : Int) : Int :=
  match op with
  | .add => a + b
  | .sub => a - b
  | .mul => a * b
  | .div => a.tdiv b
  | .rem => a.tmod b

/-- The right operand is a divisor. -/
def Divides (op : ArithmeticOp) : Prop := op = .div ∨ op = .rem

instance (op : ArithmeticOp) : Decidable op.Divides := inferInstanceAs (Decidable (_ ∨ _))

end ArithmeticOp

/-- One operation, between integers of any size. -/
inductive Operation where
  | negation (a : Int)
  | binary (op : ArithmeticOp) (a b : Int)
deriving DecidableEq

namespace Operation

def result : Operation → Int
  | negation a => -a
  | binary op a b => op.exact a b

/-- The left or only operand. -/
def left : Operation → Int
  | negation a => a
  | binary _ a _ => a

def symbol : Operation → String
  | negation _ => "-"
  | binary op _ _ => op.toBinary.symbol

def DividesByZero : Operation → Prop
  | negation _ => False
  | binary op _ b => op.Divides ∧ b = 0

instance : (o : Operation) → Decidable o.DividesByZero
  | negation _ => inferInstanceAs (Decidable False)
  | binary _ _ _ => inferInstanceAs (Decidable (_ ∧ _))

/-- The remainder of the least number and -1. -/
def leastRemainder : Operation := .binary .rem Int64.minValue.toInt (-1)

/-- What an operation fails with, if it cannot be done. -/
def refusal? (o : Operation) : Option EvalError :=
  if o.DividesByZero then some .divisionByZero
  else if Whole.Fits o.result ∧ o ≠ leastRemainder then none
  else some (.mismatch (.overflow o.symbol (Int64.ofInt o.left)))

variable {o : Operation}

theorem refusal?_of_dividesByZero (h : o.DividesByZero) : o.refusal? = some .divisionByZero :=
  if_pos h

theorem refusal?_of_fits (hzero : ¬ o.DividesByZero) (hfits : Whole.Fits o.result)
    (hleast : o ≠ leastRemainder) : o.refusal? = none := by
  rw [refusal?, if_neg hzero, if_pos ⟨hfits, hleast⟩]

theorem refusal?_of_not_fits (hzero : ¬ o.DividesByZero)
    (h : ¬ Whole.Fits o.result ∨ o = leastRemainder) :
    o.refusal? = some (.mismatch (.overflow o.symbol (Int64.ofInt o.left))) := by
  rw [refusal?, if_neg hzero, if_neg fun hdone => h.elim (· hdone.1) hdone.2]

end Operation

/-- An expression of integer literals, variables and arithmetic. -/
inductive IntegerExpr where
  | literal (i : Int64)
  | var (name : String)
  | negation (operand : IntegerExpr)
  | binary (op : ArithmeticOp) (left right : IntegerExpr)

namespace IntegerExpr

/-- The expression as the language has it. -/
def toExpr : IntegerExpr → Expr
  | literal i => .literal (.int i)
  | var name => .var name
  | negation e => .unary .neg e.toExpr
  | binary op l r => .binary op.toBinary l.toExpr r.toExpr

/-- The variables of an expression. -/
def names : IntegerExpr → List String
  | literal _ => []
  | var name => [name]
  | negation e => e.names
  | binary _ l r => l.names ++ r.names

/-- The value over the unbounded integers. -/
def exact (values : String → Int64) : IntegerExpr → Int
  | literal i => i.toInt
  | var name => (values name).toInt
  | negation e => -e.exact values
  | binary op l r => op.exact (l.exact values) (r.exact values)

/-- What there is to do, in the order in which it is done. -/
def operations (values : String → Int64) : IntegerExpr → List Operation
  | literal _ => []
  | var _ => []
  | negation e => e.operations values ++ [.negation (e.exact values)]
  | binary op l r =>
    l.operations values ++ r.operations values
      ++ [.binary op (l.exact values) (r.exact values)]

end IntegerExpr

-- ========================================================== exact or not

/-- The outcome of operations that lead to a number: that number, or the
failure of the first operation that cannot be done. -/
def ExactOrRefused (operations : List Operation) (n : Int) (outcome : Except EvalError Value) :
    Prop :=
  match operations.findSome? Operation.refusal? with
  | none => ∃ i : Int64, outcome = .ok (.int i) ∧ i.toInt = n
  | some error => outcome = .error error

namespace ExactOrRefused

variable {operations next : List Operation} {n m : Int} {outcome : Except EvalError Value}

theorem nothing (i : Int64) : ExactOrRefused [] i.toInt (.ok (.int i)) := ⟨i, rfl, rfl⟩

/-- One thing after another: what comes next is done with the number that
came out, or not at all. -/
theorem bind (h : ExactOrRefused operations n outcome) {f : Value → Except EvalError Value}
    (hnext : ∀ i : Int64, i.toInt = n → ExactOrRefused next m (f (.int i))) :
    ExactOrRefused (operations ++ next) m (outcome >>= f) := by
  unfold ExactOrRefused at h ⊢
  rw [List.findSome?_append]
  cases hfirst : operations.findSome? Operation.refusal? with
  | none =>
    simp only [hfirst] at h
    obtain ⟨i, rfl, hi⟩ := h
    exact hnext i hi
  | some error =>
    simp only [hfirst] at h
    subst h
    rfl

/-- A single operation that cannot be done. -/
theorem of_refusal {o : Operation} {error : EvalError} (ho : o.refusal? = some error)
    (h : outcome = .error error) : ExactOrRefused [o] n outcome := by
  simpa only [ExactOrRefused, List.findSome?_cons, ho] using h

/-- A single operation that does nothing but look whether its result fits. -/
theorem of_result {o : Operation} (hzero : ¬ o.DividesByZero) (hleast : o ≠ .leastRemainder)
    (hsome : ∀ i, Whole.ofInt? o.result = some i → outcome = .ok (.int i))
    (hnone : Whole.ofInt? o.result = none →
      outcome = .error (.mismatch (.overflow o.symbol (Int64.ofInt o.left)))) :
    ExactOrRefused [o] o.result outcome := by
  by_cases hfits : Whole.Fits o.result
  · obtain ⟨i, hi, hto⟩ := Whole.exists_ofInt?_of_fits hfits
    have hdone : o.refusal? = none := Operation.refusal?_of_fits hzero hfits hleast
    simp only [ExactOrRefused, List.findSome?_cons, hdone, List.findSome?_nil]
    exact ⟨i, hsome i hi, hto⟩
  · exact of_refusal (Operation.refusal?_of_not_fits hzero (.inl hfits))
      (hnone (Whole.ofInt?_of_not_fits hfits))

/-- It fails just where one of the operations cannot be done. -/
theorem exists_error_iff (h : ExactOrRefused operations n outcome) :
    (∃ error, outcome = .error error) ↔ ∃ o ∈ operations, o.refusal? ≠ none := by
  unfold ExactOrRefused at h
  cases hfirst : operations.findSome? Operation.refusal? with
  | none =>
    simp only [hfirst] at h
    obtain ⟨i, rfl, -⟩ := h
    have hdone : ∀ o ∈ operations, o.refusal? = none := List.findSome?_eq_none_iff.1 hfirst
    exact ⟨nofun, fun ⟨o, ho, hrefused⟩ => absurd (hdone o ho) hrefused⟩
  | some error =>
    simp only [hfirst] at h
    obtain ⟨o, ho, hrefused⟩ := List.exists_of_findSome?_eq_some hfirst
    exact ⟨fun _ => ⟨o, ho, by rw [hrefused]; nofun⟩, fun _ => ⟨error, h⟩⟩

end ExactOrRefused

-- ========================================================= one operation

namespace Expr

theorem negative_exactOrRefused (a : Int64) :
    ExactOrRefused [.negation a.toInt] (-a.toInt) (negative (.int a)) := by
  refine ExactOrRefused.of_result (o := .negation a.toInt) id nofun ?_ ?_
  · intro i (hi : Whole.neg? a = some i)
    rw [negative, hi]
  · intro (hi : Whole.neg? a = none)
    rw [negative, hi]
    simp only [Operation.symbol, Operation.left, Int64.ofInt_toInt]

/-- Between integers an operator of arithmetic is nothing else: a sum is one
of numbers, and nothing counts as a float. -/
theorem applyBinary_int (op : ArithmeticOp) (a b : Int64) :
    applyBinary op.toBinary (.int a) (.int b) = integerArithmetic op.toBinary a b := by
  cases op <;> rfl

/-- The remainder is looked for where the quotient is. -/
theorem rem?_of_ne {a b : Int64} (hb : b.toInt ≠ 0)
    (hleast : Operation.binary .rem a.toInt b.toInt ≠ .leastRemainder) :
    Whole.rem? a b = Whole.ofInt? (a.toInt.tmod b.toInt) := by
  have hfits : Whole.Fits (a.toInt.tdiv b.toInt) :=
    (Whole.fits_tdiv_iff (Whole.fits_toInt a) hb).2 fun ⟨ha, hb⟩ =>
      hleast (by rw [ha, hb, Operation.leastRemainder])
  obtain ⟨q, hq, -⟩ := Whole.exists_ofInt?_of_fits hfits
  rw [Whole.rem?, Whole.div?, if_neg hb, hq, Option.bind_some]

/-- The one remainder that is refused, as its quotient is. -/
theorem rem?_leastRemainder {a b : Int64}
    (hleast : Operation.binary .rem a.toInt b.toInt = .leastRemainder) :
    Whole.rem? a b = none := by
  obtain ⟨ha, hb⟩ : a.toInt = Int64.minValue.toInt ∧ b.toInt = -1 := by
    simpa [Operation.leastRemainder] using hleast
  have hfits : ¬ Whole.Fits (a.toInt.tdiv b.toInt) := by
    rw [Whole.fits_tdiv_iff (Whole.fits_toInt a) (by omega)]
    exact fun hne => hne ⟨ha, hb⟩
  rw [Whole.rem?, Whole.div?, Whole.ofInt?_of_not_fits hfits]
  split <;> rfl

/-- Past a divisor of zero and the one remainder, all that counts is whether
the exact result fits. -/
theorem integerArithmetic_of_ne {op : ArithmeticOp} {a b : Int64}
    (hzero : ¬ (Operation.binary op a.toInt b.toInt).DividesByZero)
    (hleast : Operation.binary op a.toInt b.toInt ≠ .leastRemainder) :
    integerArithmetic op.toBinary a b =
      match Whole.ofInt? (op.exact a.toInt b.toInt) with
      | some i => .ok (.int i)
      | none => .error (.mismatch (.overflow op.toBinary.symbol a)) := by
  cases op with
  | add => rfl
  | sub => rfl
  | mul => rfl
  | div =>
    have hb : b.toInt ≠ 0 := fun hb => hzero ⟨.inl rfl, hb⟩
    simp only [integerArithmetic, ArithmeticOp.toBinary, if_neg hb, Whole.div?]
    rfl
  | rem =>
    have hb : b.toInt ≠ 0 := fun hb => hzero ⟨.inr rfl, hb⟩
    simp only [integerArithmetic, ArithmeticOp.toBinary, if_neg hb, rem?_of_ne hb hleast]
    rfl

theorem applyBinary_exactOrRefused (op : ArithmeticOp) (a b : Int64) :
    ExactOrRefused [.binary op a.toInt b.toInt] (op.exact a.toInt b.toInt)
      (applyBinary op.toBinary (.int a) (.int b)) := by
  rw [applyBinary_int]
  by_cases hzero : (Operation.binary op a.toInt b.toInt).DividesByZero
  · -- a divisor of zero is seen before anything else
    refine ExactOrRefused.of_refusal (Operation.refusal?_of_dividesByZero hzero) ?_
    obtain ⟨rfl | rfl, hb⟩ := hzero
    · simp only [integerArithmetic, ArithmeticOp.toBinary, hb, if_true]
    · simp only [integerArithmetic, ArithmeticOp.toBinary, hb, if_true]
  by_cases hleast : Operation.binary op a.toInt b.toInt = .leastRemainder
  · refine ExactOrRefused.of_refusal (Operation.refusal?_of_not_fits hzero (.inr hleast)) ?_
    obtain rfl : op = .rem := by
      simp only [Operation.leastRemainder, Operation.binary.injEq] at hleast
      exact hleast.1
    have hb : b.toInt ≠ 0 := fun hb => hzero ⟨.inr rfl, hb⟩
    simp only [integerArithmetic, ArithmeticOp.toBinary, if_neg hb, rem?_leastRemainder hleast,
      Operation.symbol, Operation.left, Int64.ofInt_toInt]
  · refine ExactOrRefused.of_result (o := .binary op a.toInt b.toInt) hzero hleast ?_ ?_
    · intro i (hi : Whole.ofInt? (op.exact a.toInt b.toInt) = some i)
      rw [integerArithmetic_of_ne hzero hleast, hi]
    · intro (hi : Whole.ofInt? (op.exact a.toInt b.toInt) = none)
      rw [integerArithmetic_of_ne hzero hleast, hi]
      simp only [Operation.symbol, Operation.left, Int64.ofInt_toInt]

-- ====================================================== whole expressions

/-- Every operator of arithmetic evaluates both of its operands. -/
theorem eval_arithmetic (vars : Variables) (op : ArithmeticOp) (l r : Expr) :
    (Expr.binary op.toBinary l r).eval vars =
      (l.eval vars).bind fun a => (r.eval vars).bind fun b => applyBinary op.toBinary a b := by
  cases op <;> simp only [ArithmeticOp.toBinary, eval] <;> rfl

end Expr

namespace IntegerExpr

variable (vars : Variables) (values : String → Int64)

/-- The induction is on the expression: its operations are those of its
parts, in the order in which the parts are evaluated. -/
theorem exactOrRefused_eval (e : IntegerExpr)
    (hbound : ∀ name ∈ e.names, vars name = some (.int (values name))) :
    ExactOrRefused (e.operations values) (e.exact values) (e.toExpr.eval vars) := by
  induction e with
  | literal i =>
    rw [toExpr, Expr.eval]
    exact .nothing i
  | var name =>
    rw [toExpr, Expr.eval, hbound name (List.mem_singleton_self name)]
    exact .nothing (values name)
  | negation e ih =>
    rw [toExpr, Expr.eval]
    refine (ih hbound).bind fun i hi => ?_
    rw [exact, ← hi]
    exact Expr.negative_exactOrRefused i
  | binary op l r ihl ihr =>
    rw [toExpr, Expr.eval_arithmetic, operations, List.append_assoc]
    refine (ihl fun name h => hbound name (List.mem_append_left _ h)).bind fun a ha => ?_
    refine (ihr fun name h => hbound name (List.mem_append_right _ h)).bind fun b hb => ?_
    rw [exact, ← ha, ← hb]
    exact Expr.applyBinary_exactOrRefused op a b

/-- Between two words an operation that divides by nothing that is zero and
whose exact result fits is refused in one case only. -/
theorem refused_iff {op : ArithmeticOp} {a b : Int64} (hzero : ¬ (op.Divides ∧ b.toInt = 0))
    (hfits : Whole.Fits (op.exact a.toInt b.toInt)) :
    (∃ error, (binary op (literal a) (literal b)).toExpr.eval vars = .error error)
      ↔ op = .rem ∧ a = Int64.minValue ∧ b = -1 := by
  have h := exactOrRefused_eval vars (fun _ => 0) (binary op (literal a) (literal b)) nofun
  have hsingle : (binary op (literal a) (literal b)).operations (fun _ => 0) =
      [.binary op a.toInt b.toInt] := rfl
  rw [h.exists_error_iff, hsingle]
  have hleast : Operation.binary op a.toInt b.toInt = .leastRemainder ↔
      op = .rem ∧ a = Int64.minValue ∧ b = -1 := by
    rw [Operation.leastRemainder, Operation.binary.injEq, ← Int64.toInt_inj, ← Int64.toInt_inj]
    rfl
  rw [← hleast]
  constructor
  · rintro ⟨o, ho, hrefused⟩
    obtain rfl := List.mem_singleton.1 ho
    exact Decidable.of_not_not fun hne =>
      hrefused (Operation.refusal?_of_fits hzero hfits hne)
  · intro hleast
    refine ⟨.binary op a.toInt b.toInt, List.mem_singleton_self _, ?_⟩
    rw [Operation.refusal?_of_not_fits (o := .binary op a.toInt b.toInt) hzero (.inr hleast)]
    nofun

/-- A negative that fits is never refused. -/
theorem exists_negation {a : Int64} (hfits : Whole.Fits (-a.toInt)) :
    ∃ i : Int64, (negation (literal a)).toExpr.eval vars = .ok (.int i) ∧ i.toInt = -a.toInt := by
  have h := exactOrRefused_eval vars (fun _ => 0) (negation (literal a)) nofun
  have hdone : (Operation.negation a.toInt).refusal? = none :=
    Operation.refusal?_of_fits id hfits nofun
  simpa [ExactOrRefused, operations, exact, hdone] using h

/-- Integer arithmetic is exact or refused: an expression of integers has its
value over the unbounded integers, or fails as the first of its operations
that cannot be done. A negative that fits is there, and of the other
operations with a result that fits one is refused. -/
theorem exact_or_refused (e : IntegerExpr)
    (hbound : ∀ name ∈ e.names, vars name = some (.int (values name))) :
    ExactOrRefused (e.operations values) (e.exact values) (e.toExpr.eval vars)
      ∧ (∀ a : Int64, Whole.Fits (-a.toInt) →
        ∃ i : Int64, (negation (literal a)).toExpr.eval vars = .ok (.int i) ∧ i.toInt = -a.toInt)
      ∧ ∀ (op : ArithmeticOp) (a b : Int64), ¬ (op.Divides ∧ b.toInt = 0) →
        Whole.Fits (op.exact a.toInt b.toInt) →
        ((∃ error, (binary op (literal a) (literal b)).toExpr.eval vars = .error error)
          ↔ op = .rem ∧ a = Int64.minValue ∧ b = -1) :=
  ⟨exactOrRefused_eval vars values e hbound, fun _ => exists_negation vars,
    fun _ _ _ => refused_iff vars⟩

/-- A product that overflows, and a division by zero that comes later:
`least * -1 / zero - least`. -/
def overflowBeforeZero : IntegerExpr :=
  .binary .sub
    (.binary .div (.binary .mul (.var "least") (.negation (.literal 1))) (.var "zero"))
    (.var "least")

def leastAndZero (name : String) : Int64 := if name = "least" then Int64.minValue else 0

theorem exact_or_refused_of_overflowBeforeZero :
    (∀ name ∈ overflowBeforeZero.names,
      (some (.int (leastAndZero name)) : Option Value) = some (.int (leastAndZero name)))
      ∧ overflowBeforeZero.toExpr.eval (fun name => some (.int (leastAndZero name)))
        = .error (.mismatch (.overflow "*" Int64.minValue)) := by
  refine ⟨fun _ _ => rfl, ?_⟩
  obtain ⟨h, -, -⟩ := exact_or_refused (fun name => some (.int (leastAndZero name))) leastAndZero
    overflowBeforeZero (fun _ _ => rfl)
  have hfirst : (overflowBeforeZero.operations leastAndZero).findSome? Operation.refusal?
      = some (.mismatch (.overflow "*" Int64.minValue)) := by rfl
  rwa [ExactOrRefused, hfirst] at h

end IntegerExpr

end DynamicSql
