/-
Integers as expressions of themselves.

An integer is rendered in decimal, and its text may come back as an
expression: the digits are a literal, and a minus sign before them is an
operator. So a negative integer is read in two steps, each with a range of its
own. First its digits, as an integer that is not negative; then the negative
of that one.

# The one that is not read

The second step never fails, since the negative is the integer that there was
in the beginning. The first one asks for the absolute value in 64 bits. Each
integer has it but the least, which is refused where its digits begin
(`evaluate_render_int`).
-/
import DynamicSql.Proofs.Expr.Arithmetic
import DynamicSql.Proofs.Expr.Cache
import DynamicSql.Proofs.Expr.Cutting
import DynamicSql.Proofs.Expr.Printing
import DynamicSql.Value.Text

namespace DynamicSql

namespace Token

-- =============================================================== cutting

/-- A text of which a stage leaves nothing is cut into the tokens of that
stage. -/
theorem lex_of_cut {text : String} {front : List Char} {lexemes : List Lexeme}
    (h : Cut text.toList front lexemes []) : lex text = .ok lexemes := by
  rw [lex, h.lexFrom_eq, lexFrom, Except.map, List.append_nil]

/-- A minus sign is a token by itself, whatever follows. -/
theorem cut_minus (rest : List Char) : Cut ('-' :: rest) ['-'] [⟨0, .symbol .minus⟩] rest := by
  have hbegins : Begins (['-'] ++ rest) (.symbol .minus) rest := ⟨'-', rest, rfl, rfl, rfl⟩
  exact Cut.start.token hbegins

/-- The digits at the end of a text are its last token. -/
theorem Cut.int {text front : List Char} {lexemes : List Lexeme} {i : Int64} (h : 0 ≤ i.toInt)
    (hcut : Cut text front lexemes (Whole.text i).toList) :
    Cut text (front ++ (Whole.text i).toList)
      (lexemes ++ [⟨byteLength front, .int i⟩]) [] := by
  have hbegins : Begins ((Whole.text i).toList ++ []) (.int i) [] := begins_int h nofun
  rw [← List.append_nil (Whole.text i).toList] at hcut
  exact hcut.token hbegins

end Token

namespace Whole

/-- A negative number is written as a sign and the digits of its absolute
value. -/
theorem toList_text_neg {i j : Int64} (hneg : i.toInt < 0) (hj : j.toInt = -i.toInt) :
    (text i).toList = '-' :: (text j).toList := by
  have hwritten : toString i.toInt = "-" ++ toString j.toInt := by
    rw [Int.toString_eq_repr, Int.toString_eq_repr, Int.repr_eq_if, Int.repr_eq_if,
      if_neg (by omega), if_pos (by omega), hj]
  rw [text, hwritten, String.toList_append]
  rfl

/-- The absolute value of a negative integer has 64 bits, unless it is the
least one. -/
theorem exists_absolute {i : Int64} (hneg : i.toInt < 0) (hleast : i ≠ Int64.minValue) :
    ∃ j : Int64, j.toInt = -i.toInt := by
  have hmin : i.toInt ≠ Int64.minValue.toInt := fun h => hleast (Int64.toInt_inj.mp h)
  have hlow := i.minValue_le_toInt
  have hfits : Fits (-i.toInt) := by
    have hmin' : Int64.minValue.toInt = -9223372036854775808 := rfl
    have hmax : Int64.maxValue.toInt = 9223372036854775807 := rfl
    unfold Fits
    omega
  obtain ⟨j, -, hj⟩ := exists_ofInt?_of_fits hfits
  exact ⟨j, hj⟩

end Whole

namespace Expr

-- =============================================================== reading

variable (vars : Variables)

/-- Digits are the literal of their number. -/
theorem evalText_nonneg {i : Int64} (h : 0 ≤ i.toInt) :
    evalText (Whole.text i) vars = .ok (.int i) := by
  have hlex := Token.lex_of_cut (Token.Cut.start.int h)
  have hderives : Derives .or [.int i] (.literal (.int i)) :=
    (Derives.literal rfl).loosen (Nat.zero_le _)
  rw [evalText_of_ok hlex (ofLexemes_eq_ok.mpr hderives), eval]

/-- A sign and digits are the negative of a literal. -/
theorem evalText_negated {i j : Int64} (hneg : i.toInt < 0) (hj : j.toInt = -i.toInt) :
    evalText (Whole.text i) vars = .ok (.int i) := by
  have hnonneg : 0 ≤ j.toInt := by omega
  have hcut : Token.Cut (Whole.text i).toList ['-'] [⟨0, .symbol .minus⟩]
      (Whole.text j).toList := by
    rw [Whole.toList_text_neg hneg hj]
    exact Token.cut_minus _
  have hlex := Token.lex_of_cut (hcut.int hnonneg)
  have hliteral : Derives .unary [.int j] (.literal (.int j)) :=
    (Derives.literal rfl).loosen (by decide)
  have hderives : Derives .or [.symbol .minus, .int j] (.unary .neg (.literal (.int j))) :=
    (Derives.unary (Phrase.mem_unaryOperators.mpr rfl) hliteral).loosen (Nat.zero_le _)
  have hback : Whole.neg? j = some i := by
    rw [Whole.neg?, hj, Int.neg_neg, Token.ofInt?_toInt]
  rw [evalText_of_ok hlex (ofLexemes_eq_ok.mpr hderives), eval, eval]
  show negative (.int j) = _
  rw [negative, hback]

/-- What is wrong with the text of the least integer: the number behind the
sign. -/
def leastRefused : SyntaxError := ⟨1, .integerOutOfRange "9223372036854775808"⟩

theorem evalText_least :
    evalText (Whole.text Int64.minValue) vars = .error (.malformed leastRefused) := by
  refine evalText_of_lex_error ?_
  with_unfolding_all rfl

/-- Integers are read back from their texts, in every store of variables and by
an evaluator that was asked for whatever else before, but for the least one:
its digits are refused, as a literal that the sign before them is no part
of. -/
theorem evaluate_render_int (i : Int64) (asked : List String) :
    ((ExprCache.empty.after asked).evaluate (Value.int i).render vars).1
        = Evaluator.standard (Value.int i).render vars
      ∧ Evaluator.standard (Value.int i).render vars
        = if i = Int64.minValue then .error (.malformed leastRefused) else .ok (.int i) := by
  refine ⟨(ExprCache.sound_empty.after asked).evaluate_fst _ vars, ?_⟩
  show evalText (Whole.text i) vars = _
  by_cases hleast : i = Int64.minValue
  · rw [if_pos hleast, hleast]
    exact evalText_least vars
  · rw [if_neg hleast]
    by_cases hneg : i.toInt < 0
    · obtain ⟨j, hj⟩ := Whole.exists_absolute hneg hleast
      exact evalText_negated vars hneg hj
    · exact evalText_nonneg vars (Int.not_lt.mp hneg)

/-- Not every integer is read back. -/
theorem render_least_not_read :
    (Value.int Int64.minValue).render = "-9223372036854775808"
      ∧ Evaluator.standard "-9223372036854775808" (fun _ => none)
        = .error (.malformed ⟨1, .integerOutOfRange "9223372036854775808"⟩)
      ∧ ¬ ∀ (i : Int64) (vars : Variables),
        Evaluator.standard (Value.int i).render vars = .ok (.int i) := by
  have hrefused := evalText_least fun _ => none
  refine ⟨rfl, hrefused, fun hall => ?_⟩
  cases hrefused.symm.trans (hall Int64.minValue fun _ => none)

end Expr

end DynamicSql
