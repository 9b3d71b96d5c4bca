/-
Parentheses that open and close.

Characters lead from one depth of open parentheses to another, or to none at
all if a parenthesis closes that was not opened. They are balanced if they lead
from no open parenthesis to none. How deep they begin makes no difference to
that (`Balanced.depth?`), and only the parentheses among them count
(`depth?_filter`), so text around them that holds none may be cut off.
-/
import DynamicSql.Proofs.Text.Runs

namespace DynamicSql.Text

/-- How many parentheses are open behind the characters, if so many were open
before them. There is no answer if one closes that is not open. -/
def depth? : (depth : Nat) → List Char → Option Nat
  | depth, [] => some depth
  | depth, c :: cs =>
    if c = '(' then depth? (depth + 1) cs
    else if c = ')' then
      match depth with
      | 0 => none
      | outer + 1 => depth? outer cs
    else depth? depth cs

/-- Each parenthesis that closes was opened before it, and each that opens is
closed. -/
def Balanced (cs : List Char) : Prop := depth? 0 cs = some 0

instance : DecidablePred Balanced := fun cs => inferInstanceAs (Decidable (depth? 0 cs = some 0))

def isParenthesis (c : Char) : Bool := c == '(' || c == ')'

variable {depth : Nat} {c : Char} {as bs cs : List Char}

-- ================================================================= steps

theorem depth?_open (depth : Nat) (cs : List Char) :
    depth? depth ('(' :: cs) = depth? (depth + 1) cs := rfl

theorem depth?_close (depth : Nat) (cs : List Char) :
    depth? (depth + 1) (')' :: cs) = depth? depth cs := rfl

theorem depth?_other (h : isParenthesis c = false) (depth : Nat) (cs : List Char) :
    depth? depth (c :: cs) = depth? depth cs := by
  obtain ⟨hopen, hclose⟩ : c ≠ '(' ∧ c ≠ ')' := by simpa [isParenthesis] using h
  simp only [Text.depth?, if_neg hopen, if_neg hclose]

theorem depth?_append (depth : Nat) (as bs : List Char) :
    depth? depth (as ++ bs) = (depth? depth as).bind (depth? · bs) := by
  fun_induction depth? depth as with
  | case1 => rfl
  | case2 depth cs ih => exact ih
  | case3 cs => rfl
  | case4 cs outer _ ih => exact ih
  | case5 depth c cs hopen hclose ih =>
    rw [List.cons_append, depth?_other (by simp [isParenthesis, hopen, hclose]), ih]

/-- Where more are open around them, the characters lead as much deeper. -/
theorem depth?_add {inner : Nat} (h : depth? depth cs = some inner) (around : Nat) :
    depth? (depth + around) cs = some (inner + around) := by
  fun_induction depth? depth cs with
  | case1 =>
    obtain rfl := Option.some.inj h
    rfl
  | case2 depth cs ih =>
    have hdeeper := ih h
    rw [Nat.add_right_comm] at hdeeper
    exact hdeeper
  | case3 => cases h
  | case4 cs outer _ ih =>
    rw [Nat.succ_add]
    exact ih h
  | case5 depth c cs hopen hclose ih =>
    rw [depth?_other (by simp [isParenthesis, hopen, hclose])]
    exact ih h

theorem Balanced.depth? (h : Balanced cs) (depth : Nat) : Text.depth? depth cs = some depth := by
  have hdepth := depth?_add h depth
  rwa [Nat.zero_add] at hdepth

namespace Balanced

theorem append (has : Balanced as) (hbs : Balanced bs) : Balanced (as ++ bs) := by
  rw [Balanced, depth?_append, has]
  exact hbs

/-- Balanced characters in parentheses are balanced. -/
theorem enclosed (h : Balanced cs) : Balanced ('(' :: (cs ++ [')'])) := by
  rw [Balanced, depth?_open, depth?_append, h.depth?]
  rfl

theorem flatMap {α : Type} {xs : List α} {f : α → List Char} (h : ∀ x ∈ xs, Balanced (f x)) :
    Balanced (xs.flatMap f) := by
  induction xs with
  | nil => rfl
  | cons x xs ih =>
    rw [List.flatMap_cons]
    exact (h x List.mem_cons_self).append (ih fun y hy => h y (List.mem_cons_of_mem x hy))

end Balanced

-- ======================================================= parentheses only

theorem depth?_filter (depth : Nat) (cs : List Char) :
    depth? depth (cs.filter isParenthesis) = depth? depth cs := by
  fun_induction depth? depth cs with
  | case1 => rfl
  | case2 depth cs ih => exact ih
  | case3 cs => rfl
  | case4 cs outer _ ih => exact ih
  | case5 depth c cs hopen hclose ih =>
    rw [List.filter_cons_of_neg (by simp [isParenthesis, hopen, hclose]), ih]

theorem balanced_filter : Balanced (cs.filter isParenthesis) ↔ Balanced cs := by
  rw [Balanced, Balanced, depth?_filter]

/-- Characters of a class without parentheses may be cut off. -/
theorem filter_dropWhile {p : Char → Bool} (h : ∀ c, p c = true → isParenthesis c = false)
    (cs : List Char) : (cs.dropWhile p).filter isParenthesis = cs.filter isParenthesis := by
  induction cs with
  | nil => rfl
  | cons c cs ih =>
    cases hc : p c with
    | false => rw [List.dropWhile_cons_of_neg (by rw [hc]; exact Bool.false_ne_true)]
    | true =>
      rw [List.dropWhile_cons_of_pos hc, ih,
        List.filter_cons_of_neg (by rw [h c hc]; exact Bool.false_ne_true)]

/-- So may they at both ends. -/
theorem balanced_trimBy {p : Char → Bool} (h : ∀ c, p c = true → isParenthesis c = false) :
    Balanced (trimBy p cs) ↔ Balanced cs := by
  have hsame : (trimBy p cs).filter isParenthesis = cs.filter isParenthesis := by
    rw [trimBy, List.filter_reverse, filter_dropWhile h, List.filter_reverse,
      List.reverse_reverse, filter_dropWhile h]
  rw [← balanced_filter, hsame, balanced_filter]

end DynamicSql.Text
