/-
Runs of a class of characters, and text without the runs at its ends.

A run ends at a character that is not of the class. So what is left of a
text that was trimmed begins and ends with no such character, and this is
all there is to it: any text that does so is left when it is trimmed, with
whatever runs there were around it.
-/
import Mathlib.Data.List.Basic
import Mathlib.Data.List.TakeWhile
import DynamicSql.Text.Blank

namespace DynamicSql.Text

variable {p : Char → Bool} {cs xs : List Char} {c : Char}

/-- A run holds no character that is not of the class. -/
theorem not_mem_of_all (h : cs.all p = true) (hc : p c = false) : c ∉ cs := fun hmem => by
  rw [List.all_eq_true.mp h c hmem] at hc
  cases hc

/-- What follows a run does not begin with a character of the class. -/
theorem head?_dropWhile (h : c ∈ (cs.dropWhile p).head?) : p c = false := by
  have hnot := List.head?_dropWhile_not p cs
  rw [h] at hnot
  exact hnot

theorem eq_false_of_dropWhile {rest : List Char} (h : cs.dropWhile p = c :: rest) : p c = false :=
  head?_dropWhile (congrArg List.head? h)

theorem dropWhile_eq_self (h : ∀ c ∈ cs.head?, p c = false) : cs.dropWhile p = cs := by
  cases cs with
  | nil => rfl
  | cons c cs => exact List.dropWhile_cons_of_neg (by rw [h c rfl]; exact Bool.false_ne_true)

/-- A run is as long as characters of the class stand one after another. -/
theorem span_append {as bs : List Char} (has : as.all p = true)
    (hbs : ∀ c ∈ bs.head?, p c = false) :
    (as ++ bs).takeWhile p = as ∧ (as ++ bs).dropWhile p = bs := by
  have has := List.all_eq_true.mp has
  rw [List.takeWhile_append_of_pos has, List.dropWhile_append_of_pos has, dropWhile_eq_self hbs]
  refine ⟨?_, rfl⟩
  cases bs with
  | nil => exact List.append_nil as
  | cons c bs =>
    rw [List.takeWhile_cons_of_neg (by rw [hbs c rfl]; exact Bool.false_ne_true), List.append_nil]

theorem span_append_cons {as : List Char} (h : as.all p = true) (hc : p c = false)
    (bs : List Char) :
    (as ++ c :: bs).takeWhile p = as ∧ (as ++ c :: bs).dropWhile p = c :: bs :=
  span_append h fun _ hd => Option.some.inj hd ▸ hc

theorem span_of_all (h : cs.all p = true) : cs.takeWhile p = cs ∧ cs.dropWhile p = [] := by
  have hend : ∀ c ∈ ([] : List Char).head?, p c = false := nofun
  have hspan := span_append h hend
  rwa [List.append_nil] at hspan

/-- A run of a smaller class is the beginning of one of a larger class. -/
theorem span_dropWhile {q : Char → Bool} (h : ∀ c, p c = true → q c = true) (cs : List Char) :
    cs.takeWhile q = cs.takeWhile p ++ (cs.dropWhile p).takeWhile q
      ∧ (cs.dropWhile p).dropWhile q = cs.dropWhile q := by
  have hrun : ∀ c ∈ cs.takeWhile p, q c = true := fun c hc =>
    h c (List.all_eq_true.mp List.all_takeWhile c hc)
  have hcs : cs.takeWhile p ++ cs.dropWhile p = cs := List.takeWhile_append_dropWhile
  constructor
  · rw [← List.takeWhile_append_of_pos hrun, hcs]
  · rw [← List.dropWhile_append_of_pos hrun, hcs]

-- ============================================================== trimming

/-- What is trimmed stood at both ends. -/
theorem exists_of_trimBy (p : Char → Bool) (cs : List Char) :
    ∃ before after, cs = before ++ (trimBy p cs ++ after) ∧ before.all p = true
      ∧ after.all p = true := by
  refine ⟨cs.takeWhile p, ((cs.dropWhile p).reverse.takeWhile p).reverse, ?_,
    List.all_takeWhile, ?_⟩
  · rw [trimBy, ← List.reverse_append, List.takeWhile_append_dropWhile, List.reverse_reverse,
      List.takeWhile_append_dropWhile]
  · rw [List.all_reverse]
    exact List.all_takeWhile

/-- What neither begins nor ends with a character of the class is what is left
when these are trimmed. -/
theorem trimBy_eq {before after : List Char} (hne : xs ≠ []) (hbefore : before.all p = true)
    (hafter : after.all p = true) (hhead : ∀ c ∈ xs.head?, p c = false)
    (hlast : ∀ c ∈ xs.getLast?, p c = false) : trimBy p (before ++ (xs ++ after)) = xs := by
  have hhead' : ∀ c ∈ (xs ++ after).head?, p c = false := by
    rwa [List.head?_append_of_ne_nil _ hne]
  have hlast' : ∀ c ∈ xs.reverse.head?, p c = false := by
    rwa [List.head?_reverse]
  rw [trimBy, List.dropWhile_append_of_pos (List.all_eq_true.mp hbefore),
    dropWhile_eq_self hhead', List.reverse_append, List.dropWhile_append_of_pos fun c hc =>
      List.all_eq_true.mp hafter c (List.mem_reverse.mp hc),
    dropWhile_eq_self hlast', List.reverse_reverse]

theorem trimBy_of_all (h : cs.all p = true) : trimBy p cs = [] := by
  have hdrop : cs.dropWhile p = [] := List.dropWhile_eq_nil_iff.mpr (List.all_eq_true.mp h)
  rw [trimBy, hdrop]
  rfl

theorem trimBy_eq_nil_iff : trimBy p cs = [] ↔ cs.all p = true := by
  refine ⟨fun h => ?_, trimBy_of_all⟩
  obtain ⟨before, after, hcs, hbefore, hafter⟩ := exists_of_trimBy p cs
  rw [hcs, h, List.nil_append, List.all_append, hbefore, hafter]
  rfl

/-- What is trimmed may as well be missing at the beginning. -/
theorem trimBy_append_left {before : List Char} (h : before.all p = true) (cs : List Char) :
    trimBy p (before ++ cs) = trimBy p cs := by
  rw [trimBy, trimBy, List.dropWhile_append_of_pos (List.all_eq_true.mp h)]

/-- And at the end. -/
theorem trimBy_append_right {after : List Char} (h : after.all p = true) (cs : List Char) :
    trimBy p (cs ++ after) = trimBy p cs := by
  cases hcs : cs.all p with
  | true =>
    rw [trimBy_of_all hcs, trimBy_of_all]
    rw [List.all_append, hcs, h]
    rfl
  | false =>
    have hsome : (cs.dropWhile p).isEmpty = false := by
      rw [List.isEmpty_eq_false_iff, Ne, List.dropWhile_eq_nil_iff, ← List.all_eq_true, hcs]
      exact Bool.false_ne_true
    rw [trimBy, trimBy, List.dropWhile_append, hsome, if_neg Bool.false_ne_true,
      List.reverse_append, List.dropWhile_append_of_pos fun c hc =>
        List.all_eq_true.mp h c (List.mem_reverse.mp hc)]

theorem trimBy_prefix (p : Char → Bool) (cs : List Char) : trimBy p cs <+: cs.dropWhile p := by
  have hsuffix := List.dropWhile_suffix p (l := (cs.dropWhile p).reverse)
  have hprefix := List.reverse_prefix.mpr hsuffix
  rwa [List.reverse_reverse] at hprefix

/-- What trimmed text begins with comes first when the run before it is passed
over. -/
theorem head?_dropWhile_of_trimBy (h : (trimBy p cs).head? = some c) (xs : List Char) :
    ((cs ++ xs).dropWhile p).head? = some c := by
  obtain ⟨rest, hrest⟩ := trimBy_prefix p cs
  have hhead : (cs.dropWhile p).head? = some c := by
    rw [← hrest, List.head?_append, h]
    rfl
  have hsome : (cs.dropWhile p).isEmpty = false := by
    rw [List.isEmpty_eq_false_iff]
    intro hnil
    rw [hnil] at hhead
    cases hhead
  rw [List.dropWhile_append, hsome, if_neg Bool.false_ne_true, List.head?_append, hhead]
  rfl

/-- Trimmed text does not begin with what was trimmed. -/
theorem head?_trimBy (h : (trimBy p cs).head? = some c) : p c = false :=
  head?_dropWhile (head?_dropWhile_of_trimBy h [])

/-- Nor does it end with it. -/
theorem getLast?_trimBy (h : (trimBy p cs).getLast? = some c) : p c = false := by
  rw [trimBy, List.getLast?_reverse] at h
  exact head?_dropWhile h

/-- Trimming keeps a first character that is not of the class. -/
theorem head?_trimBy_cons (h : p c = false) (cs : List Char) :
    (trimBy p (c :: cs)).head? = some c := by
  obtain ⟨before, after, hcs, hbefore, hafter⟩ := exists_of_trimBy p (c :: cs)
  cases before with
  | cons d before =>
    obtain ⟨rfl, -⟩ := List.cons.inj hcs
    exact absurd List.mem_cons_self (not_mem_of_all hbefore h)
  | nil =>
    cases htrim : trimBy p (c :: cs) with
    | nil =>
      obtain rfl : c :: cs = after := by rw [hcs, htrim]; rfl
      exact absurd List.mem_cons_self (not_mem_of_all hafter h)
    | cons d ds =>
      rw [htrim] at hcs
      rw [(List.cons.inj hcs).1]
      rfl

end DynamicSql.Text
