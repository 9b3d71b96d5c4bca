/-
What an evaluator that remembers has in it after it was asked for many texts.

It gives the values that the language gives to texts, and what it was asked
before makes no difference to them (`ExprCache.Sound.evaluate_fst`). It keeps
the texts that it was asked for and that are expressions, each once, save those
that begin with the name of a single iteration (`ExprCache.mem_texts_after`).
So it grows with the texts that are different from each other, and with nothing
else.

One invariant carries both: what is kept under a text is what the text is read
as (`ExprCache.Sound`).
-/
import DynamicSql.Expr.Cache
import Mathlib.Data.List.Perm.Subperm

namespace DynamicSql

namespace LoopVariable

/-- The text begins with what the names of single iterations begin with. -/
def BeginsUnique (text : String) : Prop := marker.toList <+: text.toList

/-- Such a text is one that is not kept. -/
theorem isUnique_of_beginsUnique {text : String} (h : BeginsUnique text) :
    isUnique text = true := by
  obtain ⟨rest, hrest⟩ := h
  have hdrop : text.toList.dropWhile Text.isBlank = marker.toList ++ rest := by
    rw [← hrest]
    exact List.dropWhile_cons_of_neg (by decide)
  rw [isUnique, hdrop]
  exact List.isPrefixOf_iff_prefix.mpr (List.prefix_append _ _)

end LoopVariable

namespace ExprCache

variable {cache : ExprCache}

/-- The texts of which expressions are kept. -/
def texts (cache : ExprCache) : List String := cache.entries.map Prod.fst

/-- What is kept after the evaluator was asked for some texts, one after the
other. -/
def after (cache : ExprCache) (asked : List String) : ExprCache :=
  asked.foldl (fun cache text => (cache.compile text).2) cache

theorem after_cons (cache : ExprCache) (text : String) (asked : List String) :
    cache.after (text :: asked) = (cache.compile text).2.after asked := rfl

/-- Each text is kept once, with the expression that it is read as. -/
structure Sound (cache : ExprCache) : Prop where
  distinct : cache.entries.DistinctNames
  reads : ∀ text e, cache.entries.find? text = some e → Expr.parse text = .ok e

theorem sound_empty : Sound empty := ⟨List.nodup_nil, fun _ _ h => by cases h⟩

/-- A text is read as it would be without anything kept. -/
theorem Sound.compile_fst (h : cache.Sound) (text : String) :
    (cache.compile text).1 = Expr.parse text := by
  unfold compile
  split
  · rfl
  · split
    · next e he => exact (h.reads text e he).symm
    · split
      · next e he => exact he.symm
      · next error he => exact he.symm

theorem Sound.compile (h : cache.Sound) (text : String) : (cache.compile text).2.Sound := by
  unfold ExprCache.compile
  split
  · exact h
  · split
    · exact h
    · split
      · next e he =>
        refine ⟨h.distinct.insert text e, fun other e' hfind => ?_⟩
        rw [Bindings.find?_insert] at hfind
        by_cases heq : text = other
        · rw [if_pos heq] at hfind
          rw [← heq, he, Option.some.inj hfind]
        · rw [if_neg heq] at hfind
          exact h.reads other e' hfind
      · exact h

/-- True of a text that is kept once it was asked for: it is an expression, and
none of a single iteration. -/
def isKept (text : String) : Bool := (Expr.parse text).isOk && !LoopVariable.isUnique text

/-- The text that is asked for is all that can be new. -/
theorem mem_texts_compile {text other : String} :
    other ∈ (cache.compile text).2.texts
      ↔ other ∈ cache.texts ∨ other = text ∧ isKept text = true := by
  unfold compile isKept
  split
  · next hunique => simp [hunique]
  · next hunique =>
    split
    · next e he =>
      -- A text that is found was kept before.
      have hmem : text ∈ cache.texts := by
        by_contra hnot
        rw [Bindings.find?_eq_none.mpr hnot] at he
        cases he
      exact ⟨.inl, fun h => h.elim id fun hnew => hnew.1 ▸ hmem⟩
    · split
      · next e hparse =>
        show other ∈ (cache.entries.insert text e).map Prod.fst ↔ _
        rw [Bindings.mem_names_insert, hparse]
        simp [hunique, texts, Except.isOk, Except.toBool, or_comm]
      · next error hparse => simp [hparse, Except.isOk, Except.toBool]

-- ============================================================ many texts

theorem Sound.after (h : cache.Sound) (asked : List String) : (cache.after asked).Sound := by
  induction asked generalizing cache with
  | nil => exact h
  | cons text rest ih => exact ih (h.compile text)

/-- What is kept was kept before, or was asked for and is to be kept. -/
theorem mem_texts_after {asked : List String} {text : String} :
    text ∈ (cache.after asked).texts
      ↔ text ∈ cache.texts ∨ text ∈ asked ∧ isKept text = true := by
  induction asked generalizing cache with
  | nil => simp [after]
  | cons first rest ih =>
    have hfirst : text = first ∧ isKept first = true ↔ text = first ∧ isKept text = true :=
      and_congr_right fun heq => by rw [heq]
    rw [after_cons, ih, mem_texts_compile, hfirst, List.mem_cons, or_and_right, or_assoc]

/-- The value of a text is that of the language, whatever is kept. -/
theorem Sound.evaluate_fst (h : cache.Sound) (text : String) (vars : Variables) :
    (cache.evaluate text vars).1 = Evaluator.standard text vars := by
  have hread := h.compile_fst text
  unfold evaluate Evaluator.standard Expr.evalText
  rcases hc : cache.compile text with ⟨r, next⟩
  rw [hc] at hread
  obtain rfl : r = Expr.parse text := hread
  cases Expr.parse text <;> rfl

/-- Where each text that is kept is one of a list, no more are kept than the
list has. -/
theorem Sound.size_le (h : cache.Sound) {known : List String}
    (hmem : ∀ text ∈ cache.texts, text ∈ known) : cache.size ≤ known.length := by
  have hlength : cache.size = cache.texts.length := (List.length_map _).symm
  rw [hlength]
  exact (List.subperm_of_subset h.distinct hmem).length_le

end ExprCache

end DynamicSql
