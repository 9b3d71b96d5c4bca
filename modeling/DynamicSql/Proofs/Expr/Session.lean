/-
Many questions to one evaluator that remembers.

What it is asked differs from question to question: the text, the variables in
sight, and whether a value, a condition or a collection is wanted. Nobody can
tell from the answers what was asked before, be it a text that failed: each is
the answer of an evaluator that is asked for the first time. What can be seen is
how many expressions are kept, and that is the number of different texts so far
that are kept at all (`ExprCache.session_empty`).

The induction over a session is about any point of it. What is known there of
the texts asked so far is that just those of them that are to be kept are kept,
and each once (`ExprCache.Remembers`).
-/
import DynamicSql.Proofs.Expr.Cache
import Mathlib.Data.Finset.Card

namespace DynamicSql

-- ============================================================== questions

/-- What a text is asked for. -/
inductive Wanted where
  | value
  | condition
  /-- A collection, for which null is one without elements or none at all. -/
  | collection (nullable : Bool)

/-- What an evaluator gives for a text that has a value. -/
inductive Answer where
  | value (value : Value)
  | condition (holds : Bool)
  /-- The elements, or none of a null. -/
  | collection (elements : Option (List Element))

/-- A text, what it is asked for, and the variables in sight. -/
structure Question where
  wanted : Wanted
  text : String
  vars : Variables

/-- What an evaluator answers. -/
def Question.answer (q : Question) (E : Evaluator) : Except EvalError Answer :=
  match q.wanted with
  | .value => (E q.text q.vars).map .value
  | .condition => (E.condition q.text q.vars).map .condition
  | .collection nullable => (E.collection nullable q.text q.vars).map .collection

namespace ExprCache

variable {cache : ExprCache}

/-- The evaluator that has this in it. -/
def evaluator (cache : ExprCache) : Evaluator := fun text vars => (cache.evaluate text vars).1

/-- The answers to questions, one after the other, each with the number of
expressions that are kept after it. -/
def session : ExprCache → List Question → List (Except EvalError Answer × Nat)
  | _, [] => []
  | cache, q :: rest =>
    let next := (cache.evaluate q.text q.vars).2
    (q.answer cache.evaluator, next.size) :: next.session rest

/-- The different texts among some that are kept when they are asked for. -/
def keptOf (asked : List String) : Finset String := (asked.filter isKept).toFinset

-- =========================================================== one question

theorem evaluate_snd (cache : ExprCache) (text : String) (vars : Variables) :
    (cache.evaluate text vars).2 = (cache.compile text).2 := by
  unfold evaluate
  rcases cache.compile text with ⟨e | e, next⟩ <;> rfl

/-- Whatever is kept, each text has the value that the language gives to it. -/
theorem Sound.evaluator_eq (h : cache.Sound) : cache.evaluator = Evaluator.standard :=
  funext fun text => funext fun vars => h.evaluate_fst text vars

/-- Just those of the texts asked so far that are to be kept are kept, each once
and with its expression. -/
structure Remembers (cache : ExprCache) (asked : List String) : Prop where
  sound : cache.Sound
  mem_texts : ∀ text, text ∈ cache.texts ↔ text ∈ asked ∧ isKept text = true

theorem remembers_empty : Remembers empty [] := ⟨sound_empty, fun text => by simp [texts, empty]⟩

theorem Remembers.size_eq {asked : List String} (h : cache.Remembers asked) :
    cache.size = (keptOf asked).card := by
  have hset : cache.texts.toFinset = keptOf asked := by
    ext text
    rw [List.mem_toFinset, h.mem_texts, keptOf, List.mem_toFinset, List.mem_filter]
  have hdistinct : cache.texts.Nodup := h.sound.distinct
  rw [← hset, List.toFinset_card_of_nodup hdistinct, texts, List.length_map, size]

/-- One more question adds its text to those asked. -/
theorem Remembers.evaluate {asked : List String} (h : cache.Remembers asked) (text : String)
    (vars : Variables) : (cache.evaluate text vars).2.Remembers (asked ++ [text]) := by
  rw [evaluate_snd]
  refine ⟨h.sound.compile text, fun other => ?_⟩
  have hlast : other = text ∧ isKept text = true ↔ other = text ∧ isKept other = true :=
    and_congr_right fun heq => by rw [heq]
  rw [mem_texts_compile, h.mem_texts, hlast, List.mem_append, List.mem_singleton, or_and_right]

-- =============================================================== sessions

/-- From any point on, a session goes on with the answers of the language and
counts the texts asked before it too. -/
theorem Remembers.session_eq {asked : List String} (h : cache.Remembers asked)
    (questions : List Question) :
    cache.session questions = questions.mapIdx fun i q =>
      (q.answer Evaluator.standard,
        (keptOf (asked ++ (questions.take (i + 1)).map Question.text)).card) := by
  induction questions generalizing cache asked with
  | nil => rfl
  | cons q rest ih =>
    have hnext := h.evaluate q.text q.vars
    rw [session, List.mapIdx_cons, ih hnext, h.sound.evaluator_eq, hnext.size_eq]
    congr 1
    refine congrArg (List.mapIdx · rest) (funext fun i => funext fun p => ?_)
    rw [List.take_succ_cons, List.map_cons, List.append_assoc, List.singleton_append]

/-- Each answer of a session is the one that is given to the question when it
is the first, and after each there are as many expressions kept as there are
different texts so far that are expressions and do not begin, blanks aside, with
what the names of single iterations begin with. -/
theorem session_empty (questions : List Question) :
    empty.session questions = questions.mapIdx fun i q =>
      (q.answer empty.evaluator,
        (keptOf ((questions.take (i + 1)).map Question.text)).card) := by
  rw [remembers_empty.session_eq, sound_empty.evaluator_eq]
  rfl

end ExprCache

end DynamicSql
