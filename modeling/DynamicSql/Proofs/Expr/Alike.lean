/-
Expressions that have the same value among different variables.

Two texts are read and evaluated, each among variables of its own. If the
texts have the same tokens from some point on, and the variables agree on the
words among them, then what comes out is the same: no word counts but those
that are there. One text among two stores of variables is one case of this,
two texts that begin differently another.

# Putting together

The machine that puts expressions together treats all names alike, save
those that are literals or operators. It never looks into what is complete.
So its two runs go in step: what they have begun differs in expressions of
the same value, and they refuse the same token (`Machine.Alike`).
-/
import DynamicSql.Expr.Eval
import Mathlib.Data.List.Forall2

namespace DynamicSql

/-- Two results that are both there and related, or both the same failure. -/
inductive Except.Both {ε α β : Type} (R : α → β → Prop) : Except ε α → Except ε β → Prop
  | ok {a : α} {b : β} (h : R a b) : Both R (.ok a) (.ok b)
  | error (e : ε) : Both R (.error e) (.error e)

namespace Expr

variable {vars vars' : Variables}

/-- Expressions of the same value, each among its own variables. -/
def Alike (vars vars' : Variables) (e e' : Expr) : Prop := e.eval vars = e'.eval vars'

theorem evalAll_alike {es es' : List Expr} (h : List.Forall₂ (Alike vars vars') es es') :
    evalAll vars es = evalAll vars' es' := by
  induction h with
  | nil => rfl
  | cons he _ ih => rw [evalAll, evalAll, ih, he]

theorem alike_property {t t' : Expr} (h : Alike vars vars' t t') (name : String) :
    Alike vars vars' (.property t name) (.property t' name) := by
  rw [Alike, eval, eval, h]

theorem alike_index {t t' k k' : Expr} (ht : Alike vars vars' t t') (hk : Alike vars vars' k k') :
    Alike vars vars' (.index t k) (.index t' k') := by
  rw [Alike, eval, eval, ht, hk]

theorem alike_call {r r' : Expr} {args args' : List Expr} (hr : Alike vars vars' r r')
    (method : String) (hargs : List.Forall₂ (Alike vars vars') args args') :
    Alike vars vars' (.call r method args) (.call r' method args') := by
  rw [Alike, eval, eval, hr, evalAll_alike hargs]

theorem alike_unary {e e' : Expr} (op : UnaryOp) (h : Alike vars vars' e e') :
    Alike vars vars' (.unary op e) (.unary op e') := by
  cases op with
  | not => rw [Alike, eval, eval, h]
  | neg => rw [Alike, eval, eval, h]

theorem alike_binary {l l' r r' : Expr} (op : BinaryOp) (hl : Alike vars vars' l l')
    (hr : Alike vars vars' r r') : Alike vars vars' (.binary op l r) (.binary op l' r') := by
  unfold Alike at *
  cases op <;> simp only [eval, hl, hr]

namespace Frame

/-- What is begun differs in expressions of the same value. -/
inductive Alike (vars vars' : Variables) : Frame → Frame → Prop
  | group : Alike vars vars' .group .group
  | subscript {t t' : Expr} (h : t.Alike vars vars' t') :
    Alike vars vars' (.subscript t) (.subscript t')
  | arguments {r r' : Expr} (h : r.Alike vars vars' r') (method : String) {done done' : List Expr}
    (hdone : List.Forall₂ (Expr.Alike vars vars') done done') :
    Alike vars vars' (.arguments r method done) (.arguments r' method done')
  | unary (op : UnaryOp) : Alike vars vars' (.unary op) (.unary op)
  | binary (op : BinaryOp) {l l' : Expr} (h : l.Alike vars vars' l') :
    Alike vars vars' (.binary op l) (.binary op l')

end Frame

/-- What was just read differs in expressions of the same value. -/
inductive Phase.Alike (vars vars' : Variables) : Phase → Phase → Prop
  | operand : Alike vars vars' .operand .operand
  | firstArgument : Alike vars vars' .firstArgument .firstArgument
  | memberName {t t' : Expr} (h : t.Alike vars vars' t') :
    Alike vars vars' (.memberName t) (.memberName t')
  | member {t t' : Expr} (h : t.Alike vars vars' t') (name : String) :
    Alike vars vars' (.member t name) (.member t' name)
  | complete {e e' : Expr} (h : e.Alike vars vars' e') :
    Alike vars vars' (.complete e) (.complete e')

namespace Machine

/-- Machines that differ in expressions of the same value. -/
structure Alike (vars vars' : Variables) (m m' : Machine) : Prop where
  frames : List.Forall₂ (Frame.Alike vars vars') m.frames m'.frames
  phase : Phase.Alike vars vars' m.phase m'.phase

variable {frames frames' : List Frame} {e e' : Expr}

theorem collapse_alike (level : Nat) (hf : List.Forall₂ (Frame.Alike vars vars') frames frames')
    (he : e.Alike vars vars' e') :
    List.Forall₂ (Frame.Alike vars vars') (collapse level frames e).1 (collapse level frames' e').1
      ∧ (collapse level frames e).2.Alike vars vars' (collapse level frames' e').2 := by
  induction hf generalizing e e' with
  | nil => exact ⟨.nil, he⟩
  | cons hframe hrest ih =>
    cases hframe with
    | group => exact ⟨.cons .group hrest, he⟩
    | subscript h => exact ⟨.cons (.subscript h) hrest, he⟩
    | arguments h method hdone => exact ⟨.cons (.arguments h method hdone) hrest, he⟩
    | unary op => exact ih (alike_unary op he)
    | binary op h =>
      simp only [collapse]
      split
      · exact ih (alike_binary op h he)
      · exact ⟨.cons (.binary op h) hrest, he⟩

/-- What is missing is seen from the kind of what is begun. -/
theorem missingClosing_alike (hf : List.Forall₂ (Frame.Alike vars vars') frames frames')
    (found : Option Token) : missingClosing frames found = missingClosing frames' found := by
  cases hf with
  | nil => rfl
  | cons hframe _ => cases hframe <;> rfl

/-- A word that is an operand has one value where it is bound to the same. -/
theorem ofToken?_alike {token : Token} (hvars : ∀ name, token = .word name → vars name = vars' name)
    (h : ofToken? token = some e) : e.Alike vars vars' e := by
  unfold ofToken? at h
  split at h
  · next name =>
    obtain rfl := Option.some.inj h
    unfold ofWord
    split
    · rfl
    · rfl
    · rfl
    · rw [Expr.Alike, eval, eval, hvars name rfl]
  · obtain rfl := Option.some.inj h
    rfl
  · obtain rfl := Option.some.inj h
    rfl
  · obtain rfl := Option.some.inj h
    rfl
  · cases h

theorem onOperand_alike (hf : List.Forall₂ (Frame.Alike vars vars') frames frames') (token : Token)
    (hvars : ∀ name, token = .word name → vars name = vars' name) :
    Except.Both (Alike vars vars') (onOperand frames token) (onOperand frames' token) := by
  unfold onOperand
  cases UnaryOp.ofToken? token with
  | some op => exact .ok ⟨.cons (.unary op) hf, .operand⟩
  | none =>
    cases he : ofToken? token with
    | some e => exact .ok ⟨hf, .complete (ofToken?_alike hvars he)⟩
    | none =>
      simp only []
      split
      · exact .ok ⟨.cons .group hf, .operand⟩
      · exact .error _

theorem onClosing_alike (hf : List.Forall₂ (Frame.Alike vars vars') frames frames')
    (he : e.Alike vars vars' e') (token : Token) :
    Except.Both (Alike vars vars') (onClosing frames e token) (onClosing frames' e' token) := by
  have hmissing := missingClosing_alike hf (some token)
  cases hf with
  | nil => exact .error _
  | cons hframe hrest =>
    cases hframe with
    | group =>
      cases token with
      | closeParen => exact .ok ⟨hrest, .complete he⟩
      | _ => exact .error _
    | subscript h =>
      cases token with
      | closeBracket => exact .ok ⟨hrest, .complete (alike_index h he)⟩
      | _ => exact .error _
    | arguments h method hdone =>
      have hmore : List.Forall₂ (Expr.Alike vars vars') (_ ++ [e]) (_ ++ [e']) :=
        List.rel_append hdone (.cons he .nil)
      cases token with
      | comma => exact .ok ⟨.cons (.arguments h method hmore) hrest, .operand⟩
      | closeParen => exact .ok ⟨hrest, .complete (alike_call h method hmore)⟩
      | _ => exact .error _
    | unary op => exact .error _
    | binary op h => exact .error _

theorem onComplete_alike (hf : List.Forall₂ (Frame.Alike vars vars') frames frames')
    (he : e.Alike vars vars' e') (token : Token) :
    Except.Both (Alike vars vars') (onComplete frames e token) (onComplete frames' e' token) := by
  unfold onComplete
  split
  · exact .ok ⟨hf, .memberName he⟩
  · exact .ok ⟨.cons (.subscript he) hf, .operand⟩
  · cases BinaryOp.ofToken? token with
    | some op =>
      obtain ⟨hframes, hleft⟩ := collapse_alike op.level hf he
      exact .ok ⟨.cons (.binary op hleft) hframes, .operand⟩
    | none =>
      obtain ⟨hframes, hinner⟩ := collapse_alike 0 hf he
      exact onClosing_alike hframes hinner token

/-- Machines that are alike take the same tokens, if their variables agree on
each that is a word. -/
theorem step_alike {m m' : Machine} (h : m.Alike vars vars' m') (token : Token)
    (hvars : ∀ name, token = .word name → vars name = vars' name) :
    Except.Both (Alike vars vars') (m.step token) (m'.step token) := by
  obtain ⟨frames, phase⟩ := m
  obtain ⟨frames', phase'⟩ := m'
  obtain ⟨hf, hp⟩ := h
  cases hp with
  | operand => exact onOperand_alike hf token hvars
  | firstArgument =>
    have hf' : List.Forall₂ (Frame.Alike vars vars') frames frames' := hf
    cases token with
    | closeParen =>
      cases hf' with
      | nil => exact .error _
      | cons hframe hrest =>
        cases hframe with
        | arguments h method hdone => exact .ok ⟨hrest, .complete (alike_call h method hdone)⟩
        | _ => exact .error _
    | _ =>
      simp only [step]
      exact onOperand_alike hf _ hvars
  | memberName h =>
    cases token with
    | word name => exact .ok ⟨hf, .member h name⟩
    | _ => exact .error _
  | member h name =>
    cases token with
    | openParen => exact .ok ⟨.cons (.arguments h name .nil) hf, .firstArgument⟩
    | _ =>
      simp only [step]
      exact onComplete_alike hf (alike_property h name) _
  | complete h => exact onComplete_alike hf h token

theorem finishComplete_alike (hf : List.Forall₂ (Frame.Alike vars vars') frames frames')
    (he : e.Alike vars vars' e') :
    Except.Both (Expr.Alike vars vars') (finishComplete frames e) (finishComplete frames' e') := by
  obtain ⟨hframes, hinner⟩ := collapse_alike 0 hf he
  unfold finishComplete
  rcases hc : collapse 0 frames e with ⟨fs, x⟩
  rcases hc' : collapse 0 frames' e' with ⟨fs', x'⟩
  rw [hc, hc'] at hframes hinner
  have hmissing := missingClosing_alike hframes none
  cases hframes with
  | nil => exact .ok hinner
  | cons hframe hrest =>
    simp only []
    rw [hmissing]
    exact .error _

theorem finish_alike {m m' : Machine} (h : m.Alike vars vars' m') :
    Except.Both (Expr.Alike vars vars') m.finish m'.finish := by
  obtain ⟨frames, phase⟩ := m
  obtain ⟨frames', phase'⟩ := m'
  obtain ⟨hf, hp⟩ := h
  cases hp with
  | operand => exact .error _
  | firstArgument => exact .error _
  | memberName h => exact .error _
  | member h name => exact finishComplete_alike hf (alike_property h name)
  | complete h => exact finishComplete_alike hf h

/-- Over the same tokens, machines that are alike make expressions of the
same value, or find the same fault. -/
theorem run_alike {m m' : Machine} (h : m.Alike vars vars' m') (stop stop' : Nat)
    {lexemes lexemes' : List Lexeme}
    (htokens : lexemes.map Lexeme.token = lexemes'.map Lexeme.token)
    (hvars : ∀ l ∈ lexemes, ∀ name, l.token = .word name → vars name = vars' name) :
    (∃ e e', m.run stop lexemes = .ok e ∧ m'.run stop' lexemes' = .ok e' ∧ e.Alike vars vars' e')
      ∨ ∃ fault offset offset', m.run stop lexemes = .error ⟨offset, fault⟩
          ∧ m'.run stop' lexemes' = .error ⟨offset', fault⟩ := by
  induction lexemes generalizing m m' lexemes' with
  | nil =>
    obtain rfl : lexemes' = [] := List.map_eq_nil_iff.mp htokens.symm
    have hfinish := finish_alike h
    simp only [run]
    generalize m.finish = r at hfinish
    generalize m'.finish = r' at hfinish
    cases hfinish with
    | ok halike => exact Or.inl ⟨_, _, rfl, rfl, halike⟩
    | error fault => exact Or.inr ⟨fault, stop, stop', rfl, rfl⟩
  | cons lexeme rest ih =>
    cases lexemes' with
    | nil => cases htokens
    | cons lexeme' rest' =>
      obtain ⟨htoken, hrest⟩ := List.cons.inj htokens
      have hstep := step_alike h lexeme.token (hvars lexeme (List.mem_cons_self ..))
      simp only [run, ← htoken]
      generalize m.step lexeme.token = r at hstep
      generalize m'.step lexeme.token = r' at hstep
      cases hstep with
      | ok halike =>
        exact ih halike hrest fun l hl => hvars l (List.mem_cons_of_mem _ hl)
      | error fault => exact Or.inr ⟨fault, lexeme.offset, lexeme'.offset, rfl, rfl⟩

end Machine

-- ================================================================= texts

/-- What a text is cut into decides about its value. -/
theorem evalText_of_ok {text : String} {lexemes : List Lexeme} {e : Expr}
    (hlex : Token.lex text = .ok lexemes)
    (hread : ofLexemes text.utf8ByteSize lexemes = .ok e) : evalText text vars = e.eval vars := by
  have hparse : parse text = .ok e := by
    rw [parse, hlex]
    exact hread
  rw [evalText, hparse]

theorem evalText_of_error {text : String} {lexemes : List Lexeme} {error : SyntaxError}
    (hlex : Token.lex text = .ok lexemes)
    (hread : ofLexemes text.utf8ByteSize lexemes = .error error) :
    evalText text vars = .error (.malformed error) := by
  have hparse : parse text = .error error := by
    rw [parse, hlex]
    exact hread
  rw [evalText, hparse]

theorem evalText_of_lex_error {text : String} {error : SyntaxError}
    (hlex : Token.lex text = .error error) : evalText text vars = .error (.malformed error) := by
  have hparse : parse text = .error error := by
    rw [parse, hlex]
    rfl
  rw [evalText, hparse]

end Expr

end DynamicSql
