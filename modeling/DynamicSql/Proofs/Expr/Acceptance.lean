/-
Whatever the grammar derives, the machine takes.

A phrase is read with something begun around it, of which the machine knows
the frames. After the last token of the phrase an operand is complete, and on
the frames from before lie those of operators that still wait for more. These
are all operators of the phrase, so they bind at least as tightly as it does,
and completing them gives the expression that the phrase stands for
(`Pending`). That is the invariant, and the induction is on the derivation.

# What may be around

An operator around a phrase must bind less tightly than the phrase, else the
machine would complete it in the middle (`Fits`). Brackets fit around all
phrases, and where the grammar puts a phrase after an operator, it is one that
fits.
-/
import DynamicSql.Proofs.Expr.Grammar

namespace DynamicSql.Expr

-- =============================================================== feeding

namespace Machine

/-- Takes tokens one after the other. -/
def feed (m : Machine) : List Token → Except SyntaxFault Machine
  | [] => .ok m
  | token :: rest =>
    match m.step token with
    | .ok next => next.feed rest
    | .error fault => .error fault

theorem feed_cons_of_ok {m next : Machine} {token : Token} (h : m.step token = .ok next)
    (rest : List Token) : m.feed (token :: rest) = next.feed rest := by
  rw [feed, h]

theorem feed_append_of_ok {m next : Machine} {ts : List Token} (h : m.feed ts = .ok next)
    (us : List Token) : m.feed (ts ++ us) = next.feed us := by
  induction ts generalizing m with
  | nil =>
    obtain rfl := Except.ok.inj h
    rfl
  | cons token rest ih =>
    cases hstep : m.step token with
    | error fault =>
      rw [feed, hstep] at h
      cases h
    | ok n =>
      rw [feed_cons_of_ok hstep] at h
      rw [List.cons_append, feed_cons_of_ok hstep]
      exact ih h

/-- What was taken as a whole was taken up to each place in it. -/
theorem exists_feed_of_append {m last : Machine} {ts us : List Token}
    (h : m.feed (ts ++ us) = .ok last) :
    ∃ next, m.feed ts = .ok next ∧ next.feed us = .ok last := by
  induction ts generalizing m with
  | nil => exact ⟨m, rfl, h⟩
  | cons token rest ih =>
    rw [List.cons_append, feed] at h
    cases hstep : m.step token with
    | error fault =>
      rw [hstep] at h
      cases h
    | ok n =>
      rw [hstep] at h
      rw [feed_cons_of_ok hstep]
      exact ih h

/-- A run succeeds if all tokens are taken and an expression is complete. -/
theorem run_eq_ok {m : Machine} {stop : Nat} {lexemes : List Lexeme} {e : Expr} :
    m.run stop lexemes = .ok e ↔
      ∃ last, m.feed (lexemes.map Lexeme.token) = .ok last ∧ last.finish = .ok e := by
  induction lexemes generalizing m with
  | nil =>
    rw [run]
    constructor
    · intro h
      refine ⟨m, rfl, ?_⟩
      split at h
      · next heq => rw [heq, Except.ok.inj h]
      · cases h
    · rintro ⟨last, hfeed, hfinish⟩
      obtain rfl := Except.ok.inj hfeed
      rw [hfinish]
  | cons lexeme rest ih =>
    rw [run, List.map_cons, feed]
    cases m.step lexeme.token with
    | error fault =>
      constructor
      · intro h
        cases h
      · rintro ⟨_, h, _⟩
        cases h
    | ok next => exact ih

end Machine

-- ================================================================ frames

namespace Frame

/-- How tightly a phrase after the frame must bind at least. -/
def inside : Frame → Nat
  | .unary _ => Phrase.unary.rank
  | .binary op _ => op.level + 1
  | _ => 0

end Frame

/-- A phrase that binds so tightly may stand after the frames. -/
def Fits (rank : Nat) (frames : List Frame) : Prop :=
  ∀ f ∈ frames.head?, f.inside ≤ rank

theorem Fits.mono {rank rank' : Nat} {frames : List Frame} (h : Fits rank frames)
    (hle : rank ≤ rank') : Fits rank' frames :=
  fun f hf => Nat.le_trans (h f hf) hle

theorem fits_cons {rank : Nat} {f : Frame} {frames : List Frame} :
    Fits rank (f :: frames) ↔ f.inside ≤ rank := by
  simp [Fits]

/-- After operators only, a unary phrase may stand. -/
theorem fits_unary (frames : List Frame) : Fits Phrase.unary.rank frames := by
  intro f _
  cases f with
  | binary op l => exact Phrase.level_lt_unary op
  | _ => exact Nat.le_of_ble_eq_true rfl

/-- Completing operators that bind at least as tightly as a rank makes one
expression into another. -/
inductive Pending (rank : Nat) : List Frame → Expr → Expr → Prop
  | nil {e : Expr} : Pending rank [] e e
  | unary {op : UnaryOp} {frames : List Frame} {x e : Expr} (hle : rank ≤ Phrase.unary.rank)
    (h : Pending rank frames (.unary op x) e) : Pending rank (.unary op :: frames) x e
  | binary {op : BinaryOp} {frames : List Frame} {l x e : Expr} (hle : rank ≤ op.level)
    (h : Pending rank frames (.binary op l x) e) : Pending rank (.binary op l :: frames) x e

namespace Pending

variable {rank rank' : Nat} {inner frames : List Frame} {x e e' : Expr}

theorem mono (h : Pending rank inner x e) (hle : rank' ≤ rank) : Pending rank' inner x e := by
  induction h with
  | nil => exact .nil
  | unary hrank _ ih => exact .unary (Nat.le_trans hle hrank) ih
  | binary hrank _ ih => exact .binary (Nat.le_trans hle hrank) ih

theorem trans (h : Pending rank inner x e) (h' : Pending rank frames e e') :
    Pending rank (inner ++ frames) x e' := by
  induction h with
  | nil => exact h'
  | unary hrank _ ih => exact .unary hrank (ih h')
  | binary hrank _ ih => exact .binary hrank (ih h')

/-- Tighter than operators nothing is pending. -/
theorem eq_of_lt (h : Pending rank inner x e) (hlt : Phrase.unary.rank < rank) :
    inner = [] ∧ x = e := by
  cases h with
  | nil => exact ⟨rfl, rfl⟩
  | unary hrank _ => exact absurd hrank (Nat.not_le.mpr hlt)
  | @binary op _ _ _ _ hrank _ =>
    have hlevel := Phrase.level_lt_unary op
    omega

/-- The machine completes what is pending, and goes on with the frames
below. -/
theorem collapse (h : Pending rank inner x e) {level : Nat} (hle : level ≤ rank)
    (frames : List Frame) :
    Machine.collapse level (inner ++ frames) x = Machine.collapse level frames e := by
  induction h with
  | nil => rfl
  | unary _ _ ih => exact ih
  | binary hrank _ ih =>
    rw [List.cons_append, Machine.collapse, if_pos (Nat.le_trans hle hrank)]
    exact ih

end Pending

/-- Where a phrase fits, nothing around it is completed with it. -/
theorem collapse_of_fits {level : Nat} {frames : List Frame} (h : Fits level frames)
    (hlevel : level < Phrase.unary.rank) (e : Expr) :
    Machine.collapse level frames e = (frames, e) := by
  cases frames with
  | nil => rfl
  | cons f frames =>
    rw [fits_cons] at h
    cases f with
    | unary op => exact absurd h (Nat.not_le.mpr hlevel)
    | binary op l => rw [Machine.collapse, if_neg (Nat.not_le.mpr h)]
    | _ => rfl

-- ================================================================= steps

/-- The operand that is complete. -/
def Phase.operand? : Phase → Option Expr
  | .member target name => some (.property target name)
  | .complete e => some e
  | _ => none

namespace Machine

variable {frames : List Frame} {phase : Phase} {e : Expr} {token : Token}

/-- After an operand it does not matter how it came about, except that a call
is made of a member. -/
theorem step_of_operand (h : phase.operand? = some e) (hopen : token ≠ .openParen) :
    step ⟨frames, phase⟩ token = onComplete frames e token := by
  cases phase with
  | operand => cases h
  | firstArgument => cases h
  | memberName target => cases h
  | member target name =>
    obtain rfl := Option.some.inj h
    cases token with
    | openParen => exact absurd rfl hopen
    | _ => rfl
  | complete operand =>
    obtain rfl := Option.some.inj h
    rfl

/-- A token that is an operator there. -/
theorem onComplete_operator {op : BinaryOp} (h : BinaryOp.ofToken? token = some op) :
    onComplete frames e token
      = .ok ⟨.binary op (collapse op.level frames e).2 :: (collapse op.level frames e).1,
          .operand⟩ := by
  unfold onComplete
  split
  · cases h
  · cases h
  · rw [h]

/-- A token that ends the content of a bracket. -/
inductive Ending : Token → Prop
  | closeParen : Ending .closeParen
  | closeBracket : Ending .closeBracket
  | comma : Ending .comma

theorem step_ending (h : phase.operand? = some e) (ht : Ending token) :
    step ⟨frames, phase⟩ token
      = onClosing (collapse 0 frames e).1 (collapse 0 frames e).2 token := by
  cases ht <;> rw [step_of_operand h (by simp)] <;> rfl

theorem step_unary {op : UnaryOp} (h : UnaryOp.ofToken? token = some op) :
    step ⟨frames, .operand⟩ token = .ok ⟨.unary op :: frames, .operand⟩ := by
  show onOperand frames token = _
  unfold onOperand
  rw [h]

theorem step_single (hunary : UnaryOp.ofToken? token = none) (h : ofToken? token = some e) :
    step ⟨frames, .operand⟩ token = .ok ⟨frames, .complete e⟩ := by
  show onOperand frames token = _
  unfold onOperand
  rw [hunary]
  simp only [h]

/-- The first argument is read like any other, if it is there. -/
theorem feed_firstArgument {m : Machine} {ts : List Token} (hne : ts ≠ [])
    (h : feed ⟨frames, .operand⟩ ts = .ok m) : feed ⟨frames, .firstArgument⟩ ts = .ok m := by
  cases ts with
  | nil => exact absurd rfl hne
  | cons token rest =>
    cases token with
    | closeParen => cases h
    | _ => exact h

-- =============================================================== phrases

/-- After the tokens of a phrase of some rank that stands for the expression,
with the frames around it. -/
def Reads (rank : Nat) (frames : List Frame) (ts : List Token) (e : Expr) : Prop :=
  ∃ inner phase x, feed ⟨frames, .operand⟩ ts = .ok ⟨inner ++ frames, phase⟩
    ∧ phase.operand? = some x ∧ Pending rank inner x e

variable {ts us : List Token}

/-- What binds tighter than operators is complete as it stands. -/
theorem Reads.complete {rank : Nat} (h : Reads rank frames ts e)
    (hlt : Phrase.unary.rank < rank) :
    ∃ phase, feed ⟨frames, .operand⟩ ts = .ok ⟨frames, phase⟩ ∧ phase.operand? = some e := by
  obtain ⟨inner, phase, x, hfeed, hphase, hpending⟩ := h
  obtain ⟨rfl, rfl⟩ := hpending.eq_of_lt hlt
  exact ⟨phase, hfeed, hphase⟩

theorem reads_of_complete {rank : Nat} (phase : Phase)
    (h : feed ⟨frames, .operand⟩ ts = .ok ⟨frames, phase⟩)
    (hphase : phase.operand? = some e) : Reads rank frames ts e :=
  ⟨[], phase, e, h, hphase, .nil⟩

/-- The content of a bracket, and the token that ends it. -/
theorem Reads.feed_ending {f : Frame} (h : Reads Phrase.or.rank (f :: frames) ts e)
    (hf : f.inside = 0) (ht : Ending token) {m : Machine}
    (hclose : onClosing (f :: frames) e token = .ok m) :
    feed ⟨f :: frames, .operand⟩ (ts ++ [token]) = .ok m := by
  obtain ⟨inner, phase, x, hfeed, hphase, hpending⟩ := h
  have hfits : Fits 0 (f :: frames) := fits_cons.mpr (Nat.le_of_eq hf)
  have hcollapse : collapse 0 (inner ++ f :: frames) x = (f :: frames, e) := by
    rw [hpending.collapse (Nat.zero_le _), collapse_of_fits hfits (by decide)]
  rw [feed_append_of_ok hfeed, feed, step_ending hphase ht, hcollapse, hclose]
  rfl

/-- Arguments after those that are complete, up to the end of the list. -/
theorem feed_arguments {receiver : Expr} {method : String} (done : List Expr)
    {a : List Token × Expr} {args : List (List Token × Expr)}
    (hargs : ∀ b ∈ a :: args, ∀ done : List Expr,
      Reads Phrase.or.rank (.arguments receiver method done :: frames) b.1 b.2) :
    feed ⟨.arguments receiver method done :: frames, .operand⟩
        (listed (a :: args) ++ [.closeParen])
      = .ok ⟨frames, .complete (.call receiver method (done ++ (a :: args).map Prod.snd))⟩ := by
  induction args generalizing a done with
  | nil =>
    have hfirst := hargs a (List.mem_cons_self ..) done
    have hlisted : listed [a] = a.1 := by simp [listed, List.intercalate]
    rw [hlisted]
    exact hfirst.feed_ending rfl .closeParen rfl
  | cons b args ih =>
    have hfirst := hargs a (List.mem_cons_self ..) done
    have hlisted : listed (a :: b :: args) = a.1 ++ [.comma] ++ listed (b :: args) := by
      simp [listed, List.intercalate]
    have hcomma := hfirst.feed_ending rfl .comma (m := ⟨_, .operand⟩) rfl
    rw [hlisted, List.append_assoc, feed_append_of_ok hcomma,
      ih (done ++ [a.2]) fun c hc => hargs c (List.mem_cons_of_mem _ hc)]
    simp

/-- Two parts with an operator between them. The left part is put together
before the frame of the operator is opened. -/
theorem Reads.binary {p q : Phrase} {token : Token} {op : BinaryOp} {l r : Expr}
    (hop : (token, op) ∈ p.operators) (hq : p.part? = some q) (hfits : Fits p.rank frames)
    (hl : Reads p.rank frames ts l) (hr : Reads q.rank (.binary op l :: frames) us r) :
    Reads p.rank frames (ts ++ token :: us) (.binary op l r) := by
  obtain ⟨htoken, hlevel⟩ := Phrase.mem_operators.mp hop
  have hrank := Phrase.rank_part hq
  have hlt : p.rank < Phrase.unary.rank := hlevel ▸ Phrase.level_lt_unary op
  obtain ⟨inner, phase, x, hfeed, hphase, hpending⟩ := hl
  obtain ⟨inner', phase', x', hfeed', hphase', hpending'⟩ := hr
  have hcollapse : collapse op.level (inner ++ frames) x = (frames, l) := by
    rw [hpending.collapse (Nat.le_of_eq hlevel), hlevel, collapse_of_fits hfits hlt]
  have hstep : step ⟨inner ++ frames, phase⟩ token
      = .ok ⟨.binary op l :: frames, .operand⟩ := by
    have hopen : token ≠ .openParen := by
      rintro rfl
      cases htoken
    rw [step_of_operand hphase hopen, onComplete_operator htoken, hcollapse]
  refine ⟨inner' ++ [.binary op l], phase', x', ?_, hphase', ?_⟩
  · rw [feed_append_of_ok hfeed, feed_cons_of_ok hstep, hfeed', List.append_assoc]
    rfl
  · exact (hpending'.mono (by omega)).trans (.binary (Nat.le_of_eq hlevel.symm) .nil)

/-- A call of a method of what is complete. -/
theorem feed_call {phase : Phase} {receiver : Expr}
    (hfeed : feed ⟨frames, .operand⟩ ts = .ok ⟨frames, phase⟩)
    (hphase : phase.operand? = some receiver) (method : String)
    {args : List (List Token × Expr)}
    (hargs : ∀ b ∈ args, ∀ done : List Expr,
      Reads Phrase.or.rank (.arguments receiver method done :: frames) b.1 b.2) :
    feed ⟨frames, .operand⟩
        (ts ++ .dot :: .word method :: .openParen :: (listed args ++ [.closeParen]))
      = .ok ⟨frames, .complete (.call receiver method (args.map Prod.snd))⟩ := by
  have hdot : step ⟨frames, phase⟩ .dot = onComplete frames receiver .dot :=
    step_of_operand hphase (by simp)
  have hopened : feed ⟨frames, .operand⟩ (ts ++ [.dot, .word method, .openParen])
      = .ok ⟨.arguments receiver method [] :: frames, .firstArgument⟩ := by
    rw [feed_append_of_ok hfeed, feed, hdot]
    rfl
  have htokens : ts ++ .dot :: .word method :: .openParen :: (listed args ++ [.closeParen])
      = (ts ++ [.dot, .word method, .openParen]) ++ (listed args ++ [.closeParen]) := by simp
  rw [htokens, feed_append_of_ok hopened]
  cases args with
  | nil => rfl
  | cons a args => exact feed_firstArgument (by simp) (feed_arguments [] hargs)

/-- A phrase is read wherever it fits. -/
theorem reads_of_derives {p : Phrase} (h : Derives p ts e) {frames : List Frame}
    (hfits : Fits p.rank frames) : Reads p.rank frames ts e := by
  induction h generalizing frames with
  | part hq _ ih =>
    have hrank := Phrase.rank_part hq
    obtain ⟨inner, phase, x, hfeed, hphase, hpending⟩ := ih (hfits.mono (by omega))
    exact ⟨inner, phase, x, hfeed, hphase, hpending.mono (by omega)⟩
  | @binary p q token op ts us l r hop hq _ _ ihl ihr =>
    obtain ⟨-, hlevel⟩ := Phrase.mem_operators.mp hop
    have hright : Fits q.rank (.binary op l :: frames) :=
      fits_cons.mpr (by rw [Phrase.rank_part hq, ← hlevel]; exact Nat.le_refl _)
    exact (ihl hfits).binary hop hq hfits (ihr hright)
  | @unary token op ts e hop _ ih =>
    have hstep : step ⟨frames, .operand⟩ token = .ok ⟨.unary op :: frames, .operand⟩ :=
      step_unary (Phrase.mem_unaryOperators.mp hop)
    obtain ⟨inner, phase, x, hfeed, hphase, hpending⟩ := ih (fits_unary (.unary op :: frames))
    refine ⟨inner ++ [.unary op], phase, x, ?_, hphase,
      hpending.trans (.unary (Nat.le_refl _) .nil)⟩
    rw [feed_cons_of_ok hstep, hfeed, List.append_assoc]
    rfl
  | property name _ ih =>
    obtain ⟨phase, hfeed, hphase⟩ := (ih hfits).complete (by decide)
    refine reads_of_complete (.member _ name) ?_ rfl
    have hdot : step ⟨frames, phase⟩ .dot = onComplete frames _ .dot :=
      step_of_operand hphase (by simp)
    rw [feed_append_of_ok hfeed, feed, hdot]
    rfl
  | @call ts e name args _ _ ih ihargs =>
    obtain ⟨phase, hfeed, hphase⟩ := (ih hfits).complete (by decide)
    exact reads_of_complete (.complete _) (feed_call hfeed hphase name fun b hb done =>
      ihargs b hb (fits_cons.mpr (Nat.le_refl _))) rfl
  | @index ts us e k _ _ ih ihk =>
    obtain ⟨phase, hfeed, hphase⟩ := (ih hfits).complete (by decide)
    refine reads_of_complete (.complete _) ?_ rfl
    have hopen : step ⟨frames, phase⟩ .openBracket = .ok ⟨.subscript e :: frames, .operand⟩ :=
      step_of_operand hphase (by simp)
    have hkey : Reads Phrase.or.rank (.subscript e :: frames) us k :=
      ihk (fits_cons.mpr (Nat.le_refl _))
    rw [feed_append_of_ok hfeed, feed_cons_of_ok hopen]
    exact hkey.feed_ending rfl .closeBracket rfl
  | literal h =>
    obtain ⟨hunary, htoken⟩ := ofToken?_of_literal h
    refine reads_of_complete (.complete _) ?_ rfl
    rw [feed_cons_of_ok (step_single hunary htoken)]
    rfl
  | name h =>
    obtain ⟨hunary, htoken⟩ := ofToken?_of_name h
    refine reads_of_complete (.complete _) ?_ rfl
    rw [feed_cons_of_ok (step_single hunary htoken)]
    rfl
  | @group ts e _ ih =>
    refine reads_of_complete (.complete _) ?_ rfl
    have hopen : step ⟨frames, .operand⟩ .openParen = .ok ⟨.group :: frames, .operand⟩ := rfl
    have hcontent : Reads Phrase.or.rank (.group :: frames) ts e :=
      ih (fits_cons.mpr (Nat.le_refl _))
    rw [feed_cons_of_ok hopen]
    exact hcontent.feed_ending rfl .closeParen rfl

/-- What the grammar derives is taken, and completes the expression that it
stands for. -/
theorem feed_of_derives (h : Derives .or ts e) :
    ∃ last, start.feed ts = .ok last ∧ last.finish = .ok e := by
  have hfits : Fits Phrase.or.rank [] := fun _ hf => nomatch hf
  obtain ⟨inner, phase, x, hfeed, hphase, hpending⟩ := reads_of_derives h hfits
  refine ⟨_, hfeed, ?_⟩
  have hfinish : finishComplete (inner ++ []) x = .ok e := by
    rw [finishComplete, hpending.collapse (Nat.zero_le _)]
    rfl
  cases phase with
  | member target name =>
    obtain rfl := Option.some.inj hphase
    exact hfinish
  | complete operand =>
    obtain rfl := Option.some.inj hphase
    exact hfinish
  | _ => cases hphase

end Machine

end DynamicSql.Expr
