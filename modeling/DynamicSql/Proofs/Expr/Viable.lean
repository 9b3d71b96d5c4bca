/-
Beginnings of expressions.

Tokens begin an expression if the grammar derives some list of tokens that
begins with them (`Viable`). That is said without the machine; but the machine
takes just those tokens (`viable_iff`). So the first token that it refuses is
the first one with which nothing goes on.

One half is that what is derived is taken, as a whole and so up to each place
in it. The other half is that whatever was taken can be completed, from each
state of the machine: an operand is added where one is missing, and then each
open bracket is closed, the innermost first. Operators that wait need nothing,
since they are completed with what they are in (`Machine.completable`).
-/
import DynamicSql.Proofs.Expr.Reading

namespace DynamicSql.Expr

/-- Some expression begins with the tokens. -/
def Viable (ts : List Token) : Prop := ∃ us e, Derives .or (ts ++ us) e

namespace Machine

variable {frames : List Frame} {phase : Phase} {e : Expr} {m : Machine}

-- ============================================================ completion

/-- What is left of frames when all operators are completed: nothing, or
frames of which the innermost is a bracket that one more token closes. -/
theorem collapse_zero (frames : List Frame) (e : Expr) :
    (∃ x, collapse 0 frames e = ([], x))
      ∨ ∃ f outer x token closed, collapse 0 frames e = (f :: outer, x)
        ∧ outer.length < frames.length ∧ Ending token
        ∧ onClosing (f :: outer) x token = .ok ⟨outer, .complete closed⟩ := by
  induction frames generalizing e with
  | nil => exact .inl ⟨e, rfl⟩
  | cons f frames ih =>
    cases f with
    | group => exact .inr ⟨_, frames, e, _, _, rfl, Nat.lt_succ_self _, .closeParen, rfl⟩
    | subscript target =>
      exact .inr ⟨_, frames, e, _, _, rfl, Nat.lt_succ_self _, .closeBracket, rfl⟩
    | arguments receiver method done =>
      exact .inr ⟨_, frames, e, _, _, rfl, Nat.lt_succ_self _, .closeParen, rfl⟩
    | unary op =>
      rcases ih (.unary op e) with h | ⟨f, outer, x, token, closed, h, hlt, hrest⟩
      · exact .inl h
      · exact .inr ⟨f, outer, x, token, closed, h, Nat.lt_succ_of_lt hlt, hrest⟩
    | binary op left =>
      rw [collapse, if_pos (Nat.zero_le _)]
      rcases ih (.binary op left e) with h | ⟨f, outer, x, token, closed, h, hlt, hrest⟩
      · exact .inl h
      · exact .inr ⟨f, outer, x, token, closed, h, Nat.lt_succ_of_lt hlt, hrest⟩

/-- Some tokens make an expression of what was taken. -/
def Completable (m : Machine) : Prop := ∃ ts last e, m.feed ts = .ok last ∧ last.finish = .ok e

theorem Completable.of_step {next : Machine} {token : Token} (h : m.step token = .ok next)
    (hnext : next.Completable) : m.Completable := by
  obtain ⟨ts, last, e, hfeed, hfinish⟩ := hnext
  exact ⟨token :: ts, last, e, by rw [feed_cons_of_ok h, hfeed], hfinish⟩

/-- After an operand there is nothing to do but to close brackets, of which
there are no more than frames. -/
theorem completable_of_operand (h : phase.operand? = some e) : Completable ⟨frames, phase⟩ := by
  induction hn : frames.length using Nat.strongRecOn generalizing frames phase e with
  | ind n ih =>
    rcases collapse_zero frames e with ⟨x, hx⟩ | ⟨f, outer, x, token, closed, hx, hlt, ht, hclose⟩
    · have hfinish : finishComplete frames e = .ok x := by
        rw [finishComplete, hx]
      refine ⟨[], ⟨frames, phase⟩, x, rfl, ?_⟩
      cases phase with
      | member target name =>
        obtain rfl := Option.some.inj h
        exact hfinish
      | complete operand =>
        obtain rfl := Option.some.inj h
        exact hfinish
      | _ => cases h
    · have hstep : step ⟨frames, phase⟩ token = .ok ⟨outer, .complete closed⟩ := by
        rw [step_ending h ht, hx]
        exact hclose
      exact .of_step hstep (ih outer.length (hn ▸ hlt) rfl rfl)

/-- Whatever was taken can be completed. -/
theorem completable (m : Machine) : m.Completable := by
  obtain ⟨frames, phase⟩ := m
  cases phase with
  | operand =>
    have hstep : step ⟨frames, .operand⟩ (.word "x") = .ok ⟨frames, .complete (.var "x")⟩ := rfl
    exact .of_step hstep (completable_of_operand rfl)
  | firstArgument =>
    have hstep : step ⟨frames, .firstArgument⟩ (.word "x")
        = .ok ⟨frames, .complete (.var "x")⟩ := rfl
    exact .of_step hstep (completable_of_operand rfl)
  | memberName target =>
    have hstep : step ⟨frames, .memberName target⟩ (.word "x")
        = .ok ⟨frames, .member target "x"⟩ := rfl
    exact .of_step hstep (completable_of_operand rfl)
  | member target name => exact completable_of_operand rfl
  | complete e => exact completable_of_operand rfl

-- ================================================================ errors

/-- A run fails at the first token that is refused, or at the end. -/
theorem run_eq_error {stop : Nat} {lexemes : List Lexeme} {error : SyntaxError}
    (h : m.run stop lexemes = .error error) :
    (∃ before l after next, lexemes = before ++ l :: after
        ∧ m.feed (before.map Lexeme.token) = .ok next ∧ next.step l.token = .error error.fault
        ∧ error.position = l.offset)
      ∨ ∃ last, m.feed (lexemes.map Lexeme.token) = .ok last ∧ last.finish = .error error.fault
        ∧ error.position = stop := by
  induction lexemes generalizing m with
  | nil =>
    rw [run] at h
    split at h
    · cases h
    · next fault hfinish =>
      obtain rfl := Except.error.inj h
      exact .inr ⟨m, rfl, hfinish, rfl⟩
  | cons lexeme rest ih =>
    rw [run] at h
    cases hstep : m.step lexeme.token with
    | error fault =>
      rw [hstep] at h
      obtain rfl := Except.error.inj h
      exact .inl ⟨[], lexeme, rest, m, rfl, rfl, hstep, rfl⟩
    | ok next =>
      rw [hstep] at h
      rcases ih h with ⟨before, l, after, last, rfl, hfeed, hrest⟩ | ⟨last, hfeed, hrest⟩
      · refine .inl ⟨lexeme :: before, l, after, last, rfl, ?_, hrest⟩
        rw [List.map_cons, feed_cons_of_ok hstep, hfeed]
      · refine .inr ⟨last, ?_, hrest⟩
        rw [List.map_cons, feed_cons_of_ok hstep, hfeed]

end Machine

-- ====================================================== viable beginnings

variable {ts : List Token}

theorem viable_iff : Viable ts ↔ ∃ m, Machine.start.feed ts = .ok m := by
  constructor
  · rintro ⟨us, e, h⟩
    obtain ⟨last, hfeed, -⟩ := derives_iff.mp h
    obtain ⟨m, hm, -⟩ := Machine.exists_feed_of_append hfeed
    exact ⟨m, hm⟩
  · rintro ⟨m, hm⟩
    obtain ⟨us, last, e, hfeed, hfinish⟩ := m.completable
    refine ⟨us, e, derives_iff.mpr ⟨last, ?_, hfinish⟩⟩
    rw [Machine.feed_append_of_ok hm, hfeed]

/-- The tokens begin an expression up to this one, and with it they begin
none. -/
structure FirstBad (before : List Token) (token : Token) : Prop where
  viable : Viable before
  refused : ¬Viable (before ++ [token])

theorem FirstBad.of_step {before : List Token} {token : Token} {m : Machine} {fault : SyntaxFault}
    (hfeed : Machine.start.feed before = .ok m) (hstep : m.step token = .error fault) :
    FirstBad before token := by
  refine ⟨viable_iff.mpr ⟨m, hfeed⟩, fun h => ?_⟩
  obtain ⟨next, hnext⟩ := viable_iff.mp h
  rw [Machine.feed_append_of_ok hfeed, Machine.feed, hstep] at hnext
  cases hnext

/-- Tokens that are no expression are refused at the first one with which no
expression goes on, or at the end if the tokens do begin one. -/
theorem position_of_ofLexemes {stop : Nat} {lexemes : List Lexeme} {error : SyntaxError}
    (hne : lexemes ≠ []) (h : ofLexemes stop lexemes = .error error) :
    (∃ before l after, lexemes = before ++ l :: after
        ∧ FirstBad (before.map Lexeme.token) l.token ∧ error.position = l.offset)
      ∨ (Viable (lexemes.map Lexeme.token) ∧ (∀ e, ¬Derives .or (lexemes.map Lexeme.token) e)
        ∧ error.position = stop) := by
  have hnone : ∀ e, ¬Derives .or (lexemes.map Lexeme.token) e := fun e hd => by
    cases h.symm.trans (ofLexemes_eq_ok.mpr hd)
  have hrun : Machine.start.run stop lexemes = .error error := by
    rwa [ofLexemes, if_neg (by rwa [List.isEmpty_iff])] at h
  rcases Machine.run_eq_error hrun with ⟨before, l, after, m, rfl, hfeed, hstep, hpos⟩ | hend
  · exact .inl ⟨before, l, after, rfl, .of_step hfeed hstep, hpos⟩
  · obtain ⟨last, hfeed, -, hpos⟩ := hend
    exact .inr ⟨viable_iff.mpr ⟨last, hfeed⟩, hnone, hpos⟩

end DynamicSql.Expr
