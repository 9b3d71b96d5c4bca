/-
Whatever the machine takes, the grammar derives.

What the machine holds between two tokens is a reading of those before it: each
frame stands for the tokens with which it was begun, and what is complete
inside of it for a phrase (`Spelled`). The invariant is that these tokens, put
one after the other, are those that were taken. Completing operators moves
tokens from the frames to the phrase that is complete, and drops none
(`Spelled.collapse`).

# Order of the operators

Completing an operator makes a phrase of its level. For that its right operand
must be a tighter phrase, and whatever lies below it must be an operator that
binds less tightly, else the phrase would not fit there. So the frames keep
their operators in order (`Fits`).
-/
import DynamicSql.Proofs.Expr.Acceptance

namespace DynamicSql.Expr

-- =============================================================== spelling

/-- The tokens with which the frames were begun. -/
inductive Spelled : List Frame → List Token → Prop
  | nil : Spelled [] []
  | group {frames : List Frame} {ts : List Token} (h : Spelled frames ts) :
    Spelled (.group :: frames) (ts ++ [.openParen])
  | subscript {frames : List Frame} {ts us : List Token} {e : Expr} (h : Spelled frames ts)
    (he : Derives .path us e) : Spelled (.subscript e :: frames) (ts ++ us ++ [.openBracket])
  | arguments {frames : List Frame} {ts us : List Token} {e : Expr} (name : String)
    {args : List (List Token × Expr)} (h : Spelled frames ts) (he : Derives .path us e)
    (hargs : ∀ a ∈ args, Derives .or a.1 a.2) :
    Spelled (.arguments e name (args.map Prod.snd) :: frames)
      (ts ++ us ++ .dot :: .word name :: .openParen :: args.flatMap fun a => a.1 ++ [.comma])
  | unary {frames : List Frame} {ts : List Token} {token : Token} {op : UnaryOp}
    (h : Spelled frames ts) (hop : (token, op) ∈ Phrase.unaryOperators) :
    Spelled (.unary op :: frames) (ts ++ [token])
  | binary {frames : List Frame} {ts us : List Token} {token : Token} {p : Phrase}
    {op : BinaryOp} {l : Expr} (h : Spelled frames ts) (hop : (token, op) ∈ p.operators)
    (hl : Derives p us l) (hfits : Fits p.rank frames) :
    Spelled (.binary op l :: frames) (ts ++ us ++ [token])

/-- Before a list without arguments stand what is called and the beginning of
the call. -/
theorem Spelled.of_noArguments {frames : List Frame} {ts : List Token} {e : Expr}
    {name : String} (h : Spelled (.arguments e name [] :: frames) ts) :
    ∃ before us, ts = before ++ us ++ [.dot, .word name, .openParen] ∧ Spelled frames before
      ∧ Derives .path us e := by
  generalize hfs : Frame.arguments e name [] :: frames = fs at h
  cases h with
  | @arguments _ before us _ _ args h he hargs =>
    obtain ⟨hframe, rfl⟩ := List.cons.inj hfs
    obtain ⟨rfl, rfl, hnone⟩ := Frame.arguments.inj hframe
    obtain rfl := List.map_eq_nil_iff.mp hnone.symm
    exact ⟨before, us, rfl, h, he⟩
  | _ => cases hfs

/-- The tokens after those of the frames, of which a phase was read. -/
inductive Phase.Spelled : Phase → List Frame → List Token → Prop
  | operand {frames : List Frame} : Spelled .operand frames []
  | firstArgument {frames : List Frame} {e : Expr} {name : String} :
    Spelled .firstArgument (.arguments e name [] :: frames) []
  | memberName {frames : List Frame} {ts : List Token} {e : Expr} (h : Derives .path ts e) :
    Spelled (.memberName e) frames (ts ++ [.dot])
  | member {frames : List Frame} {ts : List Token} {e : Expr} (h : Derives .path ts e)
    (name : String) : Spelled (.member e name) frames (ts ++ [.dot, .word name])
  | complete {frames : List Frame} {ts : List Token} {e : Expr} (h : Derives .path ts e) :
    Spelled (.complete e) frames ts

/-- The machine has taken these tokens. -/
def Machine.Spelled (m : Machine) (ts : List Token) : Prop :=
  ∃ before here, ts = before ++ here ∧ Expr.Spelled m.frames before
    ∧ m.phase.Spelled m.frames here

-- ============================================================ completing

/-- What is left when operators of a level and above are completed: frames and
a phrase of that level, of the same tokens. -/
theorem Spelled.collapse {p q : Phrase} {frames : List Frame} {ts us : List Token} {e : Expr}
    (hp : p.rank < Phrase.unary.rank) (h : Spelled frames ts) (he : Derives q us e)
    (hle : p.rank ≤ q.rank) (hfits : Fits q.rank frames) :
    ∃ ts' us', ts' ++ us' = ts ++ us ∧ Spelled (Machine.collapse p.rank frames e).1 ts'
      ∧ Derives p us' (Machine.collapse p.rank frames e).2
      ∧ Fits p.rank (Machine.collapse p.rank frames e).1 := by
  induction h generalizing us e q with
  | nil => exact ⟨[], us, rfl, .nil, he.loosen hle, fun _ hf => nomatch hf⟩
  | group h _ => exact ⟨_, us, rfl, h.group, he.loosen hle, fits_cons.mpr (Nat.zero_le _)⟩
  | subscript h ht _ =>
    exact ⟨_, us, rfl, h.subscript ht, he.loosen hle, fits_cons.mpr (Nat.zero_le _)⟩
  | arguments name h hr hargs _ =>
    exact ⟨_, us, rfl, h.arguments name hr hargs, he.loosen hle, fits_cons.mpr (Nat.zero_le _)⟩
  | @unary frames ts token op _ hop ih =>
    have hoperand : Derives .unary us e := he.loosen (fits_cons.mp hfits)
    obtain ⟨ts', us', htokens, hrest⟩ :=
      ih (hoperand.unary hop) (Nat.le_of_lt hp) (fits_unary frames)
    exact ⟨ts', us', by rw [htokens, List.append_assoc]; rfl, hrest⟩
  | @binary frames ts us' token p' op l h hop hl hfits' ih =>
    have hlevel := (Phrase.mem_operators.mp hop).2
    have hinside : op.level + 1 ≤ q.rank := fits_cons.mp hfits
    by_cases hstays : p.rank ≤ op.level
    · have hlt := Phrase.level_lt_unary op
      obtain ⟨r, hr⟩ := Phrase.exists_part (p := p') (q := q) (by omega)
      have hright : Derives r us e := he.loosen (by rw [Phrase.rank_part hr]; omega)
      obtain ⟨ts', us', htokens, hrest⟩ :=
        ih (.binary hop hr hl hright) (by omega) hfits'
      rw [Machine.collapse, if_pos hstays]
      exact ⟨ts', us', by rw [htokens]; simp, hrest⟩
    · rw [Machine.collapse, if_neg hstays]
      exact ⟨_, us, rfl, h.binary hop hl hfits', he.loosen hle, fits_cons.mpr (by
        show op.level + 1 ≤ p.rank
        omega)⟩

-- ================================================================= steps

namespace Machine

variable {frames : List Frame} {ts us : List Token} {e : Expr} {token : Token} {m m' : Machine}

theorem spelled_operand (h : Expr.Spelled frames ts) : Spelled ⟨frames, .operand⟩ ts :=
  ⟨ts, [], (List.append_nil ts).symm, h, .operand⟩

theorem spelled_complete (h : Expr.Spelled frames ts) (he : Derives .path us e) :
    Spelled ⟨frames, .complete e⟩ (ts ++ us) :=
  ⟨ts, us, rfl, h, .complete he⟩

theorem spelled_onOperand (h : Expr.Spelled frames ts)
    (hm : onOperand frames token = .ok m) : m.Spelled (ts ++ [token]) := by
  unfold onOperand at hm
  cases hunary : UnaryOp.ofToken? token with
  | some op =>
    rw [hunary] at hm
    obtain rfl := Except.ok.inj hm
    exact spelled_operand (h.unary (Phrase.mem_unaryOperators.mpr hunary))
  | none =>
    rw [hunary] at hm
    cases hsingle : ofToken? token with
    | some e =>
      rw [hsingle] at hm
      obtain rfl := Except.ok.inj hm
      exact spelled_complete h (.part rfl (.of_token hunary hsingle))
    | none =>
      rw [hsingle] at hm
      simp only [] at hm
      split at hm
      · obtain rfl := Except.ok.inj hm
        exact spelled_operand h.group
      · cases hm

theorem forall_mem_nil : ∀ a ∈ ([] : List (List Token × Expr)), Derives .or a.1 a.2 :=
  fun _ ha => nomatch ha

/-- One argument more is derived. -/
theorem forall_mem_concat {args : List (List Token × Expr)}
    (hargs : ∀ a ∈ args, Derives .or a.1 a.2) (he : Derives .or us e) :
    ∀ a ∈ args ++ [(us, e)], Derives .or a.1 a.2 := by
  intro a ha
  rcases List.mem_append.mp ha with ha | ha
  · exact hargs a ha
  · rw [List.mem_singleton.mp ha]
    exact he

/-- The end of a bracket makes a phrase of what stands from its target to its
end, and a comma one argument more. -/
theorem spelled_onClosing (h : Expr.Spelled frames ts) (he : Derives .or us e)
    (hm : onClosing frames e token = .ok m) : m.Spelled (ts ++ us ++ [token]) := by
  unfold onClosing at hm
  split at hm
  · obtain rfl := Except.ok.inj hm
    cases h with
    | @group _ ts h =>
      have hgroup : Derives .path (.openParen :: (us ++ [.closeParen])) e :=
        .part rfl he.group
      have hspelled := spelled_complete h hgroup
      simpa using hspelled
  · obtain rfl := Except.ok.inj hm
    cases h with
    | subscript h ht =>
      have hspelled := spelled_complete h (ht.index he)
      simpa using hspelled
  · next method _ _ =>
    obtain rfl := Except.ok.inj hm
    cases h with
    | arguments _ h hr hargs =>
      have hspelled := spelled_operand (h.arguments method hr (forall_mem_concat hargs he))
      simpa using hspelled
  · next method _ _ =>
    obtain rfl := Except.ok.inj hm
    cases h with
    | @arguments _ _ _ _ _ args h hr hargs =>
      have hspelled := spelled_complete h (hr.call method (forall_mem_concat hargs he))
      rw [listed_append] at hspelled
      simpa using hspelled
  · cases hm

theorem spelled_onComplete (h : Expr.Spelled frames ts) (he : Derives .path us e)
    (hm : onComplete frames e token = .ok m) : m.Spelled (ts ++ us ++ [token]) := by
  have hfits : Fits Phrase.path.rank frames :=
    (fits_unary frames).mono (by decide)
  unfold onComplete at hm
  split at hm
  · obtain rfl := Except.ok.inj hm
    exact ⟨ts, us ++ [.dot], List.append_assoc .., h, .memberName he⟩
  · obtain rfl := Except.ok.inj hm
    exact spelled_operand (h.subscript he)
  · cases hop : BinaryOp.ofToken? token with
    | some op =>
      rw [hop] at hm
      obtain rfl := Except.ok.inj hm
      have hmem : (token, op) ∈ (Phrase.of op).operators :=
        Phrase.mem_operators.mpr ⟨hop, (Phrase.rank_of op).symm⟩
      have hlt : (Phrase.of op).rank < Phrase.unary.rank := by
        rw [Phrase.rank_of]
        exact Phrase.level_lt_unary op
      have hle : (Phrase.of op).rank ≤ Phrase.path.rank :=
        Nat.le_of_lt (Nat.lt_of_lt_of_le hlt (by decide))
      obtain ⟨ts', us', htokens, hframes, hleft, hfits'⟩ := h.collapse hlt he hle hfits
      rw [Phrase.rank_of] at hframes hleft hfits'
      rw [← htokens]
      exact spelled_operand (hframes.binary hmem hleft (Phrase.rank_of op ▸ hfits'))
    | none =>
      rw [hop] at hm
      obtain ⟨ts', us', htokens, hframes, hcontent, -⟩ :=
        h.collapse (p := .or) (by decide) he (Nat.zero_le _) hfits
      rw [← htokens]
      exact spelled_onClosing hframes hcontent hm

theorem spelled_step (h : m.Spelled ts) (hm : m.step token = .ok m') :
    m'.Spelled (ts ++ [token]) := by
  obtain ⟨frames, phase⟩ := m
  obtain ⟨before, here, rfl, hframes, hphase⟩ := h
  simp only [] at hframes hphase
  cases hphase with
  | operand =>
    rw [List.append_nil]
    exact spelled_onOperand hframes hm
  | @firstArgument frames e name =>
    rw [List.append_nil]
    unfold step at hm
    simp only [] at hm
    split at hm
    · next heq =>
      obtain ⟨hframe, rfl⟩ := List.cons.inj heq
      obtain ⟨rfl, rfl, rfl⟩ := Frame.arguments.inj hframe
      obtain rfl := Except.ok.inj hm
      obtain ⟨ts, us, rfl, hframes, he⟩ := hframes.of_noArguments
      have hcall := he.call name forall_mem_nil
      have hspelled := spelled_complete hframes hcall
      simpa [listed, List.intercalate] using hspelled
    · exact spelled_onOperand hframes hm
  | @memberName _ here e he =>
    cases token with
    | word name =>
      obtain rfl := Except.ok.inj hm
      exact ⟨before, here ++ [.dot, .word name], by simp, hframes, .member he name⟩
    | _ => cases hm
  | @member _ here e he name =>
    cases token with
    | openParen =>
      obtain rfl := Except.ok.inj hm
      have hspelled := hframes.arguments name he forall_mem_nil
      exact ⟨_, [], by simp, hspelled, .firstArgument⟩
    | _ => exact spelled_onComplete hframes (he.property name) hm
  | complete he => exact spelled_onComplete hframes he hm

theorem spelled_feed (h : m.Spelled ts) (hm : m.feed us = .ok m') : m'.Spelled (ts ++ us) := by
  induction us generalizing m ts with
  | nil =>
    obtain rfl := Except.ok.inj hm
    rwa [List.append_nil]
  | cons token rest ih =>
    rw [feed] at hm
    cases hstep : m.step token with
    | error fault =>
      rw [hstep] at hm
      cases hm
    | ok next =>
      rw [hstep] at hm
      have hspelled := ih (spelled_step h hstep) hm
      rwa [List.append_assoc] at hspelled

theorem derives_of_finishComplete (h : Expr.Spelled frames ts) (he : Derives .path us e)
    {e' : Expr} (hm : finishComplete frames e = .ok e') : Derives .or (ts ++ us) e' := by
  have hfits : Fits Phrase.path.rank frames :=
    (fits_unary frames).mono (by decide)
  obtain ⟨ts', us', htokens, hframes, hcontent, -⟩ :=
    h.collapse (p := .or) (by decide) he (Nat.zero_le _) hfits
  unfold finishComplete at hm
  split at hm
  · next heq =>
    have heq' : collapse Phrase.or.rank frames e = ([], _) := heq
    rw [heq'] at hframes hcontent
    obtain rfl := Except.ok.inj hm
    cases hframes
    rw [← htokens]
    exact hcontent
  · cases hm

theorem derives_of_finish (h : m.Spelled ts) (hm : m.finish = .ok e) : Derives .or ts e := by
  obtain ⟨frames, phase⟩ := m
  obtain ⟨before, here, rfl, hframes, hphase⟩ := h
  simp only [] at hframes hphase
  cases hphase with
  | operand => cases hm
  | firstArgument => cases hm
  | memberName he => cases hm
  | member he name => exact derives_of_finishComplete hframes (he.property name) hm
  | complete he => exact derives_of_finishComplete hframes he hm

/-- What is taken and completes an expression is derived, as that
expression. -/
theorem derives_of_feed (hfeed : start.feed ts = .ok m) (hfinish : m.finish = .ok e) :
    Derives .or ts e :=
  derives_of_finish (spelled_feed (spelled_operand .nil) hfeed) hfinish

end Machine

end DynamicSql.Expr
