/-
Another name for the variable at the beginning of an expression.

If two names are bound to the same value, an expression that begins with the
one has the value of the text in which the other stands at its place. This is
a statement about texts, so it has to go through all that is done to them.

# Cutting

After the name the two texts are the same, only that it begins at different
offsets. Where a text begins has no influence on how it is cut: the tokens
are the same, and the offsets are moved (`lexFrom_add`).

# Putting together

The machine that puts the tokens together goes in step on both texts
(`DynamicSql.Proofs.Expr.Alike`).

# Faults

A text that is no expression is refused for the same reason under both
names. Where the fault lies is told as an offset, and that one moves with
the length of the name.
-/
import DynamicSql.Proofs.Expr.Alike
import DynamicSql.Proofs.LoopVariable

namespace DynamicSql

/-- The same value or the same error; a fault of the text may be at another
offset. -/
def SameAnswer (r r' : Except EvalError Value) : Prop :=
  r = r' ∨ ∃ fault offset offset',
    r = .error (.malformed ⟨offset, fault⟩) ∧ r' = .error (.malformed ⟨offset', fault⟩)

theorem SameAnswer.refl (r : Except EvalError Value) : SameAnswer r r := Or.inl rfl

-- =============================================================== cutting

def Lexeme.moved (distance : Nat) (l : Lexeme) : Lexeme := ⟨distance + l.offset, l.token⟩

def SyntaxError.moved (distance : Nat) (e : SyntaxError) : SyntaxError :=
  ⟨distance + e.position, e.fault⟩

namespace Token

/-- A text that begins elsewhere is cut into the same tokens, or for the same
reason into none. -/
theorem lexFrom_add (distance offset : Nat) (cs : List Char) :
    lexFrom (distance + offset) cs
      = ((lexFrom offset cs).map (List.map (Lexeme.moved distance))).mapError
          (SyntaxError.moved distance) := by
  fun_induction lexFrom offset cs with
  | case1 offset => rw [lexFrom]; rfl
  | case2 offset c cs hblank ih =>
    rw [lexFrom, if_pos hblank, Nat.add_assoc]
    exact ih
  | case3 offset c cs hblank fault hscan =>
    rw [lexFrom, if_neg hblank]
    split
    · next hscan' =>
      obtain rfl := Except.error.inj (hscan.symm.trans hscan')
      rfl
    · next hscan' => cases hscan.symm.trans hscan'
  | case4 offset c cs hblank token rest hscan size ih =>
    rw [lexFrom, if_neg hblank]
    split
    · next hscan' => cases hscan.symm.trans hscan'
    · next hscan' =>
      have hboth := Except.ok.inj (hscan.symm.trans hscan')
      rw [Prod.mk.injEq] at hboth
      obtain ⟨rfl, rfl⟩ := hboth
      show (lexFrom (distance + offset + size) rest).map (⟨distance + offset, token⟩ :: ·) = _
      rw [Nat.add_assoc, ih]
      cases lexFrom (offset + size) rest <;> rfl

theorem not_isDigit_of_isWordStart {c : Char} (h : isWordStart c = true) :
    ¬c.isDigit = true := by
  intro hdigit
  have hbounds := LoopVariable.toNat_of_isDigit hdigit
  simp only [isWordStart, Bool.or_eq_true, beq_iff_eq] at h
  rcases h with (h | rfl) | rfl
  · have hletter := LoopVariable.toNat_of_isAlpha h
    omega
  · revert hbounds
    decide
  · revert hbounds
    decide

/-- No character of words is a bracket or a quote. -/
theorem bracket?_of_isWordChar {c : Char} (h : isWordChar c = true) :
    bracket? c = none ∧ ¬(c = '\'' ∨ c = '"') := by
  have hne : ∀ d, isWordChar d = false → c ≠ d := by
    rintro d hd rfl
    rw [h] at hd
    cases hd
  constructor
  · unfold bracket?
    split
    · exact absurd rfl (hne '(' rfl)
    · exact absurd rfl (hne ')' rfl)
    · exact absurd rfl (hne '[' rfl)
    · exact absurd rfl (hne ']' rfl)
    · exact absurd rfl (hne ',' rfl)
    · rfl
  · rintro (rfl | rfl)
    · exact hne _ rfl rfl
    · exact hne _ rfl rfl

/-- A character with which a word begins, begins a word. -/
theorem scan_word {c : Char} (h : isWordStart c = true) (cs : List Char) :
    scan c cs = .ok (.word (String.ofList (c :: cs.takeWhile isWordChar)),
      cs.dropWhile isWordChar) := by
  obtain ⟨hbracket, hquote⟩ :=
    bracket?_of_isWordChar (LoopVariable.isWordChar_of_isWordStart h)
  have hdot : c ≠ '.' := by
    rintro rfl
    cases h
  have hdigit : ¬(c.isDigit = true ∨ beginsFraction (c :: cs) = true) := by
    rintro (hd | hf)
    · exact not_isDigit_of_isWordStart h hd
    · unfold beginsFraction at hf
      split at hf
      · next heq => exact hdot (List.cons.inj heq).1
      · cases hf
  rw [scan, hbracket]
  simp only []
  rw [if_neg hquote, if_neg hdigit, if_neg hdot, if_pos h]

/-- A text that begins with a name is cut into the name and the rest. -/
theorem lex_name_append {name : String} (hname : isName name = true) {rest : String}
    (hrest : LoopVariable.endsName rest.toList = true) :
    lex (name ++ rest)
      = (lexFrom (byteLength name.toList) rest.toList).map (⟨0, .word name⟩ :: ·) := by
  have hchars := LoopVariable.all_isWordChar_of_isName hname
  unfold isName at hname
  cases hcs : name.toList with
  | nil =>
    rw [hcs] at hname
    cases hname
  | cons c cs =>
    rw [hcs] at hname hchars
    obtain ⟨hstart, -⟩ := Bool.and_eq_true_iff.mp hname
    have htail : ∀ d ∈ cs, isWordChar d = true := fun d hd => hchars d (List.mem_cons_of_mem _ hd)
    have hblank : ¬Text.isAsciiBlank c = true := by
      intro hb
      simp only [Text.isAsciiBlank, Bool.or_eq_true, beq_iff_eq] at hb
      rcases hb with (((rfl | rfl) | rfl) | rfl) | rfl <;> cases hstart
    have hscan : scan c (cs ++ rest.toList) = .ok (.word name, rest.toList) := by
      rw [scan_word hstart, LoopVariable.takeWhile_append_of_endsName htail hrest,
        LoopVariable.dropWhile_append_of_endsName htail hrest, ← hcs, String.ofList_toList]
    rw [lex, String.toList_append, hcs, List.cons_append, lexFrom, if_neg hblank]
    split
    · next hscan' => cases hscan.symm.trans hscan'
    · next hscan' =>
      have hboth := Except.ok.inj (hscan.symm.trans hscan')
      rw [Prod.mk.injEq] at hboth
      obtain ⟨rfl, rfl⟩ := hboth
      rw [← List.cons_append, byteLength_append, Nat.add_sub_cancel]
      simp only [Nat.zero_add]

end Token

-- ================================================================= names

namespace Expr

variable {vars : Variables}

/-- True of a name that is read as a variable where an operand may stand. -/
def isVariable (name : String) : Bool :=
  Token.isName name && !(["null", "true", "false", "not"].contains name)

/-- The machine after a variable. -/
theorem step_start {name : String} (h : isVariable name = true) :
    Machine.start.step (.word name) = .ok ⟨[], .complete (.var name)⟩ := by
  simp only [isVariable, Bool.and_eq_true, Bool.not_eq_true', List.contains_cons,
    List.contains_nil, Bool.or_eq_false_iff, beq_eq_false_iff_ne, ne_eq] at h
  obtain ⟨-, hnull, htrue, hfalse, hnot, -⟩ := h
  have hunary : UnaryOp.ofToken? (.word name) = none := by
    unfold UnaryOp.ofToken?
    split
    · next heq => cases heq
    · next heq => exact absurd (Token.word.inj heq) hnot
    · next heq => cases heq
    · rfl
  have hword : ofWord name = .var name := by
    unfold ofWord
    split
    · exact absurd rfl hnull
    · exact absurd rfl htrue
    · exact absurd rfl hfalse
    · rfl
  show Machine.onOperand [] (.word name) = _
  unfold Machine.onOperand
  rw [hunary]
  show Except.ok (Machine.mk [] (.complete (ofWord name))) = _
  rw [hword]

/-- After a variable at its beginning, the machine reads the rest. -/
theorem ofLexemes_word {name : String} (h : isVariable name = true) (stop : Nat)
    (lexemes : List Lexeme) :
    ofLexemes stop (⟨0, .word name⟩ :: lexemes)
      = Machine.run stop ⟨[], .complete (.var name)⟩ lexemes := by
  show Machine.start.run stop (⟨0, .word name⟩ :: lexemes) = _
  rw [Machine.run, step_start h]

/-- A text that begins with a variable has the same value with another
variable in its place that is bound to the same. -/
theorem evalText_append {name name' rest : String} (h : isVariable name = true)
    (h' : isVariable name' = true) (hrest : LoopVariable.endsName rest.toList = true)
    (hvars : vars name = vars name') :
    SameAnswer (evalText (name ++ rest) vars) (evalText (name' ++ rest) vars) := by
  have hlex := Token.lex_name_append (Bool.and_eq_true_iff.mp h).1 hrest
  have hlex' := Token.lex_name_append (Bool.and_eq_true_iff.mp h').1 hrest
  have hmoved := Token.lexFrom_add (byteLength name.toList) 0 rest.toList
  have hmoved' := Token.lexFrom_add (byteLength name'.toList) 0 rest.toList
  rw [Nat.add_zero] at hmoved hmoved'
  rw [hmoved] at hlex
  rw [hmoved'] at hlex'
  cases hcut : Token.lexFrom 0 rest.toList with
  | error e =>
    rw [hcut] at hlex hlex'
    rw [evalText_of_lex_error hlex, evalText_of_lex_error hlex']
    exact Or.inr ⟨e.fault, _, _, rfl, rfl⟩
  | ok lexemes =>
    rw [hcut] at hlex hlex'
    have halike : Machine.Alike vars vars ⟨[], .complete (.var name)⟩
        ⟨[], .complete (.var name')⟩ := by
      refine ⟨.nil, .complete ?_⟩
      rw [Alike, eval, eval, hvars]
    have htokens : ∀ distance : Nat, (lexemes.map (Lexeme.moved distance)).map Lexeme.token
        = lexemes.map Lexeme.token := by
      intro distance
      rw [List.map_map]
      rfl
    rcases Machine.run_alike halike (name ++ rest).utf8ByteSize (name' ++ rest).utf8ByteSize
        ((htokens _).trans (htokens _).symm) (fun _ _ _ _ => rfl)
      with ⟨e, e', hrun, hrun', hvalue⟩ | ⟨fault, offset, offset', hrun, hrun'⟩
    · rw [evalText_of_ok hlex ((ofLexemes_word h _ _).trans hrun),
        evalText_of_ok hlex' ((ofLexemes_word h' _ _).trans hrun')]
      exact Or.inl hvalue
    · rw [evalText_of_error hlex ((ofLexemes_word h _ _).trans hrun),
        evalText_of_error hlex' ((ofLexemes_word h' _ _).trans hrun')]
      exact Or.inr ⟨fault, offset, offset', rfl, rfl⟩

end Expr

end DynamicSql
