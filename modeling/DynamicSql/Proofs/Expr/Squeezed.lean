/-
The expression of a text whose runs of blanks were made one space each.

Between tokens a blank separates if it is one of ASCII. All others end the
cutting, and the space that takes their place does not. So a text that
survives has the tokens it had, or still is not cut into any; and of a text
that is cut all the same, the tokens differ in strings only
(`lexFrom_squeezeFrom`).

# When the expression is the same

A text that does not survive may still make no difference, but only if it
makes no expression squeezed: the tokens of a text that is cut differ in
strings only, so both are expressions or both are not, and if both are they
have different strings (`sameReading_squeeze_iff`).
-/
import DynamicSql.Proofs.Expr.Surviving

namespace DynamicSql

open Text (isBlank isAsciiBlank squeezeFrom squeeze squeezeFrom_cons squeezeFrom_false_blank
  squeezeFrom_true_blank)

namespace Token

variable {c : Char} {cs rest : List Char} {token : Token}

-- ============================================================ all tokens

theorem isBlank_of_isAsciiBlank (h : isAsciiBlank c = true) : isBlank c = true := by
  simp only [isAsciiBlank, Bool.or_eq_true, beq_iff_eq] at h
  obtain (((rfl | rfl) | rfl) | rfl) | rfl := h <;> rfl

theorem lexFrom_of_scan (hascii : isAsciiBlank c = false) (h : scan c cs = .ok (token, rest))
    (offset : Nat) :
    ∃ next, lexFrom offset (c :: cs) = (lexFrom next rest).map (⟨offset, token⟩ :: ·) := by
  rw [lexFrom, if_neg (Bool.eq_false_iff.mp hascii)]
  split
  · next h' => cases h.symm.trans h'
  · next h' =>
    obtain ⟨rfl, rfl⟩ := Prod.mk.inj (Except.ok.inj (h.symm.trans h'))
    exact ⟨_, rfl⟩

theorem lexFrom_of_scan_error {fault : SyntaxFault} (hascii : isAsciiBlank c = false)
    (h : scan c cs = .error fault) (offset : Nat) :
    lexFrom offset (c :: cs) = .error ⟨offset, fault⟩ := by
  rw [lexFrom, if_neg (Bool.eq_false_iff.mp hascii)]
  split
  · next h' => rw [Except.error.inj (h.symm.trans h')]
  · next h' => cases h.symm.trans h'

/-- The tokens of a squeezed text beside those of the text: if the text is cut
into tokens, the squeezed one is cut into similar ones, the same just if the
text survives; if it is not and survives, neither is the squeezed one. -/
def Beside (survives : Bool) : Except SyntaxError (List Lexeme) → Except SyntaxError (List Lexeme) →
    Prop
  | .ok lexemes, squeezed => ∃ lexemes', squeezed = .ok lexemes'
    ∧ List.Forall₂ Similar (lexemes.map Lexeme.token) (lexemes'.map Lexeme.token)
    ∧ (lexemes.map Lexeme.token = lexemes'.map Lexeme.token ↔ survives = true)
  | .error _, squeezed => survives = true → ∃ e, squeezed = .error e

/-- A token is added to both. -/
theorem Beside.cons {whole after : Bool} {r r' : Except SyntaxError (List Lexeme)} {l l' : Lexeme}
    (h : Beside after r r') (hsimilar : Similar l.token l'.token)
    (hsame : l.token = l'.token ∧ whole = after ∨ l.token ≠ l'.token ∧ whole = false) :
    Beside whole (r.map (l :: ·)) (r'.map (l' :: ·)) := by
  cases r with
  | error e =>
    intro hwhole
    obtain ⟨-, rfl⟩ | ⟨-, rfl⟩ := hsame
    · obtain ⟨e', rfl⟩ := h hwhole
      exact ⟨e', rfl⟩
    · cases hwhole
  | ok lexemes =>
    obtain ⟨lexemes', rfl, hsimilars, hiff⟩ := h
    refine ⟨l' :: lexemes', rfl, .cons hsimilar hsimilars, ?_⟩
    rw [List.map_cons, List.map_cons, List.cons.injEq, hiff]
    obtain ⟨heq, rfl⟩ | ⟨hne, rfl⟩ := hsame
    · exact and_iff_right heq
    · exact iff_of_false (fun h => hne h.1) Bool.false_ne_true

/-- Squeezing keeps the tokens of a text, but for the strings that do not
survive. -/
theorem lexFrom_squeezeFrom (offset offset' : Nat) (blank : Bool) (cs : List Char) :
    Beside (survives none false cs) (lexFrom offset cs)
      (lexFrom offset' (squeezeFrom blank cs)) := by
  fun_induction lexFrom offset cs generalizing offset' blank with
  | case1 =>
    rw [squeezeFrom, lexFrom]
    exact ⟨[], rfl, .nil, iff_of_true rfl rfl⟩
  | case2 offset c cs hascii ih =>
    have hblank := isBlank_of_isAsciiBlank hascii
    have hquote : isQuote c = false := by
      cases hq : isQuote c with
      | false => rfl
      | true => exact absurd (isBlank_of_isQuote hq) (by rw [hblank]; exact Bool.noConfusion)
    have hsurvives : survives none false (c :: cs) = survives none false cs := by
      rw [survives, hascii, Bool.or_true, Bool.true_and, hquote]
      exact survives_none _ cs
    rw [hsurvives]
    cases blank with
    | false =>
      rw [squeezeFrom_false_blank hblank, lexFrom, if_pos (by rfl)]
      exact ih _ true
    | true =>
      rw [squeezeFrom_true_blank hblank]
      exact ih _ true
  | case3 offset c cs hascii fault hscan =>
    intro hsurvives
    have hascii := Bool.eq_false_iff.mpr hascii
    have hblank : isBlank c = false := by
      rw [survives, hascii, Bool.or_false] at hsurvives
      simpa using (Bool.and_eq_true_iff.mp hsurvives).1
    rw [squeezeFrom_cons hblank]
    exact ⟨_, lexFrom_of_scan_error hascii (scan_squeezeFrom_of_error hblank hscan) offset'⟩
  | case4 offset c cs hascii token rest hscan size ih =>
    have hascii := Bool.eq_false_iff.mpr hascii
    obtain ⟨token', hscan', hsimilar, hsame⟩ := scan_squeezeFrom_of_ok hscan
    obtain ⟨next, hnext⟩ := lexFrom_of_scan hascii hscan' offset'
    rw [squeezeFrom_cons (isBlank_of_scan hscan), hnext]
    exact (ih next false).cons hsimilar hsame

-- ================================================================= ends

/-- A token ends in no blank. -/
theorem exists_of_scan_getLast (h : scan c cs = .ok (token, rest)) :
    ∃ taken, c :: cs = taken ++ rest ∧ ∀ d ∈ taken.getLast?, isBlank d = false := by
  cases hquote : isQuote c with
  | false =>
    obtain ⟨taken, htaken, hplain⟩ := exists_of_scan hquote h
    refine ⟨taken, htaken, fun d hd => ?_⟩
    have hd := List.all_eq_true.mp hplain d (List.mem_of_getLast? hd)
    simpa [isPlain] using And.left (Bool.and_eq_true_iff.mp hd)
  | true =>
    rw [scan_quote hquote] at h
    split at h
    · next body rest' hbody =>
      obtain ⟨-, rfl⟩ := Prod.mk.inj (Except.ok.inj h)
      obtain ⟨inside, rfl⟩ := exists_of_stringBody? hbody
      refine ⟨c :: inside ++ [c], by simp only [List.append_assoc, List.cons_append,
        List.nil_append], fun d hd => ?_⟩
      rw [List.getLast?_concat] at hd
      exact Option.some.inj hd ▸ isBlank_of_isQuote hquote
    · cases h

/-- A text that is cut into tokens begins with no blank but those that separate
them. -/
theorem isAsciiBlank_head_of_lexFrom {offset : Nat} {lexemes : List Lexeme}
    (h : lexFrom offset (c :: cs) = .ok lexemes) (hblank : isBlank c = true) :
    isAsciiBlank c = true := by
  cases hascii : isAsciiBlank c with
  | true => rfl
  | false =>
    cases hscan : scan c cs with
    | error fault =>
      rw [lexFrom_of_scan_error hascii hscan] at h
      cases h
    | ok found =>
      have hnot := isBlank_of_scan hscan
      rw [hblank] at hnot
      cases hnot

/-- It ends in no other either. -/
theorem isAsciiBlank_getLast_of_lexFrom {offset : Nat} :
    ∀ lexemes, lexFrom offset cs = .ok lexemes →
      ∀ c ∈ cs.getLast?, isBlank c = true → isAsciiBlank c = true := by
  fun_induction lexFrom offset cs with
  | case1 =>
    intro _ _ d hd
    cases hd
  | case2 offset c cs hascii ih =>
    intro lexemes h d hd
    rw [List.getLast?_cons] at hd
    cases hlast : cs.getLast? with
    | none =>
      rw [hlast] at hd
      exact fun _ => Option.some.inj hd ▸ hascii
    | some e =>
      rw [hlast] at hd
      exact Option.some.inj hd ▸ ih lexemes h e hlast
  | case3 =>
    intro _ h
    cases h
  | case4 offset c cs hascii token rest hscan size ih =>
    intro lexemes h
    obtain ⟨taken, htaken, hplain⟩ := exists_of_scan_getLast hscan
    cases hrest : lexFrom (offset + size) rest with
    | error e =>
      rw [hrest] at h
      cases h
    | ok others =>
      intro d hd hblank
      rw [htaken, List.getLast?_append] at hd
      cases hlast : rest.getLast? with
      | none =>
        rw [hlast] at hd
        rw [hplain d hd] at hblank
        cases hblank
      | some e =>
        rw [hlast] at hd
        exact ih others hrest d (hlast.trans hd) hblank

end Token

namespace Expr

/-- Two texts are the same expression, or neither is one. -/
def SameReading (text text' : String) : Prop :=
  (parse text).toOption = (parse text').toOption

/-- A text that is cut into tokens is an expression if these are a phrase of
the loosest kind. -/
theorem parse_toOption_of_lex {text : String} {lexemes : List Lexeme} {e : Expr}
    (h : Token.lex text = .ok lexemes) :
    (parse text).toOption = some e ↔ Derives .or (lexemes.map Lexeme.token) e := by
  have hparse : parse text = ofLexemes text.utf8ByteSize lexemes := by
    rw [parse, h]
    rfl
  rw [hparse]
  constructor
  · intro hsome
    cases hread : ofLexemes text.utf8ByteSize lexemes with
    | error error =>
      rw [hread] at hsome
      cases hsome
    | ok e' =>
      rw [hread] at hsome
      obtain rfl := Option.some.inj hsome
      exact ofLexemes_eq_ok.mp hread
  · intro hderives
    rw [ofLexemes_eq_ok.mpr hderives]
    rfl

theorem parse_toOption_of_lex_error {text : String} {error : SyntaxError}
    (h : Token.lex text = .error error) : (parse text).toOption = none := by
  rw [parse, h]
  rfl

/-- A text has the same expression squeezed just if it survives or is no
expression squeezed. -/
theorem sameReading_squeeze_iff (text : String) :
    SameReading text (squeeze text)
      ↔ Token.survives none false text.toList = true ∨ (parse (squeeze text)).toOption = none := by
  have hlex : Token.lex (squeeze text) = Token.lexFrom 0 (squeezeFrom false text.toList) := by
    rw [Token.lex, squeeze, String.toList_ofList]
  have hbeside := Token.lexFrom_squeezeFrom 0 0 false text.toList
  rw [← hlex, ← Token.lex.eq_1] at hbeside
  unfold SameReading
  cases htext : Token.lex text with
  | error error =>
    rw [htext] at hbeside
    rw [parse_toOption_of_lex_error htext]
    constructor
    · exact fun h => .inr h.symm
    · rintro (h | h)
      · obtain ⟨e, he⟩ := hbeside h
        exact (parse_toOption_of_lex_error he).symm
      · exact h.symm
  | ok lexemes =>
    rw [htext] at hbeside
    obtain ⟨lexemes', hlex', hsimilar, hsame⟩ := hbeside
    have hparse := fun e => parse_toOption_of_lex (e := e) htext
    have hparse' := fun e => parse_toOption_of_lex (e := e) hlex'
    constructor
    · intro h
      cases hsqueezed : (parse (squeeze text)).toOption with
      | none => exact .inr rfl
      | some e =>
        -- The strings of one expression are those of both lists of tokens.
        have hd := (hparse e).mp (h.trans hsqueezed)
        have hd' := (hparse' e).mp hsqueezed
        refine .inl (hsame.mp (Token.eq_of_similar hsimilar ?_))
        rw [← hd.strings_eq, hd'.strings_eq]
    · rintro (h | h)
      · refine Option.ext fun e => ?_
        rw [hparse, hparse', hsame.mpr h]
      · rw [h]
        cases htext : (parse text).toOption with
        | none => rfl
        | some e =>
          obtain ⟨e', he'⟩ := ((hparse e).mp htext).of_similar hsimilar
          rw [(hparse' e').mpr he'] at h
          cases h

end Expr

end DynamicSql
