/-
Where a text is refused.

A text that is cut into tokens and is no expression is refused at the first
token with which no expression goes on, or at its end if one does. A text that
is not cut is refused where the characters stand that make no token. These are
the two sides of one law: the position is as far as the text can be read, token
by token, as the beginning of something.

What a beginning is, is said without a reader. For tokens it is the grammar
that derives them with others after them (`Viable`), for characters it is a
stage of the cutting (`Token.Cut`). Positions are sizes in bytes of what comes
before, so they are never in the middle of a character, nor past the end.
-/
import DynamicSql.Proofs.Expr.Cutting
import DynamicSql.Proofs.Expr.Viable
import DynamicSql.Proofs.Text.Bytes

namespace DynamicSql.Expr

variable {text : String} {before lexemes : List Lexeme} {l : Lexeme} {error : SyntaxError}
  {position : Nat}

/-- A token of the text stands behind those before it, and its offset is the
size of what is there. -/
def TokenAt (text : String) (before : List Lexeme) (l : Lexeme) : Prop :=
  ∃ front cs rest, Token.Cut text.toList front before cs ∧ Token.Begins cs l.token rest
    ∧ byteLength front = l.offset

/-- The position of the first token with which no expression goes on, or the
size of the text if its tokens begin an expression and are none. -/
def RefusedAt (text : String) (lexemes : List Lexeme) (position : Nat) : Prop :=
  (∃ before l after, lexemes = before ++ l :: after ∧ TokenAt text before l
      ∧ FirstBad (before.map Lexeme.token) l.token ∧ position = l.offset)
    ∨ (Viable (lexemes.map Lexeme.token) ∧ (∀ e, ¬Derives .or (lexemes.map Lexeme.token) e)
      ∧ position = text.utf8ByteSize)

/-- The text is cut up to something that is no token, and that is where the
error is. -/
def UncutAt (text : String) (error : SyntaxError) : Prop :=
  ∃ front lexemes rest, Token.Cut text.toList front lexemes rest
    ∧ Token.Unreadable rest error.fault ∧ error.position = byteLength front

theorem parse_of_lex (h : Token.lex text = .ok lexemes) :
    parse text = ofLexemes text.utf8ByteSize lexemes := by
  rw [parse, h]
  rfl

theorem parse_of_lex_error (h : Token.lex text = .error error) : parse text = .error error := by
  rw [parse, h]
  rfl

theorem refusedAt_of_parse (hlex : Token.lex text = .ok lexemes) (hne : lexemes ≠ [])
    (h : parse text = .error error) : RefusedAt text lexemes error.position := by
  rw [parse_of_lex hlex] at h
  rcases position_of_ofLexemes hne h with ⟨before, l, after, rfl, hbad, hposition⟩ | hend
  · exact .inl ⟨before, l, after, rfl, (Token.cut_of_lex hlex).exists_before, hbad, hposition⟩
  · exact .inr hend

theorem uncutAt_of_lex (h : Token.lex text = .error error) : UncutAt text error := by
  obtain ⟨front, lexemes, c, cs, hcut, hascii, hscan, hposition⟩ := Token.cut_of_lex_error h
  exact ⟨front, lexemes, c :: cs, hcut, (Token.scan_eq_error_iff hascii).mp hscan,
    hposition.symm⟩

-- ============================================================== in the text

theorem isValid_of_cut {front rest : List Char}
    (h : Token.Cut text.toList front lexemes rest) :
    String.Pos.Raw.IsValid text ⟨byteLength front⟩ :=
  Span.isValid_iff.mpr ⟨front, rest, h.eq_append, rfl⟩

theorem RefusedAt.isValid (h : RefusedAt text lexemes position) :
    String.Pos.Raw.IsValid text ⟨position⟩ := by
  rcases h with ⟨before, l, after, -, ⟨front, cs, rest, hcut, -, hoffset⟩, -, rfl⟩ | ⟨-, -, rfl⟩
  · exact hoffset ▸ isValid_of_cut hcut
  · exact String.Pos.Raw.isValid_rawEndPos

/-- Whatever the text, the position of its error is one in it. -/
theorem isValid_of_parse (h : parse text = .error error) :
    String.Pos.Raw.IsValid text ⟨error.position⟩ := by
  cases hlex : Token.lex text with
  | error other =>
    obtain rfl := Except.error.inj ((parse_of_lex_error hlex).symm.trans h)
    obtain ⟨front, lexemes, rest, hcut, -, hposition⟩ := uncutAt_of_lex hlex
    exact hposition ▸ isValid_of_cut hcut
  | ok lexemes =>
    by_cases hne : lexemes = []
    · -- without tokens it is the beginning
      subst hne
      rw [parse_of_lex hlex] at h
      obtain rfl := Except.error.inj h
      exact String.Pos.Raw.isValid_zero
    · exact (refusedAt_of_parse hlex hne h).isValid

/-- Syntax errors point at the first bad token. A text that has tokens and is
no expression is refused at the first of them with which no expression goes on,
or at its end if its tokens begin one; a text that is not cut into tokens is
refused where it cannot be cut. So the position is at most the size of the text
and on a boundary of its characters. -/
theorem position_of_parse (text : String) :
    (∀ lexemes error, Token.lex text = .ok lexemes → lexemes ≠ [] → parse text = .error error →
        RefusedAt text lexemes error.position)
      ∧ (∀ error, Token.lex text = .error error →
        parse text = .error error ∧ UncutAt text error)
      ∧ ∀ error, parse text = .error error →
        error.position ≤ text.utf8ByteSize
          ∧ String.Pos.Raw.IsValid text ⟨error.position⟩ := by
  refine ⟨fun _ _ => refusedAt_of_parse, fun _ h => ⟨parse_of_lex_error h, uncutAt_of_lex h⟩,
    fun _ h => ?_⟩
  have hvalid := isValid_of_parse h
  exact ⟨hvalid.le_rawEndPos, hvalid⟩

/-- A name after a name, a parenthesis that is not closed, and a character with
which no token begins, behind one of two bytes. -/
theorem position_of_parse_of_three_texts :
    (Token.lex "a b" = .ok [⟨0, .word "a"⟩, ⟨2, .word "b"⟩]
        ∧ RefusedAt "a b" [⟨0, .word "a"⟩, ⟨2, .word "b"⟩] 2)
      ∧ (Token.lex "(a" = .ok [⟨0, .openParen⟩, ⟨1, .word "a"⟩]
        ∧ RefusedAt "(a" [⟨0, .openParen⟩, ⟨1, .word "a"⟩] 2)
      ∧ (Token.lex "'é' & b" = .error ⟨5, .unexpectedCharacter '&'⟩
        ∧ UncutAt "'é' & b" ⟨5, .unexpectedCharacter '&'⟩
        ∧ String.Pos.Raw.IsValid "'é' & b" ⟨5⟩) := by
  have hnames : Token.lex "a b" = .ok [⟨0, .word "a"⟩, ⟨2, .word "b"⟩] := by with_unfolding_all rfl
  have hopen : Token.lex "(a" = .ok [⟨0, .openParen⟩, ⟨1, .word "a"⟩] := by with_unfolding_all rfl
  have hsign : Token.lex "'é' & b" = .error ⟨5, .unexpectedCharacter '&'⟩ := by
    with_unfolding_all rfl
  have hparse : parse "a b" = .error ⟨2, .unexpectedToken (.word "b")⟩ := by with_unfolding_all rfl
  have hparse' : parse "(a" = .error ⟨2, .expectedClosing .closeParen none⟩ := by
    with_unfolding_all rfl
  obtain ⟨hcut, huncut⟩ := (position_of_parse "'é' & b").2.1 _ hsign
  exact ⟨⟨hnames, (position_of_parse "a b").1 _ _ hnames nofun hparse⟩,
    ⟨hopen, (position_of_parse "(a").1 _ _ hopen nofun hparse'⟩,
    hsign, huncut, ((position_of_parse "'é' & b").2.2 _ hcut).2⟩

end DynamicSql.Expr
