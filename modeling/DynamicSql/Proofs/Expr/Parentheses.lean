/-
The parentheses in the text of an expression.

Those of the text are those of its tokens: the tokens that are parentheses, and
what the strings hold of them, in this order. An escape changes none of them,
and no other token has any (`filter_of_lexFrom`). The grammar puts parentheses
only around phrases. So the tokens of an expression are balanced but for its
strings, and the text is balanced if each string is (`balanced_of_parse`). A
string that is not may leave it so or not, which depends on where it stands:
`')' + '('` is not balanced, and `(')' + '(')` is.
-/
import DynamicSql.Proofs.Expr.Reading
import DynamicSql.Proofs.Expr.Surviving
import DynamicSql.Proofs.Text.Balance

namespace DynamicSql

open Text (Balanced isParenthesis balanced_filter filter_dropWhile)

namespace Token

variable {c quote : Char} {cs body rest : List Char} {token : Token}

/-- The parentheses that a token is written with. -/
def parentheses : Token → List Char
  | .openParen => ['(']
  | .closeParen => [')']
  | .string s => s.toList.filter isParenthesis
  | _ => []

-- =============================================================== cutting

theorem isParenthesis_unescape (c : Char) :
    [unescape c].filter isParenthesis = [c].filter isParenthesis := by
  unfold unescape
  split <;> rfl

/-- A string has the parentheses that stand between its quotes. -/
theorem filter_of_stringBody? (hquote : isParenthesis quote = false)
    (h : stringBody? quote cs = some (body, rest)) :
    cs.filter isParenthesis = body.filter isParenthesis ++ rest.filter isParenthesis := by
  fun_induction stringBody? quote cs generalizing body rest with
  | case1 => cases h
  | case2 => cases h
  | case3 c cs ih =>
    obtain ⟨⟨tail, rest⟩, htail, heq⟩ := Option.map_eq_some_iff.mp h
    obtain ⟨rfl, rfl⟩ := Prod.mk.inj heq
    calc ('\\' :: c :: cs).filter isParenthesis
        = [c].filter isParenthesis ++ cs.filter isParenthesis :=
          List.filter_append (p := isParenthesis) [c] cs
      _ = [unescape c].filter isParenthesis
            ++ (tail.filter isParenthesis ++ rest.filter isParenthesis) := by
          rw [isParenthesis_unescape, ih htail]
      _ = (unescape c :: tail).filter isParenthesis ++ rest.filter isParenthesis := by
          rw [← List.append_assoc, ← List.filter_append, List.singleton_append]
  | case4 cs =>
    obtain ⟨rfl, rfl⟩ := Prod.mk.inj (Option.some.inj h)
    exact List.filter_cons_of_neg (by rw [hquote]; exact Bool.false_ne_true)
  | case5 c cs _ _ _ ih =>
    obtain ⟨⟨tail, rest⟩, htail, heq⟩ := Option.map_eq_some_iff.mp h
    obtain ⟨rfl, rfl⟩ := Prod.mk.inj heq
    rw [List.filter_cons, List.filter_cons, ih htail]
    split <;> rfl

theorem isParenthesis_of_isWordChar (c : Char) (h : isWordChar c = true) :
    isParenthesis c = false := by
  cases hc : isParenthesis c with
  | false => rfl
  | true =>
    simp only [isParenthesis, Bool.or_eq_true, beq_iff_eq] at hc
    obtain rfl | rfl := hc <;> cases h

theorem isParenthesis_of_isDigit (c : Char) (h : c.isDigit = true) : isParenthesis c = false :=
  isParenthesis_of_isWordChar c (isWordChar_of_isDigit h)

/-- Numbers take digits and points. -/
theorem filter_of_number (h : number cs = .ok (token, rest)) :
    token.parentheses = [] ∧ rest.filter isParenthesis = cs.filter isParenthesis := by
  have hdigits := filter_dropWhile isParenthesis_of_isDigit
  unfold number at h
  simp only [] at h
  split at h
  · next hfraction =>
    obtain ⟨rfl, rfl⟩ := Prod.mk.inj (Except.ok.inj h)
    obtain ⟨tail, htail⟩ := exists_of_beginsFraction hfraction
    refine ⟨rfl, ?_⟩
    rw [hdigits, ← hdigits cs, htail]
    rfl
  · split at h
    · obtain ⟨rfl, rfl⟩ := Prod.mk.inj (Except.ok.inj h)
      exact ⟨rfl, hdigits cs⟩
    · cases h

theorem filter_of_symbol? {s : Symbol} (h : symbol? c cs = some (s, rest)) :
    (c :: cs).filter isParenthesis = rest.filter isParenthesis := by
  unfold symbol? at h
  split at h <;> cases h <;> rfl

theorem filter_of_scan (h : scan c cs = .ok (token, rest)) :
    (c :: cs).filter isParenthesis = token.parentheses ++ rest.filter isParenthesis := by
  unfold scan at h
  split at h
  · next t hbracket =>
    obtain ⟨rfl, rfl⟩ := Prod.mk.inj (Except.ok.inj h)
    unfold bracket? at hbracket
    split at hbracket <;> cases hbracket <;> rfl
  · split at h
    · next hquote =>
      split at h
      · next body rest' hbody =>
        obtain ⟨rfl, rfl⟩ := Prod.mk.inj (Except.ok.inj h)
        have hnot : isParenthesis c = false := by obtain rfl | rfl := hquote <;> rfl
        rw [List.filter_cons_of_neg (by rw [hnot]; exact Bool.false_ne_true),
          filter_of_stringBody? hnot hbody, parentheses, String.toList_ofList]
      · cases h
    · split at h
      · obtain ⟨hnone, hrest⟩ := filter_of_number h
        rw [hnone, hrest]
        rfl
      · split at h
        · next hdot =>
          obtain ⟨rfl, rfl⟩ := Prod.mk.inj (Except.ok.inj h)
          rw [hdot]
          rfl
        · split at h
          · next hstart =>
            obtain ⟨rfl, rfl⟩ := Prod.mk.inj (Except.ok.inj h)
            have hc := isParenthesis_of_isWordChar c
              (LoopVariable.isWordChar_of_isWordStart hstart)
            rw [List.filter_cons_of_neg (by rw [hc]; exact Bool.false_ne_true),
              filter_dropWhile isParenthesis_of_isWordChar]
            rfl
          · split at h
            · next s rest' hsymbol =>
              obtain ⟨rfl, rfl⟩ := Prod.mk.inj (Except.ok.inj h)
              exact filter_of_symbol? hsymbol
            · cases h

/-- The parentheses of a text are those of its tokens. -/
theorem filter_of_lexFrom {offset : Nat} {cs : List Char} :
    ∀ lexemes, lexFrom offset cs = .ok lexemes →
      cs.filter isParenthesis = (lexemes.map Lexeme.token).flatMap parentheses := by
  fun_induction lexFrom offset cs with
  | case1 =>
    intro lexemes h
    obtain rfl := Except.ok.inj h
    rfl
  | case2 offset c cs hblank ih =>
    intro lexemes h
    have hc : isParenthesis c = false := by
      simp only [Text.isAsciiBlank, Bool.or_eq_true, beq_iff_eq] at hblank
      obtain (((rfl | rfl) | rfl) | rfl) | rfl := hblank <;> rfl
    rw [List.filter_cons_of_neg (by rw [hc]; exact Bool.false_ne_true), ih lexemes h]
  | case3 =>
    intro lexemes h
    cases h
  | case4 offset c cs hblank token rest hscan size ih =>
    intro lexemes h
    cases hcut : lexFrom (offset + size) rest with
    | error e =>
      rw [hcut] at h
      cases h
    | ok others =>
      rw [hcut] at h
      obtain rfl := Except.ok.inj h
      rw [filter_of_scan hscan, ih others hcut]
      rfl

end Token

-- ============================================================ expressions

namespace Expr

/-- The strings among tokens are balanced. -/
def StringsBalanced (ts : List Token) : Prop := ∀ s ∈ Token.strings ts, Balanced s.toList

theorem StringsBalanced.mono {ts us : List Token} (h : StringsBalanced ts) (hsub : us ⊆ ts) :
    StringsBalanced us := fun s hs =>
  have ⟨t, ht, hstring⟩ := List.mem_filterMap.mp hs
  h s (List.mem_filterMap.mpr ⟨t, hsub ht, hstring⟩)

theorem parentheses_of_operator {p : Phrase} {token : Token} {op : BinaryOp}
    (h : (token, op) ∈ p.operators) : token.parentheses = [] := by
  have hop := (Phrase.mem_operators.mp h).1
  unfold BinaryOp.ofToken? at hop
  split at hop <;> first | rfl | cases hop

theorem parentheses_of_unary {token : Token} {op : UnaryOp}
    (h : (token, op) ∈ Phrase.unaryOperators) : token.parentheses = [] := by
  have hop := Phrase.mem_unaryOperators.mp h
  unfold UnaryOp.ofToken? at hop
  split at hop <;> first | rfl | cases hop

/-- The tokens of a phrase are balanced if its strings are. -/
theorem Derives.balanced {p : Phrase} {ts : List Token} {e : Expr} (h : Derives p ts e)
    (hstrings : StringsBalanced ts) : Balanced (ts.flatMap Token.parentheses) := by
  induction h with
  | part _ _ ih => exact ih hstrings
  | binary hop _ _ _ ihl ihr =>
    rw [List.flatMap_append, List.flatMap_cons, parentheses_of_operator hop]
    exact (ihl (hstrings.mono (List.subset_append_left _ _))).append
      (ihr (hstrings.mono fun t ht => List.mem_append_right _ (List.mem_cons_of_mem _ ht)))
  | unary hop _ ih =>
    rw [List.flatMap_cons, parentheses_of_unary hop]
    exact ih (hstrings.mono (List.subset_cons_self _ _))
  | property name _ ih =>
    rw [List.flatMap_append]
    exact (ih (hstrings.mono (List.subset_append_left _ _))).append rfl
  | @call ts e name args _ _ ih ihargs =>
    have hlisted : Balanced ((listed args).flatMap Token.parentheses) := by
      have hmem : ∀ a ∈ args, Balanced (a.1.flatMap Token.parentheses) := by
        intro a ha
        obtain ⟨before, after, rfl⟩ := List.append_of_mem ha
        refine ihargs a ha (hstrings.mono fun t ht => ?_)
        rw [listed_append]
        simp [ht]
      cases args with
      | nil => rfl
      | cons a rest =>
        have hrest :
            Balanced ((rest.flatMap fun b => .comma :: b.1).flatMap Token.parentheses) := by
          rw [List.flatMap_assoc]
          exact Balanced.flatMap fun b hb => hmem b (List.mem_cons_of_mem a hb)
        have hhead := listed_append [] a rest
        rw [List.nil_append] at hhead
        rw [hhead, List.flatMap_append, List.flatMap_append]
        exact Balanced.append rfl ((hmem a List.mem_cons_self).append hrest)
    rw [List.flatMap_append]
    refine (ih (hstrings.mono (List.subset_append_left _ _))).append ?_
    have hcall := hlisted.enclosed
    simpa [List.flatMap_cons, Token.parentheses] using hcall
  | @index ts us e k _ _ ih ihk =>
    rw [List.flatMap_append]
    refine (ih (hstrings.mono (List.subset_append_left _ _))).append ?_
    have hkey := ihk (hstrings.mono fun t ht => by simp [ht])
    simpa [List.flatMap_cons, Token.parentheses] using hkey
  | @literal token v h =>
    cases token with
    | string s =>
      rw [List.flatMap_singleton, Token.parentheses, balanced_filter]
      exact hstrings s List.mem_cons_self
    | openParen => cases h
    | closeParen => cases h
    | _ => rfl
  | name _ => rfl
  | @group ts e _ ih =>
    have hinside := (ih (hstrings.mono fun t ht => by simp [ht])).enclosed
    simpa [List.flatMap_cons, Token.parentheses] using hinside

/-- The text of an expression is balanced if each string in it is. -/
theorem balanced_of_parse {text : String} {e : Expr} (h : parse text = .ok e)
    (hstrings : ∀ s ∈ e.strings, Balanced s.toList) : Balanced text.toList := by
  unfold parse at h
  cases hlex : Token.lex text with
  | error e =>
    rw [hlex] at h
    cases h
  | ok lexemes =>
    rw [hlex] at h
    have hderives : Derives .or (lexemes.map Lexeme.token) e := ofLexemes_eq_ok.mp h
    rw [hderives.strings_eq] at hstrings
    rw [← balanced_filter, Token.filter_of_lexFrom lexemes hlex]
    exact hderives.balanced hstrings

end Expr

end DynamicSql
