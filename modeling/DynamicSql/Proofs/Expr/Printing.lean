/-
Expressions as text, with no more parentheses than they need.

An operand stands in parentheses if it binds less tightly than its place
demands, and nowhere else (`enclosed`). The places demand what the grammar
demands of them: on the left of an operator its own level, on the right the
next one, since operators of one level associate to the left; after a unary
operator a unary phrase; before a dot or a bracket a path. Between brackets and
commas anything may stand.

# What is shown

The text of an expression is read as that expression (`parse_write`). The
tokens are derived by the grammar, by induction on the expression, so the
machine takes them; and the text is cut into these tokens.

No other text of the same expression has fewer parentheses, whichever spellings
and blanks it uses. This is an induction on how that text is derived: what the
grammar lets stand without parentheses stands without them here.
-/
import DynamicSql.Proofs.Expr.Reading
import DynamicSql.Proofs.Expr.Written

namespace DynamicSql.Expr

-- =============================================================== writing

/-- How an expression is written where there is a choice: the quote around
strings, and the spelling of each operator. -/
structure Style where
  quote : Char
  quote_eq : quote = '\'' ∨ quote = '"'
  binary : BinaryOp → Token
  ofToken?_binary : ∀ op, BinaryOp.ofToken? (binary op) = some op
  unary : UnaryOp → Token
  ofToken?_unary : ∀ op, UnaryOp.ofToken? (unary op) = some op

/-- The token of a literal. Lists and maps have none. -/
def literalToken? : Value → Option Token
  | .null => some (.word "null")
  | .bool true => some (.word "true")
  | .bool false => some (.word "false")
  | .int i => some (.int i)
  | .float x => some (.float x)
  | .string s => some (.string s)
  | .list _ => none
  | .map _ => none

/-- The tightest phrase that an expression is without parentheses around
it. -/
def phrase : Expr → Phrase
  | .literal _ => .primary
  | .var _ => .primary
  | .property _ _ => .path
  | .index _ _ => .path
  | .call _ _ _ => .path
  | .unary _ _ => .unary
  | .binary op _ _ => .of op

/-- The tokens of an expression at a place where a phrase must bind so tightly
at least. -/
def enclosed (rank : Nat) (e : Expr) (ts : List Token) : List Token :=
  if rank ≤ e.phrase.rank then ts else .openParen :: (ts ++ [.closeParen])

mutual

/-- The tokens of an expression. -/
def Style.tokens (s : Style) : Expr → List Token
  | .literal v => (literalToken? v).toList
  | .var name => [.word name]
  | .property e name => enclosed Phrase.path.rank e (s.tokens e) ++ [.dot, .word name]
  | .index e k =>
    enclosed Phrase.path.rank e (s.tokens e) ++ .openBracket :: (s.tokens k ++ [.closeBracket])
  | .call e name args =>
    enclosed Phrase.path.rank e (s.tokens e)
      ++ .dot :: .word name :: .openParen
        :: ([Token.comma].intercalate (s.allTokens args) ++ [.closeParen])
  | .unary op e => s.unary op :: enclosed Phrase.unary.rank e (s.tokens e)
  | .binary op l r =>
    enclosed op.level l (s.tokens l) ++ s.binary op :: enclosed (op.level + 1) r (s.tokens r)

def Style.allTokens (s : Style) : List Expr → List (List Token)
  | [] => []
  | e :: es => s.tokens e :: s.allTokens es

end

/-- The text of an expression. -/
def Style.write (s : Style) (e : Expr) : String :=
  String.ofList (Token.spaced s.quote (s.tokens e))

/-- The expressions that can be written. -/
inductive Writable : Expr → Prop
  | null : Writable (.literal .null)
  | bool (b : Bool) : Writable (.literal (.bool b))
  | int {i : Int64} (h : 0 ≤ i.toInt) : Writable (.literal (.int i))
  | string (s : String) : Writable (.literal (.string s))
  | var {name : String} (hname : Token.isName name = true) (hfree : name ∉ reserved) :
    Writable (.var name)
  | property {e : Expr} {name : String} (h : Writable e) (hname : Token.isName name = true) :
    Writable (.property e name)
  | index {e k : Expr} (h : Writable e) (hk : Writable k) : Writable (.index e k)
  | call {e : Expr} {name : String} {args : List Expr} (h : Writable e)
    (hname : Token.isName name = true) (hargs : ∀ a ∈ args, Writable a) :
    Writable (.call e name args)
  | unary (op : UnaryOp) {e : Expr} (h : Writable e) : Writable (.unary op e)
  | binary (op : BinaryOp) {l r : Expr} (hl : Writable l) (hr : Writable r) :
    Writable (.binary op l r)

namespace Style

variable (s : Style)

theorem allTokens_eq_map (args : List Expr) : s.allTokens args = args.map s.tokens := by
  induction args with
  | nil => rfl
  | cons e es ih => rw [allTokens, ih, List.map_cons]

/-- The arguments of a call, each with its tokens. -/
def arguments (args : List Expr) : List (List Token × Expr) := args.map fun a => (s.tokens a, a)

theorem map_snd_arguments (args : List Expr) : (s.arguments args).map Prod.snd = args := by
  rw [arguments, List.map_map]
  exact List.map_id args

theorem listed_arguments (args : List Expr) :
    listed (s.arguments args) = [Token.comma].intercalate (s.allTokens args) := by
  rw [listed, arguments, List.map_map, allTokens_eq_map]
  rfl

-- =============================================================== reading

/-- Parentheses around what binds too loosely make it fit. -/
theorem derives_enclosed {e : Expr} {ts : List Token} (h : Derives e.phrase ts e) (p : Phrase) :
    Derives p (enclosed p.rank e ts) e := by
  unfold enclosed
  split
  · next hle => exact h.loosen hle
  · have hgroup : Derives .primary (.openParen :: (ts ++ [.closeParen])) e :=
      .group (h.loosen (Nat.zero_le _))
    refine hgroup.loosen ?_
    cases p <;> decide

theorem literal?_of_literalToken? {v : Value} {token : Token} (h : literalToken? v = some token) :
    literal? token = some v := by
  unfold literalToken? at h
  split at h <;> cases h <;> rfl

theorem derives_literal {v : Value} {token : Token} (h : literalToken? v = some token) :
    Derives .primary (s.tokens (.literal v)) (.literal v) := by
  rw [tokens, h]
  exact .literal (literal?_of_literalToken? h)

/-- The grammar derives the tokens of an expression as that expression. -/
theorem derives_tokens {e : Expr} (h : Writable e) : Derives e.phrase (s.tokens e) e := by
  induction h with
  | null => exact s.derives_literal rfl
  | bool b => cases b <;> exact s.derives_literal rfl
  | int h => exact s.derives_literal rfl
  | string text => exact s.derives_literal rfl
  | var _ hfree =>
    rw [tokens]
    exact .name hfree
  | @property e name _ _ ih =>
    rw [tokens]
    exact (derives_enclosed ih .path).property name
  | @index e k _ _ ih ihk =>
    rw [tokens]
    exact (derives_enclosed ih .path).index (ihk.loosen (Nat.zero_le _))
  | @call e name args _ _ _ ih ihargs =>
    have hargs : ∀ a ∈ s.arguments args, Derives .or a.1 a.2 := by
      intro a ha
      obtain ⟨x, hx, rfl⟩ := List.mem_map.mp ha
      exact (ihargs x hx).loosen (Nat.zero_le _)
    have hcall := (derives_enclosed ih .path).call name hargs
    rw [map_snd_arguments, listed_arguments] at hcall
    rw [tokens]
    exact hcall
  | @unary op e _ ih =>
    rw [tokens]
    exact .unary (Phrase.mem_unaryOperators.mpr (s.ofToken?_unary op)) (derives_enclosed ih .unary)
  | @binary op l r _ _ ihl ihr =>
    have hrank := Phrase.rank_of op
    have hop : (s.binary op, op) ∈ (Phrase.of op).operators :=
      Phrase.mem_operators.mpr ⟨s.ofToken?_binary op, hrank.symm⟩
    obtain ⟨q, hq⟩ := Phrase.exists_part (p := .of op) (q := .unary)
      (hrank ▸ Phrase.level_lt_unary op)
    have hleft := derives_enclosed ihl (.of op)
    have hright := derives_enclosed ihr q
    rw [Phrase.rank_part hq] at hright
    rw [hrank] at hleft hright
    rw [tokens]
    exact .binary hop hq hleft hright

-- =============================================================== cutting

theorem legible_of_binary {token : Token} {op : BinaryOp} (h : BinaryOp.ofToken? token = some op) :
    token.Legible := by
  unfold BinaryOp.ofToken? at h
  split at h <;> cases h
  all_goals trivial

theorem legible_of_unary {token : Token} {op : UnaryOp} (h : UnaryOp.ofToken? token = some op) :
    token.Legible := by
  unfold UnaryOp.ofToken? at h
  split at h <;> cases h
  all_goals trivial

theorem legible_enclosed {rank : Nat} {e : Expr} {ts : List Token} (h : ∀ t ∈ ts, t.Legible) :
    ∀ t ∈ enclosed rank e ts, t.Legible := by
  unfold enclosed
  split
  · exact h
  · simp only [List.forall_mem_cons, List.forall_mem_append]
    exact ⟨trivial, h, trivial, fun _ ht => nomatch ht⟩

theorem legible_intercalate {tss : List (List Token)} (h : ∀ ts ∈ tss, ∀ t ∈ ts, t.Legible) :
    ∀ t ∈ [Token.comma].intercalate tss, t.Legible := by
  induction tss with
  | nil => exact fun _ ht => nomatch ht
  | cons ts tss ih =>
    obtain ⟨hfirst, hothers⟩ := List.forall_mem_cons.mp h
    cases tss with
    | nil =>
      rw [List.intercalate_singleton]
      exact hfirst
    | cons us tss =>
      simp only [List.intercalate_cons_cons, List.forall_mem_append, List.forall_mem_singleton]
      exact ⟨⟨hfirst, trivial⟩, ih hothers⟩

/-- The tokens of an expression that can be written are read as they are
written. -/
theorem legible_tokens {e : Expr} (h : Writable e) : ∀ t ∈ s.tokens e, t.Legible := by
  induction h with
  | null => exact List.forall_mem_singleton.mpr rfl
  | bool b => cases b <;> exact List.forall_mem_singleton.mpr rfl
  | int h => exact List.forall_mem_singleton.mpr h
  | string text => exact List.forall_mem_singleton.mpr trivial
  | var hname _ =>
    rw [tokens]
    exact List.forall_mem_singleton.mpr hname
  | property _ hname ih =>
    simp only [tokens, List.forall_mem_append, List.forall_mem_cons]
    exact ⟨legible_enclosed ih, trivial, hname, fun _ ht => nomatch ht⟩
  | index _ _ ih ihk =>
    simp only [tokens, List.forall_mem_append, List.forall_mem_cons]
    exact ⟨legible_enclosed ih, trivial, ihk, trivial, fun _ ht => nomatch ht⟩
  | @call _ _ args _ hname _ ih ihargs =>
    have hargs : ∀ ts ∈ s.allTokens args, ∀ t ∈ ts, t.Legible := by
      rw [allTokens_eq_map]
      exact List.forall_mem_map.mpr ihargs
    simp only [tokens, List.forall_mem_append, List.forall_mem_cons]
    exact ⟨legible_enclosed ih, trivial, hname, trivial, legible_intercalate hargs, trivial,
      fun _ ht => nomatch ht⟩
  | unary op _ ih =>
    rw [tokens]
    exact List.forall_mem_cons.mpr
      ⟨legible_of_unary (s.ofToken?_unary op), legible_enclosed ih⟩
  | binary op _ _ ihl ihr =>
    simp only [tokens, List.forall_mem_append, List.forall_mem_cons]
    exact ⟨legible_enclosed ihl, legible_of_binary (s.ofToken?_binary op), legible_enclosed ihr⟩

-- =========================================================== parentheses

/-- True of the token that opens a parenthesis. -/
def opens : Token → Bool
  | .openParen => true
  | _ => false

/-- How many parentheses are opened. -/
def parens (ts : List Token) : Nat := ts.countP opens

theorem parens_append (ts us : List Token) : parens (ts ++ us) = parens ts + parens us :=
  List.countP_append

theorem parens_openParen_cons (ts : List Token) : parens (.openParen :: ts) = parens ts + 1 :=
  List.countP_cons_of_pos rfl

/-- Other tokens do not count. -/
theorem parens_cons {t : Token} (h : opens t = false) (ts : List Token) :
    parens (t :: ts) = parens ts :=
  List.countP_cons_of_neg (by rw [h]; exact Bool.false_ne_true)

theorem opens_of_binary {token : Token} {op : BinaryOp} (h : BinaryOp.ofToken? token = some op) :
    opens token = false := by
  unfold BinaryOp.ofToken? at h
  split at h <;> cases h <;> rfl

theorem opens_of_unary {token : Token} {op : UnaryOp} (h : UnaryOp.ofToken? token = some op) :
    opens token = false := by
  unfold UnaryOp.ofToken? at h
  split at h <;> cases h <;> rfl

theorem parens_enclosed (rank : Nat) (e : Expr) (ts : List Token) :
    parens (enclosed rank e ts) = if rank ≤ e.phrase.rank then parens ts else parens ts + 1 := by
  unfold enclosed
  split
  · rfl
  · rw [parens_openParen_cons, parens_append, parens_cons rfl]
    rfl

/-- A place that demands less has no more parentheses. -/
theorem parens_enclosed_mono {rank rank' : Nat} (h : rank ≤ rank') (e : Expr) (ts : List Token) :
    parens (enclosed rank e ts) ≤ parens (enclosed rank' e ts) := by
  rw [parens_enclosed, parens_enclosed]
  split <;> split <;> omega

/-- An expression needs no parentheses where its own phrase may stand. -/
theorem enclosed_phrase {p : Phrase} {e : Expr} (h : e.phrase = p) (ts : List Token) :
    enclosed p.rank e ts = ts := if_pos (Nat.le_of_eq (congrArg Phrase.rank h.symm))

/-- The loosest phrase demands nothing. -/
theorem enclosed_or (e : Expr) (ts : List Token) : enclosed Phrase.or.rank e ts = ts :=
  if_pos (Nat.zero_le _)

theorem parens_listed_le {args : List (List Token × Expr)}
    (h : ∀ a ∈ args, parens (s.tokens a.2) ≤ parens a.1) :
    parens ([Token.comma].intercalate (s.allTokens (args.map Prod.snd)))
      ≤ parens (listed args) := by
  rw [allTokens_eq_map, List.map_map, listed]
  induction args with
  | nil => exact Nat.le_refl _
  | cons a args ih =>
    obtain ⟨hfirst, hothers⟩ := List.forall_mem_cons.mp h
    cases args with
    | nil =>
      simp only [List.map_cons, List.map_nil, List.intercalate_singleton, Function.comp_apply]
      exact hfirst
    | cons b args =>
      have hrest := ih hothers
      simp only [List.map_cons, List.intercalate_cons_cons, parens_append, Function.comp_apply]
        at hrest ⊢
      omega

/-- Where the grammar derives an expression, it stands with no fewer
parentheses than it is written with there. -/
theorem parens_le {p : Phrase} {ts : List Token} {e : Expr} (h : Derives p ts e) :
    parens (enclosed p.rank e (s.tokens e)) ≤ parens ts := by
  induction h with
  | @part p q ts e hq _ ih =>
    have hrank := Phrase.rank_part hq
    exact Nat.le_trans (parens_enclosed_mono (by omega) _ _) ih
  | @binary p q token op ts us l r hop hq _ _ ihl ihr =>
    obtain ⟨hread, hlevel⟩ := Phrase.mem_operators.mp hop
    have hphrase : (Expr.binary op l r).phrase = p :=
      Phrase.rank_injective ((Phrase.rank_of op).trans hlevel)
    rw [Phrase.rank_part hq] at ihr
    rw [enclosed_phrase hphrase, tokens, parens_append, parens_append,
      parens_cons (opens_of_binary (s.ofToken?_binary op)), parens_cons (opens_of_binary hread),
      hlevel]
    exact Nat.add_le_add ihl ihr
  | @unary token op ts e hop _ ih =>
    rw [enclosed_phrase (p := .unary) rfl, tokens,
      parens_cons (opens_of_unary (s.ofToken?_unary op)),
      parens_cons (opens_of_unary (Phrase.mem_unaryOperators.mp hop))]
    exact ih
  | property name _ ih =>
    rw [enclosed_phrase (p := .path) rfl, tokens, parens_append, parens_append]
    exact Nat.add_le_add_right ih _
  | @call ts e name args _ _ ih ihargs =>
    have hargs : ∀ a ∈ args, parens (s.tokens a.2) ≤ parens a.1 := by
      intro a ha
      have harg := ihargs a ha
      rwa [enclosed_or] at harg
    have hlisted := s.parens_listed_le hargs
    rw [enclosed_phrase (p := .path) rfl, tokens]
    simp only [parens_append, parens_openParen_cons, parens_cons (t := .dot) rfl,
      parens_cons (t := .word name) rfl]
    omega
  | @index ts us e k _ _ ih ihk =>
    rw [enclosed_or] at ihk
    rw [enclosed_phrase (p := .path) rfl, tokens]
    simp only [parens_append, parens_cons (t := .openBracket) rfl]
    omega
  | @literal token v h =>
    have hnone : parens (s.tokens (.literal v)) = 0 := by
      cases v with
      | bool b => cases b <;> rfl
      | _ => rfl
    rw [enclosed_phrase (p := .primary) rfl, hnone]
    exact Nat.zero_le _
  | @name word _ =>
    have hnone : parens (s.tokens (.var word)) = 0 := by
      rw [tokens]
      rfl
    rw [enclosed_phrase (p := .primary) rfl, hnone]
    exact Nat.zero_le _
  | @group ts e _ ih =>
    have hone : parens (enclosed Phrase.primary.rank e (s.tokens e)) ≤ parens (s.tokens e) + 1 := by
      rw [parens_enclosed]
      split <;> omega
    rw [enclosed_or] at ih
    rw [parens_openParen_cons, parens_append]
    omega

-- ================================================================= texts

/-- The expressions that can be written are read as they were, and there is no
text of the same expression with fewer parentheses. -/
theorem parse_write {e : Expr} (h : Writable e) :
    parse (s.write e) = .ok e
      ∧ ∀ text lexemes, Token.lex text = .ok lexemes → parse text = .ok e →
          parens (s.tokens e) ≤ parens (lexemes.map Lexeme.token) := by
  constructor
  · obtain ⟨lexemes, hlex, htokens⟩ := Token.lex_spaced s.quote_eq (s.legible_tokens h)
    have hd : Derives .or (lexemes.map Lexeme.token) e := by
      rw [htokens]
      exact (s.derives_tokens h).loosen (Nat.zero_le _)
    unfold parse write
    rw [hlex]
    exact ofLexemes_eq_ok.mpr hd
  · intro text lexemes hlex hparse
    unfold parse at hparse
    rw [hlex] at hparse
    have hle := s.parens_le (ofLexemes_eq_ok.mp hparse)
    rwa [enclosed_or] at hle

/-- Words for the operators that have one, and double quotes. -/
def words : Style where
  quote := '"'
  quote_eq := .inr rfl
  binary
    | .or => .word "or"
    | .and => .word "and"
    | .eq => .word "eq"
    | .ne => .word "neq"
    | .lt => .word "lt"
    | .le => .word "lte"
    | .gt => .word "gt"
    | .ge => .word "gte"
    | .add => .symbol .plus
    | .sub => .symbol .minus
    | .mul => .symbol .star
    | .div => .symbol .slash
    | .rem => .symbol .percent
  ofToken?_binary op := by cases op <;> rfl
  unary
    | .not => .word "not"
    | .neg => .symbol .minus
  ofToken?_unary op := by cases op <;> rfl

/-- A difference on the right of a difference, with a sum of conditions in a
path, a variable that is called like an operator, the greatest integer after a
sign, and a string of a quote and a backslash. -/
def nested : Expr :=
  .binary .sub (.var "a")
    (.binary .sub (.unary .neg (.literal (.int 9223372036854775807)))
      (.index (.call (.binary .or (.unary .not (.var "x")) (.var "or")) "get" [.literal .null])
        (.literal (.string "\"\\"))))

theorem parse_write_of_nested :
    Writable nested
      ∧ words.write nested
        = "a - ( - 9223372036854775807 - ( not x or or ) . get ( null ) [ \"\\\"\\\\\" ] )"
      ∧ parse (words.write nested) = .ok nested
      ∧ ∀ text lexemes, Token.lex text = .ok lexemes → parse text = .ok nested →
          3 ≤ parens (lexemes.map Lexeme.token) := by
  have hwritable : Writable nested :=
    .binary _ (.var rfl (by decide)) (.binary _ (.unary _ (.int (by decide)))
      (.index (.call (.binary _ (.unary _ (.var rfl (by decide))) (.var rfl (by decide))) rfl
        (List.forall_mem_singleton.mpr .null)) (.string _)))
  obtain ⟨hparse, hleast⟩ := words.parse_write hwritable
  exact ⟨hwritable, rfl, hparse, hleast⟩

end Style

end DynamicSql.Expr
