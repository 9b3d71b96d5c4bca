/-
The grammar of expressions, as a relation between tokens and trees.

A phrase is one of the nine kinds that the grammar has, from `or`, the loosest,
to the tightest. The kinds with binary operators are all alike: parts of the
next kind with operators between them, put together from the left. So a list
of parts is derived here as a shorter list of them, an operator and one part
more; that is what makes the operators of one level associate to the left.

Nothing in this module speaks of the machine. That it takes just what is
derived here is shown in two halves, `DynamicSql.Proofs.Expr.Acceptance` and
`DynamicSql.Proofs.Expr.Spelling`.
-/
import DynamicSql.Expr.Parser

namespace DynamicSql.Expr

-- ============================================================== phrases

/-- The kinds of phrases, the loosest first. -/
inductive Phrase where
  | or
  | and
  | equality
  | relational
  | additive
  | term
  | unary
  | path
  | primary
deriving DecidableEq, Repr, Inhabited

namespace Phrase

/-- The next tighter kind: that of the parts of a phrase, and of a phrase that
has only one. -/
def part? : Phrase → Option Phrase
  | .or => some .and
  | .and => some .equality
  | .equality => some .relational
  | .relational => some .additive
  | .additive => some .term
  | .term => some .unary
  | .unary => some .path
  | .path => some .primary
  | .primary => none

/-- The operators between the parts of a phrase. -/
def operators : Phrase → List (Token × BinaryOp)
  | .or => [(.word "or", .or), (.symbol .or, .or)]
  | .and => [(.word "and", .and), (.symbol .and, .and)]
  | .equality =>
    [(.symbol .eq, .eq), (.word "eq", .eq), (.symbol .ne, .ne), (.word "neq", .ne)]
  | .relational =>
    [(.symbol .lt, .lt), (.word "lt", .lt), (.symbol .le, .le), (.word "lte", .le),
      (.symbol .gt, .gt), (.word "gt", .gt), (.symbol .ge, .ge), (.word "gte", .ge)]
  | .additive => [(.symbol .plus, .add), (.symbol .minus, .sub)]
  | .term => [(.symbol .star, .mul), (.symbol .slash, .div), (.symbol .percent, .rem)]
  | .unary | .path | .primary => []

/-- How tightly a phrase binds; those with binary operators stand at the level
of these. -/
def rank : Phrase → Nat
  | .or => 0
  | .and => 1
  | .equality => 2
  | .relational => 3
  | .additive => 4
  | .term => 5
  | .unary => 6
  | .path => 7
  | .primary => 8

theorem rank_injective {p q : Phrase} (h : p.rank = q.rank) : p = q := by
  cases p <;> cases q <;> first | rfl | cases h

theorem rank_part {p q : Phrase} (h : p.part? = some q) : q.rank = p.rank + 1 := by
  cases p <;> cases h <;> rfl

/-- A phrase that is not the tightest has parts. -/
theorem exists_part {p q : Phrase} (h : p.rank < q.rank) : ∃ r, p.part? = some r := by
  cases p with
  | primary => cases q <;> exact absurd h (by decide)
  | _ => exact ⟨_, rfl⟩

/-- The phrase that an operator stands in. -/
def of : BinaryOp → Phrase
  | .or => .or
  | .and => .and
  | .eq | .ne => .equality
  | .lt | .le | .gt | .ge => .relational
  | .add | .sub => .additive
  | .mul | .div | .rem => .term

theorem rank_of (op : BinaryOp) : (of op).rank = op.level := by
  cases op <;> rfl

/-- A token is an operator of a phrase if it names one of that level. -/
theorem mem_operators {p : Phrase} {token : Token} {op : BinaryOp} :
    (token, op) ∈ p.operators ↔ BinaryOp.ofToken? token = some op ∧ op.level = p.rank := by
  constructor
  · intro h
    cases p <;> simp only [operators, List.mem_cons, List.not_mem_nil, or_false,
      Prod.mk.injEq] at h
    case or | and | additive =>
      rcases h with h | h <;> rcases h with ⟨rfl, rfl⟩ <;> exact ⟨rfl, rfl⟩
    case equality => rcases h with h | h | h | h <;> rcases h with ⟨rfl, rfl⟩ <;> exact ⟨rfl, rfl⟩
    case relational =>
      rcases h with h | h | h | h | h | h | h | h <;> rcases h with ⟨rfl, rfl⟩ <;> exact ⟨rfl, rfl⟩
    case term => rcases h with h | h | h <;> rcases h with ⟨rfl, rfl⟩ <;> exact ⟨rfl, rfl⟩
  · rintro ⟨hop, hlevel⟩
    obtain rfl : of op = p := rank_injective ((rank_of op).trans hlevel)
    unfold BinaryOp.ofToken? at hop
    split at hop <;> cases hop <;> simp [of, operators]

theorem level_lt_unary (op : BinaryOp) : op.level < unary.rank := by
  cases op <;> decide

/-- The unary operators. -/
def unaryOperators : List (Token × UnaryOp) :=
  [(.symbol .bang, .not), (.word "not", .not), (.symbol .minus, .neg)]

theorem mem_unaryOperators {token : Token} {op : UnaryOp} :
    (token, op) ∈ unaryOperators ↔ UnaryOp.ofToken? token = some op := by
  constructor
  · intro h
    simp only [unaryOperators, List.mem_cons, List.not_mem_nil, or_false, Prod.mk.injEq] at h
    rcases h with h | h | h <;> rcases h with ⟨rfl, rfl⟩ <;> rfl
  · intro h
    unfold UnaryOp.ofToken? at h
    split at h <;> cases h <;> simp [unaryOperators]

end Phrase

-- ========================================================== derivations

/-- The words that are no names where an operand may stand. -/
def reserved : List String := ["null", "true", "false", "not"]

/-- The value of a token that is a literal. -/
def literal? : Token → Option Value
  | .word "null" => some .null
  | .word "true" => some (.bool true)
  | .word "false" => some (.bool false)
  | .int i => some (.int i)
  | .float x => some (.float x)
  | .string s => some (.string s)
  | _ => none

/-- The tokens of arguments, with a comma between each two. -/
def listed (args : List (List Token × Expr)) : List Token :=
  [Token.comma].intercalate (args.map Prod.fst)

/-- The tokens of arguments are those of one of them, and those before and
after it with their commas. -/
theorem listed_append (before : List (List Token × Expr)) (a : List Token × Expr)
    (after : List (List Token × Expr)) :
    listed (before ++ a :: after)
      = (before.flatMap fun b => b.1 ++ [.comma])
        ++ (a.1 ++ after.flatMap fun b => .comma :: b.1) := by
  induction before with
  | nil =>
    induction after generalizing a with
    | nil => simp [listed, List.intercalate]
    | cons b after ih =>
      have hrest := ih b
      simp only [List.nil_append, List.flatMap_nil] at hrest
      have hcons : listed (a :: b :: after) = a.1 ++ .comma :: listed (b :: after) := by
        simp [listed, List.intercalate]
      rw [List.nil_append, hcons, hrest]
      rfl
  | cons b before ih =>
    have hcons : listed (b :: (before ++ a :: after))
        = b.1 ++ [.comma] ++ listed (before ++ a :: after) := by
      cases before <;> simp [listed, List.intercalate]
    rw [List.cons_append, hcons, ih, List.flatMap_cons]
    exact (List.append_assoc ..).symm

/-- The tokens are a phrase of the kind, and it stands for the expression. -/
inductive Derives : Phrase → List Token → Expr → Prop
  | part {p q : Phrase} {ts : List Token} {e : Expr} (hq : p.part? = some q)
    (h : Derives q ts e) : Derives p ts e
  | binary {p q : Phrase} {token : Token} {op : BinaryOp} {ts us : List Token} {l r : Expr}
    (hop : (token, op) ∈ p.operators) (hq : p.part? = some q) (hl : Derives p ts l)
    (hr : Derives q us r) : Derives p (ts ++ token :: us) (.binary op l r)
  | unary {token : Token} {op : UnaryOp} {ts : List Token} {e : Expr}
    (hop : (token, op) ∈ Phrase.unaryOperators) (h : Derives .unary ts e) :
    Derives .unary (token :: ts) (.unary op e)
  | property {ts : List Token} {e : Expr} (name : String) (h : Derives .path ts e) :
    Derives .path (ts ++ [.dot, .word name]) (.property e name)
  | call {ts : List Token} {e : Expr} (name : String) {args : List (List Token × Expr)}
    (h : Derives .path ts e) (hargs : ∀ a ∈ args, Derives .or a.1 a.2) :
    Derives .path (ts ++ .dot :: .word name :: .openParen :: (listed args ++ [.closeParen]))
      (.call e name (args.map Prod.snd))
  | index {ts us : List Token} {e k : Expr} (h : Derives .path ts e) (hk : Derives .or us k) :
    Derives .path (ts ++ .openBracket :: (us ++ [.closeBracket])) (.index e k)
  | literal {token : Token} {v : Value} (h : literal? token = some v) :
    Derives .primary [token] (.literal v)
  | name {name : String} (h : name ∉ reserved) : Derives .primary [.word name] (.var name)
  | group {ts : List Token} {e : Expr} (h : Derives .or ts e) :
    Derives .primary (.openParen :: (ts ++ [.closeParen])) e

namespace Derives

variable {p q : Phrase} {ts us : List Token} {e : Expr}

/-- A phrase is also one of each looser kind. -/
theorem loosen (h : Derives q ts e) (hle : p.rank ≤ q.rank) : Derives p ts e := by
  obtain ⟨n, hn⟩ := Nat.exists_eq_add_of_le hle
  induction n generalizing p with
  | zero =>
    obtain rfl : q = p := Phrase.rank_injective hn
    exact h
  | succ n ih =>
    obtain ⟨r, hr⟩ := Phrase.exists_part (p := p) (q := q) (by omega)
    have hrank := Phrase.rank_part hr
    exact .part hr (ih (by omega) (by omega))

/-- A token that is an operand by itself is a primary phrase, if it is not an
operator there. -/
theorem of_token {token : Token} (hunary : UnaryOp.ofToken? token = none)
    (h : ofToken? token = some e) : Derives .primary [token] e := by
  unfold ofToken? at h
  split at h <;> cases h
  · next name =>
    have hnot : name ≠ "not" := by
      rintro rfl
      cases hunary
    unfold ofWord
    split
    · exact .literal rfl
    · exact .literal rfl
    · exact .literal rfl
    · next hnull htrue hfalse =>
      refine .name ?_
      simp only [reserved, List.mem_cons, List.not_mem_nil, or_false, not_or]
      exact ⟨hnull, htrue, hfalse, hnot⟩
  · exact .literal rfl
  · exact .literal rfl
  · exact .literal rfl

end Derives

theorem ofToken?_of_literal {token : Token} {v : Value} (h : literal? token = some v) :
    UnaryOp.ofToken? token = none ∧ ofToken? token = some (.literal v) := by
  unfold literal? at h
  split at h <;> cases h <;> exact ⟨rfl, rfl⟩

theorem ofToken?_of_name {name : String} (h : name ∉ reserved) :
    UnaryOp.ofToken? (.word name) = none ∧ ofToken? (.word name) = some (.var name) := by
  simp only [reserved, List.mem_cons, List.not_mem_nil, or_false, not_or] at h
  obtain ⟨hnull, htrue, hfalse, hnot⟩ := h
  constructor
  · unfold UnaryOp.ofToken?
    split
    · next heq => cases heq
    · next heq => exact absurd (Token.word.inj heq) hnot
    · next heq => cases heq
    · rfl
  · show some (ofWord name) = _
    unfold ofWord
    split
    · exact absurd rfl hnull
    · exact absurd rfl htrue
    · exact absurd rfl hfalse
    · rfl

end DynamicSql.Expr
