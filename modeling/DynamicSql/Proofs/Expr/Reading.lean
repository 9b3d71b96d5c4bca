/-
Which token lists are expressions, and what their words stand for.

A list of tokens is read as an expression exactly if the grammar derives it as
one, and then it is one expression only (`ofLexemes_eq_ok_iff_derives`). The two
halves are `DynamicSql.Proofs.Expr.Acceptance` and
`DynamicSql.Proofs.Expr.Spelling`; that there is one expression only comes from
both, since the machine has one answer.

# Words that name operators

Eight words are operators, but only where an operator may stand. Which places
these are is said of the grammar: those where a plus sign may stand, which is
never anything but an operator between two operands (`OperatorNext`). There
such a word means what its sign means. Anywhere else it is a name like any
other one, and another name may take its place (`NameHole`).

The first half is about the machine, which knows in each place whether an
operand is complete. The second is an induction on the derivation, which finds
the place of the word in it: as an operator between parts, of which the left one
could as well go on with a plus sign, or as a name.
-/
import DynamicSql.Proofs.Expr.Spelling

namespace DynamicSql.Expr

variable {p q : Phrase} {ts us before after : List Token} {e : Expr}

/-- What the grammar derives is what the machine takes and completes. -/
theorem derives_iff :
    Derives .or ts e ↔ ∃ last, Machine.start.feed ts = .ok last ∧ last.finish = .ok e :=
  ⟨Machine.feed_of_derives, fun ⟨_, hfeed, hfinish⟩ => Machine.derives_of_feed hfeed hfinish⟩

theorem ofLexemes_eq_ok {stop : Nat} {lexemes : List Lexeme} :
    ofLexemes stop lexemes = .ok e ↔ Derives .or (lexemes.map Lexeme.token) e := by
  rw [derives_iff]
  cases lexemes with
  | nil =>
    constructor
    · intro h
      cases h
    · rintro ⟨last, hfeed, hfinish⟩
      obtain rfl := Except.ok.inj hfeed
      cases hfinish
  | cons lexeme rest => exact Machine.run_eq_ok

/-- Tokens stand for one expression at the most. -/
theorem Derives.unique {e' : Expr} (h : Derives .or ts e) (h' : Derives .or ts e') : e = e' := by
  obtain ⟨last, hfeed, hfinish⟩ := derives_iff.mp h
  obtain ⟨last', hfeed', hfinish'⟩ := derives_iff.mp h'
  obtain rfl := Except.ok.inj (hfeed.symm.trans hfeed')
  exact Except.ok.inj (hfinish.symm.trans hfinish')

-- ================================================================ places

/-- An operator may stand after the tokens. -/
def OperatorNext (before : List Token) : Prop :=
  ∃ after e, Derives .or (before ++ .symbol .plus :: after) e

/-- The words that name operators, and the signs of these. -/
def operatorWords : List (String × Symbol) :=
  [("or", .or), ("and", .and), ("eq", .eq), ("neq", .ne), ("lt", .lt), ("lte", .le), ("gt", .gt),
    ("gte", .ge)]

theorem ofToken?_of_operatorWord {word : String} {sign : Symbol}
    (h : (word, sign) ∈ operatorWords) :
    ∃ op, BinaryOp.ofToken? (.word word) = some op
      ∧ BinaryOp.ofToken? (.symbol sign) = some op := by
  simp only [operatorWords, List.mem_cons, List.not_mem_nil, or_false, Prod.mk.injEq] at h
  rcases h with h | h | h | h | h | h | h | h <;> obtain ⟨rfl, rfl⟩ := h <;> exact ⟨_, rfl, rfl⟩

/-- The grammar keeps none of them from being a name. -/
theorem not_mem_reserved_of_operatorWord {word : String} {sign : Symbol}
    (h : (word, sign) ∈ operatorWords) : word ∉ reserved := by
  have hall : ∀ pair ∈ operatorWords, pair.1 ∉ reserved := by decide
  exact hall _ h

/-- Where a plus sign may stand, an operand is complete. -/
theorem OperatorNext.operand? (h : OperatorNext before) :
    ∃ frames phase e, Machine.start.feed before = .ok ⟨frames, phase⟩
      ∧ phase.operand? = some e := by
  obtain ⟨after, e, hderives⟩ := h
  obtain ⟨last, hfeed, -⟩ := derives_iff.mp hderives
  obtain ⟨⟨frames, phase⟩, hbefore, hplus⟩ := Machine.exists_feed_of_append hfeed
  cases phase with
  | operand => cases hplus
  | firstArgument => cases hplus
  | memberName target => cases hplus
  | member target name => exact ⟨frames, _, _, hbefore, rfl⟩
  | complete operand => exact ⟨frames, _, _, hbefore, rfl⟩

/-- In such a place, tokens that name one operator have one meaning. -/
theorem OperatorNext.derives_congr (h : OperatorNext before) {token token' : Token}
    {op : BinaryOp} (htoken : BinaryOp.ofToken? token = some op)
    (htoken' : BinaryOp.ofToken? token' = some op) (hd : Derives .or (before ++ token :: after) e) :
    Derives .or (before ++ token' :: after) e := by
  obtain ⟨frames, phase, x, hbefore, hphase⟩ := h.operand?
  have hstep : ∀ {t : Token}, BinaryOp.ofToken? t = some op →
      Machine.step ⟨frames, phase⟩ t = .ok ⟨.binary op (Machine.collapse op.level frames x).2
        :: (Machine.collapse op.level frames x).1, .operand⟩ := by
    intro t ht
    have hopen : t ≠ .openParen := by
      rintro rfl
      cases ht
    rw [Machine.step_of_operand hphase hopen, Machine.onComplete_operator ht]
  have hfeed : Machine.start.feed (before ++ token :: after)
      = Machine.start.feed (before ++ token' :: after) := by
    rw [Machine.feed_append_of_ok hbefore, Machine.feed_append_of_ok hbefore,
      Machine.feed_cons_of_ok (hstep htoken), Machine.feed_cons_of_ok (hstep htoken')]
  rw [derives_iff] at hd ⊢
  rwa [← hfeed]

-- ================================================================= names

/-- An expression with a gap in the place of one name. -/
inductive NameHole where
  | variable
  | propertyName (target : Expr)
  | methodName (receiver : Expr) (args : List Expr)
  | property (target : NameHole) (name : String)
  | indexed (target : NameHole) (key : Expr)
  | index (target : Expr) (key : NameHole)
  | called (receiver : NameHole) (method : String) (args : List Expr)
  | argument (receiver : Expr) (method : String) (before : List Expr) (arg : NameHole)
    (after : List Expr)
  | unary (op : UnaryOp) (operand : NameHole)
  | left (op : BinaryOp) (part : NameHole) (right : Expr)
  | right (op : BinaryOp) (left : Expr) (part : NameHole)

/-- The expression with a name in the gap. -/
def NameHole.fill (name : String) : NameHole → Expr
  | .variable => .var name
  | .propertyName target => .property target name
  | .methodName receiver args => .call receiver name args
  | .property hole own => .property (hole.fill name) own
  | .indexed hole key => .index (hole.fill name) key
  | .index target hole => .index target (hole.fill name)
  | .called hole method args => .call (hole.fill name) method args
  | .argument receiver method before hole after =>
    .call receiver method (before ++ hole.fill name :: after)
  | .unary op hole => .unary op (hole.fill name)
  | .left op hole r => .binary op (hole.fill name) r
  | .right op l hole => .binary op l (hole.fill name)

/-- A name at this place of a phrase can be any other one. -/
def NamedAt (p : Phrase) (before : List Token) (name : String) (after : List Token) (e : Expr) :
    Prop :=
  ∃ hole : NameHole, hole.fill name = e
    ∧ ∀ other, other ∉ reserved → Derives p (before ++ .word other :: after) (hole.fill other)

/-- After the beginning of a phrase it can go on with a plus sign. -/
def GoesOn (p : Phrase) (before : List Token) : Prop :=
  ∃ after e, Derives p (before ++ .symbol .plus :: after) e

theorem Derives.sum_goesOn (h : Derives .additive ts e) : GoesOn .additive ts := by
  have hplus : (Token.symbol .plus, BinaryOp.add) ∈ Phrase.additive.operators :=
    List.mem_cons_self ..
  have hone : Derives .term [.int 0] (.literal (.int 0)) :=
    (Derives.literal rfl).loosen (by decide)
  exact ⟨_, _, .binary hplus rfl h hone⟩

/-- A phrase that binds no tighter than sums goes on with a plus sign. -/
theorem Derives.goesOn (h : Derives p ts e) (hle : p.rank ≤ Phrase.additive.rank) :
    GoesOn p ts := by
  have htighter : ∀ {p q : Phrase}, p.rank ≤ Phrase.additive.rank → p ≠ .additive →
      p.part? = some q → q.rank ≤ Phrase.additive.rank := by
    intro p q hle hp hq
    have hne : p.rank ≠ Phrase.additive.rank := fun hrank => hp (Phrase.rank_injective hrank)
    rw [Phrase.rank_part hq]
    omega
  induction h with
  | @part p q _ _ hq h ih =>
    by_cases hp : p = .additive
    · subst hp
      exact (Derives.part hq h).sum_goesOn
    · obtain ⟨after, e', hd⟩ := ih (htighter hle hp hq)
      exact ⟨after, e', .part hq hd⟩
  | @binary p q _ _ _ _ _ _ hop hq hl hr _ ih =>
    by_cases hp : p = .additive
    · subst hp
      exact (Derives.binary hop hq hl hr).sum_goesOn
    · obtain ⟨after, e', hd⟩ := ih (htighter hle hp hq)
      have hwhole := Derives.binary hop hq hl hd
      rw [← List.cons_append, ← List.append_assoc] at hwhole
      exact ⟨after, _, hwhole⟩
  | _ => exact absurd hle (by decide)

-- =========================================================== occurrences

theorem Phrase.rank_le_of_word {name : String} {op : BinaryOp}
    (h : (Token.word name, op) ∈ p.operators) : p.rank ≤ Phrase.additive.rank := by
  cases p with
  | term => simp [operators] at h
  | unary => cases h
  | path => cases h
  | primary => cases h
  | _ => exact Nat.le_of_ble_eq_true rfl

/-- An element of two lists put together is one of the first or of the
second. -/
theorem split_append {α : Type} {xs ys before after : List α} {x : α}
    (h : xs ++ ys = before ++ x :: after) :
    (∃ mid, xs = before ++ x :: mid ∧ after = mid ++ ys)
      ∨ ∃ mid, before = xs ++ mid ∧ ys = mid ++ x :: after := by
  rcases List.append_eq_append_iff.mp h with h | ⟨mid, rfl, hmid⟩
  · exact Or.inr h
  · cases mid with
    | nil => exact Or.inr ⟨[], by simp, hmid.symm⟩
    | cons y mid =>
      obtain ⟨rfl, rfl⟩ := List.cons.inj hmid
      exact Or.inl ⟨mid, rfl, rfl⟩

theorem split_cons {α : Type} {y : α} {ys before after : List α} {x : α} (hne : y ≠ x)
    (h : y :: ys = before ++ x :: after) : ∃ mid, before = y :: mid ∧ ys = mid ++ x :: after := by
  cases before with
  | nil => exact absurd (List.cons.inj h).1 hne
  | cons z mid =>
    obtain ⟨rfl, htail⟩ := List.cons.inj h
    exact ⟨mid, rfl, htail⟩

theorem split_singleton {α : Type} {y : α} {before after : List α} {x : α}
    (h : [y] = before ++ x :: after) : before = [] ∧ y = x ∧ after = [] := by
  cases before with
  | nil =>
    obtain ⟨rfl, rfl⟩ := List.cons.inj h
    exact ⟨rfl, rfl, rfl⟩
  | cons z mid =>
    have hend := (List.cons.inj h).2
    cases mid <;> cases hend

theorem split_concat {α : Type} {y : α} {xs before after : List α} {x : α} (hne : y ≠ x)
    (h : xs ++ [y] = before ++ x :: after) :
    ∃ mid, xs = before ++ x :: mid ∧ after = mid ++ [y] := by
  rcases split_append h with hin | ⟨mid, -, hend⟩
  · exact hin
  · obtain ⟨mid', -, hnil⟩ := split_cons hne hend
    cases mid' <;> cases hnil

/-- A word among the tokens of arguments is one of an argument. -/
theorem split_listed {args : List (List Token × Expr)} {name : String}
    (h : listed args = before ++ .word name :: after) :
    ∃ first a last before' after', args = first ++ a :: last
      ∧ a.1 = before' ++ .word name :: after'
      ∧ before = (first.flatMap fun b => b.1 ++ [.comma]) ++ before'
      ∧ after = after' ++ last.flatMap fun b => .comma :: b.1 := by
  induction args generalizing before with
  | nil => cases before <;> cases h
  | cons a rest ih =>
    have hhead := listed_append [] a rest
    simp only [List.nil_append, List.flatMap_nil] at hhead
    rw [hhead] at h
    rcases split_append h with ⟨mid, ha, rfl⟩ | ⟨mid, rfl, hrest⟩
    · exact ⟨[], a, rest, before, mid, rfl, ha, rfl, rfl⟩
    · cases rest with
      | nil => cases mid <;> cases hrest
      | cons b rest =>
        obtain ⟨mid, rfl, htail⟩ := split_cons (by simp) hrest
        have hlisted : listed (b :: rest) = mid ++ .word name :: after := by
          have hb := listed_append [] b rest
          simp only [List.nil_append, List.flatMap_nil] at hb
          rw [hb]
          exact htail
        obtain ⟨first, c, last, before', after', heq, hc, rfl, rfl⟩ := ih hlisted
        exact ⟨a :: first, c, last, before', after', by rw [heq]; rfl, hc, by simp, rfl⟩

/-- A word that is a literal is reserved. -/
theorem mem_reserved_of_literal {name : String} {v : Value}
    (h : literal? (.word name) = some v) : name ∈ reserved := by
  by_cases hname : name ∈ reserved
  · exact hname
  · cases (ofToken?_of_literal h).2.symm.trans (ofToken?_of_name hname).2

/-- So is one that is an operator before its operand. -/
theorem mem_reserved_of_unary {name : String} {op : UnaryOp}
    (h : (.word name, op) ∈ Phrase.unaryOperators) : name ∈ reserved := by
  simp only [Phrase.unaryOperators, List.mem_cons, List.not_mem_nil, or_false,
    Prod.mk.injEq, reduceCtorEq, false_and, false_or, Token.word.injEq] at h
  rw [h.1]
  decide

/-- A word in a phrase is an operator, where the phrase could as well go on
with a plus sign, or it is a name. -/
def Stands (p : Phrase) (before : List Token) (name : String) (after : List Token) (e : Expr) :
    Prop :=
  GoesOn p before ∨ NamedAt p before name after e

/-- What a word is in a phrase, it is in each phrase around. -/
theorem Stands.within {name : String} (h : Stands q before name after e)
    (pre post : List Token) (around : Expr → Expr) (aroundHole : NameHole → NameHole)
    {outerBefore outerAfter : List Token}
    (hderives : ∀ {us x}, Derives q us x → Derives p (pre ++ us ++ post) (around x))
    (hfill : ∀ hole other, (aroundHole hole).fill other = around (hole.fill other))
    (hbefore : outerBefore = pre ++ before) (hafter : outerAfter = after ++ post) :
    Stands p outerBefore name outerAfter (around e) := by
  subst hbefore hafter
  rcases h with ⟨us, x, hd⟩ | ⟨hole, rfl, hd⟩
  · refine .inl ⟨us ++ post, around x, ?_⟩
    simpa using hderives hd
  · refine .inr ⟨aroundHole hole, hfill hole name, fun other ho => ?_⟩
    rw [hfill]
    simpa using hderives (hd other ho)

/-- What a word is in an argument, it is in the call. -/
theorem Stands.argument {name : String} {a : List Token × Expr}
    {first last : List (List Token × Expr)} {receiver : Expr}
    (hstands : Stands .or before name after a.2) (h : Derives .path ts receiver)
    (method : String) (hargs : ∀ b ∈ first ++ a :: last, Derives .or b.1 b.2) :
    Stands .path
      (ts ++ .dot :: .word method :: .openParen
        :: ((first.flatMap fun b => b.1 ++ [.comma]) ++ before)) name
      (after ++ ((last.flatMap fun b => .comma :: b.1) ++ [.closeParen]))
      (.call receiver method ((first ++ a :: last).map Prod.snd)) := by
  have hother : ∀ {us x}, Derives .or us x →
      ∀ b ∈ first ++ (us, x) :: last, Derives .or b.1 b.2 := by
    intro us x hd b hb
    rcases List.mem_append.mp hb with hb | hb
    · exact hargs b (List.mem_append_left _ hb)
    · rcases List.mem_cons.mp hb with rfl | hb
      · exact hd
      · exact hargs b (List.mem_append_right _ (List.mem_cons_of_mem _ hb))
  rw [List.map_append, List.map_cons]
  refine hstands.within
    (ts ++ .dot :: .word method :: .openParen :: first.flatMap fun b => b.1 ++ [.comma])
    ((last.flatMap fun b => .comma :: b.1) ++ [.closeParen])
    (fun x => .call receiver method (first.map Prod.snd ++ x :: last.map Prod.snd))
    (.argument receiver method (first.map Prod.snd) · (last.map Prod.snd))
    (fun hd => ?_) (fun _ _ => rfl) (by simp) rfl
  have hcall := h.call method (hother hd)
  rw [listed_append] at hcall
  simpa using hcall

theorem Derives.stands (h : Derives p ts e) {name : String} (hname : name ∉ reserved)
    (hts : ts = before ++ .word name :: after) : Stands p before name after e := by
  induction h generalizing before after with
  | part hq _ ih =>
    refine (ih hts).within [] [] id id (fun hd => ?_) (fun _ _ => rfl) (List.nil_append _).symm
      (List.append_nil _).symm
    rw [List.nil_append, List.append_nil]
    exact .part hq hd
  | @binary p q token op ts us l r hop hq hl hr ihl ihr =>
    rcases split_append hts with ⟨mid, hin, rfl⟩ | ⟨mid, rfl, hin⟩
    · exact (ihl hin).within [] _ (.binary op · r) (.left op · r)
        (fun hd => .binary hop hq hd hr) (fun _ _ => rfl) rfl rfl
    · cases mid with
      | nil =>
        -- The word is the operator, so the phrase is looser than a sum.
        obtain ⟨rfl, rfl⟩ := List.cons.inj hin
        rw [List.append_nil]
        exact .inl (hl.goesOn (Phrase.rank_le_of_word hop))
      | cons t mid =>
        obtain ⟨rfl, hright⟩ := List.cons.inj hin
        refine (ihr hright).within (ts ++ [token]) [] (.binary op l ·) (.right op l ·)
          (fun hd => ?_) (fun _ _ => rfl) (by simp) (by simp)
        simpa using Derives.binary hop hq hl hd
  | @unary token op ts e hop h ih =>
    cases before with
    | nil =>
      -- The word is the operator, and that one is reserved.
      obtain ⟨rfl, -⟩ := List.cons.inj hts
      exact absurd (mem_reserved_of_unary hop) hname
    | cons t before =>
      obtain ⟨rfl, hin⟩ := List.cons.inj hts
      refine (ih hin).within [token] [] (.unary op ·) (.unary op ·)
        (fun hd => ?_) (fun _ _ => rfl) rfl (by simp)
      simpa using Derives.unary hop hd
  | @property ts e own h ih =>
    rcases split_append hts with ⟨mid, hin, rfl⟩ | ⟨mid, rfl, hin⟩
    · exact (ih hin).within [] _ (.property · own) (.property · own)
        (fun hd => hd.property own) (fun _ _ => rfl) rfl rfl
    · obtain ⟨mid, rfl, hrest⟩ := split_cons (by simp) hin
      obtain ⟨rfl, hown, rfl⟩ := split_singleton hrest
      obtain rfl := Token.word.inj hown
      refine .inr ⟨.propertyName e, rfl, fun other _ => ?_⟩
      rw [List.append_assoc]
      exact h.property other
  | @call ts e own args h hargs ih ihargs =>
    rcases split_append hts with ⟨mid, hin, rfl⟩ | ⟨mid, rfl, hin⟩
    · exact (ih hin).within [] _ (.call · own (args.map Prod.snd))
        (.called · own (args.map Prod.snd))
        (fun hd => hd.call own hargs) (fun _ _ => rfl) rfl rfl
    · obtain ⟨mid, rfl, hrest⟩ := split_cons (by simp) hin
      cases mid with
      | nil =>
        obtain ⟨hown, rfl⟩ := List.cons.inj hrest
        obtain rfl := Token.word.inj hown
        refine .inr ⟨.methodName e (args.map Prod.snd), rfl, fun other _ => ?_⟩
        rw [List.append_assoc]
        exact h.call other hargs
      | cons t mid =>
        obtain ⟨rfl, hopen⟩ := List.cons.inj hrest
        obtain ⟨mid, rfl, hargument⟩ := split_cons (by simp) hopen
        obtain ⟨mid', hlisted, rfl⟩ := split_concat (by simp) hargument
        obtain ⟨first, a, last, before', after', rfl, ha, rfl, rfl⟩ := split_listed hlisted
        simpa using (ihargs a (by simp) ha).argument h own hargs
  | @index ts us e k h hk ih ihk =>
    rcases split_append hts with ⟨mid, hin, rfl⟩ | ⟨mid, rfl, hin⟩
    · exact (ih hin).within [] _ (.index · k) (.indexed · k)
        (fun hd => hd.index hk) (fun _ _ => rfl) rfl rfl
    · obtain ⟨mid, rfl, hkey⟩ := split_cons (by simp) hin
      obtain ⟨mid', hkey', rfl⟩ := split_concat (by simp) hkey
      refine (ihk hkey').within (ts ++ [.openBracket]) [.closeBracket] (.index e ·) (.index e ·)
        (fun hd => ?_) (fun _ _ => rfl) (by simp) rfl
      simpa using h.index hd
  | @literal token v h =>
    obtain ⟨-, rfl, -⟩ := split_singleton hts
    exact absurd (mem_reserved_of_literal h) hname
  | @name own h =>
    obtain ⟨rfl, hown, rfl⟩ := split_singleton hts
    obtain rfl := Token.word.inj hown
    exact .inr ⟨.variable, rfl, fun other ho => .name ho⟩
  | @group ts e h ih =>
    obtain ⟨mid, rfl, hcontent⟩ := split_cons (by simp) hts
    obtain ⟨mid', hcontent', rfl⟩ := split_concat (by simp) hcontent
    refine (ih hcontent').within [.openParen] [.closeParen] id id (fun hd => ?_)
      (fun _ _ => rfl) rfl rfl
    exact hd.group

-- ============================================================== reading

/-- Tokens are read as an expression exactly if the grammar derives them as one,
there is one such expression at the most, and where there is none the answer is
an error. A word that names an operator means what its sign means where an
operator may stand, and is a name like any other one everywhere else. -/
theorem ofLexemes_eq_ok_iff_derives (stop : Nat) (lexemes : List Lexeme) :
    (∀ e, ofLexemes stop lexemes = .ok e ↔ Derives .or (lexemes.map Lexeme.token) e)
      ∧ ((∃ error, ofLexemes stop lexemes = .error error)
        ↔ ∀ e, ¬Derives .or (lexemes.map Lexeme.token) e)
      ∧ (∀ e e', Derives .or (lexemes.map Lexeme.token) e →
        Derives .or (lexemes.map Lexeme.token) e' → e = e')
      ∧ ∀ before word sign after, (word, sign) ∈ operatorWords →
          (OperatorNext before → ∀ e, Derives .or (before ++ .word word :: after) e
            ↔ Derives .or (before ++ .symbol sign :: after) e)
          ∧ (¬OperatorNext before → ∀ e name, name = word ∨ name ∉ reserved →
            Derives .or (before ++ .word name :: after) e →
              NamedAt .or before name after e) := by
  refine ⟨fun e => ofLexemes_eq_ok, ?_, fun _ _ => Derives.unique, ?_⟩
  · constructor
    · rintro ⟨error, herror⟩ e hd
      cases herror.symm.trans (ofLexemes_eq_ok.mpr hd)
    · intro hnone
      cases hread : ofLexemes stop lexemes with
      | error error => exact ⟨error, rfl⟩
      | ok e => exact absurd (ofLexemes_eq_ok.mp hread) (hnone e)
  · intro before word sign after hword
    refine ⟨fun hnext e => ?_, fun hnext e name hname hd => ?_⟩
    · obtain ⟨op, htoken, hsign⟩ := ofToken?_of_operatorWord hword
      exact ⟨hnext.derives_congr htoken hsign, hnext.derives_congr hsign htoken⟩
    · have hfree : name ∉ reserved := by
        rcases hname with rfl | hname
        · exact not_mem_reserved_of_operatorWord hword
        · exact hname
      exact (hd.stands hfree rfl).resolve_left hnext

theorem not_operatorNext_of_operand {frames : List Frame}
    (h : Machine.start.feed before = .ok ⟨frames, .operand⟩) : ¬OperatorNext before := by
  intro hnext
  obtain ⟨frames', phase, e, hfeed, hphase⟩ := hnext.operand?
  obtain ⟨-, rfl⟩ := Machine.mk.inj (Except.ok.inj (h.symm.trans hfeed))
  cases hphase

/-- Of three times the same word, the one in the middle is an operator. -/
theorem ofLexemes_of_threeWords :
    ofLexemes 8 [⟨0, .word "or"⟩, ⟨3, .word "or"⟩, ⟨6, .word "or"⟩]
        = .ok (.binary .or (.var "or") (.var "or"))
      ∧ Derives .or [.word "or", .symbol .or, .word "or"] (.binary .or (.var "or") (.var "or"))
      ∧ NamedAt .or [] "or" [.word "or", .word "or"] (.binary .or (.var "or") (.var "or"))
      ∧ NamedAt .or [.word "or", .word "or"] "or" []
        (.binary .or (.var "or") (.var "or")) := by
  obtain ⟨hread, -, -, hwords⟩ :=
    ofLexemes_eq_ok_iff_derives 8 [⟨0, .word "or"⟩, ⟨3, .word "or"⟩, ⟨6, .word "or"⟩]
  have hmem : ("or", Symbol.or) ∈ operatorWords := List.mem_cons_self ..
  have hd := (hread (.binary .or (.var "or") (.var "or"))).mp rfl
  have hmiddle : OperatorNext [.word "or"] :=
    ⟨[.word "or"], .binary .add (.var "or") (.var "or"), derives_iff.mpr ⟨_, rfl, rfl⟩⟩
  have hfirst : ¬OperatorNext [] := not_operatorNext_of_operand rfl
  have hlast : ¬OperatorNext [.word "or", .word "or"] := not_operatorNext_of_operand rfl
  exact ⟨rfl, ((hwords _ _ _ _ hmem).1 hmiddle _).mp hd,
    (hwords [] _ _ _ hmem).2 hfirst _ _ (.inl rfl) hd,
    (hwords [.word "or", .word "or"] _ _ [] hmem).2 hlast _ _ (.inl rfl) hd⟩

end DynamicSql.Expr
