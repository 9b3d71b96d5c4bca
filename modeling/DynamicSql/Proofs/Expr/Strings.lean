/-
The string literals of an expression.

No rule of the grammar asks what a string holds. So tokens that differ in
the content of strings only are phrases of the same kinds
(`Derives.of_similar`). What they stand for differs in those strings and in
nothing else, and an expression has the strings of its tokens, in the order
in which they stand (`Derives.strings_eq`): two such lists of tokens stand for
one expression only if they are the same.
-/
import DynamicSql.Proofs.Expr.Reading
import Mathlib.Data.List.Forall2

namespace DynamicSql

namespace Token

/-- Tokens that are the same, or two strings. -/
inductive Similar : Token → Token → Prop
  | refl (t : Token) : Similar t t
  | string (s s' : String) : Similar (.string s) (.string s')

def isString : Token → Bool
  | .string _ => true
  | _ => false

/-- The contents of the strings among tokens. -/
def strings (ts : List Token) : List String :=
  ts.filterMap fun
    | .string s => some s
    | _ => none

theorem strings_append (ts us : List Token) : strings (ts ++ us) = strings ts ++ strings us :=
  List.filterMap_append

theorem strings_cons {t : Token} (h : t.isString = false) (ts : List Token) :
    strings (t :: ts) = strings ts := by
  cases t with
  | string s => cases h
  | _ => rfl

/-- Similar tokens with the same strings are the same. -/
theorem eq_of_similar {ts us : List Token} (h : List.Forall₂ Similar ts us)
    (hstrings : strings ts = strings us) : ts = us := by
  induction h with
  | nil => rfl
  | @cons t u ts us hhead htail ih =>
    cases hhead with
    | string s s' =>
      obtain ⟨hs, hrest⟩ := List.cons.inj (show s :: strings ts = s' :: strings us from hstrings)
      rw [hs, ih hrest]
    | refl =>
      have hcons : strings [t] ++ strings ts = strings [t] ++ strings us := by
        rw [← strings_append, ← strings_append]
        exact hstrings
      rw [ih (List.append_cancel_left hcons)]

/-- What is similar to two lists put together is two lists put together. -/
theorem exists_append_of_similar {ts us ws : List Token}
    (h : List.Forall₂ Similar (ts ++ us) ws) :
    ∃ ts' us', ws = ts' ++ us' ∧ List.Forall₂ Similar ts ts' ∧ List.Forall₂ Similar us us' := by
  induction ts generalizing ws with
  | nil => exact ⟨[], ws, rfl, .nil, h⟩
  | cons t ts ih =>
    cases h with
    | @cons _ w _ ws hhead htail =>
      obtain ⟨ts', us', rfl, hts, hus⟩ := ih htail
      exact ⟨w :: ts', us', rfl, .cons hhead hts, hus⟩

/-- Behind a token that is no string, what is similar goes on behind the
same token. -/
theorem exists_cons_of_similar {t : Token} {ts ws : List Token}
    (h : List.Forall₂ Similar (t :: ts) ws) (ht : t.isString = false) :
    ∃ us, ws = t :: us ∧ List.Forall₂ Similar ts us := by
  cases h with
  | @cons _ w _ us hhead htail =>
    cases hhead with
    | refl => exact ⟨us, rfl, htail⟩
    | string s s' => cases ht

end Token

namespace Expr

open Token (Similar)

mutual

/-- The strings among the literals of an expression. -/
def strings : Expr → List String
  | .literal (.string s) => [s]
  | .literal _ => []
  | .var _ => []
  | .property target _ => target.strings
  | .index target key => target.strings ++ key.strings
  | .call receiver _ args => receiver.strings ++ stringsOfAll args
  | .unary _ operand => operand.strings
  | .binary _ left right => left.strings ++ right.strings

def stringsOfAll : List Expr → List String
  | [] => []
  | e :: rest => e.strings ++ stringsOfAll rest

end

-- ============================================================ arguments

theorem isString_of_binary {p : Phrase} {token : Token} {op : BinaryOp}
    (h : (token, op) ∈ p.operators) : token.isString = false := by
  cases token with
  | string s => cases (Phrase.mem_operators.mp h).1
  | _ => rfl

theorem isString_of_unary {token : Token} {op : UnaryOp}
    (h : (token, op) ∈ Phrase.unaryOperators) : token.isString = false := by
  cases token with
  | string s => cases Phrase.mem_unaryOperators.mp h
  | _ => rfl

theorem listed_singleton (a : List Token × Expr) : listed [a] = a.1 := by
  simp [listed]

theorem listed_cons_cons (a b : List Token × Expr) (args : List (List Token × Expr)) :
    listed (a :: b :: args) = a.1 ++ .comma :: listed (b :: args) := by
  simp [listed]

theorem strings_listed {args : List (List Token × Expr)}
    (h : ∀ a ∈ args, a.2.strings = Token.strings a.1) :
    stringsOfAll (args.map Prod.snd) = Token.strings (listed args) := by
  induction args with
  | nil => rfl
  | cons a args ih =>
    have ha := h a List.mem_cons_self
    have hrest := ih fun b hb => h b (List.mem_cons_of_mem a hb)
    cases args with
    | nil =>
      rw [listed_singleton, ← ha]
      exact List.append_nil _
    | cons b args =>
      rw [listed_cons_cons, Token.strings_append, ← ha, Token.strings_cons rfl, ← hrest]
      rfl

/-- If similar arguments are arguments, a similar list is a list of them. -/
theorem exists_listed_of_similar {args : List (List Token × Expr)}
    (h : ∀ a ∈ args, ∀ us, List.Forall₂ Similar a.1 us → ∃ e, Derives .or us e) {ws : List Token}
    (hws : List.Forall₂ Similar (listed args) ws) :
    ∃ args', ws = listed args' ∧ (∀ a ∈ args', Derives .or a.1 a.2)
      ∧ args'.length = args.length := by
  induction args generalizing ws with
  | nil =>
    cases hws
    exact ⟨[], rfl, nofun, rfl⟩
  | cons a args ih =>
    have ha := h a List.mem_cons_self
    cases args with
    | nil =>
      rw [listed_singleton] at hws
      obtain ⟨e, he⟩ := ha ws hws
      refine ⟨[(ws, e)], ?_, fun b hb => List.mem_singleton.mp hb ▸ he, rfl⟩
      exact (listed_singleton (ws, e)).symm
    | cons b args =>
      rw [listed_cons_cons] at hws
      obtain ⟨us, vs, rfl, hus, hcomma⟩ := Token.exists_append_of_similar hws
      obtain ⟨vs, rfl, hvs⟩ := Token.exists_cons_of_similar hcomma rfl
      obtain ⟨e, he⟩ := ha us hus
      obtain ⟨args', rfl, hargs', hlength⟩ :=
        ih (fun c hc => h c (List.mem_cons_of_mem a hc)) hvs
      obtain ⟨b', args', rfl⟩ := List.exists_cons_of_length_eq_add_one hlength
      refine ⟨(us, e) :: b' :: args', (listed_cons_cons (us, e) b' args').symm, fun c hc => ?_,
        congrArg (· + 1) hlength⟩
      obtain rfl | hc := List.mem_cons.mp hc
      · exact he
      · exact hargs' c hc

-- =========================================================== derivations

namespace Derives

variable {p : Phrase} {ts us : List Token} {e : Expr}

theorem strings_literal {token : Token} {v : Value} (h : literal? token = some v) :
    (Expr.literal v).strings = Token.strings [token] := by
  unfold literal? at h
  split at h <;> cases h <;> rfl

/-- An expression has the strings of its tokens. -/
theorem strings_eq (h : Derives p ts e) : e.strings = Token.strings ts := by
  induction h with
  | part _ _ ih => exact ih
  | binary hop _ _ _ ihl ihr =>
    rw [strings, ihl, ihr, Token.strings_append, Token.strings_cons (isString_of_binary hop)]
  | unary hop _ ih => rw [strings, ih, Token.strings_cons (isString_of_unary hop)]
  | property name _ ih =>
    rw [strings, ih, Token.strings_append]
    exact (List.append_nil _).symm
  | call name _ _ ih ihargs =>
    rw [strings, ih, strings_listed ihargs, Token.strings_append, Token.strings_cons rfl,
      Token.strings_cons rfl, Token.strings_cons rfl, Token.strings_append]
    exact congrArg _ (List.append_nil _).symm
  | index _ _ ih ihk =>
    rw [strings, ih, ihk, Token.strings_append, Token.strings_cons rfl, Token.strings_append]
    exact congrArg _ (List.append_nil _).symm
  | literal h => exact strings_literal h
  | name _ => rfl
  | group _ ih =>
    rw [ih, Token.strings_cons rfl, Token.strings_append]
    exact (List.append_nil _).symm

/-- Similar tokens are a phrase of the same kind. -/
theorem of_similar (h : Derives p ts e) (hsimilar : List.Forall₂ Similar ts us) :
    ∃ e', Derives p us e' := by
  induction h generalizing us with
  | part hq _ ih =>
    obtain ⟨e', he'⟩ := ih hsimilar
    exact ⟨e', .part hq he'⟩
  | binary hop hq _ _ ihl ihr =>
    obtain ⟨ls, rs, rfl, hls, hsign⟩ := Token.exists_append_of_similar hsimilar
    obtain ⟨rs, rfl, hrs⟩ := Token.exists_cons_of_similar hsign (isString_of_binary hop)
    obtain ⟨l, hl⟩ := ihl hls
    obtain ⟨r, hr⟩ := ihr hrs
    exact ⟨_, .binary hop hq hl hr⟩
  | unary hop _ ih =>
    obtain ⟨us, rfl, hus⟩ := Token.exists_cons_of_similar hsimilar (isString_of_unary hop)
    obtain ⟨e', he'⟩ := ih hus
    exact ⟨_, .unary hop he'⟩
  | property name _ ih =>
    obtain ⟨us, vs, rfl, hus, hdot⟩ := Token.exists_append_of_similar hsimilar
    obtain ⟨vs, rfl, hname⟩ := Token.exists_cons_of_similar hdot rfl
    obtain ⟨vs, rfl, ⟨⟩⟩ := Token.exists_cons_of_similar hname rfl
    obtain ⟨e', he'⟩ := ih hus
    exact ⟨_, .property name he'⟩
  | call name _ _ ih ihargs =>
    obtain ⟨us, vs, rfl, hus, hdot⟩ := Token.exists_append_of_similar hsimilar
    obtain ⟨vs, rfl, hname⟩ := Token.exists_cons_of_similar hdot rfl
    obtain ⟨vs, rfl, hopen⟩ := Token.exists_cons_of_similar hname rfl
    obtain ⟨vs, rfl, hinside⟩ := Token.exists_cons_of_similar hopen rfl
    obtain ⟨vs, ws, rfl, hvs, hclose⟩ := Token.exists_append_of_similar hinside
    obtain ⟨ws, rfl, ⟨⟩⟩ := Token.exists_cons_of_similar hclose rfl
    obtain ⟨e', he'⟩ := ih hus
    obtain ⟨args', rfl, hargs', -⟩ := exists_listed_of_similar (fun a ha us => ihargs a ha) hvs
    exact ⟨_, .call name he' hargs'⟩
  | index _ _ ih ihk =>
    obtain ⟨us, vs, rfl, hus, hopen⟩ := Token.exists_append_of_similar hsimilar
    obtain ⟨vs, rfl, hinside⟩ := Token.exists_cons_of_similar hopen rfl
    obtain ⟨vs, ws, rfl, hvs, hclose⟩ := Token.exists_append_of_similar hinside
    obtain ⟨ws, rfl, ⟨⟩⟩ := Token.exists_cons_of_similar hclose rfl
    obtain ⟨e', he'⟩ := ih hus
    obtain ⟨k, hk⟩ := ihk hvs
    exact ⟨_, .index he' hk⟩
  | literal h =>
    cases hsimilar with
    | cons hhead htail =>
      cases htail
      cases hhead with
      | refl => exact ⟨_, .literal h⟩
      | string s s' => exact ⟨_, .literal rfl⟩
  | name h =>
    obtain ⟨us, rfl, ⟨⟩⟩ := Token.exists_cons_of_similar hsimilar rfl
    exact ⟨_, .name h⟩
  | group _ ih =>
    obtain ⟨vs, rfl, hinside⟩ := Token.exists_cons_of_similar hsimilar rfl
    obtain ⟨vs, ws, rfl, hvs, hclose⟩ := Token.exists_append_of_similar hinside
    obtain ⟨ws, rfl, ⟨⟩⟩ := Token.exists_cons_of_similar hclose rfl
    obtain ⟨e', he'⟩ := ih hvs
    exact ⟨_, .group he'⟩

end Derives

end Expr

end DynamicSql
