/-
A template's text is literal SQL with two kinds of placeholder in it:
`${...}` is replaced by a text, `#{...}` by a marker and a collected
parameter. This file cuts a text into these pieces.

# Escapes, and placeholders that never close

A backslash directly before an opening token takes its meaning away: the
token is literal text, the backslash is dropped. Inside a placeholder a
backslash before a closing brace keeps the brace as part of the content.
Every other backslash is an ordinary character.

An opening token that is never closed is literal too, and so is all that
follows it, backslashes included: once one placeholder fails to close, no
later one can.
-/
namespace DynamicSql

/-- What an opening token announces. -/
inductive PlaceholderKind where
  /-- The value is substituted as text: `${...}`. -/
  | interpolation
  /-- The value is collected as a parameter: `#{...}`. -/
  | parameter
deriving DecidableEq, Repr, Inhabited

namespace PlaceholderKind

/-- The character before the brace of the opening token. -/
def sigil : PlaceholderKind → Char
  | .interpolation => '$'
  | .parameter => '#'

def ofSigil? (c : Char) : Option PlaceholderKind :=
  if c = '$' then some .interpolation
  else if c = '#' then some .parameter
  else none

theorem ofSigil?_eq_some {c : Char} {k : PlaceholderKind} :
    ofSigil? c = some k ↔ c = k.sigil := by
  unfold ofSigil?
  by_cases hd : c = '$'
  · cases k <;> simp [hd, sigil]
  · by_cases hh : c = '#'
    · cases k <;> simp [hh, sigil]
    · cases k <;> simp [hd, hh, sigil]

end PlaceholderKind

/-- One piece of a text. A literal has its escapes resolved. -/
inductive Segment where
  | literal (text : String)
  | placeholder (kind : PlaceholderKind) (content : String)
deriving DecidableEq, Repr, Inhabited

namespace Segment

/-- The opening token that the characters begin with, and what follows
it. -/
def opening? : List Char → Option (PlaceholderKind × List Char)
  | c :: '{' :: cs => (PlaceholderKind.ofSigil? c).map fun kind => (kind, cs)
  | _ => none

theorem opening?_eq_some {cs body : List Char} {kind : PlaceholderKind} :
    opening? cs = some (kind, body) ↔ cs = kind.sigil :: '{' :: body := by
  constructor
  · intro h
    unfold opening? at h
    split at h
    · obtain ⟨k, hk, he⟩ := Option.map_eq_some_iff.1 h
      obtain ⟨rfl, rfl⟩ := Prod.mk.injEq .. ▸ he
      rw [PlaceholderKind.ofSigil?_eq_some.1 hk]
    · simp at h
  · rintro rfl
    simp [opening?, PlaceholderKind.ofSigil?_eq_some.2 rfl]

/-- The content of a placeholder up to its closing brace, and what follows
the brace; nothing if the placeholder never closes. -/
def closing? : List Char → Option (List Char × List Char)
  | [] => none
  | '\\' :: '}' :: cs => (closing? cs).map fun (content, rest) => ('}' :: content, rest)
  | c :: cs =>
    if c = '}' then some ([], cs)
    else (closing? cs).map fun (content, rest) => (c :: content, rest)

/-- What follows a closing brace is shorter than what was searched. -/
theorem length_closing? {cs content rest : List Char}
    (h : closing? cs = some (content, rest)) : rest.length < cs.length := by
  fun_induction closing? cs generalizing content rest with
  | case1 => simp at h
  | case2 cs ih =>
    obtain ⟨⟨a, b⟩, hab, he⟩ := Option.map_eq_some_iff.1 h
    have := ih hab
    simp_all
    omega
  | case3 cs => simp_all
  | case4 c cs _ _ ih =>
    obtain ⟨⟨a, b⟩, hab, he⟩ := Option.map_eq_some_iff.1 h
    have := ih hab
    simp_all
    omega

-- ============================================================ splitting

/-- Puts a literal before the segments that follow it; an empty one is no
segment. -/
def consLiteral (literal : List Char) (rest : List Segment) : List Segment :=
  if literal.isEmpty then rest else .literal (String.ofList literal) :: rest

/-- The literal text that the characters begin with, escapes resolved, and
the segments after it. -/
def leadingLiteral (cs : List Char) : List Char × List Segment :=
  match cs with
  | [] => ([], [])
  | c :: tail =>
    match _ho : opening? (c :: tail) with
    | some (kind, body) =>
      match _hc : closing? body with
      | some (content, after) =>
        let (text, rest) := leadingLiteral after
        ([], .placeholder kind (String.ofList content) :: consLiteral text rest)
      | none => (c :: tail, [])
    | none =>
      match _he : if c = '\\' then opening? tail else none with
      | some (kind, body) =>
        let (text, rest) := leadingLiteral body
        (kind.sigil :: '{' :: text, rest)
      | none =>
        let (text, rest) := leadingLiteral tail
        (c :: text, rest)
termination_by cs.length
decreasing_by
  · have hlt := length_closing? _hc
    have hlen := congrArg List.length (opening?_eq_some.1 _ho)
    simp only [List.length_cons] at hlen ⊢
    omega
  · split at _he
    · have hlen := congrArg List.length (opening?_eq_some.1 _he)
      simp only [List.length_cons] at hlen ⊢
      omega
    · simp at _he
  · simp

/-- Cuts a text into literal pieces and placeholders, in order. -/
def split (text : String) : List Segment :=
  let (text, rest) := leadingLiteral text.toList
  consLiteral text rest

-- ========================================================== inspection

/-- True of a placeholder of the kind. -/
def isOfKind (kind : PlaceholderKind) : Segment → Bool
  | .literal _ => false
  | .placeholder k _ => k == kind

end Segment

end DynamicSql
