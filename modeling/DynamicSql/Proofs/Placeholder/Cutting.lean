/-
How a text is cut at its placeholders, step by step.

From one place of a text the cutting goes on past one character of literal
text, past an escaped opening token, or past a whole placeholder; it ends with
the text or at an opening token that does not close. There is one equation for
each of these (`leadingLiteral_plain` and those after it), and all that is said
of the cutting of texts comes from them.

# Braces that close

A brace closes a placeholder if there is no backslash directly before it, and
the first such brace does (`closing?_eq_some_iff`). So no content ends in a
backslash, and a content is written down by putting a backslash before each of
its braces.
-/
import DynamicSql.Placeholder

namespace DynamicSql.Segment

variable {cs body content after : List Char} {kind : PlaceholderKind} {c : Char}

-- =============================================================== opening

@[simp] theorem opening?_sigil (kind : PlaceholderKind) (body : List Char) :
    opening? (kind.sigil :: '{' :: body) = some (kind, body) := opening?_eq_some.mpr rfl

theorem sigil_ne_backslash (kind : PlaceholderKind) : kind.sigil ≠ '\\' := by
  cases kind <;> decide

theorem sigil_ne_brace (kind : PlaceholderKind) : kind.sigil ≠ '{' := by
  cases kind <;> decide

/-- A character that is no sigil begins no opening token. -/
theorem opening?_cons_of_ne (h : ∀ kind : PlaceholderKind, kind.sigil ≠ c) (cs : List Char) :
    opening? (c :: cs) = none := by
  cases ho : opening? (c :: cs) with
  | none => rfl
  | some found =>
    obtain ⟨kind, body⟩ := found
    exact absurd (List.cons.inj (opening?_eq_some.mp ho)).1.symm (h kind)

/-- Characters after which no brace stands begin no opening token. -/
theorem opening?_cons_of_head? (h : cs.head? ≠ some '{') (c : Char) :
    opening? (c :: cs) = none := by
  cases ho : opening? (c :: cs) with
  | none => rfl
  | some found =>
    obtain ⟨kind, body⟩ := found
    obtain ⟨-, rfl⟩ := List.cons.inj (opening?_eq_some.mp ho)
    exact absurd rfl h

/-- Before a brace, a character begins an opening token or not, whatever
follows. -/
theorem opening?_cons_brace (h : opening? (c :: '{' :: cs) = none) (cs' : List Char) :
    opening? (c :: '{' :: cs') = none := by
  cases ho : opening? (c :: '{' :: cs') with
  | none => rfl
  | some found =>
    obtain ⟨kind, body⟩ := found
    obtain ⟨rfl, -⟩ := List.cons.inj (opening?_eq_some.mp ho)
    rw [opening?_sigil] at h
    cases h

-- =============================================================== closing

/-- The content of a placeholder as it stands between its braces. -/
def braced (content : List Char) : List Char :=
  content.flatMap fun c => if c = '}' then ['\\', '}'] else [c]

@[simp] theorem braced_cons_brace (content : List Char) :
    braced ('}' :: content) = '\\' :: '}' :: braced content := rfl

@[simp] theorem braced_cons_of_ne (h : c ≠ '}') (content : List Char) :
    braced (c :: content) = c :: braced content := by
  rw [braced, List.flatMap_cons, if_neg h]
  rfl

/-- A content that is not empty is not written with a brace first. -/
theorem head?_braced_append (c : Char) (content rest : List Char) :
    (braced (c :: content) ++ rest).head? ≠ some '}' := by
  by_cases hc : c = '}'
  · subst hc
    exact fun h => absurd (Option.some.inj h) (by decide)
  · rw [braced_cons_of_ne hc]
    exact fun h => hc (Option.some.inj h)

theorem getLast?_of_cons {before : List Char} (h : (c :: before).getLast? ≠ some '\\') :
    before.getLast? ≠ some '\\' := by
  cases before with
  | nil => exact nofun
  | cons d before => exact h

theorem getLast?_cons_ne {before : List Char} (hc : c ≠ '\\') (h : before.getLast? ≠ some '\\') :
    (c :: before).getLast? ≠ some '\\' := by
  cases before with
  | nil => exact fun hlast => hc (Option.some.inj hlast)
  | cons d before => exact h

theorem getLast?_braced (content : List Char) : (braced content).getLast? = content.getLast? := by
  induction content with
  | nil => rfl
  | cons c content ih =>
    by_cases hc : c = '}'
    · subst hc
      rw [braced_cons_brace, List.getLast?_cons_cons, List.getLast?_cons, List.getLast?_cons, ih]
    · rw [braced_cons_of_ne hc, List.getLast?_cons, List.getLast?_cons, ih]

/-- The braces of a placeholder close if an unescaped one is there. -/
theorem closing?_brace (cs : List Char) : closing? ('}' :: cs) = some ([], cs) := by
  rw [closing?.eq_3 _ _ (fun _ h _ => absurd h (by decide)), if_pos rfl]

theorem closing?_escaped (cs : List Char) :
    closing? ('\\' :: '}' :: cs)
      = (closing? cs).map fun (content, rest) => ('}' :: content, rest) := by
  rw [closing?]

theorem closing?_plain (hc : c ≠ '}') (h : c = '\\' → cs.head? ≠ some '}') :
    closing? (c :: cs) = (closing? cs).map fun (content, rest) => (c :: content, rest) := by
  rw [closing?.eq_3 _ _ (fun _ hback hcs => h hback (by rw [hcs]; rfl)), if_neg hc]

/-- The characters before the first brace that closes are the content as it is
written. -/
theorem closing?_eq_some_iff :
    closing? body = some (content, after)
      ↔ body = braced content ++ '}' :: after ∧ content.getLast? ≠ some '\\' := by
  constructor
  · intro h
    fun_induction closing? body generalizing content after with
    | case1 => cases h
    | case2 cs ih =>
      obtain ⟨⟨inner, rest⟩, hinner, heq⟩ := Option.map_eq_some_iff.mp h
      obtain ⟨rfl, rfl⟩ := Prod.mk.inj heq
      obtain ⟨rfl, hlast⟩ := ih hinner
      exact ⟨rfl, getLast?_cons_ne (by decide) hlast⟩
    | case3 cs =>
      obtain ⟨rfl, rfl⟩ := Prod.mk.inj (Option.some.inj h)
      exact ⟨rfl, (Option.some_ne_none _).symm⟩
    | case4 c cs hplain hc ih =>
      obtain ⟨⟨inner, rest⟩, hinner, heq⟩ := Option.map_eq_some_iff.mp h
      obtain ⟨rfl, rfl⟩ := Prod.mk.inj heq
      obtain ⟨rfl, hlast⟩ := ih hinner
      refine ⟨by rw [braced_cons_of_ne hc]; rfl, ?_⟩
      cases inner with
      | nil =>
        -- A backslash there would have escaped the brace.
        intro hback
        exact hplain _ (Option.some.inj hback) rfl
      | cons d inner => exact hlast
  · rintro ⟨rfl, hlast⟩
    induction content with
    | nil => exact closing?_brace after
    | cons c content ih =>
      have hlast' := getLast?_of_cons hlast
      by_cases hc : c = '}'
      · subst hc
        rw [braced_cons_brace, List.cons_append, List.cons_append, closing?_escaped, ih hlast']
        rfl
      · have hplain : c = '\\' → (braced content ++ '}' :: after).head? ≠ some '}' := by
          rintro rfl
          cases content with
          | nil => exact absurd rfl hlast
          | cons d content =>
            exact head?_braced_append d content _
        rw [braced_cons_of_ne hc, List.cons_append, closing?_plain hc hplain, ih hlast']
        rfl

/-- There is a brace without a backslash directly before it. -/
def Closes (body : List Char) : Prop :=
  ∃ before after, body = before ++ '}' :: after ∧ before.getLast? ≠ some '\\'

/-- A placeholder closes if there is such a brace after it. -/
theorem closes_iff : Closes body ↔ ∃ content after, closing? body = some (content, after) := by
  constructor
  · rintro ⟨before, after, hbody, hlast⟩
    fun_induction closing? body generalizing before with
    | case1 => cases before <;> cases hbody
    | case2 cs ih =>
      rcases before with _ | ⟨d, before⟩
      · cases hbody
      · obtain ⟨rfl, htail⟩ := List.cons.inj hbody
        rcases before with _ | ⟨e, before⟩
        · exact absurd rfl hlast
        · obtain ⟨inner, rest, hinner⟩ :=
            ih before (List.cons.inj htail).2 (getLast?_of_cons (getLast?_of_cons hlast))
          exact ⟨'}' :: inner, rest, by rw [hinner]; rfl⟩
    | case3 cs => exact ⟨_, _, rfl⟩
    | case4 c cs _ hc ih =>
      rcases before with _ | ⟨d, before⟩
      · exact absurd (List.cons.inj hbody).1 hc
      · obtain ⟨inner, rest, hinner⟩ := ih before (List.cons.inj hbody).2 (getLast?_of_cons hlast)
        exact ⟨c :: inner, rest, by rw [hinner]; rfl⟩
  · rintro ⟨content, after, h⟩
    obtain ⟨hbody, hlast⟩ := closing?_eq_some_iff.mp h
    exact ⟨braced content, after, hbody, by rwa [getLast?_braced]⟩

-- ================================================================= steps

theorem leadingLiteral_nil : leadingLiteral [] = ([], []) := by
  rw [leadingLiteral]

/-- A placeholder that closes is one segment. -/
theorem leadingLiteral_placeholder (kind : PlaceholderKind)
    (h : closing? body = some (content, after)) :
    leadingLiteral (kind.sigil :: '{' :: body)
      = ([], .placeholder kind (String.ofList content)
          :: consLiteral (leadingLiteral after).1 (leadingLiteral after).2) := by
  rw [leadingLiteral]
  split
  · next ho =>
    rw [opening?_sigil] at ho
    obtain ⟨rfl, rfl⟩ := Prod.mk.inj (Option.some.inj ho)
    split
    · next hc =>
      rw [h] at hc
      obtain ⟨rfl, rfl⟩ := Prod.mk.inj (Option.some.inj hc)
      rfl
    · next hc => cases h.symm.trans hc
  · next ho => cases (opening?_sigil kind body).symm.trans ho

/-- An opening token that does not close is literal, and so is all after
it. -/
theorem leadingLiteral_unclosed (kind : PlaceholderKind) (h : closing? body = none) :
    leadingLiteral (kind.sigil :: '{' :: body) = (kind.sigil :: '{' :: body, []) := by
  rw [leadingLiteral]
  split
  · next ho =>
    rw [opening?_sigil] at ho
    obtain ⟨rfl, rfl⟩ := Prod.mk.inj (Option.some.inj ho)
    split
    · next hc => cases h.symm.trans hc
    · rfl
  · next ho => cases (opening?_sigil kind body).symm.trans ho

/-- An escaped opening token is literal. -/
theorem leadingLiteral_escaped (kind : PlaceholderKind) (body : List Char) :
    leadingLiteral ('\\' :: kind.sigil :: '{' :: body)
      = (kind.sigil :: '{' :: (leadingLiteral body).1, (leadingLiteral body).2) := by
  have hplain : opening? ('\\' :: kind.sigil :: '{' :: body) = none :=
    opening?_cons_of_ne (fun k => sigil_ne_backslash k) _
  rw [leadingLiteral]
  split
  · next ho => cases hplain.symm.trans ho
  · split
    · next he =>
      rw [if_pos rfl, opening?_sigil] at he
      obtain ⟨rfl, rfl⟩ := Prod.mk.inj (Option.some.inj he)
      rfl
    · next he =>
      rw [if_pos rfl, opening?_sigil] at he
      cases he

/-- Any other character is literal text. -/
theorem leadingLiteral_plain (hopen : opening? (c :: cs) = none)
    (hescape : c = '\\' → opening? cs = none) :
    leadingLiteral (c :: cs) = (c :: (leadingLiteral cs).1, (leadingLiteral cs).2) := by
  rw [leadingLiteral]
  split
  · next ho => cases hopen.symm.trans ho
  · split
    · next he =>
      split at he
      · next hc => cases (hescape hc).symm.trans he
      · cases he
    · rfl

/-- What each step of the cutting keeps holds of all texts. -/
theorem induction_on_steps {P : List Char → Prop} (nil : P [])
    (placeholder : ∀ (kind : PlaceholderKind) body content after,
      closing? body = some (content, after) → P after → P (kind.sigil :: '{' :: body))
    (unclosed : ∀ (kind : PlaceholderKind) body, closing? body = none →
      P (kind.sigil :: '{' :: body))
    (escaped : ∀ (kind : PlaceholderKind) body, P body → P ('\\' :: kind.sigil :: '{' :: body))
    (plain : ∀ c cs, opening? (c :: cs) = none → (c = '\\' → opening? cs = none) → P cs →
      P (c :: cs))
    (cs : List Char) : P cs := by
  fun_induction leadingLiteral cs with
  | case1 => exact nil
  | case2 c tail kind body ho content after hc _ _ _ ih =>
    rw [opening?_eq_some.mp ho]
    exact placeholder kind body content after hc ih
  | case3 c tail kind body ho hc =>
    rw [opening?_eq_some.mp ho]
    exact unclosed kind body hc
  | case4 c tail ho kind body he _ _ _ ih =>
    split at he
    · next hc =>
      rw [hc, opening?_eq_some.mp he]
      exact escaped kind body ih
    · cases he
  | case5 c tail ho he _ _ _ ih =>
    refine plain c tail ho (fun hc => ?_) ih
    rwa [dif_pos hc] at he

end DynamicSql.Segment
