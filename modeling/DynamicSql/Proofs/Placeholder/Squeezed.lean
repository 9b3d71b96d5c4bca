/-
The placeholders of a text that is collapsed before it is cut.

None of the characters that cutting looks for is a blank: not the two of an
opening token, not the brace that closes, not the backslash that escapes
either. Squeezing keeps all of them and what stands next to what, so the
cutting takes the same steps on the squeezed text as on the text itself, and
each content comes out squeezed. A space at the end of the text is a step of
its own, past literal text.
-/
import DynamicSql.Proofs.Placeholder.Cutting
import DynamicSql.Proofs.Text.Squeezed

namespace DynamicSql.Segment

open Text (isBlank squeezeFrom squeeze squeezeFrom_cons squeezeFrom_false_blank
  squeezeFrom_true_blank)

variable {cs : List Char} {blank : Bool} {c : Char}

/-- The placeholders among segments, each with its content. -/
def placeholders (segments : List Segment) : List (PlaceholderKind × String) :=
  segments.filterMap fun
    | .literal _ => none
    | .placeholder kind content => some (kind, content)

theorem placeholders_consLiteral (literal : List Char) (rest : List Segment) :
    placeholders (consLiteral literal rest) = placeholders rest := by
  unfold consLiteral
  split <;> rfl

theorem placeholders_cons (kind : PlaceholderKind) (content : String) (literal : List Char)
    (rest : List Segment) :
    placeholders (.placeholder kind content :: consLiteral literal rest)
      = (kind, content) :: placeholders rest := by
  rw [← placeholders_consLiteral literal rest]
  rfl

theorem placeholders_split (text : String) :
    placeholders (split text) = placeholders (leadingLiteral text.toList).2 :=
  placeholders_consLiteral ..

-- ================================================================ blanks

theorem isBlank_sigil (kind : PlaceholderKind) : isBlank kind.sigil = false := by
  cases kind <;> rfl

/-- A blank begins no opening token. -/
theorem opening?_cons_of_isBlank (h : isBlank c = true) (cs : List Char) :
    opening? (c :: cs) = none :=
  opening?_cons_of_ne (fun kind hk => by rw [← hk, isBlank_sigil] at h; cases h) cs

/-- Squeezing puts no brace where there was none. -/
theorem head?_squeezeFrom_ne {d : Char} (hd : d ≠ ' ') (h : cs.head? ≠ some d) :
    (squeezeFrom false cs).head? ≠ some d := by
  rw [Text.head?_squeezeFrom_false]
  intro hhead
  obtain ⟨c, hc, hsame⟩ := Option.map_eq_some_iff.mp hhead
  split at hsame
  · exact hd hsame.symm
  · exact h (hsame ▸ hc)

/-- Squeezing makes no opening token. -/
theorem opening?_squeezeFrom (h : opening? cs = none) : opening? (squeezeFrom false cs) = none := by
  cases cs with
  | nil => rfl
  | cons c cs =>
    cases hb : isBlank c with
    | true =>
      rw [squeezeFrom_false_blank hb]
      exact opening?_cons_of_isBlank rfl _
    | false =>
      rw [squeezeFrom_cons hb]
      by_cases hbrace : cs.head? = some '{'
      · obtain ⟨tail, rfl⟩ := List.head?_eq_some_iff.mp hbrace
        rw [squeezeFrom_cons rfl]
        exact opening?_cons_brace h _
      · exact opening?_cons_of_head? (head?_squeezeFrom_ne (by decide) hbrace) c

/-- Nor does a space behind a text. -/
theorem opening?_append_space (h : opening? cs = none) : opening? (cs ++ [' ']) = none := by
  match cs, h with
  | [], _ => rfl
  | [c], _ => exact opening?_cons_of_head? (by decide) c
  | c :: d :: cs, h =>
    by_cases hd : d = '{'
    · subst hd
      exact opening?_cons_brace h _
    · have hhead : (d :: cs ++ [' ']).head? ≠ some '{' := fun h => hd (Option.some.inj h)
      exact opening?_cons_of_head? hhead c

-- =============================================================== content

/-- A squeezed text closes its placeholder where the text does. -/
theorem closing?_squeezeFrom (body : List Char) :
    closing? (squeezeFrom blank body)
      = (closing? body).map fun (content, after) =>
          (squeezeFrom blank content, squeezeFrom false after) := by
  fun_induction closing? body generalizing blank with
  | case1 => rfl
  | case2 cs ih =>
    rw [squeezeFrom_cons rfl, squeezeFrom_cons rfl, closing?_escaped, ih]
    cases closing? cs with
    | none => rfl
    | some found =>
      simp only [Option.map_some, squeezeFrom_cons (show isBlank '}' = false from rfl)]
  | case3 cs =>
    rw [squeezeFrom_cons rfl, closing?_brace]
    rfl
  | case4 c cs hplain hc ih =>
    cases hb : isBlank c with
    | false =>
      have hnext : c = '\\' → (squeezeFrom false cs).head? ≠ some '}' := fun hback =>
        head?_squeezeFrom_ne (by decide) fun hbrace => by
          obtain ⟨tail, htail⟩ := List.head?_eq_some_iff.mp hbrace
          exact hplain tail hback htail
      rw [squeezeFrom_cons hb, closing?_plain hc hnext, ih]
      cases closing? cs with
      | none => rfl
      | some found => simp only [Option.map_some, squeezeFrom_cons hb]
    | true =>
      cases blank with
      | false =>
        have hspace : ' ' = '\\' → (squeezeFrom true cs).head? ≠ some '}' := fun h =>
          absurd h (by decide)
        rw [squeezeFrom_false_blank hb, closing?_plain (by decide) hspace, ih]
        cases closing? cs with
        | none => rfl
        | some found => simp only [Option.map_some, squeezeFrom_false_blank hb]
      | true =>
        rw [squeezeFrom_true_blank hb, ih]
        cases closing? cs with
        | none => rfl
        | some found => simp only [Option.map_some, squeezeFrom_true_blank hb]

/-- A space at the end of a text closes nothing. -/
theorem closing?_append_space (body : List Char) :
    closing? (body ++ [' '])
      = (closing? body).map fun (content, after) => (content, after ++ [' ']) := by
  fun_induction closing? body with
  | case1 => exact closing?_plain (by decide) fun h => absurd h (by decide)
  | case2 cs ih =>
    rw [List.cons_append, List.cons_append, closing?_escaped, ih]
    cases closing? cs <;> rfl
  | case3 cs => exact closing?_brace _
  | case4 c cs hplain hc ih =>
    have hnext : c = '\\' → (cs ++ [' ']).head? ≠ some '}' := by
      intro hback hbrace
      cases cs with
      | nil => exact absurd (Option.some.inj hbrace) (by decide)
      | cons d cs => exact hplain cs hback (by rw [Option.some.inj hbrace])
    rw [List.cons_append, closing?_plain hc hnext, ih]
    cases closing? cs <;> rfl

-- ============================================================ whole texts

theorem leadingLiteral_space (cs : List Char) :
    leadingLiteral (' ' :: cs) = (' ' :: (leadingLiteral cs).1, (leadingLiteral cs).2) :=
  leadingLiteral_plain (opening?_cons_of_isBlank rfl _) fun h => absurd h (by decide)

/-- A squeezed text has the placeholders of the text, with squeezed
contents. -/
theorem placeholders_squeezeFrom (blank : Bool) (cs : List Char) :
    placeholders (leadingLiteral (squeezeFrom blank cs)).2
      = (placeholders (leadingLiteral cs).2).map (Prod.map id squeeze) := by
  induction cs using induction_on_steps generalizing blank with
  | nil =>
    rw [squeezeFrom, leadingLiteral_nil]
    rfl
  | placeholder kind body content after hclosing ih =>
    have hclosing' : closing? (squeezeFrom false body)
        = some (squeezeFrom false content, squeezeFrom false after) := by
      rw [closing?_squeezeFrom, hclosing]
      rfl
    rw [squeezeFrom_cons (isBlank_sigil kind), squeezeFrom_cons rfl,
      leadingLiteral_placeholder kind hclosing, leadingLiteral_placeholder kind hclosing',
      placeholders_cons, placeholders_cons, List.map_cons, ih]
    rw [Prod.map, squeeze, String.toList_ofList]
    rfl
  | unclosed kind body hclosing =>
    have hclosing' : closing? (squeezeFrom false body) = none := by
      rw [closing?_squeezeFrom, hclosing]
      rfl
    rw [squeezeFrom_cons (isBlank_sigil kind), squeezeFrom_cons rfl,
      leadingLiteral_unclosed kind hclosing, leadingLiteral_unclosed kind hclosing']
    rfl
  | escaped kind body ih =>
    rw [squeezeFrom_cons rfl, squeezeFrom_cons (isBlank_sigil kind), squeezeFrom_cons rfl,
      leadingLiteral_escaped, leadingLiteral_escaped]
    exact ih false
  | plain c cs hopen hescape ih =>
    rw [leadingLiteral_plain hopen hescape]
    cases hb : isBlank c with
    | false =>
      have hopen' := opening?_squeezeFrom hopen
      rw [squeezeFrom_cons hb] at hopen'
      rw [squeezeFrom_cons hb,
        leadingLiteral_plain hopen' fun hc => opening?_squeezeFrom (hescape hc)]
      exact ih false
    | true =>
      cases blank with
      | false =>
        rw [squeezeFrom_false_blank hb, leadingLiteral_space]
        exact ih true
      | true =>
        rw [squeezeFrom_true_blank hb]
        exact ih true

/-- A space at the end makes no difference. -/
theorem placeholders_append_space (cs : List Char) :
    placeholders (leadingLiteral (cs ++ [' '])).2 = placeholders (leadingLiteral cs).2 := by
  induction cs using induction_on_steps with
  | nil => rw [List.nil_append, leadingLiteral_space]
  | placeholder kind body content after hclosing ih =>
    have hclosing' : closing? (body ++ [' ']) = some (content, after ++ [' ']) := by
      rw [closing?_append_space, hclosing]
      rfl
    rw [List.cons_append, List.cons_append, leadingLiteral_placeholder kind hclosing,
      leadingLiteral_placeholder kind hclosing', placeholders_cons, placeholders_cons, ih]
  | unclosed kind body hclosing =>
    have hclosing' : closing? (body ++ [' ']) = none := by
      rw [closing?_append_space, hclosing]
      rfl
    rw [List.cons_append, List.cons_append, leadingLiteral_unclosed kind hclosing,
      leadingLiteral_unclosed kind hclosing']
  | escaped kind body ih =>
    rw [List.cons_append, List.cons_append, List.cons_append, leadingLiteral_escaped,
      leadingLiteral_escaped]
    exact ih
  | plain c cs hopen hescape ih =>
    have hopen' : opening? (c :: (cs ++ [' '])) = none := opening?_append_space hopen
    rw [List.cons_append, leadingLiteral_plain hopen hescape,
      leadingLiteral_plain hopen' fun hc => opening?_append_space (hescape hc)]
    exact ih

/-- A collapsed text has the placeholders of the text, of the same kinds in
the same order, with squeezed contents. -/
theorem placeholders_collapse (raw : String) :
    placeholders (split (Text.collapse raw))
      = (placeholders (split raw)).map (Prod.map id squeeze) := by
  rw [placeholders_split, placeholders_split, ← placeholders_squeezeFrom true]
  obtain h | h := Text.toList_collapse raw
  · rw [h]
  · rw [h, placeholders_append_space]

end DynamicSql.Segment
