/-
Segments written down as a text again.

A literal is written with a backslash before each opening token in it, a
placeholder with a backslash before each brace of its content (`encode`). Cut
again, such a text gives the segments back, if they are such as a text can have
(`Canonical`); and the segments of a text, written down, give the text back, if
all its placeholders close (`canonical_split_and_encode`).

# Where a text does not come back

From the first opening token on that does not close, all the text is one
literal, escapes and opening tokens in it included. Written down it has a
backslash more before each of these tokens, and nothing else is different. What
stands before that token comes back as it is.

# How far the cutting has come

`Scans` tells the places that the cutting comes to. It passes a placeholder
only if this closes, so the first one that does not close is where it ends.
Both directions go along these places: each step of the cutting puts the same
characters in front of what is written for the rest.
-/
import DynamicSql.Proofs.Placeholder.Cutting
import Mathlib.Data.List.Chain

namespace DynamicSql.Segment

variable {cs body content after rest : List Char} {c : Char}

-- ============================================================== encoding

/-- A literal as it is written: with a backslash before each opening token. -/
def guarded : List Char → List Char
  | [] => []
  | c :: cs =>
    if (opening? (c :: cs)).isSome then '\\' :: c :: guarded cs else c :: guarded cs

/-- A segment as it is written. -/
def encodeOne : Segment → List Char
  | .literal text => guarded text.toList
  | .placeholder kind content => kind.sigil :: '{' :: (braced content.toList ++ ['}'])

/-- Segments as they are written, one after the other. -/
def encode (segments : List Segment) : String :=
  String.ofList (segments.flatMap encodeOne)

theorem guarded_cons_of_none (h : opening? (c :: cs) = none) :
    guarded (c :: cs) = c :: guarded cs := by
  rw [guarded, h]
  rfl

theorem guarded_opening (kind : PlaceholderKind) (body : List Char) :
    guarded (kind.sigil :: '{' :: body) = '\\' :: kind.sigil :: '{' :: guarded body := by
  have hbrace : guarded ('{' :: body) = '{' :: guarded body :=
    guarded_cons_of_none (opening?_cons_of_ne (fun k => sigil_ne_brace k) body)
  rw [guarded, opening?_sigil, hbrace]
  rfl

-- ============================================================= canonical

/-- The segments that can be told apart by themselves. -/
def Proper : Segment → Prop
  | .literal text => text ≠ ""
  | .placeholder _ content => content.toList.getLast? ≠ some '\\'

/-- The second segment may stand after the first one. -/
def Follows : Segment → Segment → Prop
  | .literal _, .literal _ => False
  | .literal text, .placeholder _ _ => text.toList.getLast? ≠ some '\\'
  | .placeholder _ _, _ => True

instance (s : Segment) : Decidable s.Proper :=
  match s with
  | .literal text => inferInstanceAs (Decidable (text ≠ ""))
  | .placeholder _ content => inferInstanceAs (Decidable (content.toList.getLast? ≠ some '\\'))

instance (s t : Segment) : Decidable (Follows s t) :=
  match s, t with
  | .literal _, .literal _ => inferInstanceAs (Decidable False)
  | .literal text, .placeholder _ _ =>
    inferInstanceAs (Decidable (text.toList.getLast? ≠ some '\\'))
  | .placeholder _ _, _ => inferInstanceAs (Decidable True)

/-- Segments as a text is cut into them: literals are not empty, no two of them
stand together, and neither a literal before a placeholder nor a content ends
in a backslash. -/
structure Canonical (segments : List Segment) : Prop where
  proper : ∀ s ∈ segments, s.Proper
  follows : segments.IsChain Follows

-- ================================================================ places

/-- The cutting of the first characters comes to a place where the others are
left. -/
inductive Scans : List Char → List Char → Prop
  | here (cs : List Char) : Scans cs cs
  | plain {c : Char} {cs rest : List Char} (hopen : opening? (c :: cs) = none)
    (hescape : c = '\\' → opening? cs = none) (h : Scans cs rest) : Scans (c :: cs) rest
  | escaped (kind : PlaceholderKind) {body rest : List Char} (h : Scans body rest) :
    Scans ('\\' :: kind.sigil :: '{' :: body) rest
  | placeholder (kind : PlaceholderKind) {body content after rest : List Char}
    (hclose : closing? body = some (content, after)) (h : Scans after rest) :
    Scans (kind.sigil :: '{' :: body) rest

/-- Every opening token that the cutting comes to has a brace that closes
it. -/
def AllClose (cs : List Char) : Prop :=
  ∀ (kind : PlaceholderKind) body, Scans cs (kind.sigil :: '{' :: body) → Closes body

/-- The cutting comes to the end, or to an opening token that does not
close. -/
theorem scans_end (cs : List Char) :
    Scans cs [] ∨ ∃ (kind : PlaceholderKind) (body : List Char),
      Scans cs (kind.sigil :: '{' :: body) ∧ closing? body = none := by
  induction cs using induction_on_steps with
  | nil => exact .inl (.here _)
  | placeholder kind body content after hclose ih =>
    exact ih.imp (.placeholder kind hclose)
      fun ⟨k, b, hscan, hnone⟩ => ⟨k, b, .placeholder kind hclose hscan, hnone⟩
  | unclosed kind body hnone => exact .inr ⟨kind, body, .here _, hnone⟩
  | escaped kind body ih =>
    exact ih.imp (.escaped kind) fun ⟨k, b, hscan, hnone⟩ => ⟨k, b, .escaped kind hscan, hnone⟩
  | plain c cs hopen hescape ih =>
    exact ih.imp (.plain hopen hescape)
      fun ⟨k, b, hscan, hnone⟩ => ⟨k, b, .plain hopen hescape hscan, hnone⟩

theorem body_inj {kind kind' : PlaceholderKind} {body body' : List Char}
    (h : kind.sigil :: '{' :: body = kind'.sigil :: '{' :: body') : body = body' :=
  (List.cons.inj (List.cons.inj h).2).2

/-- The cutting goes one way only: from a place that it leaves, it comes to
what it comes to from the next place. -/
theorem Scans.of_plain (h : Scans (c :: cs) rest) (hopen : opening? (c :: cs) = none)
    (hescape : c = '\\' → opening? cs = none) : c :: cs = rest ∨ Scans cs rest := by
  generalize hstart : c :: cs = start at h
  cases h with
  | here => exact .inl rfl
  | plain _ _ h =>
    obtain ⟨-, rfl⟩ := List.cons.inj hstart
    exact .inr h
  | escaped kind _ =>
    obtain ⟨rfl, rfl⟩ := List.cons.inj hstart
    exact nomatch (opening?_sigil kind _).symm.trans (hescape rfl)
  | placeholder kind _ _ =>
    rw [hstart, opening?_sigil] at hopen
    cases hopen

theorem Scans.of_escaped {kind : PlaceholderKind}
    (h : Scans ('\\' :: kind.sigil :: '{' :: body) rest) :
    '\\' :: kind.sigil :: '{' :: body = rest ∨ Scans body rest := by
  generalize hstart : '\\' :: kind.sigil :: '{' :: body = start at h
  cases h with
  | here => exact .inl rfl
  | plain _ hescape _ =>
    obtain ⟨rfl, rfl⟩ := List.cons.inj hstart
    exact nomatch (opening?_sigil kind _).symm.trans (hescape rfl)
  | escaped kind' h =>
    obtain rfl := body_inj (List.cons.inj hstart).2
    exact .inr h
  | placeholder kind' _ _ => exact absurd (List.cons.inj hstart).1.symm (sigil_ne_backslash kind')

theorem Scans.of_placeholder {kind : PlaceholderKind}
    (h : Scans (kind.sigil :: '{' :: body) rest) (hclose : closing? body = some (content, after)) :
    kind.sigil :: '{' :: body = rest ∨ Scans after rest := by
  generalize hstart : kind.sigil :: '{' :: body = start at h
  cases h with
  | here => exact .inl rfl
  | plain hopen _ _ =>
    rw [← hstart, opening?_sigil] at hopen
    cases hopen
  | escaped kind' _ => exact absurd (List.cons.inj hstart).1 (sigil_ne_backslash kind)
  | placeholder kind' hclose' h =>
    obtain rfl := body_inj hstart
    obtain ⟨-, rfl⟩ := Prod.mk.inj (Option.some.inj (hclose.symm.trans hclose'))
    exact .inr h

/-- All opening tokens close if and only if the cutting comes to the end. -/
theorem allClose_iff : AllClose cs ↔ Scans cs [] := by
  constructor
  · intro h
    rcases scans_end cs with hend | ⟨kind, body, hscan, hnone⟩
    · exact hend
    · obtain ⟨content, after, hclose⟩ := closes_iff.mp (h kind body hscan)
      cases hnone.symm.trans hclose
  · intro hend
    generalize hnil : ([] : List Char) = last at hend
    induction hend with
    | here =>
      subst hnil
      exact fun kind body h => nomatch h
    | plain hopen hescape _ ih =>
      intro kind body h
      rcases h.of_plain hopen hescape with heq | h
      · rw [heq, opening?_sigil] at hopen
        cases hopen
      · exact ih hnil kind body h
    | escaped kind' _ ih =>
      intro kind body h
      rcases h.of_escaped with heq | h
      · exact absurd (List.cons.inj heq).1.symm (sigil_ne_backslash kind)
      · exact ih hnil kind body h
    | placeholder kind' hclose _ ih =>
      intro kind body h
      rcases h.of_placeholder hclose with heq | h
      · obtain rfl := body_inj heq
        exact closes_iff.mpr ⟨_, _, hclose⟩
      · exact ih hnil kind body h

-- ====================================================== writing what is cut

/-- The characters cut, and written down again. -/
def rewritten (cs : List Char) : List Char :=
  guarded (leadingLiteral cs).1 ++ (leadingLiteral cs).2.flatMap encodeOne

theorem flatMap_consLiteral (literal : List Char) (segments : List Segment) :
    (consLiteral literal segments).flatMap encodeOne
      = guarded literal ++ segments.flatMap encodeOne := by
  unfold consLiteral
  cases literal with
  | nil => rfl
  | cons c cs =>
    show List.flatMap encodeOne (.literal (String.ofList (c :: cs)) :: segments) = _
    rw [List.flatMap_cons, encodeOne, String.toList_ofList]

theorem toList_encode_split (text : String) :
    (encode (split text)).toList = rewritten text.toList := by
  rw [encode, String.toList_ofList, split, flatMap_consLiteral, rewritten]

/-- A literal begins with a brace only if what it was cut from does. -/
theorem head?_leadingLiteral (h : (leadingLiteral cs).1.head? = some '{') :
    cs.head? = some '{' := by
  induction cs using induction_on_steps with
  | nil => rwa [leadingLiteral_nil] at h
  | placeholder kind body content after hclose _ =>
    rw [leadingLiteral_placeholder kind hclose] at h
    cases h
  | unclosed kind body hnone => rwa [leadingLiteral_unclosed kind hnone] at h
  | escaped kind body _ =>
    rw [leadingLiteral_escaped] at h
    exact absurd (Option.some.inj h) (sigil_ne_brace kind)
  | plain c cs hopen hescape _ => rwa [leadingLiteral_plain hopen hescape] at h

theorem rewritten_nil : rewritten [] = [] := by
  rw [rewritten, leadingLiteral_nil]
  rfl

theorem rewritten_plain (hopen : opening? (c :: cs) = none)
    (hescape : c = '\\' → opening? cs = none) : rewritten (c :: cs) = c :: rewritten cs := by
  have hstays : opening? (c :: (leadingLiteral cs).1) = none := by
    by_cases hhead : (leadingLiteral cs).1.head? = some '{'
    · obtain ⟨ds, rfl⟩ := List.head?_eq_some_iff.mp (head?_leadingLiteral hhead)
      obtain ⟨es, hes⟩ := List.head?_eq_some_iff.mp hhead
      rw [hes]
      exact opening?_cons_brace hopen es
    · exact opening?_cons_of_head? hhead c
  rw [rewritten, leadingLiteral_plain hopen hescape, guarded_cons_of_none hstays]
  rfl

theorem rewritten_escaped (kind : PlaceholderKind) (body : List Char) :
    rewritten ('\\' :: kind.sigil :: '{' :: body)
      = '\\' :: kind.sigil :: '{' :: rewritten body := by
  rw [rewritten, leadingLiteral_escaped, guarded_opening]
  rfl

theorem rewritten_placeholder (kind : PlaceholderKind)
    (h : closing? body = some (content, after)) :
    rewritten (kind.sigil :: '{' :: body)
      = kind.sigil :: '{' :: (braced content ++ '}' :: rewritten after) := by
  rw [rewritten, leadingLiteral_placeholder kind h, List.flatMap_cons, flatMap_consLiteral,
    encodeOne, String.toList_ofList]
  simp [guarded, rewritten]

theorem rewritten_unclosed (kind : PlaceholderKind) (h : closing? body = none) :
    rewritten (kind.sigil :: '{' :: body) = guarded (kind.sigil :: '{' :: body) := by
  rw [rewritten, leadingLiteral_unclosed kind h]
  exact List.append_nil _

/-- What the cutting has passed is written as it was. -/
theorem Scans.rewritten_eq (h : Scans cs rest) :
    ∃ before, cs = before ++ rest ∧ rewritten cs = before ++ rewritten rest := by
  induction h with
  | here cs => exact ⟨[], rfl, rfl⟩
  | @plain c cs rest hopen hescape _ ih =>
    obtain ⟨before, rfl, hrest⟩ := ih
    exact ⟨c :: before, rfl, by rw [rewritten_plain hopen hescape, hrest]; rfl⟩
  | @escaped kind body rest _ ih =>
    obtain ⟨before, rfl, hrest⟩ := ih
    exact ⟨'\\' :: kind.sigil :: '{' :: before, rfl, by rw [rewritten_escaped, hrest]; rfl⟩
  | @placeholder kind body content after rest hclose _ ih =>
    obtain ⟨before, rfl, hrest⟩ := ih
    obtain ⟨rfl, -⟩ := closing?_eq_some_iff.mp hclose
    refine ⟨kind.sigil :: '{' :: (braced content ++ '}' :: before), by simp, ?_⟩
    rw [rewritten_placeholder kind hclose, hrest]
    simp

/-- The segments of a text whose placeholders close, written down, are the
text. -/
theorem rewritten_of_allClose (h : AllClose cs) : rewritten cs = cs := by
  obtain ⟨before, hcs, hrewritten⟩ := (allClose_iff.mp h).rewritten_eq
  rw [hrewritten, rewritten_nil, ← hcs]

/-- From the first opening token on that does not close, the text is written
down as a literal. -/
theorem rewritten_of_not_closes {kind : PlaceholderKind}
    (hscan : Scans cs (kind.sigil :: '{' :: body)) (h : ¬Closes body) :
    ∃ before, cs = before ++ kind.sigil :: '{' :: body
      ∧ rewritten cs = before ++ guarded (kind.sigil :: '{' :: body) := by
  obtain ⟨before, hcs, hrewritten⟩ := hscan.rewritten_eq
  have hnone : closing? body = none := by
    cases hclose : closing? body with
    | none => rfl
    | some found => exact absurd (closes_iff.mpr ⟨found.1, found.2, hclose⟩) h
  rw [rewritten_unclosed kind hnone] at hrewritten
  exact ⟨before, hcs, hrewritten⟩

-- ====================================================== cutting what is written

/-- No literal at the end, and one that does not end in a backslash before a
placeholder: what may stand before the segments. -/
def Precedes (literal : List Char) (segments : List Segment) : Prop :=
  ∀ s ∈ segments.head?, (∃ kind content, s = .placeholder kind content)
    ∧ literal.getLast? ≠ some '\\'

theorem canonical_nil : Canonical [] := ⟨(fun _ h => nomatch h), .nil⟩

/-- A literal, if it is not empty, may be put before segments that it may
precede. -/
theorem Canonical.consLiteral {literal : List Char} {segments : List Segment}
    (h : Canonical segments) (hprecedes : Precedes literal segments) :
    Canonical (consLiteral literal segments) := by
  unfold Segment.consLiteral
  cases literal with
  | nil => exact h
  | cons c cs =>
    have hproper : Proper (.literal (String.ofList (c :: cs))) := fun hempty => by
      have hnil := congrArg String.toList hempty
      rw [String.toList_ofList] at hnil
      cases hnil
    refine ⟨List.forall_mem_cons.mpr ⟨hproper, h.proper⟩, List.isChain_cons.mpr ⟨?_, h.follows⟩⟩
    intro s hs
    obtain ⟨⟨kind, content, rfl⟩, hlast⟩ := hprecedes s hs
    show (String.ofList (c :: cs)).toList.getLast? ≠ some '\\'
    rwa [String.toList_ofList]

/-- Where no literal stands before segments, an opening token does. -/
theorem opening?_of_no_literal (hliteral : (leadingLiteral cs).1 = [])
    (hsegments : (leadingLiteral cs).2 ≠ []) : opening? cs ≠ none := by
  induction cs using induction_on_steps with
  | nil =>
    rw [leadingLiteral_nil] at hsegments
    exact absurd rfl hsegments
  | placeholder kind body content after _ _ =>
    rw [opening?_sigil]
    exact nofun
  | unclosed kind body hnone =>
    rw [opening?_sigil]
    exact nofun
  | escaped kind body _ =>
    rw [leadingLiteral_escaped] at hliteral
    cases hliteral
  | plain c cs hopen hescape _ =>
    rw [leadingLiteral_plain hopen hescape] at hliteral
    cases hliteral

/-- What a text is cut into is canonical, and its literal may precede its
segments. -/
theorem canonical_leadingLiteral (cs : List Char) :
    Canonical (leadingLiteral cs).2 ∧ Precedes (leadingLiteral cs).1 (leadingLiteral cs).2 := by
  induction cs using induction_on_steps with
  | nil =>
    rw [leadingLiteral_nil]
    exact ⟨canonical_nil, fun _ h => nomatch h⟩
  | placeholder kind body content after hclose ih =>
    obtain ⟨-, hlast⟩ := closing?_eq_some_iff.mp hclose
    have hproper : Proper (.placeholder kind (String.ofList content)) := by
      show (String.ofList content).toList.getLast? ≠ some '\\'
      rwa [String.toList_ofList]
    have hrest := ih.1.consLiteral ih.2
    rw [leadingLiteral_placeholder kind hclose]
    refine ⟨⟨List.forall_mem_cons.mpr ⟨hproper, hrest.proper⟩,
      List.isChain_cons.mpr ⟨fun _ _ => trivial, hrest.follows⟩⟩, fun s hs => ?_⟩
    obtain rfl := Option.some.inj hs
    exact ⟨⟨_, _, rfl⟩, nofun⟩
  | unclosed kind body hnone =>
    rw [leadingLiteral_unclosed kind hnone]
    exact ⟨canonical_nil, fun _ h => nomatch h⟩
  | escaped kind body ih =>
    rw [leadingLiteral_escaped]
    refine ⟨ih.1, fun s hs => ⟨(ih.2 s hs).1, ?_⟩⟩
    exact getLast?_cons_ne (sigil_ne_backslash kind)
      (getLast?_cons_ne (by decide) (ih.2 s hs).2)
  | plain c cs hopen hescape ih =>
    rw [leadingLiteral_plain hopen hescape]
    refine ⟨ih.1, fun s hs => ⟨(ih.2 s hs).1, ?_⟩⟩
    cases hliteral : (leadingLiteral cs).1 with
    | cons d ds =>
      have hlast := (ih.2 s hs).2
      rw [hliteral] at hlast
      exact hlast
    | nil =>
      -- A backslash there would have escaped the opening token after it.
      intro hback
      have hsegments : (leadingLiteral cs).2 ≠ [] := by
        intro hnil
        rw [hnil] at hs
        cases hs
      exact opening?_of_no_literal hliteral hsegments (hescape (Option.some.inj hback))

theorem canonical_split (text : String) : Canonical (split text) := by
  obtain ⟨hsegments, hprecedes⟩ := canonical_leadingLiteral text.toList
  exact hsegments.consLiteral hprecedes

/-- A text that is not empty has a segment. -/
theorem split_ne_nil {text : String} (h : text ≠ "") : split text ≠ [] := by
  have hchars : ∀ cs : List Char, cs ≠ [] →
      Segment.consLiteral (leadingLiteral cs).1 (leadingLiteral cs).2 ≠ [] := by
    intro cs hne
    cases cs using induction_on_steps with
    | nil => exact absurd rfl hne
    | placeholder kind body content after hclose =>
      rw [leadingLiteral_placeholder kind hclose]
      exact nofun
    | unclosed kind body hnone =>
      rw [leadingLiteral_unclosed kind hnone]
      exact nofun
    | escaped kind body =>
      rw [leadingLiteral_escaped]
      exact nofun
    | plain c cs hopen hescape =>
      rw [leadingLiteral_plain hopen hescape]
      exact nofun
  refine hchars text.toList fun hnil => h (String.toList_injective ?_)
  rw [hnil]
  rfl

/-- The characters begin with an opening token, or there are none. -/
def BeginsPlaceholder (cs : List Char) : Prop :=
  cs = [] ∨ ∃ (kind : PlaceholderKind) (body : List Char), cs = kind.sigil :: '{' :: body

theorem BeginsPlaceholder.head? (h : BeginsPlaceholder cs) : cs.head? ≠ some '{' := by
  rcases h with rfl | ⟨kind, body, rfl⟩
  · exact nofun
  · exact fun hbrace => sigil_ne_brace kind (Option.some.inj hbrace)

/-- What is written for a literal begins with a brace only if the literal
does. -/
theorem head?_guarded_append {text more : List Char} (hmore : more.head? ≠ some '{')
    (h : (guarded text ++ more).head? = some '{') : text.head? = some '{' := by
  cases text with
  | nil => exact absurd h hmore
  | cons c cs =>
    cases ho : opening? (c :: cs) with
    | none =>
      rw [guarded_cons_of_none ho] at h
      exact h
    | some found =>
      obtain ⟨kind, body⟩ := found
      rw [opening?_eq_some.mp ho, guarded_opening] at h
      exact absurd (Option.some.inj h) (by decide)

/-- No opening token is left unescaped in a literal, or at its end. -/
theorem opening?_guarded_append {text more : List Char} (htext : text ≠ [])
    (hmore : more.head? ≠ some '{') : opening? (guarded text ++ more) = none := by
  cases text with
  | nil => exact absurd rfl htext
  | cons c cs =>
    cases ho : opening? (c :: cs) with
    | some found =>
      obtain ⟨kind, body⟩ := found
      rw [opening?_eq_some.mp ho, guarded_opening]
      exact opening?_cons_of_ne (fun k => sigil_ne_backslash k) _
    | none =>
      rw [guarded_cons_of_none ho, List.cons_append]
      by_cases hhead : (guarded cs ++ more).head? = some '{'
      · obtain ⟨ds, rfl⟩ := List.head?_eq_some_iff.mp (head?_guarded_append hmore hhead)
        obtain ⟨es, hes⟩ := List.head?_eq_some_iff.mp hhead
        rw [hes]
        exact opening?_cons_brace ho es
      · exact opening?_cons_of_head? hhead c

/-- A literal that is written down is cut as literal text. -/
theorem leadingLiteral_guarded_append {text more : List Char} (hmore : BeginsPlaceholder more)
    (hlast : more ≠ [] → text.getLast? ≠ some '\\') :
    leadingLiteral (guarded text ++ more)
      = (text ++ (leadingLiteral more).1, (leadingLiteral more).2) := by
  induction text with
  | nil => rfl
  | cons c cs ih =>
    have hrest := ih fun hne => getLast?_of_cons (hlast hne)
    cases ho : opening? (c :: cs) with
    | none =>
      have hopen := opening?_guarded_append (List.cons_ne_nil c cs) hmore.head?
      rw [guarded_cons_of_none ho, List.cons_append] at hopen ⊢
      have hescape : c = '\\' → opening? (guarded cs ++ more) = none := by
        rintro rfl
        by_cases hcs : cs = []
        · subst hcs
          rcases hmore with rfl | ⟨kind, body, rfl⟩
          · rfl
          · exact absurd rfl (hlast (List.cons_ne_nil _ _))
        · exact opening?_guarded_append hcs hmore.head?
      rw [leadingLiteral_plain hopen hescape, hrest]
      rfl
    | some found =>
      obtain ⟨kind, body⟩ := found
      obtain ⟨rfl, rfl⟩ := List.cons.inj (opening?_eq_some.mp ho)
      have hbrace : ∀ ds : List Char, opening? ('{' :: ds) = none :=
        opening?_cons_of_ne fun k => sigil_ne_brace k
      rw [guarded_cons_of_none (hbrace body), List.cons_append,
        leadingLiteral_plain (hbrace _) (fun h => absurd h (by decide))] at hrest
      obtain ⟨hliteral, hsegments⟩ := Prod.mk.inj hrest
      rw [guarded_opening, List.cons_append, List.cons_append, List.cons_append,
        leadingLiteral_escaped, hsegments, (List.cons.inj hliteral).2]
      rfl

/-- What does not begin with a literal had none put before it. -/
theorem eq_nil_of_consLiteral {literal : List Char} {segments rest : List Segment}
    (h : consLiteral literal segments = rest)
    (hrest : ∀ other, .literal other ∉ rest.head?) : literal = [] := by
  cases literal with
  | nil => rfl
  | cons c cs =>
    subst h
    exact absurd rfl (hrest (String.ofList (c :: cs)))

theorem consLiteral_of_ne_empty {text : String} (h : text ≠ "") (segments : List Segment) :
    consLiteral text.toList segments = .literal text :: segments := by
  cases hcs : text.toList with
  | nil => exact absurd (String.toList_eq_nil_iff.mp hcs) h
  | cons c cs =>
    rw [← String.ofList_toList (s := text), hcs]
    rfl

/-- Canonical segments that are written down are cut as they were. -/
theorem consLiteral_leadingLiteral_encode {segments : List Segment} (h : Canonical segments) :
    consLiteral (leadingLiteral (segments.flatMap encodeOne)).1
      (leadingLiteral (segments.flatMap encodeOne)).2 = segments := by
  induction segments with
  | nil =>
    rw [List.flatMap_nil, leadingLiteral_nil]
    rfl
  | cons s rest ih =>
    obtain ⟨hfirst, hproper⟩ := List.forall_mem_cons.mp h.proper
    obtain ⟨hhead, hchain⟩ := List.isChain_cons.mp h.follows
    have hrest := ih ⟨hproper, hchain⟩
    cases s with
    | placeholder kind content =>
      have hclose : closing? (braced content.toList ++ '}' :: rest.flatMap encodeOne)
          = some (content.toList, rest.flatMap encodeOne) :=
        closing?_eq_some_iff.mpr ⟨rfl, hfirst⟩
      have hwritten : (Segment.placeholder kind content :: rest).flatMap encodeOne
          = kind.sigil :: '{' :: (braced content.toList ++ '}' :: rest.flatMap encodeOne) := by
        simp [encodeOne]
      rw [hwritten, leadingLiteral_placeholder kind hclose, hrest, String.ofList_toList]
      rfl
    | literal text =>
      have hplaceholder : ∀ y ∈ rest.head?, (∃ kind content, y = .placeholder kind content)
          ∧ text.toList.getLast? ≠ some '\\' := by
        intro y hy
        have hfollows := hhead y hy
        cases y with
        | literal other => exact absurd hfollows id
        | placeholder kind content => exact ⟨⟨kind, content, rfl⟩, hfollows⟩
      have hmore : BeginsPlaceholder (rest.flatMap encodeOne) := by
        cases rest with
        | nil => exact .inl rfl
        | cons y ys =>
          obtain ⟨⟨kind, content, rfl⟩, -⟩ := hplaceholder y rfl
          exact .inr ⟨kind, _, rfl⟩
      have hlast : rest.flatMap encodeOne ≠ [] → text.toList.getLast? ≠ some '\\' := by
        intro hne
        cases rest with
        | nil => exact absurd rfl hne
        | cons y ys => exact (hplaceholder y rfl).2
      have hliteral : (leadingLiteral (rest.flatMap encodeOne)).1 = [] :=
        eq_nil_of_consLiteral hrest fun other hother => by
          obtain ⟨⟨kind, content, hy⟩, -⟩ := hplaceholder _ hother
          cases hy
      rw [hliteral] at hrest
      rw [List.flatMap_cons, encodeOne, leadingLiteral_guarded_append hmore hlast, hliteral,
        List.append_nil, consLiteral_of_ne_empty hfirst]
      exact congrArg _ hrest

-- ================================================================= texts

/-- Texts and canonical segments correspond. A text is cut into canonical
segments, and these, written down, are cut into themselves. The segments of a
text in which every opening token closes that the cutting comes to are written
as the text; from the first one on that does not close, a backslash is put
before each opening token, and nothing else is changed. -/
theorem canonical_split_and_encode :
    (∀ text, Canonical (split text))
      ∧ (∀ segments, Canonical segments → split (encode segments) = segments)
      ∧ (∀ text, AllClose text.toList → encode (split text) = text)
      ∧ ∀ text (kind : PlaceholderKind) body, Scans text.toList (kind.sigil :: '{' :: body) →
          ¬Closes body → ∃ before, text.toList = before ++ kind.sigil :: '{' :: body
            ∧ (encode (split text)).toList = before ++ guarded (kind.sigil :: '{' :: body) := by
  refine ⟨fun text => ?_, fun segments h => ?_, fun text h => ?_, fun text kind body hscan h => ?_⟩
  · obtain ⟨hsegments, hprecedes⟩ := canonical_leadingLiteral text.toList
    exact hsegments.consLiteral hprecedes
  · rw [split, encode, String.toList_ofList]
    exact consLiteral_leadingLiteral_encode h
  · refine String.ext ?_
    rw [toList_encode_split, rewritten_of_allClose h]
  · rw [toList_encode_split]
    exact rewritten_of_not_closes hscan h

/-- A literal with an opening token in it, a content with a brace, and a
literal that begins with a brace. -/
def threePieces : List Segment :=
  [.literal "\\$\x7ba\x7d", .placeholder .parameter "x\x7dy", .literal "\x7b-"]

/-- How they are written: `\\${a}#{x\}y}{-`. -/
def threePiecesText : String := "\\\\$\x7ba\x7d#\x7bx\\\x7dy\x7d\x7b-"

/-- A placeholder that does not close and an escaped opening token in it:
`${b \#{c`. -/
def unclosedEnd : String := "$\x7bb \\#\x7bc"

/-- They come back; with an unclosed end after them, there are two
backslashes more. -/
theorem canonical_split_and_encode_of_unclosed :
    encode threePieces = threePiecesText
      ∧ split (encode threePieces) = threePieces
      ∧ AllClose threePiecesText.toList
      ∧ encode (split threePiecesText) = threePiecesText
      ∧ Scans (threePiecesText.toList ++ unclosedEnd.toList) unclosedEnd.toList
      ∧ (encode (split (threePiecesText ++ unclosedEnd))).toList
        = threePiecesText.toList ++ "\\$\x7bb \\\\#\x7bc".toList := by
  obtain ⟨-, hsegments, htext, hunclosed⟩ := canonical_split_and_encode
  have hcanonical : Canonical threePieces :=
    ⟨by decide, .cons_cons (by decide) (.cons_cons (by decide) (.singleton _))⟩
  -- The same steps lead to the end of the one text and to the token in the other.
  have hscans : ∀ rest : List Char, Scans (threePiecesText.toList ++ rest) rest := fun rest =>
    .plain rfl (fun _ => rfl) (.escaped .interpolation (.plain rfl nofun (.plain rfl nofun
      (.placeholder .parameter rfl (.plain rfl nofun
        (.plain (opening?_cons_of_ne (fun kind => by cases kind <;> decide) rest) nofun
          (.here rest)))))))
  have hclose : AllClose threePiecesText.toList := by
    rw [← List.append_nil threePiecesText.toList]
    exact allClose_iff.mpr (hscans [])
  have hopen : ¬Closes "b \\#\x7bc".toList := fun h => by
    obtain ⟨content, after, hfound⟩ := closes_iff.mp h
    cases hfound
  have hscan := hscans unclosedEnd.toList
  obtain ⟨before, hbefore, hwritten⟩ :=
    hunclosed (threePiecesText ++ unclosedEnd) .interpolation "b \\#\x7bc".toList hscan hopen
  refine ⟨rfl, hsegments _ hcanonical, hclose, htext _ hclose, hscan, ?_⟩
  obtain rfl : before = threePiecesText.toList :=
    List.append_cancel_right (hbefore.symm.trans rfl)
  rw [hwritten]
  rfl

end DynamicSql.Segment
