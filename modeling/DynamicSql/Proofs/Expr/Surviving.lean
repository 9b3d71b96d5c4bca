/-
What squeezing makes of one token.

Squeezing does not look for quotes. Outside of them a blank is no part of any
token: it ends one, or it is none of the language. Inside of them it is
content, so a string becomes another one unless each of its blanks is a space
and stands alone. `survives` says of characters that neither is the matter,
from left to right, with the quote that is open.

# What each token does

Only strings have blanks inside. All other tokens are made of characters that
squeezing keeps, and what ends them still ends them, be it a blank or a space
that took its place (`scan_squeezeFrom`). A string ends where it ended, since
neither its quote nor a backslash is a blank, and it is the string that it was
just if it survives (`stringBody?_squeezeFrom`).
-/
import DynamicSql.Proofs.Expr.Mentioned
import DynamicSql.Proofs.Expr.Strings
import DynamicSql.Proofs.Expr.Written
import DynamicSql.Proofs.Text.Squeezed

namespace DynamicSql

open Text (isBlank isAsciiBlank squeezeFrom squeezeFrom_cons squeezeFrom_false_blank
  squeezeFrom_true_blank)

namespace Token

variable {blank : Bool} {c quote : Char} {cs body rest : List Char} {token : Token}

def isQuote (c : Char) : Bool := c == '\'' || c == '"'

theorem isBlank_of_isQuote (h : isQuote c = true) : isBlank c = false := by
  simp only [isQuote, Bool.or_eq_true, beq_iff_eq] at h
  obtain rfl | rfl := h <;> rfl

/-- True of characters that squeezing leaves as they are for an expression:
outside of quotes each blank separates tokens, and inside of them each is a
space with no blank before it. Inside of quotes, the first argument is the one
that is open; the second is true behind a blank. -/
def survives : Option Char → Bool → List Char → Bool
  | _, _, [] => true
  | none, _, c :: cs =>
    (!isBlank c || isAsciiBlank c) && survives (if isQuote c then some c else none) (isBlank c) cs
  | some quote, blank, c :: cs =>
    if c = '\\' then
      match cs with
      | [] => true
      | d :: ds => (!isBlank d || d == ' ') && survives (some quote) (isBlank d) ds
    else
      (!isBlank c || c == ' ' && !blank)
        && survives (if c = quote then none else some quote) (isBlank c) cs

/-- Outside of quotes it does not matter what stands before. -/
theorem survives_none (blank : Bool) (cs : List Char) :
    survives none blank cs = survives none false cs := by
  cases cs <;> rfl

/-- What is neither blank nor a quote survives. -/
theorem survives_append (as cs : List Char)
    (h : ∀ c ∈ as, isBlank c = false ∧ isQuote c = false) :
    survives none false (as ++ cs) = survives none false cs := by
  induction as with
  | nil => rfl
  | cons a as ih =>
    obtain ⟨hblank, hquote⟩ := h a List.mem_cons_self
    rw [List.cons_append, survives, hblank, hquote]
    exact ih fun c hc => h c (List.mem_cons_of_mem a hc)

/-- A blank that survives is one that separates tokens. -/
theorem isAsciiBlank_of_survives {quote? : Option Char} (h : survives quote? blank cs = true) :
    ∀ c ∈ cs, isBlank c = true → isAsciiBlank c = true := by
  have hspace : ∀ d, (!isBlank d || d == ' ') = true → isBlank d = true →
      isAsciiBlank d = true := by
    intro d hd hblank
    rw [hblank] at hd
    rw [beq_iff_eq.mp hd]
    rfl
  fun_induction survives quote? blank cs with
  | case1 => exact nofun
  | case2 _ c cs ih =>
    obtain ⟨hc, hrest⟩ := Bool.and_eq_true_iff.mp h
    intro d hd hblank
    obtain rfl | hd := List.mem_cons.mp hd
    · rw [hblank] at hc
      exact hc
    · exact ih hrest d hd hblank
  | case3 quote _ =>
    intro d hd hblank
    rw [List.mem_singleton.mp hd] at hblank
    cases hblank
  | case4 quote _ e ds ih =>
    obtain ⟨he, hrest⟩ := Bool.and_eq_true_iff.mp h
    intro d hd hblank
    obtain rfl | rfl | hd := List.mem_cons.mp hd |>.imp_right List.mem_cons.mp
    · cases hblank
    · exact hspace d he hblank
    · exact ih hrest d hd hblank
  | case5 quote blank c cs hc ih =>
    obtain ⟨hc, hrest⟩ := Bool.and_eq_true_iff.mp h
    intro d hd hblank
    obtain rfl | hd := List.mem_cons.mp hd
    · refine hspace d ?_ hblank
      rw [hblank, Bool.not_true, Bool.false_or] at hc ⊢
      exact (Bool.and_eq_true_iff.mp hc).1
    · exact ih hrest d hd hblank

-- =============================================================== strings

/-- What survives in a string behind a backslash. -/
theorem survives_backslash (quote : Char) (blank : Bool) (c : Char) (cs : List Char) :
    survives (some quote) blank ('\\' :: c :: cs)
      = ((!isBlank c || c == ' ') && survives (some quote) (isBlank c) cs) := rfl

theorem survives_string (quote : Char) (blank : Bool) (hc : c ≠ '\\') (cs : List Char) :
    survives (some quote) blank (c :: cs)
      = ((!isBlank c || c == ' ' && !blank)
        && survives (if c = quote then none else some quote) (isBlank c) cs) := by
  cases cs with
  | nil => exact if_neg hc
  | cons d ds => exact if_neg hc

/-- What a string becomes is not longer. Either it is the same and survival is
up to what follows, or it is not and the whole does not survive. -/
structure Becomes (body body' : List Char) (whole after : Bool) : Prop where
  length_le : body'.length ≤ body.length
  same_or : body = body' ∧ whole = after ∨ body ≠ body' ∧ whole = false

namespace Becomes

variable {body' : List Char} {whole after : Bool}

/-- A character is added to both. -/
theorem cons {d d' : Char} {kept : Bool} (h : Becomes body body' whole after)
    (hkept : kept = true ↔ d = d') : Becomes (d :: body) (d' :: body') (kept && whole) after := by
  refine ⟨Nat.succ_le_succ h.length_le, ?_⟩
  cases hk : kept with
  | false =>
    have hne : d ≠ d' := fun hd => by
      rw [hkept.mpr hd] at hk
      cases hk
    exact .inr ⟨fun heq => hne (List.cons.inj heq).1, rfl⟩
  | true =>
    obtain rfl := hkept.mp hk
    refine h.same_or.imp ?_ ?_
    · rintro ⟨rfl, rfl⟩
      exact ⟨rfl, rfl⟩
    · rintro ⟨hne, rfl⟩
      exact ⟨fun heq => hne (List.cons.inj heq).2, rfl⟩

/-- A character is left out. -/
theorem dropped (h : Becomes body body' whole after) (d : Char) :
    Becomes (d :: body) body' false after := by
  refine ⟨Nat.le_succ_of_le h.length_le, .inr ⟨fun heq => ?_, rfl⟩⟩
  have hlength := h.length_le
  rw [← heq] at hlength
  exact Nat.not_succ_le_self _ hlength

end Becomes

theorem unescape_of_isBlank (h : isBlank c = true) : unescape c = c := by
  unfold unescape
  split
  · cases h
  · cases h
  · rfl

/-- A character to which neither case of a backslash applies is none. -/
theorem ne_backslash (hlast : c = '\\' → cs = [] → False)
    (hback : ∀ d ds, c = '\\' → cs = d :: ds → False) : c ≠ '\\' := fun hc => by
  cases cs with
  | nil => exact hlast hc rfl
  | cons d ds => exact hback d ds hc rfl

/-- A string is squeezed as a whole and ends where it ended. It keeps its
content just if it survives. -/
theorem stringBody?_squeezeFrom (hquote : isQuote quote = true)
    (h : stringBody? quote cs = some (body, rest)) (blank : Bool) :
    ∃ body', stringBody? quote (squeezeFrom blank cs) = some (body', squeezeFrom false rest)
      ∧ Becomes body body' (survives (some quote) blank cs) (survives none false rest) := by
  have hnotBlank := isBlank_of_isQuote hquote
  fun_induction stringBody? quote cs generalizing blank body rest with
  | case1 => cases h
  | case2 => cases h
  | case3 c cs ih =>
    obtain ⟨⟨tail, rest⟩, htail, heq⟩ := Option.map_eq_some_iff.mp h
    obtain ⟨rfl, rfl⟩ := Prod.mk.inj heq
    obtain ⟨tail', hstring, hbecomes⟩ := ih htail (isBlank c)
    rw [squeezeFrom_cons rfl, survives_backslash]
    cases hc : isBlank c with
    | false =>
      rw [hc] at hstring hbecomes
      rw [squeezeFrom_cons hc, stringBody?, hstring]
      exact ⟨_, rfl, hbecomes.cons (iff_of_true rfl rfl)⟩
    | true =>
      rw [hc] at hstring hbecomes
      rw [squeezeFrom_false_blank hc, stringBody?, hstring, unescape_of_isBlank hc]
      exact ⟨_, rfl, hbecomes.cons (beq_iff_eq)⟩
  | case4 cs hlast hback =>
    obtain ⟨rfl, rfl⟩ := Prod.mk.inj (Option.some.inj h)
    have hne : quote ≠ '\\' := by
      rintro rfl
      cases hquote
    refine ⟨[], ?_, ?_⟩
    · rw [squeezeFrom_cons hnotBlank, stringBody?_cons hne, if_pos rfl]
    · rw [survives_string quote blank hne, hnotBlank, if_pos rfl]
      exact ⟨Nat.le_refl _, .inl ⟨rfl, rfl⟩⟩
  | case5 c cs hlast hback hc ih =>
    obtain ⟨⟨tail, rest⟩, htail, heq⟩ := Option.map_eq_some_iff.mp h
    obtain ⟨rfl, rfl⟩ := Prod.mk.inj heq
    obtain ⟨tail', hstring, hbecomes⟩ := ih htail (isBlank c)
    have hne : c ≠ '\\' := ne_backslash hlast hback
    rw [survives_string quote blank hne, if_neg hc]
    cases hb : isBlank c with
    | false =>
      rw [hb] at hstring hbecomes
      rw [squeezeFrom_cons hb, stringBody?_cons hne, if_neg hc, hstring]
      exact ⟨_, rfl, hbecomes.cons (iff_of_true rfl rfl)⟩
    | true =>
      rw [hb] at hstring hbecomes
      cases blank with
      | false =>
        have hspace : ' ' ≠ quote := by
          rintro rfl
          cases hnotBlank
        rw [squeezeFrom_false_blank hb, stringBody?_cons (by decide), if_neg hspace, hstring]
        exact ⟨_, rfl, hbecomes.cons (by simp)⟩
      | true =>
        rw [squeezeFrom_true_blank hb]
        exact ⟨tail', hstring, by simpa using hbecomes.dropped c⟩

/-- A string that does not end does not end squeezed. -/
theorem stringBody?_squeezeFrom_eq_none (hquote : isQuote quote = true)
    (h : stringBody? quote cs = none) (blank : Bool) :
    stringBody? quote (squeezeFrom blank cs) = none := by
  have hspace : ' ' ≠ quote := by
    rintro rfl
    cases hquote
  fun_induction stringBody? quote cs generalizing blank with
  | case1 => rfl
  | case2 =>
    rw [squeezeFrom_cons rfl]
    rfl
  | case3 c cs ih =>
    have hcs := ih (Option.map_eq_none_iff.mp h)
    rw [squeezeFrom_cons rfl]
    cases hc : isBlank c with
    | false => rw [squeezeFrom_cons hc, stringBody?, hcs, Option.map_none]
    | true => rw [squeezeFrom_false_blank hc, stringBody?, hcs, Option.map_none]
  | case4 => cases h
  | case5 c cs hlast hback hc ih =>
    have hcs := ih (Option.map_eq_none_iff.mp h)
    have hne : c ≠ '\\' := ne_backslash hlast hback
    cases hb : isBlank c with
    | false => rw [squeezeFrom_cons hb, stringBody?_cons hne, if_neg hc, hcs, Option.map_none]
    | true =>
      cases blank with
      | false =>
        rw [squeezeFrom_false_blank hb, stringBody?_cons (by decide), if_neg hspace, hcs,
          Option.map_none]
      | true =>
        rw [squeezeFrom_true_blank hb]
        exact hcs true

-- ========================================================== other tokens

theorem not_isDigit_of_isBlank (c : Char) (h : isBlank c = true) : c.isDigit = false := by
  have hword := LoopVariable.isWordChar_of_isBlank h
  simp only [isWordChar, Char.isAlphanum, Bool.or_eq_false_iff] at hword
  exact hword.1.1.2

theorem beginsFraction_of_ne (h : c ≠ '.') (cs : List Char) : beginsFraction (c :: cs) = false := by
  unfold beginsFraction
  split
  · next heq => exact absurd (List.cons.inj heq).1 h
  · rfl

/-- A fraction begins with a point and goes on. -/
theorem exists_of_beginsFraction (h : beginsFraction cs = true) : ∃ rest, cs = '.' :: rest := by
  unfold beginsFraction at h
  split at h
  · exact ⟨_, rfl⟩
  · cases h

theorem beginsFraction_squeezeFrom (cs : List Char) :
    beginsFraction (squeezeFrom false cs) = beginsFraction cs := by
  cases cs with
  | nil => rfl
  | cons c cs =>
    by_cases hc : c = '.'
    · subst hc
      rw [squeezeFrom_cons rfl]
      cases cs with
      | nil => rfl
      | cons d ds =>
        cases hd : isBlank d with
        | false =>
          rw [squeezeFrom_cons hd]
          rfl
        | true =>
          rw [squeezeFrom_false_blank hd]
          exact (not_isDigit_of_isBlank d hd).symm
    · rw [beginsFraction_of_ne hc]
      cases hb : isBlank c with
      | false => rw [squeezeFrom_cons hb, beginsFraction_of_ne hc]
      | true => rw [squeezeFrom_false_blank hb, beginsFraction_of_ne (by decide)]

/-- A number is cut off a squeezed text as it is cut off the text. -/
theorem number_squeezeFrom (cs : List Char) :
    number (squeezeFrom false cs) = (number cs).map (Prod.map id (squeezeFrom false)) := by
  have htake := Text.takeWhile_squeezeFrom not_isDigit_of_isBlank
  have hdrop := Text.dropWhile_squeezeFrom not_isDigit_of_isBlank
  unfold number
  simp only [htake, hdrop, beginsFraction_squeezeFrom]
  split
  · next hfraction =>
    obtain ⟨rest, hrest⟩ := exists_of_beginsFraction hfraction
    rw [hrest, squeezeFrom_cons rfl]
    simp only [List.drop_succ_cons, List.drop_zero, htake, hdrop]
    rfl
  · split <;> rfl

/-- A symbol is told by its characters and by none behind them. -/
theorem symbol?_cons (f : List Char → List Char) {d : Char} (hf : ∀ ds, f (d :: ds) = d :: f ds)
    (c : Char) (ds : List Char) :
    symbol? c (d :: f ds) = (symbol? c (d :: ds)).map (Prod.map id f) := by
  unfold symbol?
  split <;> simp_all

/-- A blank is no part of a symbol. -/
theorem symbol?_of_isBlank {d : Char} (hd : isBlank d = true) (c : Char) (ds : List Char) :
    symbol? c (d :: ds) = (symbol? c []).map (Prod.map id fun _ => d :: ds) := by
  unfold symbol?
  split <;> simp_all
  all_goals exact absurd hd (by decide)

theorem symbol?_squeezeFrom (c : Char) (cs : List Char) :
    symbol? c (squeezeFrom false cs) = (symbol? c cs).map (Prod.map id (squeezeFrom false)) := by
  cases cs with
  | nil =>
    have hnil : symbol? c [] = (symbol? c []).map (Prod.map id (squeezeFrom false)) := by
      unfold symbol?
      split <;> simp_all [squeezeFrom]
    exact hnil
  | cons d ds =>
    cases hd : isBlank d with
    | false =>
      rw [squeezeFrom_cons hd]
      exact symbol?_cons (squeezeFrom false) (fun ds => squeezeFrom_cons hd ds) c ds
    | true =>
      rw [squeezeFrom_false_blank hd, symbol?_of_isBlank rfl, symbol?_of_isBlank hd]
      cases symbol? c [] with
      | none => rfl
      | some found => simp only [Option.map_some, Prod.map, id, squeezeFrom_false_blank hd]

/-- So is every token that is no string. -/
theorem scan_squeezeFrom (hblank : isBlank c = false) (hquote : isQuote c = false)
    (cs : List Char) :
    scan c (squeezeFrom false cs) = (scan c cs).map (Prod.map id (squeezeFrom false)) := by
  have hnot : ¬(c = '\'' ∨ c = '"') := by
    simpa [isQuote] using hquote
  have hword : ∀ d, isBlank d = true → isWordChar d = false := fun _ =>
    LoopVariable.isWordChar_of_isBlank
  have htake := Text.takeWhile_squeezeFrom hword
  have hdrop := Text.dropWhile_squeezeFrom hword
  have hnumber := number_squeezeFrom (c :: cs)
  have hfraction := beginsFraction_squeezeFrom (c :: cs)
  rw [squeezeFrom_cons hblank] at hnumber hfraction
  unfold scan
  cases bracket? c with
  | some t => rfl
  | none =>
    simp only [if_neg hnot, hfraction, hnumber, htake, hdrop, symbol?_squeezeFrom]
    split
    · rfl
    · split
      · rfl
      · split
        · rfl
        · cases symbol? c cs <;> rfl

/-- Neither a blank nor a quote. -/
def isPlain (c : Char) : Bool := !isBlank c && !isQuote c

theorem isPlain_of_isWordChar (h : isWordChar c = true) : isPlain c = true := by
  have hblank : isBlank c = false := by
    cases hb : isBlank c with
    | false => rfl
    | true =>
      rw [LoopVariable.isWordChar_of_isBlank hb] at h
      cases h
  have hquote : isQuote c = false := by
    cases hq : isQuote c with
    | false => rfl
    | true =>
      simp only [isQuote, Bool.or_eq_true, beq_iff_eq] at hq
      exact absurd hq (bracket?_of_isWordChar h).2
  rw [isPlain, hblank, hquote]
  rfl

theorem isPlain_of_isDigit (h : c.isDigit = true) : isPlain c = true := by
  refine isPlain_of_isWordChar ?_
  simp only [isWordChar, Char.isAlphanum, h, Bool.or_true, Bool.true_or]

theorem all_isPlain_takeWhile {p : Char → Bool} (hp : ∀ d, p d = true → isPlain d = true)
    (cs : List Char) : (cs.takeWhile p).all isPlain = true :=
  List.all_eq_true.mpr fun d hd => hp d (List.all_eq_true.mp List.all_takeWhile d hd)

theorem exists_of_number (h : number cs = .ok (token, rest)) :
    ∃ taken, cs = taken ++ rest ∧ taken.all isPlain = true := by
  have hdigits := all_isPlain_takeWhile (p := Char.isDigit) fun _ => isPlain_of_isDigit
  have hwhole : cs.takeWhile Char.isDigit ++ cs.dropWhile Char.isDigit = cs :=
    List.takeWhile_append_dropWhile
  unfold number at h
  simp only [] at h
  split at h
  · next hfraction =>
    obtain ⟨-, rfl⟩ := Prod.mk.inj (Except.ok.inj h)
    obtain ⟨tail, htail⟩ := exists_of_beginsFraction hfraction
    rw [htail] at hwhole ⊢
    refine ⟨cs.takeWhile Char.isDigit ++ '.' :: tail.takeWhile Char.isDigit, ?_, ?_⟩
    · rw [List.append_assoc, List.cons_append, List.drop_succ_cons, List.drop_zero,
        List.takeWhile_append_dropWhile, hwhole]
    · rw [List.all_append, hdigits, List.all_cons, hdigits]
      rfl
  · split at h
    · obtain ⟨-, rfl⟩ := Prod.mk.inj (Except.ok.inj h)
      exact ⟨_, hwhole.symm, hdigits cs⟩
    · cases h

theorem exists_of_symbol? {s : Symbol} (h : symbol? c cs = some (s, rest)) :
    ∃ taken, c :: cs = taken ++ rest ∧ taken.all isPlain = true := by
  unfold symbol? at h
  split at h <;> cases h
  -- Six symbols have two characters, the others one.
  iterate 6 exact ⟨[_, _], rfl, by decide⟩
  all_goals exact ⟨[_], rfl, by decide⟩

/-- A token that is no string takes neither blanks nor quotes. -/
theorem exists_of_scan (hquote : isQuote c = false) (h : scan c cs = .ok (token, rest)) :
    ∃ taken, c :: cs = taken ++ rest ∧ taken.all isPlain = true := by
  unfold scan at h
  split at h
  · next t hbracket =>
    obtain ⟨-, rfl⟩ := Prod.mk.inj (Except.ok.inj h)
    unfold bracket? at hbracket
    split at hbracket <;> cases hbracket
    all_goals exact ⟨[_], rfl, by decide⟩
  · rw [if_neg (by simpa [isQuote] using hquote)] at h
    split at h
    · exact exists_of_number h
    · split at h
      · next hdot =>
        obtain ⟨-, rfl⟩ := Prod.mk.inj (Except.ok.inj h)
        exact ⟨[c], rfl, by rw [hdot]; decide⟩
      · split at h
        · next hstart =>
          obtain ⟨-, rfl⟩ := Prod.mk.inj (Except.ok.inj h)
          refine ⟨c :: cs.takeWhile isWordChar, ?_, ?_⟩
          · rw [List.cons_append, List.takeWhile_append_dropWhile]
          · have hc := isPlain_of_isWordChar (LoopVariable.isWordChar_of_isWordStart hstart)
            rw [List.all_cons, hc]
            exact all_isPlain_takeWhile (fun _ => isPlain_of_isWordChar) cs
        · split at h
          · next hsymbol =>
            obtain ⟨-, rfl⟩ := Prod.mk.inj (Except.ok.inj h)
            exact exists_of_symbol? hsymbol
          · cases h

/-- No token begins with a blank. -/
theorem isBlank_of_scan (h : scan c cs = .ok (token, rest)) : isBlank c = false := by
  cases hquote : isQuote c with
  | true => exact isBlank_of_isQuote hquote
  | false =>
    obtain ⟨taken, htaken, hplain⟩ := exists_of_scan hquote h
    cases taken with
    | nil =>
      have hlength := length_scan h
      rw [← show c :: cs = rest from htaken] at hlength
      exact absurd hlength (Nat.not_succ_le_self _)
    | cons d taken =>
      obtain ⟨rfl, -⟩ := List.cons.inj htaken
      have hd := List.all_eq_true.mp hplain c List.mem_cons_self
      simpa [isPlain] using And.left (Bool.and_eq_true_iff.mp hd)

-- ============================================================ any token

theorem scan_quote (hquote : isQuote c = true) (cs : List Char) :
    scan c cs = match stringBody? c cs with
      | some (body, rest) => .ok (.string (String.ofList body), rest)
      | none => .error .unterminatedString := by
  simp only [isQuote, Bool.or_eq_true, beq_iff_eq] at hquote
  have hbracket : bracket? c = none := by obtain rfl | rfl := hquote <;> rfl
  rw [scan, hbracket]
  exact if_pos hquote

/-- A token is cut off a squeezed text where it is cut off the text. It is the
same just if its characters survive. -/
theorem scan_squeezeFrom_of_ok (h : scan c cs = .ok (token, rest)) :
    ∃ token', scan c (squeezeFrom false cs) = .ok (token', squeezeFrom false rest)
      ∧ Similar token token'
      ∧ (token = token' ∧ survives none false (c :: cs) = survives none false rest
        ∨ token ≠ token' ∧ survives none false (c :: cs) = false) := by
  have hblank := isBlank_of_scan h
  cases hquote : isQuote c with
  | false =>
    obtain ⟨taken, htaken, hplain⟩ := exists_of_scan hquote h
    refine ⟨token, ?_, .refl token, .inl ⟨rfl, ?_⟩⟩
    · rw [scan_squeezeFrom hblank hquote, h]
      rfl
    · rw [htaken, survives_append taken rest fun d hd => ?_]
      have hd := List.all_eq_true.mp hplain d hd
      simpa [isPlain] using hd
  | true =>
    rw [scan_quote hquote] at h ⊢
    cases hbody : stringBody? c cs with
    | none =>
      rw [hbody] at h
      cases h
    | some found =>
      obtain ⟨body, rest⟩ := found
      rw [hbody] at h
      obtain ⟨rfl, rfl⟩ := Prod.mk.inj (Except.ok.inj h)
      obtain ⟨body', hbody', hbecomes⟩ := stringBody?_squeezeFrom hquote hbody false
      have hsurvives : survives none false (c :: cs) = survives (some c) false cs := by
        rw [survives, hblank, hquote]
        rfl
      rw [hbody', hsurvives]
      refine ⟨_, rfl, .string _ _, hbecomes.same_or.imp ?_ ?_⟩
      · rintro ⟨rfl, hsame⟩
        exact ⟨rfl, hsame⟩
      · rintro ⟨hne, hfalse⟩
        exact ⟨fun heq => hne (String.ofList_injective (Token.string.inj heq)), hfalse⟩

/-- Where no token begins, none begins in the squeezed text, unless a blank
stands there. -/
theorem scan_squeezeFrom_of_error {fault : SyntaxFault} (hblank : isBlank c = false)
    (h : scan c cs = .error fault) : scan c (squeezeFrom false cs) = .error fault := by
  cases hquote : isQuote c with
  | false =>
    rw [scan_squeezeFrom hblank hquote, h]
    rfl
  | true =>
    rw [scan_quote hquote] at h ⊢
    cases hbody : stringBody? c cs with
    | some found =>
      rw [hbody] at h
      cases h
    | none =>
      rw [hbody] at h
      rw [stringBody?_squeezeFrom_eq_none hquote hbody]
      exact h

end Token

end DynamicSql
