/-
How far a text is cut into tokens.

A text is cut from its beginning, blank by blank and token by token. What was
taken up to some point, the tokens in it and what comes after are a stage of
that (`Cut`), and each token is kept with the size of what was taken before
it. Stages are all there is to the cutting: a text is cut into just those
tokens that its last stage has, and if there is no last one, then what comes
after the stage where it stops begins with something that is no token
(`Cut.exists_end`).

# What is no token

Three things: a string whose quote is not closed, an integer of more than 64
bits, and a character with which no token begins. They are described here by
their characters alone (`Unreadable`), and a scan fails just on these
(`scan_eq_error_iff`).
-/
import DynamicSql.Proofs.Expr.Squeezed
import DynamicSql.Proofs.Expr.Written
import DynamicSql.Proofs.Text.Runs

namespace DynamicSql.Token

open Text (isAsciiBlank)

-- ================================================================ stages

/-- What was taken of a text, the tokens in it, and what comes after. -/
inductive Cut (text : List Char) : List Char → List Lexeme → List Char → Prop
  | start : Cut text [] [] text
  | blank {front rest : List Char} {lexemes : List Lexeme} {c : Char}
    (h : Cut text front lexemes (c :: rest)) (hc : isAsciiBlank c = true) :
    Cut text (front ++ [c]) lexemes rest
  | token {front taken rest : List Char} {lexemes : List Lexeme} {token : Token}
    (h : Cut text front lexemes (taken ++ rest)) (hbegins : Begins (taken ++ rest) token rest) :
    Cut text (front ++ taken) (lexemes ++ [⟨byteLength front, token⟩]) rest

/-- What follows a token is what is left when its characters are taken. -/
theorem Begins.exists_taken {cs rest : List Char} {token : Token} (h : Begins cs token rest) :
    ∃ taken, cs = taken ++ rest := by
  obtain ⟨c, tail, rfl, -, hscan⟩ := h
  obtain ⟨taken, htaken, -⟩ := exists_of_scan_getLast hscan
  exact ⟨taken, htaken⟩

/-- The next token is at the offset, and those after it follow its
characters. -/
theorem Begins.lexFrom_append {taken rest : List Char} {token : Token}
    (h : Begins (taken ++ rest) token rest) (offset : Nat) :
    lexFrom offset (taken ++ rest)
      = (lexFrom (offset + byteLength taken) rest).map (⟨offset, token⟩ :: ·) := by
  have hsize : byteLength (taken ++ rest) - byteLength rest = byteLength taken := by
    rw [byteLength_append, Nat.add_sub_cancel]
  obtain ⟨c, tail, hcs, hblank, hscan⟩ := h
  rw [hcs] at hsize ⊢
  rw [lexFrom, if_neg (by rw [hblank]; exact Bool.false_ne_true)]
  split
  · next hscan' => cases hscan.symm.trans hscan'
  · next hscan' =>
    obtain ⟨rfl, rfl⟩ := Prod.mk.inj (Except.ok.inj (hscan.symm.trans hscan'))
    rw [hsize]

namespace Cut

variable {text front rest : List Char} {lexemes : List Lexeme}

theorem eq_append (h : Cut text front lexemes rest) : text = front ++ rest := by
  induction h with
  | start => rfl
  | blank _ _ ih => rw [ih, List.append_assoc, List.singleton_append]
  | token _ _ ih => rw [ih, List.append_assoc]

/-- The tokens of the text are those of the stage, and then those of what
comes after it. -/
theorem lexFrom_eq (h : Cut text front lexemes rest) :
    lexFrom 0 text = (lexFrom (byteLength front) rest).map (lexemes ++ ·) := by
  induction h with
  | start =>
    show _ = (lexFrom 0 text).map id
    cases lexFrom 0 text <;> rfl
  | @blank front rest lexemes c _ hc ih =>
    have hsize : byteLength (front ++ [c]) = byteLength front + c.utf8Size := by
      rw [byteLength_append, byteLength_cons]
      rfl
    rw [ih, hsize, lexFrom, if_pos hc]
  | @token front taken rest lexemes token _ hbegins ih =>
    rw [ih, hbegins.lexFrom_append, byteLength_append]
    cases lexFrom (byteLength front + byteLength taken) rest with
    | error e => rfl
    | ok others => simp only [Except.map, List.append_assoc, List.singleton_append]

/-- A stage goes on until nothing is left, or no token begins what is left. -/
theorem exists_end (h : Cut text front lexemes rest) :
    (∃ front' lexemes', Cut text front' lexemes' [])
      ∨ ∃ front' lexemes' c cs fault, Cut text front' lexemes' (c :: cs)
        ∧ isAsciiBlank c = false ∧ scan c cs = .error fault := by
  induction hn : rest.length using Nat.strongRecOn generalizing front lexemes rest with
  | ind n ih =>
    cases rest with
    | nil => exact .inl ⟨front, lexemes, h⟩
    | cons c cs =>
      cases hascii : isAsciiBlank c with
      | true => exact ih cs.length (hn ▸ Nat.lt_succ_self _) (h.blank hascii) rfl
      | false =>
        cases hscan : scan c cs with
        | error fault => exact .inr ⟨front, lexemes, c, cs, fault, h, hascii, hscan⟩
        | ok found =>
          obtain ⟨token, rest⟩ := found
          have hbegins : Begins (c :: cs) token rest := ⟨c, cs, rfl, hascii, hscan⟩
          obtain ⟨taken, htaken⟩ := hbegins.exists_taken
          have hlt : rest.length < n := hn ▸ Nat.lt_succ_of_le (length_scan hscan)
          rw [htaken] at h hbegins
          exact ih rest.length hlt (h.token hbegins) rfl

/-- There was a stage just before each token. -/
theorem exists_before {before after : List Lexeme} {l : Lexeme}
    (h : Cut text front (before ++ l :: after) rest) :
    ∃ front' cs rest', Cut text front' before cs ∧ Begins cs l.token rest'
      ∧ byteLength front' = l.offset := by
  generalize hall : before ++ l :: after = all at h
  induction h generalizing after with
  | start => cases before <;> cases hall
  | blank _ _ ih => exact ih hall
  | @token front taken rest lexemes token hcut hbegins ih =>
    rcases List.eq_nil_or_concat after with rfl | ⟨others, last, rfl⟩
    · obtain ⟨rfl, hl⟩ := List.append_inj' hall rfl
      obtain rfl := List.singleton_inj.1 hl
      exact ⟨front, taken ++ rest, rest, hcut, hbegins, rfl⟩
    · rw [List.concat_eq_append, ← List.cons_append, ← List.append_assoc] at hall
      exact ih (List.append_inj' hall rfl).1

end Cut

variable {text : String} {lexemes : List Lexeme}

/-- A text is cut into tokens just if some stage leaves nothing. -/
theorem cut_of_lex (h : lex text = .ok lexemes) : Cut text.toList text.toList lexemes [] := by
  have hstart : Cut text.toList [] [] text.toList := .start
  rcases hstart.exists_end with
    ⟨front, lexemes', hcut⟩ | ⟨front, lexemes', c, cs, fault, hcut, hascii, hscan⟩
  · have htext := hcut.eq_append
    rw [List.append_nil] at htext
    rw [lex, hcut.lexFrom_eq, lexFrom] at h
    obtain rfl : lexemes' = lexemes := by
      rw [← List.append_nil lexemes']
      exact Except.ok.inj h
    rwa [← htext] at hcut
  · rw [lex, hcut.lexFrom_eq, lexFrom_of_scan_error hascii hscan] at h
    cases h

/-- If it is not, then there is a stage after which no token begins. -/
theorem cut_of_lex_error {error : SyntaxError} (h : lex text = .error error) :
    ∃ front lexemes c cs, Cut text.toList front lexemes (c :: cs)
      ∧ isAsciiBlank c = false ∧ scan c cs = .error error.fault
      ∧ byteLength front = error.position := by
  have hstart : Cut text.toList [] [] text.toList := .start
  rcases hstart.exists_end with
    ⟨front, lexemes', hcut⟩ | ⟨front, lexemes', c, cs, fault, hcut, hascii, hscan⟩
  · rw [lex, hcut.lexFrom_eq, lexFrom] at h
    cases h
  · rw [lex, hcut.lexFrom_eq, lexFrom_of_scan_error hascii hscan] at h
    obtain rfl := Except.error.inj h
    exact ⟨front, lexemes', c, cs, hcut, hascii, hscan, rfl⟩

-- =========================================================== what is none

/-- The content of a string as it is written: no quote in it that would close
it, and nothing missing after a backslash. -/
inductive Quoted (quote : Char) : List Char → Prop
  | nil : Quoted quote []
  | escape {cs : List Char} (c : Char) (h : Quoted quote cs) : Quoted quote ('\\' :: c :: cs)
  | plain {cs : List Char} {c : Char} (hescape : c ≠ '\\') (hquote : c ≠ quote)
    (h : Quoted quote cs) : Quoted quote (c :: cs)

/-- What begins with no token, and what is wrong with it. -/
inductive Unreadable : List Char → SyntaxFault → Prop
  | string {quote : Char} {cs : List Char} (hquote : quote = '\'' ∨ quote = '"')
    (hopen : ∀ inside rest, Quoted quote inside → cs ≠ inside ++ quote :: rest) :
    Unreadable (quote :: cs) .unterminatedString
  | integer {digits rest : List Char} (hne : digits ≠ []) (hdigits : digits.all Char.isDigit = true)
    (hend : ∀ c ∈ rest.head?, c.isDigit = false) (hfraction : beginsFraction rest = false)
    (hlarge : Int64.maxValue.toInt < digitsValue digits) :
    Unreadable (digits ++ rest) (.integerOutOfRange (String.ofList digits))
  | character {c : Char} {cs : List Char} (hascii : isAsciiBlank c = false)
    (hsingle : c ∉ ['(', ')', '[', ']', ',', '.', '\'', '"']) (hdigit : c.isDigit = false)
    (hword : isWordStart c = false) (hsymbol : ∀ s : Symbol, ¬s.text.toList <+: c :: cs) :
    Unreadable (c :: cs) (.unexpectedCharacter c)

/-- A string is closed just where a quote stands after some content. -/
theorem exists_stringBody?_iff {quote : Char} (hquote : quote ≠ '\\') {cs : List Char} :
    (∃ body rest, stringBody? quote cs = some (body, rest))
      ↔ ∃ inside rest, Quoted quote inside ∧ cs = inside ++ quote :: rest := by
  constructor
  · rintro ⟨body, rest, h⟩
    fun_induction stringBody? quote cs generalizing body rest with
    | case1 => cases h
    | case2 => cases h
    | case3 c cs ih =>
      obtain ⟨⟨body', rest'⟩, hbody, -⟩ := Option.map_eq_some_iff.mp h
      obtain ⟨inside, rest'', hinside, rfl⟩ := ih _ _ hbody
      exact ⟨_, rest'', .escape c hinside, rfl⟩
    | case4 cs => exact ⟨[], cs, .nil, rfl⟩
    | case5 c cs hlast hescape hne ih =>
      obtain ⟨⟨body', rest'⟩, hbody, -⟩ := Option.map_eq_some_iff.mp h
      obtain ⟨inside, rest'', hinside, rfl⟩ := ih _ _ hbody
      refine ⟨_, rest'', .plain ?_ hne hinside, rfl⟩
      rintro rfl
      cases cs' : inside ++ quote :: rest'' with
      | nil => exact hlast rfl cs'
      | cons d ds => exact hescape d ds rfl cs'
  · rintro ⟨inside, rest, hinside, rfl⟩
    induction hinside with
    | nil => exact ⟨[], rest, by rw [List.nil_append, stringBody?_cons hquote, if_pos rfl]⟩
    | @escape cs c _ ih =>
      obtain ⟨body, rest', hbody⟩ := ih
      refine ⟨unescape c :: body, rest', ?_⟩
      rw [List.cons_append, List.cons_append, stringBody?, hbody, Option.map_some]
    | @plain cs c hescape hne _ ih =>
      obtain ⟨body, rest', hbody⟩ := ih
      refine ⟨c :: body, rest', ?_⟩
      rw [List.cons_append, stringBody?_cons hescape, if_neg hne, hbody, Option.map_some]

/-- Only digits make a number that does not fit. -/
theorem unreadable_of_number {c : Char} {cs : List Char} {fault : SyntaxFault}
    (h : number (c :: cs) = .error fault)
    (hc : c.isDigit = true ∨ beginsFraction (c :: cs) = true) : Unreadable (c :: cs) fault := by
  have hwhole : (c :: cs).takeWhile Char.isDigit ++ (c :: cs).dropWhile Char.isDigit = c :: cs :=
    List.takeWhile_append_dropWhile
  simp only [number] at h
  split at h
  · cases h
  · next hfraction =>
    have hfraction := Bool.eq_false_iff.mpr hfraction
    split at h
    · cases h
    · next hnone =>
      obtain rfl := Except.error.inj h
      have hdigit : c.isDigit = true := by
        cases hdigit : c.isDigit with
        | true => rfl
        | false =>
          -- no digit was taken, so it is here that a fraction would begin
          rw [List.dropWhile_cons_of_neg (Bool.eq_false_iff.mp hdigit)] at hfraction
          rw [hdigit, hfraction] at hc
          exact hc.elim id id
      have hlarge : Int64.maxValue.toInt < digitsValue ((c :: cs).takeWhile Char.isDigit) := by
        unfold Whole.ofInt? at hnone
        split at hnone
        · cases hnone
        · next hout =>
          have hmin : Int64.minValue.toInt ≤ 0 := Int64.minValue_le_toInt 0
          omega
      have hunreadable : Unreadable _ (.integerOutOfRange _) :=
        .integer (List.takeWhile_cons_of_pos hdigit ▸ List.cons_ne_nil _ _) List.all_takeWhile
          (fun _ => Text.head?_dropWhile) hfraction hlarge
      rwa [hwhole] at hunreadable

theorem exists_prefix_of_symbol? {c : Char} {cs rest : List Char} {s : Symbol}
    (h : symbol? c cs = some (s, rest)) : s.text.toList <+: c :: cs := by
  unfold symbol? at h
  split at h <;> cases h <;> exact ⟨_, rfl⟩

/-- The symbols as they are written. -/
theorem toList_text_mem (s : Symbol) :
    s.text.toList ∈ [['=', '='], ['!', '='], ['<', '='], ['>', '='], ['&', '&'], ['|', '|'], ['<'],
      ['>'], ['+'], ['-'], ['*'], ['/'], ['%'], ['!']] := by
  cases s <;> decide

theorem not_prefix_of_symbol? {c : Char} {cs : List Char} (h : symbol? c cs = none) (s : Symbol) :
    ¬s.text.toList <+: c :: cs := by
  rintro ⟨rest, hrest⟩
  have hmem := toList_text_mem s
  generalize s.text.toList = chars at hrest hmem
  unfold symbol? at h
  split at h
  case h_15 =>
    simp only [List.mem_cons, List.not_mem_nil, or_false] at hmem
    rcases hmem with
      rfl | rfl | rfl | rfl | rfl | rfl | rfl | rfl | rfl | rfl | rfl | rfl | rfl | rfl
    all_goals
      obtain ⟨rfl, rfl⟩ := List.cons.inj hrest
      simp_all
  all_goals cases h

/-- A scan fails on what is no token, and on nothing else. -/
theorem scan_eq_error_iff {c : Char} {cs : List Char} {fault : SyntaxFault}
    (hascii : isAsciiBlank c = false) : scan c cs = .error fault ↔ Unreadable (c :: cs) fault := by
  constructor
  · intro h
    unfold scan at h
    split at h
    · cases h
    · next hbracket =>
      split at h
      · next hquote =>
        split at h
        · cases h
        · next hopen =>
          obtain rfl := Except.error.inj h
          refine .string hquote fun inside rest hinside hcs => ?_
          have hne : c ≠ '\\' := by rcases hquote with rfl | rfl <;> decide
          obtain ⟨body, rest', hbody⟩ :=
            (exists_stringBody?_iff hne).mpr ⟨inside, rest, hinside, hcs⟩
          rw [hopen] at hbody
          cases hbody
      · next hquote =>
        split at h
        · next hnumber => exact unreadable_of_number h hnumber
        · next hnumber =>
          split at h
          · cases h
          · next hdot =>
            split at h
            · cases h
            · next hword =>
              split at h
              · cases h
              · next hsymbol =>
                obtain rfl := Except.error.inj h
                refine .character hascii ?_ (Bool.eq_false_iff.mpr fun hd => hnumber (.inl hd))
                  (Bool.eq_false_iff.mpr hword) (not_prefix_of_symbol? hsymbol)
                simp only [List.mem_cons, List.not_mem_nil, or_false, not_or]
                refine ⟨?_, ?_, ?_, ?_, ?_, hdot, fun hc => hquote (.inl hc),
                  fun hc => hquote (.inr hc)⟩
                all_goals
                  rintro rfl
                  cases hbracket
  · intro h
    generalize hall : c :: cs = all at h
    cases h with
    | string hquote hopen =>
      obtain ⟨rfl, rfl⟩ := List.cons.inj hall
      have hne : c ≠ '\\' := by rcases hquote with rfl | rfl <;> decide
      have hisQuote : isQuote c = true := by rcases hquote with rfl | rfl <;> rfl
      rw [scan_quote hisQuote]
      cases hbody : stringBody? c cs with
      | none => rfl
      | some found =>
        obtain ⟨inside, rest, hinside, hcs⟩ := (exists_stringBody?_iff hne).mp ⟨_, _, hbody⟩
        exact absurd hcs (hopen inside rest hinside)
    | @integer digits rest hne hdigits hend hfraction hlarge =>
      have hc : c.isDigit = true := by
        cases digits with
        | nil => exact absurd rfl hne
        | cons d ds =>
          obtain ⟨rfl, -⟩ := List.cons.inj hall
          exact List.all_eq_true.mp hdigits c List.mem_cons_self
      obtain ⟨htake, hdrop⟩ := Text.span_append hdigits hend
      have hnone : Whole.ofInt? (digitsValue digits) = none := by
        refine if_neg ?_
        omega
      rw [scan_digit hc, hall, number]
      simp only [htake, hdrop, hfraction, Bool.false_eq_true, if_false, hnone]
    | character _ hsingle hdigit hword hsymbol =>
      obtain ⟨rfl, rfl⟩ := List.cons.inj hall
      have hne : ∀ d ∈ ['(', ')', '[', ']', ',', '.', '\'', '"'], c ≠ d :=
        fun d hd heq => hsingle (heq ▸ hd)
      have hbracket : bracket? c = none := by
        unfold bracket?
        split
        case h_6 => rfl
        all_goals exact absurd rfl (hne _ (by decide))
      have hquote : ¬(c = '\'' ∨ c = '"') :=
        not_or.mpr ⟨hne _ (by decide), hne _ (by decide)⟩
      have hdot : c ≠ '.' := hne _ (by decide)
      have hnumber : ¬(c.isDigit = true ∨ beginsFraction (c :: cs) = true) := by
        refine not_or.mpr ⟨Bool.eq_false_iff.mp hdigit, fun hfraction => ?_⟩
        obtain ⟨tail, htail⟩ := exists_of_beginsFraction hfraction
        exact hdot (List.cons.inj htail).1
      have hnone : symbol? c cs = none := by
        cases hs : symbol? c cs with
        | none => rfl
        | some found => exact absurd (exists_prefix_of_symbol? hs) (hsymbol found.1)
      rw [scan, hbracket]
      simp only []
      rw [if_neg hquote, if_neg hnumber, if_neg hdot, if_neg (Bool.eq_false_iff.mp hword), hnone]

end DynamicSql.Token
