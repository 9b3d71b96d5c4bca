/-
Tokens as text.

A token is written with the characters that it is cut from, and tokens are
written with a space between each two. Cutting such a text gives the tokens
back (`lex_spaced`): a space ends every token that does not end by itself.

# What has no text of its own

Only strings have a choice, which is their quote. Inside of them a backslash
stands before each backslash and before each quote, and nowhere else. A
negative integer is none of the tokens, since its sign is one by itself, and a
word must be one. Floats are left out: the digits of a whole one are those of
an integer (`Legible`).
-/
import DynamicSql.Proofs.Expr.Renaming

namespace DynamicSql.Token

-- =============================================================== writing

/-- The content of a string as it stands between quotes. -/
def escaped (quote : Char) (cs : List Char) : List Char :=
  cs.flatMap fun c => if c = '\\' ∨ c = quote then ['\\', c] else [c]

/-- A token as it is written. -/
def written (quote : Char) : Token → List Char
  | .word name => name.toList
  | .int i => (Whole.text i).toList
  | .float x => (Layout.plain.text x).toList
  | .string s => quote :: (escaped quote s.toList ++ [quote])
  | .symbol s => s.text.toList
  | .openParen => ['(']
  | .closeParen => [')']
  | .openBracket => ['[']
  | .closeBracket => [']']
  | .dot => ['.']
  | .comma => [',']

/-- Tokens with a space between each two. -/
def spaced (quote : Char) (ts : List Token) : List Char :=
  [' '].intercalate (ts.map (written quote))

/-- True of the tokens that are read as they are written. -/
def Legible : Token → Prop
  | .word name => isName name = true
  | .int i => 0 ≤ i.toInt
  | .float _ => False
  | _ => True

/-- Nothing follows, or a space does. -/
def Spaced (rest : List Char) : Prop := ∀ c ∈ rest.head?, c = ' '

theorem Spaced.eq_nil_or_cons {rest : List Char} (h : Spaced rest) :
    rest = [] ∨ ∃ cs, rest = ' ' :: cs := by
  cases rest with
  | nil => exact .inl rfl
  | cons c cs =>
    obtain rfl := h c rfl
    exact .inr ⟨cs, rfl⟩

/-- Characters of a class that the space is not of, taken off what is followed
by a space. -/
theorem span_append_of_spaced {p : Char → Bool} {cs rest : List Char}
    (hspace : p ' ' = false) (hcs : ∀ c ∈ cs, p c = true) (h : Spaced rest) :
    (cs ++ rest).takeWhile p = cs ∧ (cs ++ rest).dropWhile p = rest := by
  rw [List.takeWhile_append_of_pos hcs, List.dropWhile_append_of_pos hcs]
  rcases h.eq_nil_or_cons with rfl | ⟨cs', rfl⟩
  · exact ⟨List.append_nil cs, rfl⟩
  · have hstop : ¬p ' ' = true := by rw [hspace]; exact Bool.false_ne_true
    rw [List.takeWhile_cons_of_neg hstop, List.dropWhile_cons_of_neg hstop]
    exact ⟨List.append_nil cs, rfl⟩

-- =============================================================== strings

/-- Any character but a backslash ends a string or is part of it. -/
theorem stringBody?_cons {quote c : Char} (h : c ≠ '\\') (cs : List Char) :
    stringBody? quote (c :: cs)
      = if c = quote then some ([], cs)
        else (stringBody? quote cs).map fun (body, rest) => (c :: body, rest) :=
  stringBody?.eq_4 _ _ _ (fun heq _ => h heq) fun _ _ heq _ => h heq

theorem stringBody?_escaped {quote : Char} (hquote : quote = '\'' ∨ quote = '"')
    (cs rest : List Char) :
    stringBody? quote (escaped quote cs ++ quote :: rest) = some (cs, rest) := by
  have hne : quote ≠ '\\' := by rcases hquote with rfl | rfl <;> decide
  have hstays : ∀ c, c = '\\' ∨ c = quote → unescape c = c := by
    rintro c (rfl | rfl)
    · rfl
    · rcases hquote with rfl | rfl <;> rfl
  induction cs with
  | nil =>
    show stringBody? quote (quote :: rest) = _
    rw [stringBody?_cons hne, if_pos rfl]
  | cons c cs ih =>
    by_cases hc : c = '\\' ∨ c = quote
    · have hcons : escaped quote (c :: cs) = '\\' :: c :: escaped quote cs := by
        rw [escaped, List.flatMap_cons, if_pos hc]
        rfl
      rw [hcons, List.cons_append, List.cons_append, stringBody?, ih, Option.map_some, hstays c hc]
    · have hcons : escaped quote (c :: cs) = c :: escaped quote cs := by
        rw [escaped, List.flatMap_cons, if_neg hc]
        rfl
      obtain ⟨hback, hopen⟩ := not_or.mp hc
      rw [hcons, List.cons_append, stringBody?_cons hback, if_neg hopen, ih, Option.map_some]

theorem scan_string {quote : Char} (hquote : quote = '\'' ∨ quote = '"') (s : String)
    (rest : List Char) :
    scan quote (escaped quote s.toList ++ quote :: rest) = .ok (.string s, rest) := by
  have hbracket : bracket? quote = none := by rcases hquote with rfl | rfl <;> rfl
  rw [scan, hbracket]
  simp only []
  rw [if_pos hquote, stringBody?_escaped hquote]
  simp only [String.ofList_toList]

-- =============================================================== numbers

/-- A number that is not negative is written as its digits. -/
theorem toList_text {i : Int64} (h : 0 ≤ i.toInt) :
    (Whole.text i).toList = Nat.toDigits 10 i.toInt.toNat := by
  obtain ⟨n, hn⟩ := Int.eq_ofNat_of_zero_le h
  rw [Whole.text, hn]
  exact LoopVariable.toList_toString n

/-- The digits of a number have its value. -/
theorem digitsValue_toDigits (n : Nat) : digitsValue (Nat.toDigits 10 n) = n :=
  Nat.ofDigitChars_toDigits (by decide) (by decide)

theorem ofInt?_toInt (i : Int64) : Whole.ofInt? i.toInt = some i := by
  rw [Whole.ofInt?, if_pos ⟨i.minValue_le_toInt, i.toInt_le⟩, Int64.ofInt_toInt]

theorem number_append {i : Int64} (h : 0 ≤ i.toInt) {rest : List Char} (hrest : Spaced rest) :
    number ((Whole.text i).toList ++ rest) = .ok (.int i, rest) := by
  have hdigits : ∀ c ∈ Nat.toDigits 10 i.toInt.toNat, c.isDigit = true :=
    fun c hc => Nat.isDigit_of_mem_toDigits (by decide) (by decide) hc
  have hfraction : ¬beginsFraction rest = true := by
    rcases hrest.eq_nil_or_cons with rfl | ⟨cs, rfl⟩ <;> exact Bool.false_ne_true
  obtain ⟨htake, hdrop⟩ := span_append_of_spaced (by decide) hdigits hrest
  rw [toList_text h]
  simp only [number, htake, hdrop, digitsValue_toDigits, Int.toNat_of_nonneg h, ofInt?_toInt]
  rw [if_neg hfraction]

/-- A number begins with a digit. -/
theorem exists_digit {i : Int64} (h : 0 ≤ i.toInt) :
    ∃ c cs, (Whole.text i).toList = c :: cs ∧ c.isDigit = true := by
  rw [toList_text h]
  have hne : Nat.toDigits 10 i.toInt.toNat ≠ [] := Nat.toDigits_ne_nil
  obtain ⟨c, cs, hcs⟩ := List.exists_cons_of_ne_nil hne
  have hmem : c ∈ Nat.toDigits 10 i.toInt.toNat := hcs ▸ List.mem_cons_self ..
  exact ⟨c, cs, hcs, Nat.isDigit_of_mem_toDigits (by decide) (by decide) hmem⟩

theorem isWordChar_of_isDigit {c : Char} (h : c.isDigit = true) : isWordChar c = true := by
  simp only [isWordChar, Char.isAlphanum, h, Bool.or_true, Bool.true_or]

theorem scan_digit {c : Char} (h : c.isDigit = true) (cs : List Char) :
    scan c cs = number (c :: cs) := by
  obtain ⟨hbracket, hquote⟩ := bracket?_of_isWordChar (isWordChar_of_isDigit h)
  rw [scan, hbracket]
  simp only []
  rw [if_neg hquote, if_pos (.inl h)]

-- =============================================================== cutting

/-- The characters begin with the token, which ends before the rest. -/
def Begins (cs : List Char) (token : Token) (rest : List Char) : Prop :=
  ∃ c tail, cs = c :: tail ∧ Text.isAsciiBlank c = false ∧ scan c tail = .ok (token, rest)

theorem isAsciiBlank_of_isWordChar {c : Char} (h : isWordChar c = true) :
    Text.isAsciiBlank c = false := by
  cases hc : Text.isAsciiBlank c with
  | false => rfl
  | true =>
    simp only [Text.isAsciiBlank, Bool.or_eq_true, beq_iff_eq] at hc
    rcases hc with (((rfl | rfl) | rfl) | rfl) | rfl <;> cases h

theorem begins_word {name : String} (h : isName name = true) {rest : List Char}
    (hrest : Spaced rest) : Begins (name.toList ++ rest) (.word name) rest := by
  have hchars := LoopVariable.all_isWordChar_of_isName h
  unfold isName at h
  cases hcs : name.toList with
  | nil =>
    rw [hcs] at h
    cases h
  | cons c cs =>
    rw [hcs] at h hchars
    obtain ⟨hstart, -⟩ := Bool.and_eq_true_iff.mp h
    obtain ⟨htake, hdrop⟩ := span_append_of_spaced (p := isWordChar) (by decide)
      (fun d hd => hchars d (List.mem_cons_of_mem _ hd)) hrest
    refine ⟨c, cs ++ rest, rfl, isAsciiBlank_of_isWordChar (hchars c (List.mem_cons_self ..)), ?_⟩
    rw [scan_word hstart, htake, hdrop, ← hcs, String.ofList_toList]

theorem begins_int {i : Int64} (h : 0 ≤ i.toInt) {rest : List Char} (hrest : Spaced rest) :
    Begins ((Whole.text i).toList ++ rest) (.int i) rest := by
  have hnumber := number_append h hrest
  obtain ⟨c, cs, hcs, hdigit⟩ := exists_digit h
  rw [hcs] at hnumber ⊢
  exact ⟨c, cs ++ rest, rfl, isAsciiBlank_of_isWordChar (isWordChar_of_isDigit hdigit),
    (scan_digit hdigit _).trans hnumber⟩

/-- No symbol goes on with a space. -/
theorem begins_symbol (s : Symbol) {rest : List Char} (hrest : Spaced rest) :
    Begins (s.text.toList ++ rest) (.symbol s) rest := by
  rcases hrest.eq_nil_or_cons with rfl | ⟨cs, rfl⟩ <;> cases s <;> exact ⟨_, _, rfl, rfl, rfl⟩

theorem begins_written {quote : Char} (hquote : quote = '\'' ∨ quote = '"') {token : Token}
    (h : token.Legible) {rest : List Char} (hrest : Spaced rest) :
    Begins (token.written quote ++ rest) token rest := by
  cases token with
  | word name => exact begins_word h hrest
  | int i => exact begins_int h hrest
  | float x => exact absurd h id
  | string s =>
    have hscan := scan_string hquote s rest
    have hblank : Text.isAsciiBlank quote = false := by rcases hquote with rfl | rfl <;> rfl
    refine ⟨quote, _, ?_, hblank, hscan⟩
    rw [written, List.cons_append, List.append_assoc]
    rfl
  | symbol s => exact begins_symbol s hrest
  | dot => rcases hrest.eq_nil_or_cons with rfl | ⟨cs, rfl⟩ <;> exact ⟨_, _, rfl, rfl, rfl⟩
  | _ => exact ⟨_, _, rfl, rfl, rfl⟩

/-- A token at the beginning is the first of the tokens. -/
theorem lexFrom_of_begins {cs rest : List Char} {token : Token} (h : Begins cs token rest)
    (offset : Nat) :
    ∃ after, lexFrom offset cs = (lexFrom after rest).map (⟨offset, token⟩ :: ·) := by
  obtain ⟨c, tail, rfl, hblank, hscan⟩ := h
  refine ⟨offset + (byteLength (c :: tail) - byteLength rest), ?_⟩
  rw [lexFrom, if_neg (by rw [hblank]; exact Bool.false_ne_true)]
  split
  · next hscan' => cases hscan.symm.trans hscan'
  · next hscan' =>
    have hboth := Except.ok.inj (hscan.symm.trans hscan')
    rw [Prod.mk.injEq] at hboth
    obtain ⟨rfl, rfl⟩ := hboth
    rfl

theorem lexFrom_spaced {quote : Char} (hquote : quote = '\'' ∨ quote = '"') {ts : List Token}
    (h : ∀ t ∈ ts, t.Legible) (offset : Nat) :
    ∃ lexemes, lexFrom offset (spaced quote ts) = .ok lexemes ∧ lexemes.map Lexeme.token = ts := by
  induction ts generalizing offset with
  | nil => exact ⟨[], by rw [spaced, List.map_nil, List.intercalate_nil, lexFrom], rfl⟩
  | cons t ts ih =>
    have hlegible : t.Legible := h t (List.mem_cons_self ..)
    have hothers : ∀ u ∈ ts, u.Legible := fun u hu => h u (List.mem_cons_of_mem _ hu)
    cases ts with
    | nil =>
      have hbegins : Begins (written quote t ++ []) t [] :=
        begins_written hquote hlegible fun _ hc => by cases hc
      obtain ⟨after, hlex⟩ := lexFrom_of_begins hbegins offset
      refine ⟨[⟨offset, t⟩], ?_, rfl⟩
      rw [spaced, List.map_cons, List.map_nil, List.intercalate_singleton,
        ← List.append_nil (written quote t), hlex, lexFrom]
      rfl
    | cons u us =>
      have hbegins : Begins (written quote t ++ ' ' :: spaced quote (u :: us)) t
          (' ' :: spaced quote (u :: us)) :=
        begins_written hquote hlegible fun _ hc => (Option.some.inj hc).symm
      obtain ⟨after, hlex⟩ := lexFrom_of_begins hbegins offset
      obtain ⟨lexemes, hrest, htokens⟩ := ih hothers (after + ' '.utf8Size)
      refine ⟨⟨offset, t⟩ :: lexemes, ?_, by rw [List.map_cons, htokens]⟩
      have hcons : spaced quote (t :: u :: us)
          = written quote t ++ ' ' :: spaced quote (u :: us) := by
        simp only [spaced, List.map_cons, List.intercalate_cons_cons, List.append_assoc]
        rfl
      rw [hcons, hlex, lexFrom, if_pos (by rfl), hrest]
      rfl

/-- Tokens that are written with a space between each two are read as they
are. -/
theorem lex_spaced {quote : Char} (hquote : quote = '\'' ∨ quote = '"') {ts : List Token}
    (h : ∀ t ∈ ts, t.Legible) :
    ∃ lexemes, lex (String.ofList (spaced quote ts)) = .ok lexemes
      ∧ lexemes.map Lexeme.token = ts := by
  rw [lex, String.toList_ofList]
  exact lexFrom_spaced hquote h 0

end DynamicSql.Token
