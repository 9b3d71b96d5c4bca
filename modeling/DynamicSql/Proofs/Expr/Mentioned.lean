/-
The names that a text mentions, and what its value depends on.

The value of an expression depends on what its variables are bound to. To say
which variables these are, the text need not be read as an expression: they
are among the names that stand in it. A name is a run of word characters that
is as long as possible, without the digits that it may begin with.

# More than the variables

Operators, literals and the names of properties are mentioned too, and so is
every word in a string. This makes no difference here. What counts is that no
variable is missed: wherever the text is cut into tokens, each token that is
a word is one of the names (`mem_namesIn_of_lexFrom`). A number may end within
a run, but only where its digits end.

# Names that are made up

A property that loops have renamed mentions no other names than before,
besides those of single iterations (`LoopFrame.mem_mentioned_renamed`).
-/
import DynamicSql.Proofs.Expr.Renaming

namespace DynamicSql

namespace Token

/-- The names in characters, in their order. -/
def namesIn (cs : List Char) : List String :=
  (((cs.splitOnP fun c => !isWordChar c).map (List.dropWhile Char.isDigit)).filter
    fun run => !run.isEmpty).map String.ofList

/-- The names that a text mentions. -/
def mentioned (text : String) : List String := namesIn text.toList

-- ================================================================ names

/-- What is no part of a word separates names. -/
theorem namesIn_append_cons (xs ys : List Char) {c : Char} (h : isWordChar c = false) :
    namesIn (xs ++ c :: ys) = namesIn xs ++ namesIn ys := by
  unfold namesIn
  rw [List.splitOnP_append_cons xs ys (by rw [h]; rfl), List.map_append, List.filter_append,
    List.map_append]

theorem namesIn_cons_of_not_isWordChar {c : Char} (h : isWordChar c = false) (cs : List Char) :
    namesIn (c :: cs) = namesIn cs := namesIn_append_cons [] cs h

/-- A digit that stands at the beginning of a run is no part of a name. -/
theorem namesIn_cons_of_isDigit {c : Char} (h : c.isDigit = true) (cs : List Char) :
    namesIn (c :: cs) = namesIn cs := by
  have hword : isWordChar c = true := by
    simp only [isWordChar, Char.isAlphanum, h, Bool.or_true, Bool.true_or]
  unfold namesIn
  rw [List.splitOnP_cons_eq_if_modifyHead, hword]
  obtain ⟨run, runs, hruns⟩ :=
    List.exists_cons_of_ne_nil (List.splitOnP_ne_nil (fun c => !isWordChar c) cs)
  rw [hruns]
  show ((List.dropWhile Char.isDigit (c :: run) :: _).filter _).map _ = _
  rw [List.dropWhile_cons_of_pos h]
  rfl

theorem namesIn_dropWhile {p : Char → Bool}
    (hp : ∀ c, p c = true → isWordChar c = false ∨ c.isDigit = true) (cs : List Char) :
    namesIn (cs.dropWhile p) = namesIn cs := by
  induction cs with
  | nil => rfl
  | cons c cs ih =>
    cases hc : p c with
    | false => rw [List.dropWhile_cons_of_neg (by rw [hc]; exact Bool.false_ne_true)]
    | true =>
      rw [List.dropWhile_cons_of_pos hc, ih]
      rcases hp c hc with hword | hdigit
      · rw [namesIn_cons_of_not_isWordChar hword]
      · rw [namesIn_cons_of_isDigit hdigit]

/-- A word that does not begin with a digit is a name. -/
theorem namesIn_word {c : Char} {cs : List Char} (hc : c.isDigit = false)
    (hword : ∀ d ∈ c :: cs, isWordChar d = true) :
    namesIn (c :: cs) = [String.ofList (c :: cs)] := by
  have hsplit : (c :: cs).splitOnP (fun c => !isWordChar c) = [c :: cs] :=
    List.splitOnP_eq_singleton fun d hd => by rw [hword d hd]; rfl
  unfold namesIn
  rw [hsplit]
  show ([List.dropWhile Char.isDigit (c :: cs)].filter _).map _ = _
  rw [List.dropWhile_cons_of_neg (by rw [hc]; exact Bool.false_ne_true)]
  rfl

/-- A name and what follows it, if that does not go on with it. -/
theorem namesIn_word_append {c : Char} {cs rest : List Char} (hc : c.isDigit = false)
    (hword : ∀ d ∈ c :: cs, isWordChar d = true) (hrest : ∀ d ∈ rest.head?, isWordChar d = false) :
    namesIn (c :: cs ++ rest) = String.ofList (c :: cs) :: namesIn rest := by
  cases rest with
  | nil =>
    rw [List.append_nil, namesIn_word hc hword]
    rfl
  | cons d rest =>
    have hd : isWordChar d = false := hrest d rfl
    rw [namesIn_append_cons _ _ hd, namesIn_word hc hword, namesIn_cons_of_not_isWordChar hd]
    rfl

-- =============================================================== cutting

theorem head?_dropWhile_isWordChar (cs : List Char) :
    ∀ d ∈ (cs.dropWhile isWordChar).head?, isWordChar d = false := by
  intro d hd
  have hne := List.head?_dropWhile_not isWordChar cs
  rw [Option.mem_def.mp hd] at hne
  exact hne

/-- A quotation is cut off together with the quote at its end. -/
theorem exists_of_stringBody? {quote : Char} {cs body rest : List Char}
    (h : stringBody? quote cs = some (body, rest)) : ∃ inside, cs = inside ++ quote :: rest := by
  fun_induction stringBody? quote cs generalizing body rest with
  | case1 => cases h
  | case2 => cases h
  | case3 c cs ih =>
    obtain ⟨⟨body', rest'⟩, hbody, heq⟩ := Option.map_eq_some_iff.mp h
    obtain ⟨-, rfl⟩ := Prod.mk.inj heq
    obtain ⟨inside, rfl⟩ := ih hbody
    exact ⟨'\\' :: c :: inside, rfl⟩
  | case4 cs =>
    obtain ⟨-, rfl⟩ := Prod.mk.inj (Option.some.inj h)
    exact ⟨[], rfl⟩
  | case5 c cs _ _ _ ih =>
    obtain ⟨⟨body', rest'⟩, hbody, heq⟩ := Option.map_eq_some_iff.mp h
    obtain ⟨-, rfl⟩ := Prod.mk.inj heq
    obtain ⟨inside, rfl⟩ := ih hbody
    exact ⟨c :: inside, rfl⟩

/-- No symbol has a character of words in it. -/
theorem namesIn_of_symbol? {c : Char} {cs rest : List Char} {s : Symbol}
    (h : symbol? c cs = some (s, rest)) : namesIn (c :: cs) = namesIn rest := by
  unfold symbol? at h
  split at h <;> cases h
  all_goals simp (disch := decide) only [namesIn_cons_of_not_isWordChar]

/-- A number takes digits and points, so what follows it has all the
names. -/
theorem namesIn_of_number {cs rest : List Char} {token : Token}
    (h : number cs = .ok (token, rest)) : namesIn rest = namesIn cs := by
  have hdigits : ∀ l : List Char, namesIn (l.dropWhile Char.isDigit) = namesIn l :=
    namesIn_dropWhile fun c hc => .inr hc
  unfold number at h
  simp only [] at h
  split at h
  · next hf =>
    obtain ⟨-, rfl⟩ := Prod.mk.inj (Except.ok.inj h)
    rw [hdigits, ← hdigits cs]
    unfold beginsFraction at hf
    split at hf
    · next heq =>
      rw [heq]
      exact (namesIn_cons_of_not_isWordChar (by decide) _).symm
    · cases hf
  · split at h
    · obtain ⟨-, rfl⟩ := Prod.mk.inj (Except.ok.inj h)
      exact hdigits cs
    · cases h

/-- A token that is a word is a name, and the names after a token are names
of the whole. -/
theorem namesIn_of_scan {c : Char} {cs rest : List Char} {token : Token}
    (h : scan c cs = .ok (token, rest)) :
    (∀ name, token = .word name → name ∈ namesIn (c :: cs))
      ∧ namesIn rest ⊆ namesIn (c :: cs) := by
  -- A token that is no word, after which all the names are left.
  have hother : (∀ name, token ≠ .word name) → namesIn rest = namesIn (c :: cs) →
      (∀ name, token = .word name → name ∈ namesIn (c :: cs))
        ∧ namesIn rest ⊆ namesIn (c :: cs) := fun hne hsame =>
    ⟨fun name heq => absurd heq (hne name), hsame ▸ List.Subset.refl _⟩
  unfold scan at h
  split at h
  · next t hbracket =>
    obtain ⟨rfl, rfl⟩ := Prod.mk.inj (Except.ok.inj h)
    unfold bracket? at hbracket
    split at hbracket <;> cases hbracket
    all_goals
      exact hother (fun _ heq => nomatch heq) (namesIn_cons_of_not_isWordChar rfl _).symm
  · split at h
    · next hquote =>
      split at h
      · next body rest' hbody =>
        obtain ⟨rfl, rfl⟩ := Prod.mk.inj (Except.ok.inj h)
        have hword : isWordChar c = false := by rcases hquote with rfl | rfl <;> decide
        obtain ⟨inside, rfl⟩ := exists_of_stringBody? hbody
        rw [namesIn_cons_of_not_isWordChar hword, namesIn_append_cons _ _ hword]
        exact ⟨fun _ heq => (nomatch heq), List.subset_append_right ..⟩
      · cases h
    · split at h
      · refine hother (fun name heq => ?_) (namesIn_of_number h)
        subst heq
        unfold number at h
        simp only [] at h
        split at h
        · cases h
        · split at h <;> cases h
      · split at h
        · next hdot =>
          obtain ⟨rfl, rfl⟩ := Prod.mk.inj (Except.ok.inj h)
          subst hdot
          exact hother (fun _ heq => nomatch heq) (namesIn_cons_of_not_isWordChar rfl _).symm
        · split at h
          · next hstart =>
            obtain ⟨rfl, rfl⟩ := Prod.mk.inj (Except.ok.inj h)
            have hdigit : c.isDigit = false :=
              Bool.eq_false_iff.mpr (not_isDigit_of_isWordStart hstart)
            have hword : ∀ d ∈ c :: cs.takeWhile isWordChar, isWordChar d = true := by
              intro d hd
              rcases List.mem_cons.mp hd with rfl | hd
              · exact LoopVariable.isWordChar_of_isWordStart hstart
              · exact List.all_eq_true.mp List.all_takeWhile d hd
            have hnames : namesIn (c :: cs) = String.ofList (c :: cs.takeWhile isWordChar)
                :: namesIn (cs.dropWhile isWordChar) := by
              rw [← namesIn_word_append hdigit hword (head?_dropWhile_isWordChar cs),
                List.cons_append, List.takeWhile_append_dropWhile]
            rw [hnames]
            exact ⟨fun name heq => Token.word.inj heq ▸ List.mem_cons_self ..,
              List.subset_cons_self ..⟩
          · split at h
            · next s rest' hsymbol =>
              obtain ⟨rfl, rfl⟩ := Prod.mk.inj (Except.ok.inj h)
              exact hother (fun _ heq => nomatch heq) (namesIn_of_symbol? hsymbol).symm
            · cases h

/-- Each token that is a word is one of the names. -/
theorem mem_namesIn_of_lexFrom {offset : Nat} {cs : List Char} :
    ∀ lexemes, lexFrom offset cs = .ok lexemes →
      ∀ l ∈ lexemes, ∀ name, l.token = .word name → name ∈ namesIn cs := by
  fun_induction lexFrom offset cs with
  | case1 =>
    intro lexemes h
    obtain rfl := Except.ok.inj h
    exact fun l hl => absurd hl List.not_mem_nil
  | case2 offset c cs hblank ih =>
    have hword : isWordChar c = false := by
      simp only [Text.isAsciiBlank, Bool.or_eq_true, beq_iff_eq] at hblank
      rcases hblank with (((rfl | rfl) | rfl) | rfl) | rfl <;> decide
    rw [namesIn_cons_of_not_isWordChar hword]
    exact ih
  | case3 =>
    intro lexemes h
    cases h
  | case4 offset c cs hblank token rest hscan size ih =>
    intro lexemes h
    obtain ⟨hword, hrest⟩ := namesIn_of_scan hscan
    cases hcut : lexFrom (offset + size) rest with
    | error e =>
      rw [hcut] at h
      cases h
    | ok others =>
      rw [hcut] at h
      obtain rfl := Except.ok.inj h
      intro l hl name hname
      rcases List.mem_cons.mp hl with rfl | hl
      · exact hword name hname
      · exact hrest (ih others hcut l hl name hname)

end Token

namespace Expr

/-- The value of a text is the same among variables that agree on the names
that it mentions. -/
theorem evalText_congr {text : String} {vars vars' : Variables}
    (h : ∀ name ∈ Token.mentioned text, vars name = vars' name) :
    evalText text vars = evalText text vars' := by
  cases hlex : Token.lex text with
  | error e => rw [evalText_of_lex_error hlex, evalText_of_lex_error hlex]
  | ok lexemes =>
    have hwords : ∀ l ∈ lexemes, ∀ name, l.token = .word name → vars name = vars' name :=
      fun l hl name hname => h name (Token.mem_namesIn_of_lexFrom lexemes hlex l hl name hname)
    cases hread : ofLexemes text.utf8ByteSize lexemes with
    | error e => rw [evalText_of_error hlex hread, evalText_of_error hlex hread]
    | ok e =>
      have hstart : Machine.start.Alike vars vars' Machine.start := ⟨.nil, .operand⟩
      have hrun : Machine.start.run text.utf8ByteSize lexemes = .ok e := by
        unfold ofLexemes at hread
        split at hread
        · cases hread
        · exact hread
      rw [evalText_of_ok hlex hread, evalText_of_ok hlex hread]
      rcases Machine.run_alike hstart text.utf8ByteSize text.utf8ByteSize rfl hwords
        with ⟨e₁, e₂, h₁, h₂, halike⟩ | ⟨_, _, _, herror, -⟩
      · obtain rfl : e₁ = e := Except.ok.inj (h₁.symm.trans hrun)
        obtain rfl : e₂ = e₁ := Except.ok.inj (h₂.symm.trans hrun)
        exact halike
      · cases herror.symm.trans hrun

end Expr

-- ============================================================== renaming

namespace LoopVariable

open Token (mentioned namesIn)

/-- What a name and what properly follows it mention. -/
theorem mentioned_append {name rest : String} (hname : Token.isName name = true)
    (hrest : endsName rest.toList = true) : mentioned (name ++ rest) = name :: mentioned rest := by
  have hword := all_isWordChar_of_isName hname
  unfold Token.isName at hname
  cases hcs : name.toList with
  | nil =>
    rw [hcs] at hname
    cases hname
  | cons c cs =>
    rw [hcs] at hname hword
    obtain ⟨hstart, -⟩ := Bool.and_eq_true_iff.mp hname
    have hdigit : c.isDigit = false :=
      Bool.eq_false_iff.mpr (Token.not_isDigit_of_isWordStart hstart)
    have hends : ∀ d ∈ rest.toList.head?, Token.isWordChar d = false := by
      intro d hd
      cases hr : rest.toList with
      | nil =>
        rw [hr] at hd
        cases hd
      | cons d' ds =>
        rw [hr] at hd hrest
        obtain rfl : d' = d := Option.some.inj hd
        exact isWordChar_of_endsName hrest
    rw [mentioned, String.toList_append, hcs, Token.namesIn_word_append hdigit hword hends, ← hcs,
      String.ofList_toList]
    rfl

/-- A property that begins with a name mentions it, and what is mentioned
after it. -/
theorem mentioned_of_stripName? {property name rest : String} (hname : Token.isName name = true)
    (h : stripName? property name = some rest) :
    endsName rest.toList = true ∧ mentioned property = name :: mentioned rest := by
  rw [stripName?_eq hname] at h
  split at h
  · next hcond =>
    obtain ⟨hlead, hends⟩ := hcond
    obtain rfl : trailing property = rest := Option.some.inj h
    refine ⟨hends, ?_⟩
    have hblanks : namesIn (property.toList.dropWhile Text.isBlank) = mentioned property :=
      Token.namesIn_dropWhile (fun c hc => .inl (isWordChar_of_isBlank hc)) _
    rw [← hblanks, ← leading_append_trailing, hlead, ← mentioned_append hname hends, mentioned,
      String.toList_append]
  · cases h

end LoopVariable

namespace LoopFrame

open Token (mentioned)
open LoopVariable (uniqueName)

/-- A loop that renames a property puts the name of its iteration in it, and
nothing else that was not mentioned before. -/
theorem mem_mentioned_rename? {f : LoopFrame} {property renamed : String}
    (hnames : ∀ name ∈ f.names, Token.isName name = true) (h : f.rename? property = some renamed) :
    ∀ other ∈ mentioned renamed, other ∈ mentioned property
      ∨ ∃ name ∈ f.names, other = uniqueName name f.unique := by
  obtain ⟨name, hname, hsome⟩ := List.exists_of_findSome?_eq_some h
  obtain ⟨rest, hrest, rfl⟩ := Option.map_eq_some_iff.mp hsome
  obtain ⟨hends, hmentioned⟩ := LoopVariable.mentioned_of_stripName? (hnames name hname) hrest
  intro other hother
  rw [LoopVariable.mentioned_append (LoopVariable.isName_uniqueName (hnames name hname) _) hends]
    at hother
  rcases List.mem_cons.mp hother with rfl | hother
  · exact .inr ⟨name, hname, rfl⟩
  · rw [hmentioned]
    exact .inl (List.mem_cons_of_mem _ hother)

/-- A property that went through loops mentions nothing but what it did
before, and names of their iterations. -/
theorem mem_mentioned_renamed {frames : List LoopFrame} {property : String}
    (hnames : ∀ f ∈ frames, ∀ name ∈ f.names, Token.isName name = true) :
    ∀ other ∈ mentioned (Context.renamed frames property), other ∈ mentioned property
      ∨ ∃ f ∈ frames, ∃ name ∈ f.names, other = uniqueName name f.unique := by
  induction frames generalizing property with
  | nil => exact fun other hother => .inl hother
  | cons f rest ih =>
    intro other hother
    have hother' : other ∈ mentioned
        (Context.renamed rest ((f.rename? property).getD property)) := hother
    rcases ih (fun g hg => hnames g (List.mem_cons_of_mem _ hg)) other hother'
      with hbefore | ⟨g, hg, hname⟩
    · cases hrename : f.rename? property with
      | none =>
        rw [hrename] at hbefore
        exact .inl hbefore
      | some renamed =>
        rw [hrename] at hbefore
        exact (mem_mentioned_rename? (hnames f (List.mem_cons_self ..)) hrename other
          hbefore).imp_right fun hname => ⟨f, List.mem_cons_self .., hname⟩
    · exact .inr ⟨g, List.mem_cons_of_mem _ hg, hname⟩

end LoopFrame

end DynamicSql
