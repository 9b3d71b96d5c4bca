/-
Expressions as the sources of parameters.

The text of any expression may be meant to stand in the parentheses of a
content. Two readers go over it then, and only the one of expressions knows
strings. The one of contents counts each parenthesis that it meets, so the text
is read as it was meant just if the parentheses in it are balanced, those in its
strings among them (`read_parenthesized_iff`). Where they are not, one in a
string may close the source, or the source is never closed.

That an expression is balanced but for its strings comes from its grammar, and
what is read of contents comes from theirs. It is left to see that the text is
not blank and that nothing is left behind the parenthesis that was put there: of
details without a type and options there is space, and perhaps a comma, and none
of these is a parenthesis.
-/
import DynamicSql.Proofs.Expr.Parentheses
import DynamicSql.Proofs.Parameter.Grammar

namespace DynamicSql

open Text (Balanced isSpaceOrControl)

-- ========================================================== texts of tokens

namespace Token

variable {c : Char} {cs rest : List Char} {token : Token}

theorem isSpaceOrControl_of_isWordChar (h : isWordChar c = true) : isSpaceOrControl c = false := by
  have hbounds := LoopVariable.toNat_of_isWordChar h
  refine decide_eq_false fun hle => ?_
  have hle : c.toNat ≤ 32 := UInt32.le_iff_toNat_le.mp hle
  omega

/-- No token begins with space. -/
theorem isSpaceOrControl_of_scan (h : scan c cs = .ok (token, rest)) :
    isSpaceOrControl c = false := by
  unfold scan at h
  split at h
  · next t hbracket =>
    unfold bracket? at hbracket
    split at hbracket <;> first | rfl | cases hbracket
  · split at h
    · next hquote => obtain rfl | rfl := hquote <;> rfl
    · split at h
      · next hnumber =>
        obtain hdigit | hfraction := hnumber
        · exact isSpaceOrControl_of_isWordChar (isWordChar_of_isDigit hdigit)
        · obtain ⟨tail, htail⟩ := exists_of_beginsFraction hfraction
          obtain ⟨rfl, -⟩ := List.cons.inj htail
          rfl
      · split at h
        · next hdot =>
          rw [hdot]
          rfl
        · split at h
          · next hstart =>
            exact isSpaceOrControl_of_isWordChar (LoopVariable.isWordChar_of_isWordStart hstart)
          · split at h
            · next s rest' hsymbol =>
              unfold symbol? at hsymbol
              split at hsymbol <;> first | rfl | cases hsymbol
            · cases h

/-- A text that is all space has no token. -/
theorem eq_nil_of_lexFrom {offset : Nat} {lexemes : List Lexeme}
    (h : lexFrom offset cs = .ok lexemes) (hspace : cs.all isSpaceOrControl = true) :
    lexemes = [] := by
  fun_induction lexFrom offset cs generalizing lexemes with
  | case1 => exact (Except.ok.inj h).symm
  | case2 offset c cs _ ih => exact ih h (Bool.and_eq_true_iff.mp hspace).2
  | case3 => cases h
  | case4 offset c cs _ token rest hscan =>
    have hc := (Bool.and_eq_true_iff.mp hspace).1
    rw [isSpaceOrControl_of_scan hscan] at hc
    cases hc

end Token

theorem Expr.partText_ne_empty_of_parse {text : String} {e : Expr} (h : Expr.parse text = .ok e) :
    Parameter.partText text.toList ≠ "" := by
  rw [Ne, Parameter.partText_eq_empty_iff]
  intro hspace
  unfold Expr.parse at h
  cases hlex : Token.lex text with
  | error fault =>
    rw [hlex] at h
    cases h
  | ok lexemes =>
    rw [hlex, Token.eq_nil_of_lexFrom hlex hspace] at h
    cases h

namespace Parameter

-- ================================================================ details

variable {inName : Char → Bool} {cs details : List Char}

theorem OptionList.all_of_nil (h : OptionList inName cs []) :
    cs.all isSpaceOrControl = true := by
  cases h with
  | none hspace => exact hspace

/-- Where nothing is said of the source there is no parenthesis. -/
theorem Details.not_mem_of_nil (h : Details inName details none []) : ')' ∉ details := by
  cases h with
  | untyped hspace htail =>
    cases htail with
    | none =>
      rw [List.append_nil]
      exact Text.not_mem_of_all hspace rfl
    | options hlist =>
      rw [List.mem_append, List.mem_cons]
      rintro (hmem | heq | hmem)
      · exact Text.not_mem_of_all hspace rfl hmem
      · cases heq
      · exact Text.not_mem_of_all hlist.all_of_nil rfl hmem

theorem eq_nil_of_optionsIn {assignments : List Assignment} (htypes : typesIn assignments = [])
    (hoptions : optionsIn assignments = []) : assignments = [] := by
  rw [typesIn, List.map_eq_nil_iff, List.filter_eq_nil_iff] at htypes
  rw [optionsIn, List.map_eq_nil_iff, List.filter_eq_nil_iff] at hoptions
  refine List.eq_nil_iff_forall_not_mem.mpr fun a ha => hoptions a ha (decide_eq_true ?_)
  exact fun hname => htypes a ha (decide_eq_true hname)

-- =============================================================== the source

theorem toList_parenthesized (text : String) :
    ("(" ++ text ++ ")").toList = '(' :: (text.toList ++ [')']) := by
  rw [String.toList_append, String.toList_append]
  rfl

/-- Balanced text in parentheses stands for the expression. -/
theorem derives_parenthesized {text : String} (h : Balanced text.toList)
    (hne : partText text.toList ≠ "") :
    Derives inReadName ("(" ++ text ++ ")") ⟨.expression (partText text.toList), none, []⟩ :=
  ⟨_, [], none, [], by rw [toList_parenthesized, List.append_nil]; rfl,
    @Sourced.expression [] _ rfl h hne, @Details.untyped _ [] _ _ rfl .none, rfl, rfl⟩

/-- Text in parentheses that stands for an expression and nothing more is
balanced. -/
theorem balanced_of_derives {text expression : String}
    (h : Derives inReadName ("(" ++ text ++ ")") ⟨.expression expression, none, []⟩) :
    Balanced text.toList := by
  obtain ⟨taken, details, type, assignments, hcontent, hsource, hdetails, htype, hoptions⟩ := h
  obtain ⟨htypes, rfl⟩ := Option.or_eq_none_iff.mp htype.symm
  obtain rfl := eq_nil_of_optionsIn (List.getLast?_eq_none_iff.mp htypes) hoptions.symm
  have hclose := hdetails.not_mem_of_nil
  rw [toList_parenthesized] at hcontent
  cases hsource with
  | @expression space inside hspace hbalanced _ =>
    cases space with
    | cons c space =>
      obtain ⟨rfl, -⟩ := List.cons.inj hcontent
      cases (Bool.and_eq_true_iff.mp hspace).1
    | nil =>
      rw [List.nil_append, List.cons_append, List.append_assoc] at hcontent
      have htail := (List.cons.inj hcontent).2
      -- The parenthesis at the end is the one that closes the source.
      obtain rfl | ⟨before, last, rfl⟩ := List.eq_nil_or_concat' details
      · rw [List.append_nil] at htail
        rwa [List.append_inj_left' htail rfl]
      · have hlast := congrArg List.getLast? htail
        rw [List.getLast?_concat, ← List.append_assoc, ← List.append_assoc,
          List.getLast?_concat] at hlast
        obtain rfl := Option.some.inj hlast
        exact absurd (List.mem_append_right before List.mem_cons_self) hclose

/-- The text of an expression is read in parentheses just if the parentheses in
it are balanced, and they are if those of each string in it are. -/
theorem read_parenthesized_iff {text : String} {e : Expr} (h : Expr.parse text = .ok e) :
    (Mapping.read ("(" ++ text ++ ")") = .ok ⟨.expression (partText text.toList), none, []⟩
        ↔ Balanced text.toList)
      ∧ ((∀ s ∈ e.strings, Balanced s.toList) → Balanced text.toList) := by
  refine ⟨⟨fun hread => ?_, fun hbalanced => ?_⟩, Expr.balanced_of_parse h⟩
  · exact balanced_of_derives (read_eq_ok_iff_derives.mp hread)
  · exact read_eq_ok_iff_derives.mpr
      (derives_parenthesized hbalanced (Expr.partText_ne_empty_of_parse h))

/-- Parentheses in two strings that make up for each other. -/
theorem read_parenthesized_of_two_strings :
    Expr.parse "'('+')'" = .ok (.binary .add (.literal (.string "(")) (.literal (.string ")")))
      ∧ Balanced "'('+')'".toList
      ∧ Mapping.read ("(" ++ "'('+')'" ++ ")")
        = .ok ⟨.expression (partText "'('+')'".toList), none, []⟩ := by
  have hparse : Expr.parse "'('+')'"
      = .ok (.binary .add (.literal (.string "(")) (.literal (.string ")"))) := by
    have hopening : Token.scan '\'' "('+')'".toList = .ok (.string "(", "+')'".toList) := rfl
    have hplus : Token.scan '+' "')'".toList = .ok (.symbol .plus, "')'".toList) := rfl
    have hclosing : Token.scan '\'' ")'".toList = .ok (.string ")", []) := rfl
    obtain ⟨second, hfirst⟩ := Token.lexFrom_of_scan rfl hopening 0
    obtain ⟨third, hsecond⟩ := Token.lexFrom_of_scan rfl hplus second
    obtain ⟨last, hthird⟩ := Token.lexFrom_of_scan rfl hclosing third
    rw [Expr.parse, Token.lex, show "'('+')'".toList = '\'' :: "('+')'".toList from rfl, hfirst,
      show "+')'".toList = '+' :: "')'".toList from rfl, hsecond,
      show "')'".toList = '\'' :: ")'".toList from rfl, hthird, Token.lexFrom]
    rfl
  have hbalanced : Balanced "'('+')'".toList := by decide
  exact ⟨hparse, hbalanced, (read_parenthesized_iff hparse).1.mpr hbalanced⟩

/-- The parenthesis in a string closes the source. -/
theorem read_parenthesized_ends_in_string :
    Expr.parse "')'" = .ok (.literal (.string ")"))
      ∧ Mapping.read ("(" ++ "')'" ++ ")") = .error ⟨.expectedColonOrComma, 3⟩ := by
  have hscan : Token.scan '\'' ")'".toList = .ok (.string ")", []) := rfl
  obtain ⟨last, hlex⟩ := Token.lexFrom_of_scan rfl hscan 0
  refine ⟨?_, by decide +kernel⟩
  rw [Expr.parse, Token.lex, show "')'".toList = '\'' :: ")'".toList from rfl, hlex,
    Token.lexFrom]
  rfl

end Parameter

end DynamicSql
