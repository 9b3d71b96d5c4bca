/-
The leading name of a property, and what loops make of it.

The leading name is what a reader of a property would call its variable: the
longest word at its beginning, blanks before it passed over. A loop renames a
property if the leading name is one of its variables and is followed by
something that may follow a name (`rename?_eq`). So of all loops around, the
innermost one with a variable of that name decides, and no other
(`renamed_eq`).

# Why one renaming is all

A property goes through the loops from the inside out, also after it was
renamed. But then its leading name is that of a single iteration, and no loop
has a variable that is called so, as long as the template keeps away from
the prefix of these names.

# Names of single iterations

They end in the number of the iteration, and digits contain no underscore:
the last one separates the number from the name. So the name of an iteration
tells both (`uniqueName_injective`).
-/
import DynamicSql.Expr.Token
import DynamicSql.Render.Context
import Std.Data.String.ToNat

namespace DynamicSql

/-- True of a name that the language of expressions reads as one word. -/
def Token.isName (name : String) : Bool :=
  match name.toList with
  | [] => false
  | c :: cs => isWordStart c && cs.all isWordChar

namespace LoopVariable

/-- True of a name for loop variables that keeps away from the names of
single iterations. -/
def isPlain (name : String) : Bool :=
  Token.isName name && !marker.toList.isPrefixOf name.toList

/-- The word that the property begins with. -/
def leading (property : String) : String :=
  String.ofList ((property.toList.dropWhile Text.isBlank).takeWhile Token.isWordChar)

/-- What follows the word that the property begins with. -/
def trailing (property : String) : String :=
  String.ofList ((property.toList.dropWhile Text.isBlank).dropWhile Token.isWordChar)

-- ================================================================= words

theorem isWordChar_of_isWordStart {c : Char} (h : Token.isWordStart c = true) :
    Token.isWordChar c = true := by
  simp only [Token.isWordStart, Token.isWordChar, Char.isAlphanum, Bool.or_eq_true] at h ⊢
  rcases h with (h | h) | h
  · exact Or.inl (Or.inl (Or.inl h))
  · exact Or.inl (Or.inr h)
  · exact Or.inr h

theorem toNat_of_isAlpha {c : Char} (h : c.isAlpha = true) :
    (0x41 ≤ c.toNat ∧ c.toNat ≤ 0x5A) ∨ (0x61 ≤ c.toNat ∧ c.toNat ≤ 0x7A) := by
  rcases Bool.or_eq_true_iff.mp (show (c.isUpper || c.isLower) = true from h) with h | h
  · exact Or.inl (of_decide_eq_true h)
  · obtain ⟨hlow, hhigh⟩ := Bool.and_eq_true_iff.mp h
    exact Or.inr ⟨of_decide_eq_true hlow, of_decide_eq_true hhigh⟩

theorem toNat_of_isDigit {c : Char} (h : c.isDigit = true) :
    0x30 ≤ c.toNat ∧ c.toNat ≤ 0x39 := by
  obtain ⟨hlow, hhigh⟩ := Bool.and_eq_true_iff.mp h
  exact ⟨of_decide_eq_true hlow, of_decide_eq_true hhigh⟩

/-- Where the characters of words stand among all characters. -/
theorem toNat_of_isWordChar {c : Char} (h : Token.isWordChar c = true) :
    c.toNat = 0x24 ∨ (0x30 ≤ c.toNat ∧ c.toNat ≤ 0x39) ∨ (0x41 ≤ c.toNat ∧ c.toNat ≤ 0x7A) := by
  simp only [Token.isWordChar, Bool.or_eq_true, beq_iff_eq] at h
  rcases h with (h | rfl) | rfl
  · rcases Bool.or_eq_true_iff.mp (show (c.isAlpha || c.isDigit) = true from h) with h | h
    · have hletter := toNat_of_isAlpha h
      omega
    · exact Or.inr (Or.inl (toNat_of_isDigit h))
  · exact Or.inr (Or.inr (by decide))
  · exact Or.inl rfl

/-- Blanks end words. -/
theorem isWordChar_of_isBlank {c : Char} (h : Text.isBlank c = true) :
    Token.isWordChar c = false := by
  cases hc : Token.isWordChar c with
  | false => rfl
  | true =>
    have hbounds := toNat_of_isWordChar hc
    simp only [Text.isBlank, Bool.or_eq_true, Bool.and_eq_true, decide_eq_true_eq,
      beq_iff_eq] at h
    omega

/-- What may follow a name is no part of it. -/
theorem isWordChar_of_endsName {c : Char} {cs : List Char} (h : endsName (c :: cs) = true) :
    Token.isWordChar c = false := by
  simp only [endsName, Bool.or_eq_true, beq_iff_eq] at h
  rcases h with ((rfl | rfl) | rfl) | h
  · decide
  · decide
  · decide
  · exact isWordChar_of_isBlank h

theorem all_isWordChar_of_isName {name : String} (h : Token.isName name = true) :
    ∀ c ∈ name.toList, Token.isWordChar c = true := by
  unfold Token.isName at h
  cases hn : name.toList with
  | nil =>
    intro c hc
    cases hc
  | cons c cs =>
    rw [hn] at h
    simp only [Bool.and_eq_true, List.all_eq_true] at h
    intro d hd
    rcases List.mem_cons.mp hd with rfl | hd
    · exact isWordChar_of_isWordStart h.1
    · exact h.2 d hd

/-- Nothing that follows a name goes on with it. -/
theorem takeWhile_append_of_endsName {name rest : List Char}
    (hname : ∀ c ∈ name, Token.isWordChar c = true) (hrest : endsName rest = true) :
    (name ++ rest).takeWhile Token.isWordChar = name := by
  rw [List.takeWhile_append_of_pos hname]
  cases rest with
  | nil => exact List.append_nil name
  | cons c cs =>
    rw [List.takeWhile_cons_of_neg (by rw [isWordChar_of_endsName hrest]; exact Bool.false_ne_true)]
    exact List.append_nil name

theorem dropWhile_append_of_endsName {name rest : List Char}
    (hname : ∀ c ∈ name, Token.isWordChar c = true) (hrest : endsName rest = true) :
    (name ++ rest).dropWhile Token.isWordChar = rest := by
  rw [List.dropWhile_append_of_pos hname]
  cases rest with
  | nil => rfl
  | cons c cs =>
    exact List.dropWhile_cons_of_neg (by
      rw [isWordChar_of_endsName hrest]
      exact Bool.false_ne_true)

/-- Blanks apart, a property is its leading name and what follows it. -/
theorem leading_append_trailing (property : String) :
    (leading property).toList ++ (trailing property).toList
      = property.toList.dropWhile Text.isBlank := by
  rw [leading, trailing, String.toList_ofList, String.toList_ofList]
  exact List.takeWhile_append_dropWhile

-- ============================================================== renaming

/-- A name is taken off a property if it is the leading one and is properly
ended. -/
theorem stripName?_eq {name : String} (hname : Token.isName name = true) (property : String) :
    stripName? property name
      = if leading property = name ∧ endsName (trailing property).toList = true
        then some (trailing property) else none := by
  have hchars := all_isWordChar_of_isName hname
  have hsplit := leading_append_trailing property
  unfold stripName?
  simp only []
  by_cases hcond : leading property = name ∧ endsName (trailing property).toList = true
  · rw [if_pos hcond]
    obtain ⟨hlead, hends⟩ := hcond
    rw [← hsplit, hlead]
    have hbegins : name.toList.isPrefixOf (name.toList ++ (trailing property).toList) = true :=
      List.isPrefixOf_iff_prefix.mpr (List.prefix_append _ _)
    have hdrop : (name.toList ++ (trailing property).toList).drop name.length
        = (trailing property).toList := by
      rw [← String.length_toList]
      exact List.drop_left
    rw [if_pos hbegins, hdrop, if_pos hends, String.ofList_toList]
  · rw [if_neg hcond]
    by_cases hbegins : name.toList.isPrefixOf (property.toList.dropWhile Text.isBlank) = true
    · rw [if_pos hbegins]
      obtain ⟨rest, hrest⟩ := List.isPrefixOf_iff_prefix.mp hbegins
      have hdrop : (property.toList.dropWhile Text.isBlank).drop name.length = rest := by
        rw [← hrest, ← String.length_toList]
        exact List.drop_left
      rw [hdrop, if_neg]
      intro hends
      refine hcond ⟨?_, ?_⟩
      · rw [leading, ← hrest, takeWhile_append_of_endsName hchars hends, String.ofList_toList]
      · rw [trailing, ← hrest, dropWhile_append_of_endsName hchars hends, String.toList_ofList]
        exact hends
    · rw [if_neg hbegins]

theorem toList_toString (n : Nat) : (toString n).toList = Nat.toDigits 10 n := by
  rw [Nat.toString_eq_repr, Nat.toList_repr]

theorem toList_uniqueName (name : String) (n : Nat) :
    (uniqueName name n).toList
      = marker.toList ++ (name.toList ++ '_' :: Nat.toDigits 10 n) := by
  simp only [uniqueName, String.toList_append, toList_toString, List.append_assoc]
  rfl

theorem isWordChar_of_mem_marker {c : Char} (h : c ∈ marker.toList) :
    Token.isWordChar c = true := List.all_eq_true.mp (by decide) c h

/-- The name of a single iteration is a word like any other. -/
theorem isName_uniqueName {name : String} (h : Token.isName name = true) (n : Nat) :
    Token.isName (uniqueName name n) = true := by
  have hdigits : ∀ c ∈ Nat.toDigits 10 n, Token.isWordChar c = true := by
    intro c hc
    have hdigit : c.isDigit = true := Nat.isDigit_of_mem_toDigits (by decide) (by decide) hc
    simp only [Token.isWordChar, Char.isAlphanum, hdigit, Bool.or_true, Bool.true_or]
  unfold Token.isName
  rw [toList_uniqueName]
  show (Token.isWordStart '_' && ("_frch_".toList ++ (name.toList ++ '_' :: _)).all _) = true
  rw [Bool.and_eq_true, List.all_append, List.all_append, List.all_cons, Bool.and_eq_true,
    Bool.and_eq_true, Bool.and_eq_true, List.all_eq_true, List.all_eq_true, List.all_eq_true]
  exact ⟨by decide, fun c hc => isWordChar_of_mem_marker (List.mem_cons_of_mem _ hc),
    all_isWordChar_of_isName h, by decide, hdigits⟩

/-- No plain name is the name of a single iteration. -/
theorem ne_uniqueName_of_isPlain {name : String} (h : isPlain name = true) (other : String)
    (n : Nat) : name ≠ uniqueName other n := by
  rintro rfl
  simp only [isPlain, Bool.and_eq_true, Bool.not_eq_true'] at h
  have hbegins : marker.toList.isPrefixOf (uniqueName other n).toList = true := by
    rw [toList_uniqueName]
    exact List.isPrefixOf_iff_prefix.mpr (List.prefix_append _ _)
  rw [hbegins] at h
  cases h.2

/-- Two lists that are cut at their last underscore. -/
theorem append_underscore_inj {a b c d : List Char} (hc : '_' ∉ c) (hd : '_' ∉ d)
    (h : a ++ '_' :: c = b ++ '_' :: d) : a = b ∧ c = d := by
  rcases List.append_eq_append_iff.mp h with ⟨e, rfl, he⟩ | ⟨e, rfl, he⟩
  · cases e with
    | nil => exact ⟨(List.append_nil a).symm, (List.cons.inj he).2⟩
    | cons x e =>
      obtain ⟨-, rfl⟩ := List.cons.inj he
      exact absurd (List.mem_append_right _ (List.mem_cons_self ..)) hc
  · cases e with
    | nil => exact ⟨List.append_nil b, (List.cons.inj he).2.symm⟩
    | cons x e =>
      obtain ⟨-, rfl⟩ := List.cons.inj he
      exact absurd (List.mem_append_right _ (List.mem_cons_self ..)) hd

/-- The name of a single iteration tells the variable and the iteration. -/
theorem uniqueName_injective {name name' : String} {n n' : Nat}
    (h : uniqueName name n = uniqueName name' n') : name = name' ∧ n = n' := by
  have hlists := congrArg String.toList h
  rw [toList_uniqueName, toList_uniqueName] at hlists
  obtain ⟨hnames, hdigits⟩ := append_underscore_inj Nat.underscore_not_in_toDigits
    Nat.underscore_not_in_toDigits (List.append_cancel_left hlists)
  refine ⟨String.ext hnames, Nat.repr_injective (String.ext ?_)⟩
  rw [Nat.toList_repr, Nat.toList_repr]
  exact hdigits

/-- A renamed property begins with the name of the iteration. -/
theorem leading_uniqueName {name rest : String} (hname : Token.isName name = true) (n : Nat)
    (hrest : endsName rest.toList = true) :
    leading (uniqueName name n ++ rest) = uniqueName name n
      ∧ trailing (uniqueName name n ++ rest) = rest := by
  have hchars := all_isWordChar_of_isName (isName_uniqueName hname n)
  have hlist : (uniqueName name n ++ rest).toList.dropWhile Text.isBlank
      = (uniqueName name n).toList ++ rest.toList := by
    rw [String.toList_append, toList_uniqueName]
    exact List.dropWhile_cons_of_neg (by decide)
  rw [leading, trailing, hlist, takeWhile_append_of_endsName hchars hrest,
    dropWhile_append_of_endsName hchars hrest, String.ofList_toList, String.ofList_toList]
  exact ⟨rfl, rfl⟩

/-- A property that begins with the name of an iteration has no plain name at
its beginning, whatever follows. -/
theorem isPlain_leading_uniqueName (name rest : String) (n : Nat) :
    isPlain (leading (uniqueName name n ++ rest)) = false := by
  have hlist : (uniqueName name n ++ rest).toList.dropWhile Text.isBlank
      = marker.toList ++ (name.toList ++ '_' :: Nat.toDigits 10 n ++ rest.toList) := by
    rw [String.toList_append, toList_uniqueName, List.append_assoc]
    exact List.dropWhile_cons_of_neg (by decide)
  have hbegins : marker.toList.isPrefixOf (leading (uniqueName name n ++ rest)).toList = true := by
    rw [leading, String.toList_ofList, hlist,
      List.takeWhile_append_of_pos fun c hc => isWordChar_of_mem_marker hc]
    exact List.isPrefixOf_iff_prefix.mpr (List.prefix_append _ _)
  unfold isPlain
  rw [hbegins, Bool.not_true, Bool.and_false]

end LoopVariable

-- ================================================================= loops

open LoopVariable

/-- The iteration has a variable of the name. -/
def LoopFrame.binds (f : LoopFrame) (name : String) : Bool := f.names.contains name

theorem LoopFrame.binds_iff {f : LoopFrame} {name : String} :
    f.binds name = true ↔ name ∈ f.names := List.contains_iff_mem

/-- The innermost iteration that has a variable of the name. -/
def LoopFrame.innermost? (frames : List LoopFrame) (name : String) : Option LoopFrame :=
  frames.find? (·.binds name)

theorem LoopFrame.mem_of_innermost? {frames : List LoopFrame} {name : String} {f : LoopFrame}
    (h : innermost? frames name = some f) : f ∈ frames ∧ name ∈ f.names := by
  unfold innermost? at h
  have hbinds := List.find?_some h
  exact ⟨List.mem_of_find?_eq_some h, binds_iff.mp hbinds⟩

theorem LoopFrame.innermost?_cons_of_binds {f : LoopFrame} {name : String}
    (h : f.binds name = true) (rest : List LoopFrame) :
    innermost? (f :: rest) name = some f := by
  rw [innermost?, List.find?_cons, h]

theorem LoopFrame.innermost?_cons_of_not_binds {f : LoopFrame} {name : String}
    (h : f.binds name = false) (rest : List LoopFrame) :
    innermost? (f :: rest) name = innermost? rest name := by
  rw [innermost?, List.find?_cons, h]
  rfl

/-- All variables of the iteration have plain names. -/
def LoopFrame.Plain (f : LoopFrame) : Prop := ∀ name ∈ f.names, isPlain name = true

theorem LoopFrame.Plain.isName {f : LoopFrame} (h : f.Plain) {name : String}
    (hname : name ∈ f.names) : Token.isName name = true :=
  (Bool.and_eq_true_iff.mp (h name hname)).1

/-- A loop renames the properties that begin with one of its variables, if
the name is properly ended. -/
theorem LoopFrame.rename?_eq {f : LoopFrame} (h : f.Plain) (property : String) :
    f.rename? property
      = if f.binds (leading property) = true ∧ endsName (trailing property).toList = true
        then some (uniqueName (leading property) f.unique ++ trailing property) else none := by
  have hnames : ∀ names : List String, (∀ name ∈ names, Token.isName name = true) →
      (names.findSome? fun name => (stripName? property name).map fun rest =>
          uniqueName name f.unique ++ rest)
        = if names.contains (leading property) = true
              ∧ endsName (trailing property).toList = true
          then some (uniqueName (leading property) f.unique ++ trailing property) else none := by
    intro names hall
    induction names with
    | nil => rfl
    | cons name rest ih =>
      rw [List.findSome?_cons, stripName?_eq (hall name (List.mem_cons_self ..)),
        ih fun other ho => hall other (List.mem_cons_of_mem _ ho)]
      by_cases hends : endsName (trailing property).toList = true
      · by_cases hlead : leading property = name
        · simp [hends, hlead]
        · simp [hends, hlead]
      · simp [hends]
  exact hnames f.names fun name hn => h.isName hn

/-- Of the loops around, the innermost one with a variable of the leading
name renames a property; if the name is not properly ended, or is that of no
loop, nothing does. -/
theorem Context.renamed_eq {frames : List LoopFrame} (h : ∀ f ∈ frames, f.Plain)
    (property : String) :
    renamed frames property
      = if endsName (trailing property).toList = true then
          match LoopFrame.innermost? frames (leading property) with
          | some f => uniqueName (leading property) f.unique ++ trailing property
          | none => property
        else property := by
  -- Where no loop has a variable of the leading name, nothing is renamed.
  have hnone : ∀ (frames : List LoopFrame) (property : String), (∀ f ∈ frames, f.Plain) →
      (∀ f ∈ frames, ¬(f.binds (leading property) = true
        ∧ endsName (trailing property).toList = true)) → renamed frames property = property := by
    intro frames property hplain hno
    induction frames with
    | nil => rfl
    | cons f rest ih =>
      show renamed rest ((f.rename? property).getD property) = property
      rw [LoopFrame.rename?_eq (hplain f (List.mem_cons_self ..)),
        if_neg (hno f (List.mem_cons_self ..))]
      exact ih (fun g hg => hplain g (List.mem_cons_of_mem _ hg))
        fun g hg => hno g (List.mem_cons_of_mem _ hg)
  by_cases hends : endsName (trailing property).toList = true
  · rw [if_pos hends]
    induction frames with
    | nil => rfl
    | cons f rest ih =>
      have hrest : ∀ g ∈ rest, g.Plain := fun g hg => h g (List.mem_cons_of_mem _ hg)
      have hf : f.Plain := h f (List.mem_cons_self ..)
      show renamed rest ((f.rename? property).getD property) = _
      rw [LoopFrame.rename?_eq hf]
      cases hbinds : f.binds (leading property) with
      | true =>
        rw [if_pos ⟨rfl, hends⟩, Option.getD_some, LoopFrame.innermost?_cons_of_binds hbinds]
        have hname : Token.isName (leading property) = true :=
          hf.isName (LoopFrame.binds_iff.mp hbinds)
        obtain ⟨hlead, -⟩ := leading_uniqueName hname f.unique hends
        refine hnone rest _ hrest fun g hg hno => ?_
        rw [hlead] at hno
        exact ne_uniqueName_of_isPlain (hrest g hg _ (LoopFrame.binds_iff.mp hno.1)) _ _ rfl
      | false =>
        rw [if_neg fun hboth => Bool.false_ne_true hboth.1, Option.getD_none,
          LoopFrame.innermost?_cons_of_not_binds hbinds]
        exact ih hrest
  · rw [if_neg hends]
    exact hnone frames property h fun f _ hboth => hends hboth.2

end DynamicSql
