/-
Mappings as the contents of placeholders.

A mapping is printed as its source, then its type and its options, each of these
with a comma before it. The type is printed as an option of its own name, so
what was read behind a colon is printed in the one form that both have.

What is read of any content is well-formed, and what is well-formed is read as
it is printed (`wellFormed_and_read_print`). Both halves go by the grammar. Each
part of a mapping was trimmed when it was read, and holds no character that
would have ended it; and just so much has to be known of a part for it to be
read again behind the space that is printed before it. A name may hold commas
here, since the reader does not end it at one.
-/
import DynamicSql.Proofs.Parameter.Grammar

namespace DynamicSql.Parameter

open Text (Balanced isSpaceOrControl trimBy)

-- =========================================================== well-formed

/-- No space stands at either end of the text. -/
structure Trimmed (s : String) : Prop where
  head : ∀ c ∈ s.toList.head?, isSpaceOrControl c = false
  last : ∀ c ∈ s.toList.getLast?, isSpaceOrControl c = false

theorem all_not_iff {p : Char → Bool} {c? : Option Char} :
    (c?.all fun c => !p c) = true ↔ ∀ c ∈ c?, p c = false := by
  cases c? with
  | none => exact iff_of_true rfl nofun
  | some c =>
    show (!p c) = true ↔ _
    rw [Bool.not_eq_true']
    exact ⟨fun h d hd => Option.some.inj hd ▸ h, fun h => h c rfl⟩

-- Only the two characters are looked at, not all that there are.
instance (s : String) : Decidable (Trimmed s) :=
  decidable_of_iff ((s.toList.head?.all fun c => !isSpaceOrControl c) = true
    ∧ (s.toList.getLast?.all fun c => !isSpaceOrControl c) = true)
    ⟨fun h => ⟨all_not_iff.mp h.1, all_not_iff.mp h.2⟩,
      fun h => ⟨all_not_iff.mpr h.head, all_not_iff.mpr h.last⟩⟩

/-- The source is one that can be read. -/
def Source.WellFormed : Source → Prop
  | .property path => path ≠ "" ∧ Trimmed path ∧ ',' ∉ path.toList ∧ ':' ∉ path.toList
    ∧ path.toList.head? ≠ some '('
  | .expression text => text ≠ "" ∧ Trimmed text ∧ Balanced text.toList

instance : DecidablePred Source.WellFormed
  | .property path => inferInstanceAs (Decidable (path ≠ "" ∧ _))
  | .expression text => inferInstanceAs (Decidable (text ≠ "" ∧ _))

/-- A value ends at a comma and is trimmed. -/
def IsValue (value : String) : Prop := Trimmed value ∧ ',' ∉ value.toList

instance (value : String) : Decidable (IsValue value) := inferInstanceAs (Decidable (_ ∧ _))

/-- A name of an option is not that of the type. It ends at an equals sign, is
trimmed and is not empty. -/
def IsName (name : String) : Prop :=
  name ≠ "" ∧ Trimmed name ∧ '=' ∉ name.toList ∧ name ≠ "jdbcType"

instance (name : String) : Decidable (IsName name) := inferInstanceAs (Decidable (_ ∧ _))

/-- The mapping is one that can be read. -/
structure Mapping.WellFormed (m : Mapping) : Prop where
  source : m.source.WellFormed
  jdbcType : ∀ type ∈ m.jdbcType, IsValue type
  options : ∀ o ∈ m.options, IsName o.1 ∧ IsValue o.2

instance : DecidablePred Mapping.WellFormed := fun m =>
  decidable_of_iff (m.source.WellFormed ∧ (∀ type ∈ m.jdbcType, IsValue type)
    ∧ ∀ o ∈ m.options, IsName o.1 ∧ IsValue o.2)
    ⟨fun h => ⟨h.1, h.2.1, h.2.2⟩, fun h => ⟨h.source, h.jdbcType, h.options⟩⟩

-- ============================================================== printing

/-- A property as its path, an expression in parentheses. -/
def Source.print : Source → String
  | .property path => path
  | .expression text => "(" ++ text ++ ")"

/-- An option behind a comma. -/
def printOption (name value : String) : String := ", " ++ name ++ "=" ++ value

/-- The content that a mapping is printed as. -/
def Mapping.print (m : Mapping) : String :=
  m.source.print ++ (m.jdbcType.elim "" (printOption "jdbcType"))
    ++ String.join (m.options.map fun o => printOption o.1 o.2)

-- ================================================================= parts

theorem trimmed_partText (cs : List Char) : Trimmed (partText cs) where
  head c hc := by
    rw [toList_partText] at hc
    exact Text.head?_trimBy hc
  last c hc := by
    rw [toList_partText] at hc
    exact Text.getLast?_trimBy hc

/-- Trimmed text is read as it is. -/
theorem Trimmed.partText_eq {s : String} (h : Trimmed s) : partText s.toList = s := by
  by_cases hs : s = ""
  · subst hs
    rfl
  · have hne : s.toList ≠ [] := fun hnil => hs (String.toList_eq_nil_iff.mp hnil)
    have htrim : trimBy isSpaceOrControl ([] ++ (s.toList ++ [])) = s.toList :=
      Text.trimBy_eq hne rfl rfl h.head h.last
    rw [List.append_nil, List.nil_append] at htrim
    rw [partText, htrim, String.ofList_toList]

theorem all_bne {d : Char} {cs : List Char} : cs.all (· != d) = true ↔ d ∉ cs := by
  simp only [List.all_eq_true, bne_iff_ne]
  exact ⟨fun h hmem => h d hmem rfl, fun h c hc heq => h (heq ▸ hc)⟩

theorem isValue_partText {cs : List Char} (h : cs.all (· != ',') = true) :
    IsValue (partText cs) :=
  ⟨trimmed_partText cs, fun hmem => all_bne.mp h ((mem_partText rfl).mp hmem)⟩

-- =============================================== what is read is well-formed

section

variable {cs : List Char} {type : Option String} {assignments : List Assignment}

theorem Sourced.wellFormed {source : Source} (h : Sourced cs source) : source.WellFormed := by
  cases h with
  | property hchars hnamed hopen =>
    have hnot : ∀ {d : Char}, isInside d = false → isSpaceOrControl d = false →
        d ∉ (partText cs).toList := fun hd hspace hmem =>
      Text.not_mem_of_all hchars hd ((mem_partText hspace).mp hmem)
    exact ⟨hnamed, trimmed_partText cs, hnot rfl rfl, hnot rfl rfl, hopen⟩
  | @expression _ inside _ hbalanced hnamed =>
    refine ⟨hnamed, trimmed_partText inside, ?_⟩
    rw [toList_partText]
    refine (Text.balanced_trimBy fun c hc => ?_).mpr hbalanced
    rw [Text.isParenthesis, beq_eq_false_iff_ne.mpr (bne_iff_ne.mp (bne_of_isSpace rfl c hc)),
      beq_eq_false_iff_ne.mpr (bne_iff_ne.mp (bne_of_isSpace rfl c hc))]
    rfl

/-- A name and a value of which each was read as a part. -/
def Assignment.WellFormed (a : Assignment) : Prop :=
  a.name ≠ "" ∧ Trimmed a.name ∧ '=' ∉ a.name.toList ∧ IsValue a.value

theorem IsOption.wellFormed {name value : List Char} (h : IsOption inReadName name value) :
    Assignment.WellFormed ⟨partText name, partText value⟩ :=
  ⟨h.named, trimmed_partText name, fun hmem => all_bne.mp h.chars ((mem_partText rfl).mp hmem),
    isValue_partText h.value⟩

theorem OptionList.wellFormed (h : OptionList inReadName cs assignments) :
    ∀ a ∈ assignments, a.WellFormed := by
  induction h with
  | none => exact nofun
  | last hoption => exact List.forall_mem_singleton.mpr hoption.wellFormed
  | cons hoption _ ih => exact List.forall_mem_cons.mpr ⟨hoption.wellFormed, ih⟩

theorem Details.wellFormed (h : Details inReadName cs type assignments) :
    (∀ name ∈ type, IsValue name) ∧ ∀ a ∈ assignments, a.WellFormed := by
  have htail : ∀ {tail : List Char}, Tail inReadName tail assignments →
      ∀ a ∈ assignments, a.WellFormed := by
    rintro _ (_ | hoptions)
    · exact nofun
    · exact hoptions.wellFormed
  cases h with
  | untyped _ h => exact ⟨nofun, htail h⟩
  | typed _ hchars _ h =>
    exact ⟨fun name hname => Option.some.inj hname ▸ isValue_partText hchars, htail h⟩

theorem Derives.wellFormed {content : String} {m : Mapping} (h : Derives inReadName content m) :
    m.WellFormed := by
  obtain ⟨taken, details, type, assignments, -, hsource, hdetails, htype, hoptions⟩ := h
  obtain ⟨hcolon, hlisted⟩ := hdetails.wellFormed
  refine ⟨hsource.wellFormed, fun name hname => ?_, fun o ho => ?_⟩
  · rw [htype] at hname
    obtain hlast | ⟨-, hname⟩ := Option.or_eq_some_iff.mp hname
    · obtain ⟨a, ha, rfl⟩ := List.mem_map.mp (List.mem_of_getLast? hlast)
      exact (hlisted a (List.mem_of_mem_filter ha)).2.2.2
    · exact hcolon name hname
  · rw [hoptions] at ho
    obtain ⟨a, ha, rfl⟩ := List.mem_map.mp ho
    obtain ⟨ha, hname⟩ := List.mem_filter.mp ha
    obtain ⟨hne, htrimmed, hsign, hvalue⟩ := hlisted a ha
    exact ⟨⟨hne, htrimmed, hsign, of_decide_eq_true hname⟩, hvalue⟩

end

-- ================================================ what is printed is read

def assigned (o : String × String) : Assignment := ⟨o.1, o.2⟩

/-- The mapping's type and options as they are printed. -/
def Mapping.assignments (m : Mapping) : List Assignment :=
  (m.jdbcType.map (Assignment.mk "jdbcType")).toList ++ m.options.map assigned

def printed (a : Assignment) : List Char := (printOption a.name a.value).toList

theorem printed_eq (a : Assignment) :
    printed a = ',' :: ((' ' :: a.name.toList) ++ '=' :: a.value.toList) := by
  simp [printed, printOption]

theorem toList_print (m : Mapping) :
    m.print.toList = m.source.print.toList ++ m.assignments.flatMap printed := by
  have hjoin : ∀ options : List (String × String),
      (String.join (options.map fun o => printOption o.1 o.2)).toList
        = (options.map assigned).flatMap printed := by
    intro options
    induction options with
    | nil => rfl
    | cons o rest ih =>
      rw [List.map_cons, List.map_cons, String.join_cons, String.toList_append, ih]
      rfl
  rw [Mapping.print, String.toList_append, String.toList_append, hjoin, Mapping.assignments,
    List.flatMap_append, List.append_assoc]
  cases m.jdbcType with
  | none => rfl
  | some type => simp [printed]

/-- The type is told apart from the options by its name. -/
theorem typesIn_assignments {m : Mapping} (h : ∀ o ∈ m.options, o.1 ≠ "jdbcType") :
    typesIn m.assignments = m.jdbcType.toList ∧ optionsIn m.assignments = m.options := by
  have htypes : (m.options.map assigned).filter (fun a => a.name = "jdbcType") = [] := by
    rw [List.filter_map, List.map_eq_nil_iff, List.filter_eq_nil_iff]
    exact fun o ho hname => h o ho (of_decide_eq_true hname)
  have hoptions : (m.options.map assigned).filter (fun a => a.name ≠ "jdbcType")
      = m.options.map assigned := by
    rw [List.filter_map]
    exact congrArg _ (List.filter_eq_self.mpr fun o ho => decide_eq_true (h o ho))
  have hback : (m.options.map assigned).map (fun a => (a.name, a.value)) = m.options := by
    rw [List.map_map]
    exact List.map_id m.options
  rw [typesIn, optionsIn, Mapping.assignments, List.filter_append, List.filter_append, htypes,
    hoptions, List.map_append, List.map_append, hback]
  cases m.jdbcType <;> exact ⟨rfl, rfl⟩

theorem Mapping.WellFormed.assignments {m : Mapping} (h : m.WellFormed) :
    ∀ a ∈ m.assignments, a.WellFormed := by
  intro a ha
  obtain ha | ha := List.mem_append.mp ha
  · obtain ⟨type, htype, rfl⟩ := Option.map_eq_some_iff.mp (Option.mem_toList.mp ha)
    have hname : "jdbcType" ≠ "" ∧ Trimmed "jdbcType" ∧ '=' ∉ "jdbcType".toList := by decide
    exact ⟨hname.1, hname.2.1, hname.2.2, h.jdbcType type htype⟩
  · obtain ⟨o, ho, rfl⟩ := List.mem_map.mp ha
    obtain ⟨⟨hne, htrimmed, hsign, -⟩, hvalue⟩ := h.options o ho
    exact ⟨hne, htrimmed, hsign, hvalue⟩

theorem Assignment.WellFormed.isOption {a : Assignment} (h : a.WellFormed) :
    IsOption inReadName (' ' :: a.name.toList) a.value.toList
      ∧ (⟨partText (' ' :: a.name.toList), partText a.value.toList⟩ : Assignment) = a := by
  obtain ⟨hne, htrimmed, hsign, hvalue, hcomma⟩ := h
  have hspace : [' '].all isSpaceOrControl = true := rfl
  have hname : partText (' ' :: a.name.toList) = a.name :=
    (partText_append_left hspace a.name.toList).trans htrimmed.partText_eq
  refine ⟨⟨?_, by rwa [hname], all_bne.mpr hcomma⟩, by rw [hname, hvalue.partText_eq]⟩
  exact all_bne.mpr fun hmem => hsign ((List.mem_cons.mp hmem).resolve_left (by decide))

/-- The comma that is printed before an option ends the value of the option
before it. -/
theorem tail_printed {assignments : List Assignment} (h : ∀ a ∈ assignments, a.WellFormed) :
    Tail inReadName (assignments.flatMap printed) assignments := by
  induction assignments with
  | nil => exact .none
  | cons a rest ih =>
    obtain ⟨hoption, ha⟩ := (h a List.mem_cons_self).isOption
    have hrest := ih fun b hb => h b (List.mem_cons_of_mem a hb)
    rw [List.flatMap_cons, printed_eq, List.cons_append, List.append_assoc, List.cons_append]
    refine .options ?_
    generalize rest.flatMap printed = tail at hrest
    cases hrest with
    | none =>
      have hlast := OptionList.last hoption
      rwa [ha, ← List.append_nil a.value.toList] at hlast
    | options hlist =>
      have hcons := OptionList.cons hoption hlist
      rwa [ha] at hcons

theorem Source.WellFormed.sourced {source : Source} (h : source.WellFormed) :
    Sourced source.print.toList source := by
  cases source with
  | property path =>
    obtain ⟨hne, htrimmed, hcomma, hcolon, hopen⟩ := h
    have hchars : path.toList.all isInside = true := by
      refine List.all_eq_true.mpr fun c hc => ?_
      rw [isInside, List.all_eq_true.mp (all_bne.mpr hcomma) c hc,
        List.all_eq_true.mp (all_bne.mpr hcolon) c hc]
      rfl
    have hsourced := Sourced.property hchars
    rw [htrimmed.partText_eq] at hsourced
    exact hsourced hne hopen
  | expression text =>
    obtain ⟨hne, htrimmed, hbalanced⟩ := h
    have hsourced := @Sourced.expression [] _ rfl hbalanced
    rw [htrimmed.partText_eq] at hsourced
    rw [Source.print, String.toList_append, String.toList_append]
    exact hsourced hne

theorem Mapping.WellFormed.derives {m : Mapping} (h : m.WellFormed) :
    Derives inReadName m.print m := by
  obtain ⟨htypes, hoptions⟩ := typesIn_assignments fun o ho => (h.options o ho).1.2.2.2
  refine ⟨m.source.print.toList, m.assignments.flatMap printed, none, m.assignments,
    toList_print m, h.source.sourced, @Details.untyped _ [] _ _ rfl (tail_printed h.assignments),
    ?_, hoptions.symm⟩
  rw [htypes]
  cases m.jdbcType <;> rfl

/-- A mapping that was read is well-formed, and a well-formed mapping is read of
what it is printed as. -/
theorem wellFormed_and_read_print :
    (∀ (content : String) (m : Mapping), Mapping.read content = .ok m → m.WellFormed)
      ∧ ∀ m : Mapping, m.WellFormed → Mapping.read m.print = .ok m :=
  ⟨fun _ _ h => (read_eq_ok_iff_derives.mp h).wellFormed,
    fun _ h => read_eq_ok_iff_derives.mpr h.derives⟩

/-- The type is empty, as only an option can give it, and names and values hold
what ends other parts. -/
theorem read_print_of_empty_type :
    let m : Mapping := ⟨.expression "f(a) + (b)", some "", [("x, y", "a=b:(c"), ("é", "ü\t€")]⟩
    m.WellFormed
      ∧ m.print = "(f(a) + (b)), jdbcType=, x, y=a=b:(c, é=ü\t€"
      ∧ Mapping.read m.print = .ok m := by
  intro m
  have hm : m.WellFormed := by decide
  exact ⟨hm, by decide, wellFormed_and_read_print.2 m hm⟩

end DynamicSql.Parameter
