/-
The contents of parameter placeholders, as a relation between characters and
mappings.

A content is a source, then perhaps a type behind a colon, then perhaps options
behind a comma, with space around each part. The relation says of which
characters each part may consist and what is read of it. The reader takes just
the contents that are derived here, as the mappings for which they are derived
(`read_eq_ok_iff_derives`).

# Names with commas

Options are listed with commas between them, so a name is not meant to hold one.
The reader looks for the equals sign first and for the comma that ends the value
only behind it. So it takes all that stands before the sign for the name, and an
option without a sign becomes part of the next one's name. For this the grammar
leaves open of which characters names consist. With commas among them it is the
reader's, without them it is the one that is meant, and what the reader accepts
is written as it is meant just if no name has a comma in it
(`derives_meant_iff`).
-/
import DynamicSql.Proofs.Parameter.Plain
import DynamicSql.Proofs.Text.Balance

namespace DynamicSql.Parameter

open Text (Balanced isSpaceOrControl trimBy)

-- ================================================================= parts

theorem toList_partText (cs : List Char) : (partText cs).toList = trimBy isSpaceOrControl cs :=
  String.toList_ofList

/-- Nothing is left of space. -/
theorem partText_eq_empty_iff {cs : List Char} :
    partText cs = "" ↔ cs.all isSpaceOrControl = true := by
  rw [← Text.trimBy_eq_nil_iff, ← toList_partText, String.toList_eq_nil_iff]

theorem isEmpty_partText {cs : List Char} (h : partText cs ≠ "") :
    ¬(partText cs).isEmpty = true := fun hempty => h (String.isEmpty_iff.mp hempty)

theorem partText_append_left {space : List Char} (h : space.all isSpaceOrControl = true)
    (cs : List Char) : partText (space ++ cs) = partText cs := by
  rw [partText, Text.trimBy_append_left h, partText]

theorem partText_append_right {space : List Char} (h : space.all isSpaceOrControl = true)
    (cs : List Char) : partText (cs ++ space) = partText cs := by
  rw [partText, Text.trimBy_append_right h, partText]

/-- A character that is no space is left. -/
theorem mem_partText {cs : List Char} {c : Char} (h : isSpaceOrControl c = false) :
    c ∈ (partText cs).toList ↔ c ∈ cs := by
  obtain ⟨before, after, hcs, hbefore, hafter⟩ := Text.exists_of_trimBy isSpaceOrControl cs
  rw [toList_partText]
  constructor
  · intro hmem
    rw [hcs]
    exact List.mem_append_right _ (List.mem_append_left _ hmem)
  · intro hmem
    rw [hcs, List.mem_append, List.mem_append] at hmem
    exact (hmem.resolve_left (Text.not_mem_of_all hbefore h)).resolve_right
      (Text.not_mem_of_all hafter h)

/-- All characters but space have been passed over before a part. -/
theorem bne_of_isSpace {d : Char} (hd : isSpaceOrControl d = false) (c : Char)
    (h : isSpaceOrControl c = true) : (c != d) = true :=
  bne_iff_ne.mpr fun heq => by
    rw [heq, hd] at h
    cases h

theorem isInside_of_isSpace (c : Char) (h : isSpaceOrControl c = true) : isInside c = true := by
  rw [isInside, bne_of_isSpace rfl c h, bne_of_isSpace rfl c h]
  rfl

-- =============================================================== grammar

/-- The characters of a name and of a value that belong to one option. -/
structure IsOption (inName : Char → Bool) (name value : List Char) : Prop where
  chars : name.all inName = true
  named : partText name ≠ ""
  value : value.all (· != ',') = true

/-- Options as they are listed: each is a name, an equals sign and a value, and
a comma stands between each two. Behind the last comma there may be none. -/
inductive OptionList (inName : Char → Bool) : List Char → List Assignment → Prop
  | none {cs : List Char} (h : cs.all isSpaceOrControl = true) : OptionList inName cs []
  | last {name value : List Char} (h : IsOption inName name value) :
    OptionList inName (name ++ '=' :: value) [⟨partText name, partText value⟩]
  | cons {name value rest : List Char} {assignments : List Assignment}
    (h : IsOption inName name value) (hrest : OptionList inName rest assignments) :
    OptionList inName (name ++ '=' :: (value ++ ',' :: rest))
      (⟨partText name, partText value⟩ :: assignments)

/-- What follows the source or the type: nothing, or a comma and options. -/
inductive Tail (inName : Char → Bool) : List Char → List Assignment → Prop
  | none : Tail inName [] []
  | options {rest : List Char} {assignments : List Assignment}
    (h : OptionList inName rest assignments) : Tail inName (',' :: rest) assignments

/-- What follows the source, with the type if one is given behind a colon. -/
inductive Details (inName : Char → Bool) :
    List Char → Option String → List Assignment → Prop
  | untyped {space tail : List Char} {assignments : List Assignment}
    (hspace : space.all isSpaceOrControl = true) (h : Tail inName tail assignments) :
    Details inName (space ++ tail) none assignments
  | typed {space name tail : List Char} {assignments : List Assignment}
    (hspace : space.all isSpaceOrControl = true) (hchars : name.all (· != ',') = true)
    (hnamed : partText name ≠ "") (h : Tail inName tail assignments) :
    Details inName (space ++ ':' :: (name ++ tail)) (some (partText name)) assignments

/-- A source: a path, or balanced characters in parentheses. -/
inductive Sourced : List Char → Source → Prop
  | property {path : List Char} (hchars : path.all isInside = true)
    (hnamed : partText path ≠ "") (hopen : (partText path).toList.head? ≠ some '(') :
    Sourced path (.property (partText path))
  | expression {space inside : List Char} (hspace : space.all isSpaceOrControl = true)
    (hbalanced : Balanced inside) (hnamed : partText inside ≠ "") :
    Sourced (space ++ '(' :: (inside ++ [')'])) (.expression (partText inside))

/-- The types that options give. -/
def typesIn (assignments : List Assignment) : List String :=
  (assignments.filter fun a => a.name = "jdbcType").map Assignment.value

/-- The options that give no type. -/
def optionsIn (assignments : List Assignment) : List (String × String) :=
  (assignments.filter fun a => a.name ≠ "jdbcType").map fun a => (a.name, a.value)

/-- The content stands for the mapping. Of several types the last one counts,
and the type behind the colon is the first. -/
def Derives (inName : Char → Bool) (content : String) (m : Mapping) : Prop :=
  ∃ source details type assignments, content.toList = source ++ details
    ∧ Sourced source m.source ∧ Details inName details type assignments
    ∧ m.jdbcType = (typesIn assignments).getLast?.or type ∧ m.options = optionsIn assignments

/-- The characters of which names consist to the reader. -/
def inReadName (c : Char) : Bool := c != '='

/-- The characters of which they are meant to consist. -/
def inMeantName (c : Char) : Bool := c != '=' && c != ','

-- =========================================================== assignments

theorem foldl_assign (m : Mapping) (assignments : List Assignment) :
    assignments.foldl Mapping.assign m
      = ⟨m.source, (typesIn assignments).getLast?.or m.jdbcType,
          m.options ++ optionsIn assignments⟩ := by
  induction assignments generalizing m with
  | nil => simp [typesIn, optionsIn]
  | cons a rest ih =>
    rw [List.foldl_cons, ih, Mapping.assign]
    by_cases ha : a.name = "jdbcType"
    · simp [ha, typesIn, optionsIn, List.getLast?_cons]
    · simp [ha, typesIn, optionsIn]

-- =============================================================== options

theorem Cursor.rest_atEquals (c : Cursor) : c.atEquals.rest = c.rest.dropWhile (· != '=') :=
  (Text.span_dropWhile (bne_of_isSpace rfl) c.rest).2

theorem Cursor.optionName_eq (c : Cursor) :
    c.optionName = partText (c.rest.takeWhile (· != '=')) := by
  have hspan := (Text.span_dropWhile (q := (· != '=')) (bne_of_isSpace rfl) c.rest).1
  rw [hspan, partText_append_left List.all_takeWhile]
  rfl

/-- What is passed over to the next option. -/
theorem Cursor.rest_advance (c : Cursor) : c.advance.rest = c.rest.tail := by
  obtain ⟨offset, _ | ⟨x, xs⟩⟩ := c <;> rfl

/-- Without an equals sign there is no option, and only space may stand there. -/
theorem readOptions_of_no_sign {c : Cursor} (h : c.rest.all inReadName = true) :
    readOptions c
      = if c.rest.all isSpaceOrControl then .ok [] else c.skipSpace.fail .expectedEquals := by
  have hsign : c.atEquals.rest = [] := by rw [c.rest_atEquals]; exact (Text.span_of_all h).2
  have hblank : c.skipSpace.rest = [] ↔ c.rest.all isSpaceOrControl = true := by
    rw [List.all_eq_true]
    exact List.dropWhile_eq_nil_iff
  rw [readOptions_eq, if_pos hsign]
  simp only [hblank]

/-- What stands before an equals sign is a name, and its value ends before the
next comma. -/
theorem readOptions_of_sign {c : Cursor} {name tail : List Char}
    (h : name.all inReadName = true) (hrest : c.rest = name ++ '=' :: tail) :
    c.nextOption.rest = (tail.dropWhile (· != ',')).tail
      ∧ readOptions c
        = if partText name = "" then c.skipSpace.fail .missingOptionName
          else (readOptions c.nextOption).map
            (⟨partText name, partText (tail.takeWhile (· != ','))⟩ :: ·) := by
  obtain ⟨htake, hdrop⟩ := Text.span_append_cons (c := '=') h rfl tail
  have hsign : c.atEquals.rest = '=' :: tail := by rw [c.rest_atEquals, hrest]; exact hdrop
  have hafter : c.atEquals.advance.rest = tail := by rw [Cursor.rest_advance, hsign]; rfl
  have hname : c.optionName = partText name := by
    rw [c.optionName_eq, hrest, show name ++ '=' :: tail = _ from rfl]
    exact congrArg partText htake
  have hsome : c.skipSpace.rest ≠ [] := by
    intro hnil
    have hempty : c.atEquals.rest = [] := by rw [Cursor.atEquals, Cursor.skip, hnil]; rfl
    rw [hempty] at hsign
    cases hsign
  constructor
  · rw [Cursor.nextOption, Cursor.rest_advance, Cursor.skip, hafter]
  · rw [readOptions_eq, if_neg hsome, hsign, if_neg (List.cons_ne_nil _ _), hname,
      Cursor.optionValue, hafter]
    simp only [String.isEmpty_iff]

theorem OptionList.eq_nil {inName : Char → Bool} {assignments : List Assignment}
    (h : OptionList inName [] assignments) : assignments = [] := by
  generalize hcs : ([] : List Char) = cs at h
  cases h with
  | none => rfl
  | last => simp at hcs
  | cons => simp at hcs

/-- Behind a value the list ends, or goes on behind a comma. -/
theorem OptionList.of_value {inName : Char → Bool} {name tail : List Char}
    {assignments : List Assignment} (hchars : name.all inName = true) (hnamed : partText name ≠ "")
    (hrest : OptionList inName (tail.dropWhile (· != ',')).tail assignments) :
    OptionList inName (name ++ '=' :: tail)
      (⟨partText name, partText (tail.takeWhile (· != ','))⟩ :: assignments) := by
  have htail : tail.takeWhile (· != ',') ++ tail.dropWhile (· != ',') = tail :=
    List.takeWhile_append_dropWhile
  have hoption : IsOption inName name (tail.takeWhile (· != ',')) :=
    ⟨hchars, hnamed, List.all_takeWhile⟩
  cases hdrop : tail.dropWhile (· != ',') with
  | nil =>
    rw [hdrop, List.append_nil] at htail
    rw [hdrop] at hrest
    rw [hrest.eq_nil]
    have hlast := OptionList.last hoption
    rwa [htail] at hlast ⊢
  | cons x rest =>
    have hx : (x != ',') = false := Text.eq_false_of_dropWhile (p := (· != ',')) hdrop
    obtain rfl : x = ',' := by simpa using hx
    rw [hdrop] at htail hrest
    rw [List.tail_cons] at hrest
    have hcons := OptionList.cons hoption hrest
    rwa [htail] at hcons

theorem optionList_of_readOptions {c : Cursor} {assignments : List Assignment}
    (h : readOptions c = .ok assignments) : OptionList inReadName c.rest assignments := by
  have hrest : c.rest.takeWhile inReadName ++ c.rest.dropWhile inReadName = c.rest :=
    List.takeWhile_append_dropWhile
  cases hdrop : c.rest.dropWhile inReadName with
  | nil =>
    rw [readOptions_of_no_sign (List.all_eq_true.mpr (List.dropWhile_eq_nil_iff.mp hdrop))] at h
    split at h
    · next hspace =>
      obtain rfl := Except.ok.inj h
      exact .none hspace
    · cases h
  | cons x tail =>
    have hx : inReadName x = false := Text.eq_false_of_dropWhile hdrop
    obtain rfl : x = '=' := by simpa [inReadName] using hx
    rw [hdrop] at hrest
    obtain ⟨hnext, hread⟩ := readOptions_of_sign List.all_takeWhile hrest.symm
    have hsign : c.atEquals.rest ≠ [] := by
      rw [c.rest_atEquals, show c.rest.dropWhile (· != '=') = _ from hdrop]
      exact List.cons_ne_nil _ _
    have hlength := Cursor.length_nextOption hsign
    rw [hread] at h
    split at h
    · cases h
    · next hnamed =>
      cases hothers : readOptions c.nextOption with
      | error e =>
        rw [hothers] at h
        cases h
      | ok others =>
        rw [hothers] at h
        obtain rfl := Except.ok.inj h
        have ih := optionList_of_readOptions hothers
        rw [hnext] at ih
        have hlist := OptionList.of_value List.all_takeWhile hnamed ih
        rwa [hrest] at hlist
termination_by c.rest.length

theorem readOptions_of_optionList {cs : List Char} {assignments : List Assignment}
    (h : OptionList inReadName cs assignments) {c : Cursor} (hc : c.rest = cs) :
    readOptions c = .ok assignments := by
  induction h generalizing c with
  | @none cs hspace =>
    have hchars : cs.all inReadName = true := List.all_eq_true.mpr fun x hx =>
      bne_of_isSpace rfl x (List.all_eq_true.mp hspace x hx)
    rw [readOptions_of_no_sign (by rw [hc]; exact hchars), hc, if_pos hspace]
  | @last name value hoption =>
    obtain ⟨htake, hdrop⟩ := Text.span_of_all hoption.value
    obtain ⟨hnext, hread⟩ := readOptions_of_sign hoption.chars hc
    rw [hdrop] at hnext
    have hend : readOptions c.nextOption = .ok [] := by
      rw [readOptions_of_no_sign (by rw [hnext]; rfl), hnext]
      rfl
    rw [hread, if_neg hoption.named, hend, htake]
    rfl
  | @cons name value rest assignments hoption _ ih =>
    obtain ⟨htake, hdrop⟩ := Text.span_append_cons (c := ',') hoption.value rfl rest
    obtain ⟨hnext, hread⟩ := readOptions_of_sign hoption.chars hc
    rw [hdrop] at hnext
    rw [hread, if_neg hoption.named, ih hnext, htake]
    rfl

/-- Options are read just if they are listed. -/
theorem readOptions_eq_ok_iff {c : Cursor} {assignments : List Assignment} :
    readOptions c = .ok assignments ↔ OptionList inReadName c.rest assignments :=
  ⟨optionList_of_readOptions, fun h => readOptions_of_optionList h rfl⟩

-- =============================================================== details

/-- Behind a source or a type options stand behind a comma. -/
theorem tail_iff {inName : Char → Bool} {tail : List Char} {assignments : List Assignment}
    (h : ∀ c ∈ tail.head?, c = ',') :
    Tail inName tail assignments ↔ OptionList inName tail.tail assignments := by
  constructor
  · rintro (_ | hoptions)
    · exact .none rfl
    · exact hoptions
  · intro hoptions
    cases tail with
    | nil =>
      rw [hoptions.eq_nil]
      exact .none
    | cons c rest =>
      obtain rfl := h c rfl
      exact .options hoptions

section

variable (source : Source) {after : Cursor} {xs : List Char}

theorem readDetails_nil (h : after.skipSpace.rest = []) :
    readDetails source after = .ok ⟨source, none, []⟩ := by
  rw [readDetails, h]
  rfl

theorem readDetails_comma (h : after.skipSpace.rest = ',' :: xs) :
    ∃ next : Cursor, next.rest = xs ∧ readDetails source after
      = (readOptions next).map (·.foldl Mapping.assign ⟨source, none, []⟩) := by
  refine ⟨after.skipSpace.advance, by rw [Cursor.rest_advance, h]; rfl, ?_⟩
  rw [readDetails, h]
  cases readOptions after.skipSpace.advance <;> rfl

theorem readDetails_colon (h : after.skipSpace.rest = ':' :: xs) :
    ∃ next : Cursor, next.rest = (xs.dropWhile (· != ',')).tail ∧ readDetails source after
      = if partText (xs.takeWhile (· != ',')) = "" then after.skipSpace.advance.fail .missingType
        else (readOptions next).map
          (·.foldl Mapping.assign ⟨source, some (partText (xs.takeWhile (· != ','))), []⟩) := by
  have hxs : after.skipSpace.advance.rest = xs := by rw [Cursor.rest_advance, h]; rfl
  obtain ⟨htake, hdrop⟩ := Text.span_dropWhile (q := (· != ',')) (bne_of_isSpace rfl) xs
  have hname : partText (after.skipSpace.advance.skipSpace.rest.takeWhile (· != ','))
      = partText (xs.takeWhile (· != ',')) := by
    rw [htake, partText_append_left List.all_takeWhile, Cursor.skipSpace, Cursor.skip, hxs]
  refine ⟨(after.skipSpace.advance.skipSpace.skip (· != ',')).advance, ?_, ?_⟩
  · rw [Cursor.rest_advance, ← hdrop, ← hxs]
    rfl
  · rw [readDetails, h]
    simp only [hname, String.isEmpty_iff, if_true]
    split
    · rfl
    · cases readOptions (after.skipSpace.advance.skipSpace.skip (· != ',')).advance <;> rfl

theorem readDetails_other {x : Char} (h : after.skipSpace.rest = x :: xs) (hcolon : x ≠ ':')
    (hcomma : x ≠ ',') :
    readDetails source after = after.skipSpace.fail .expectedColonOrComma := by
  rw [readDetails, h]
  simp only [if_neg hcolon, if_neg hcomma]

end

/-- A result that a function makes of another one. -/
theorem map_eq_ok_iff {α β : Type} {x : Except Error α} {f : α → β} {b : β} :
    x.map f = .ok b ↔ ∃ a, x = .ok a ∧ b = f a := by
  cases x with
  | error e => exact ⟨(nomatch ·), fun ⟨_, h, _⟩ => nomatch h⟩
  | ok a =>
    refine ⟨fun h => ⟨a, rfl, (Except.ok.inj h).symm⟩, ?_⟩
    rintro ⟨_, h, rfl⟩
    obtain rfl := Except.ok.inj h
    rfl

theorem readDetails_eq_ok_iff {source : Source} {after : Cursor} {m : Mapping} :
    readDetails source after = .ok m ↔ ∃ type assignments,
      Details inReadName after.rest type assignments
        ∧ m = assignments.foldl Mapping.assign ⟨source, type, []⟩ := by
  have hcs : after.rest.takeWhile isSpaceOrControl ++ after.skipSpace.rest = after.rest :=
    List.takeWhile_append_dropWhile
  constructor
  · intro h
    rw [← hcs]
    cases hrest : after.skipSpace.rest with
    | nil =>
      rw [readDetails_nil source hrest] at h
      obtain rfl := Except.ok.inj h
      exact ⟨none, [], .untyped List.all_takeWhile .none, rfl⟩
    | cons x xs =>
      by_cases hcolon : x = ':'
      · subst hcolon
        obtain ⟨next, hnext, hread⟩ := readDetails_colon source hrest
        rw [hread] at h
        split at h
        · cases h
        · next hnamed =>
          obtain ⟨assignments, hoptions, rfl⟩ := map_eq_ok_iff.mp h
          rw [readOptions_eq_ok_iff, hnext] at hoptions
          have htail : ∀ c ∈ (xs.dropWhile (· != ',')).head?, c = ',' := fun c hc => by
            simpa using Text.head?_dropWhile hc
          have htyped := Details.typed (List.all_takeWhile (l := after.rest))
            (List.all_takeWhile (l := xs)) hnamed ((tail_iff htail).mpr hoptions)
          rw [List.takeWhile_append_dropWhile] at htyped
          exact ⟨_, assignments, htyped, rfl⟩
      · by_cases hcomma : x = ','
        · subst hcomma
          obtain ⟨next, hnext, hread⟩ := readDetails_comma source hrest
          rw [hread] at h
          obtain ⟨assignments, hoptions, rfl⟩ := map_eq_ok_iff.mp h
          rw [readOptions_eq_ok_iff, hnext] at hoptions
          exact ⟨none, assignments, .untyped List.all_takeWhile (.options hoptions), rfl⟩
        · rw [readDetails_other source hrest hcolon hcomma] at h
          cases h
  · rintro ⟨type, assignments, hdetails, rfl⟩
    generalize hafter : after.rest = cs at hdetails
    cases hdetails with
    | @untyped space tail _ hspace htail =>
      have hskip : after.skipSpace.rest = tail.dropWhile isSpaceOrControl := by
        show after.rest.dropWhile isSpaceOrControl = _
        rw [hafter, List.dropWhile_append_of_pos (List.all_eq_true.mp hspace)]
      cases htail with
      | none => exact readDetails_nil source hskip
      | @options rest _ hoptions =>
        obtain ⟨next, hnext, hread⟩ := readDetails_comma source hskip
        rw [hread, readOptions_of_optionList hoptions hnext]
        rfl
    | @typed space name tail _ hspace hchars hnamed htail =>
      have hskip : after.skipSpace.rest = ':' :: (name ++ tail) := by
        show after.rest.dropWhile isSpaceOrControl = _
        rw [hafter]
        exact (Text.span_append_cons hspace rfl _).2
      obtain ⟨next, hnext, hread⟩ := readDetails_colon source hskip
      have hspan : (name ++ tail).takeWhile (· != ',') = name
          ∧ (name ++ tail).dropWhile (· != ',') = tail := by
        cases htail with
        | none =>
          rw [List.append_nil]
          exact Text.span_of_all hchars
        | @options rest _ _ => exact Text.span_append_cons hchars rfl rest
      have hhead : ∀ c ∈ tail.head?, c = ',' := by
        cases htail with
        | none => exact nofun
        | options _ => exact fun c hc => (Option.some.inj hc).symm
      rw [hspan.2] at hnext
      rw [hread, hspan.1, if_neg hnamed,
        readOptions_of_optionList ((tail_iff hhead).mp htail) hnext]
      rfl

-- ================================================================ source

theorem closing?_open (depth : Nat) (cs : List Char) :
    closing? depth ('(' :: cs)
      = (closing? (depth + 1) cs).map fun (inside, after) => ('(' :: inside, after) := rfl

theorem closing?_close (depth : Nat) (cs : List Char) :
    closing? (depth + 2) (')' :: cs)
      = (closing? (depth + 1) cs).map fun (inside, after) => (')' :: inside, after) := by
  rw [closing?, if_neg (by simp)]
  rfl

/-- Before the parenthesis that closes the outermost one, as many close as are
open inside of it. -/
theorem depth?_of_closing? {depth : Nat} {cs inside after : List Char}
    (h : closing? (depth + 1) cs = some (inside, after)) : Text.depth? depth inside = some 0 := by
  induction cs generalizing depth inside with
  | nil => cases h
  | cons c cs ih =>
    by_cases hopen : c = '('
    · subst hopen
      rw [closing?_open] at h
      obtain ⟨⟨rest, after'⟩, hfound, heq⟩ := Option.map_eq_some_iff.mp h
      obtain ⟨rfl, rfl⟩ := Prod.mk.inj heq
      rw [Text.depth?_open]
      exact ih hfound
    · by_cases hclose : c = ')'
      · subst hclose
        cases depth with
        | zero =>
          obtain ⟨rfl, -⟩ := Prod.mk.inj (Option.some.inj h)
          rfl
        | succ outer =>
          rw [closing?_close] at h
          obtain ⟨⟨rest, after'⟩, hfound, heq⟩ := Option.map_eq_some_iff.mp h
          obtain ⟨rfl, rfl⟩ := Prod.mk.inj heq
          rw [Text.depth?_close]
          exact ih hfound
      · rw [closing?_plain hopen hclose] at h
        obtain ⟨⟨rest, after'⟩, hfound, heq⟩ := Option.map_eq_some_iff.mp h
        obtain ⟨rfl, rfl⟩ := Prod.mk.inj heq
        rw [Text.depth?_other (by simp [Text.isParenthesis, hopen, hclose])]
        exact ih hfound

/-- Behind balanced characters the first parenthesis that closes is the one of
the outermost. -/
theorem closing?_append {depth : Nat} {inside : List Char} (h : Text.depth? depth inside = some 0)
    (after : List Char) : closing? (depth + 1) (inside ++ ')' :: after) = some (inside, after) := by
  fun_induction Text.depth? depth inside with
  | case1 depth =>
    obtain rfl := Option.some.inj h
    rfl
  | case2 depth cs ih => rw [List.cons_append, closing?_open, ih h, Option.map_some]
  | case3 => cases h
  | case4 cs outer _ ih => rw [List.cons_append, closing?_close, ih h, Option.map_some]
  | case5 depth c cs hopen hclose ih =>
    rw [List.cons_append, closing?_plain hopen hclose, ih h, Option.map_some]

/-- Space before a source is passed over. -/
theorem Sourced.append_left {taken space : List Char} {source : Source} (h : Sourced taken source)
    (hspace : space.all isSpaceOrControl = true) : Sourced (space ++ taken) source := by
  cases h with
  | property hchars hnamed hopen =>
    have hinside : (space ++ taken).all isInside = true := by
      rw [List.all_append, hchars, Bool.and_true]
      exact List.all_eq_true.mpr fun c hc =>
        isInside_of_isSpace c (List.all_eq_true.mp hspace c hc)
    rw [← partText_append_left hspace taken] at hnamed hopen ⊢
    exact .property hinside hnamed hopen
  | @expression before inside hbefore hbalanced hnamed =>
    rw [← List.append_assoc]
    refine .expression ?_ hbalanced hnamed
    rw [List.all_append, hspace, hbefore]
    rfl

/-- A source that was read is one of the grammar. -/
theorem sourced_of_readSource {start after : Cursor} {source : Source}
    (hhead : ∀ c ∈ start.rest.head?, isSpaceOrControl c = false)
    (h : readSource start = .ok (source, after)) :
    ∃ taken, start.rest = taken ++ after.rest ∧ Sourced taken source := by
  unfold readSource at h
  cases hrest : start.rest with
  | nil =>
    rw [hrest] at h
    cases h
  | cons c cs =>
    have hc : isSpaceOrControl c = false := hhead c (by rw [hrest]; rfl)
    rw [hrest] at h
    simp only [] at h
    split at h
    · next hopen =>
      split at h
      · cases h
      · next inside rest hclosing =>
        split at h
        · cases h
        · next hnamed =>
          obtain ⟨rfl, rfl⟩ := Prod.mk.inj (Except.ok.inj h)
          refine ⟨'(' :: (inside ++ [')']), ?_, ?_⟩
          · rw [hopen, eq_of_closing? hclosing, List.cons_append, List.append_assoc]
            rfl
          · exact @Sourced.expression [] _ rfl (depth?_of_closing? hclosing) fun hempty =>
              hnamed (String.isEmpty_iff.mpr hempty)
    · next hopen =>
      split at h
      · cases h
      · next hnamed =>
        obtain ⟨rfl, rfl⟩ := Prod.mk.inj (Except.ok.inj h)
        have hnamed : partText ((c :: cs).takeWhile isInside) ≠ "" := fun hempty =>
          hnamed (String.isEmpty_iff.mpr hempty)
        refine ⟨(c :: cs).takeWhile isInside, ?_, .property List.all_takeWhile hnamed ?_⟩
        · show _ = _ ++ start.rest.dropWhile isInside
          rw [hrest, List.takeWhile_append_dropWhile]
        · rw [List.takeWhile_cons] at hnamed ⊢
          split at hnamed
          · next hinside =>
            rw [if_pos hinside, toList_partText, Text.head?_trimBy_cons hc]
            exact fun heq => hopen (Option.some.inj heq)
          · exact absurd rfl hnamed

/-- What follows a source begins with space, and then with nothing that a path
may hold. -/
theorem Details.exists_append {inName : Char → Bool} {details : List Char} {type : Option String}
    {assignments : List Assignment} (h : Details inName details type assignments) :
    ∃ space rest, details = space ++ rest ∧ space.all isSpaceOrControl = true
      ∧ (∀ c ∈ rest.head?, isInside c = false) ∧ Details inName rest type assignments := by
  cases h with
  | @untyped space tail _ hspace htail =>
    refine ⟨space, tail, rfl, hspace, ?_, @Details.untyped _ [] _ _ rfl htail⟩
    cases htail with
    | none => exact nofun
    | options _ => exact fun c hc => Option.some.inj hc ▸ rfl
  | @typed space name tail _ hspace hchars hnamed htail =>
    exact ⟨space, ':' :: (name ++ tail), rfl, hspace, fun c hc => Option.some.inj hc ▸ rfl,
      @Details.typed _ [] _ _ _ rfl hchars hnamed htail⟩

/-- A source of the grammar is read, and so may be what follows it. -/
theorem readSource_of_sourced {taken details : List Char} {source : Source}
    {type : Option String} {assignments : List Assignment} (h : Sourced taken source)
    (hdetails : Details inReadName details type assignments) {start : Cursor}
    (hstart : start.rest = (taken ++ details).dropWhile isSpaceOrControl) :
    ∃ after, readSource start = .ok (source, after)
      ∧ Details inReadName after.rest type assignments := by
  cases h with
  | property hchars hnamed hopen =>
    obtain ⟨space, rest, rfl, hspace, hrest, hdetails⟩ := hdetails.exists_append
    have hpath : (taken ++ space).all isInside = true := by
      rw [List.all_append, hchars, List.all_eq_true.mpr fun c hc =>
        isInside_of_isSpace c (List.all_eq_true.mp hspace c hc)]
      rfl
    obtain ⟨htake, hdrop⟩ := Text.span_append hpath hrest
    obtain ⟨htake', hdrop'⟩ :=
      Text.span_dropWhile isInside_of_isSpace (taken ++ space ++ rest)
    rw [← List.append_assoc] at hstart
    rw [htake, ← hstart] at htake'
    rw [hdrop, ← hstart] at hdrop'
    -- The space before the path and behind it makes no difference to its text.
    have hsame : partText (start.rest.takeWhile isInside) = partText taken := by
      rw [← partText_append_left (List.all_takeWhile (l := taken ++ space ++ rest)), ← htake',
        partText_append_right hspace]
    have hhead : start.rest.head? = (partText taken).toList.head? := by
      cases hc : (trimBy isSpaceOrControl taken).head? with
      | none =>
        rw [List.head?_eq_none_iff, Text.trimBy_eq_nil_iff, ← partText_eq_empty_iff] at hc
        exact absurd hc hnamed
      | some c =>
        rw [toList_partText, hc, hstart, List.append_assoc]
        exact Text.head?_dropWhile_of_trimBy hc _
    cases hcs : start.rest with
    | nil =>
      rw [hcs] at hsame
      exact absurd hsame.symm hnamed
    | cons c cs =>
      have hc : c ≠ '(' := by
        rintro rfl
        rw [hcs] at hhead
        exact hopen hhead.symm
      refine ⟨start.skip isInside, ?_, ?_⟩
      · rw [readSource, hcs]
        simp only [if_neg hc]
        rw [hcs] at hsame
        rw [show (fun x => x != ',' && x != ':') = isInside from rfl, hsame,
          if_neg (isEmpty_partText hnamed)]
      · show Details _ (start.rest.dropWhile isInside) _ _
        rw [hdrop']
        exact hdetails
  | @expression space inside hspace hbalanced hnamed =>
    have hcs : start.rest = '(' :: (inside ++ ')' :: details) := by
      rw [hstart, List.append_assoc, List.cons_append, List.append_assoc]
      exact (Text.span_append_cons hspace rfl _).2
    refine ⟨⟨start.advance.offset + byteLength inside + 1, details⟩, ?_, hdetails⟩
    rw [readSource, hcs]
    simp only [if_true, closing?_append hbalanced, if_neg (isEmpty_partText hnamed)]

-- =============================================================== content

/-- The reader takes the contents of the grammar in which names may hold
commas. -/
theorem read_eq_ok_iff_derives {content : String} {m : Mapping} :
    Mapping.read content = .ok m ↔ Derives inReadName content m := by
  have hassign : ∀ {type : Option String} {assignments : List Assignment},
      m = assignments.foldl Mapping.assign ⟨m.source, type, []⟩
        ↔ m.jdbcType = (typesIn assignments).getLast?.or type
          ∧ m.options = optionsIn assignments := by
    intro type assignments
    rw [foldl_assign, List.nil_append]
    constructor
    · intro h
      exact ⟨congrArg Mapping.jdbcType h, congrArg Mapping.options h⟩
    · rintro ⟨htype, hoptions⟩
      rw [← htype, ← hoptions]
  constructor
  · intro h
    obtain ⟨after, hsource⟩ := readSource_of_read h
    have hdetails : readDetails m.source after = .ok m := by
      unfold Mapping.read at h
      rw [hsource] at h
      exact h
    obtain ⟨type, assignments, hwritten, hm⟩ := readDetails_eq_ok_iff.mp hdetails
    obtain ⟨taken, hrest, hsourced⟩ :=
      sourced_of_readSource (fun c hc => Text.head?_dropWhile hc) hsource
    refine ⟨_, after.rest, type, assignments, ?_,
      hsourced.append_left (List.all_takeWhile (l := content.toList)), hwritten, hassign.mp hm⟩
    rw [List.append_assoc, ← hrest]
    exact List.takeWhile_append_dropWhile.symm
  · rintro ⟨taken, details, type, assignments, hcontent, hsourced, hdetails, hm⟩
    have hstart : (Cursor.skipSpace ⟨0, content.toList⟩).rest
        = (taken ++ details).dropWhile isSpaceOrControl := by
      rw [← hcontent]
      rfl
    obtain ⟨after, hsource, hdetails⟩ := readSource_of_sourced hsourced hdetails hstart
    rw [Mapping.read, hsource]
    exact readDetails_eq_ok_iff.mpr ⟨type, assignments, hdetails, hassign.mpr hm⟩

-- ===================================================== names with commas

section

variable {cs name value : List Char} {type : Option String} {assignments : List Assignment}

theorem isOption_meant_iff :
    IsOption inMeantName name value
      ↔ IsOption inReadName name value ∧ ',' ∉ (partText name).toList := by
  have hchars : name.all inMeantName = true ↔ name.all inReadName = true ∧ ',' ∉ name := by
    simp only [List.all_eq_true, inMeantName, inReadName, Bool.and_eq_true, bne_iff_ne]
    exact ⟨fun h => ⟨fun c hc => (h c hc).1, fun hmem => (h _ hmem).2 rfl⟩,
      fun ⟨h, hcomma⟩ c hc => ⟨h c hc, fun heq => hcomma (heq ▸ hc)⟩⟩
  rw [mem_partText rfl]
  exact ⟨fun h => ⟨⟨(hchars.mp h.chars).1, h.named, h.value⟩, (hchars.mp h.chars).2⟩,
    fun ⟨h, hcomma⟩ => ⟨hchars.mpr ⟨h.chars, hcomma⟩, h.named, h.value⟩⟩

/-- No option that is listed has a comma in its name. -/
def PlainNames (assignments : List Assignment) : Prop :=
  ∀ a ∈ assignments, ',' ∉ a.name.toList

theorem optionList_meant_iff :
    OptionList inMeantName cs assignments
      ↔ OptionList inReadName cs assignments ∧ PlainNames assignments := by
  constructor
  · intro h
    induction h with
    | none hspace => exact ⟨.none hspace, nofun⟩
    | last hoption =>
      obtain ⟨hoption, hcomma⟩ := isOption_meant_iff.mp hoption
      exact ⟨.last hoption, List.forall_mem_singleton.mpr hcomma⟩
    | cons hoption _ ih =>
      obtain ⟨hoption, hcomma⟩ := isOption_meant_iff.mp hoption
      exact ⟨.cons hoption ih.1, List.forall_mem_cons.mpr ⟨hcomma, ih.2⟩⟩
  · rintro ⟨h, hplain⟩
    induction h with
    | none hspace => exact .none hspace
    | last hoption =>
      have hcomma := List.forall_mem_singleton.mp hplain
      exact .last (isOption_meant_iff.mpr ⟨hoption, hcomma⟩)
    | cons hoption _ ih =>
      obtain ⟨hcomma, hrest⟩ := List.forall_mem_cons.mp hplain
      exact .cons (isOption_meant_iff.mpr ⟨hoption, hcomma⟩) (ih hrest)

theorem tail_meant_iff :
    Tail inMeantName cs assignments ↔ Tail inReadName cs assignments ∧ PlainNames assignments := by
  constructor
  · rintro (_ | hoptions)
    · exact ⟨.none, nofun⟩
    · obtain ⟨hoptions, hplain⟩ := optionList_meant_iff.mp hoptions
      exact ⟨.options hoptions, hplain⟩
  · rintro ⟨_ | hoptions, hplain⟩
    · exact .none
    · exact .options (optionList_meant_iff.mpr ⟨hoptions, hplain⟩)

theorem details_meant_iff :
    Details inMeantName cs type assignments
      ↔ Details inReadName cs type assignments ∧ PlainNames assignments := by
  constructor
  · rintro (⟨hspace, htail⟩ | ⟨hspace, hchars, hnamed, htail⟩)
    · obtain ⟨htail, hplain⟩ := tail_meant_iff.mp htail
      exact ⟨.untyped hspace htail, hplain⟩
    · obtain ⟨htail, hplain⟩ := tail_meant_iff.mp htail
      exact ⟨.typed hspace hchars hnamed htail, hplain⟩
  · rintro ⟨⟨hspace, htail⟩ | ⟨hspace, hchars, hnamed, htail⟩, hplain⟩
    · exact .untyped hspace (tail_meant_iff.mpr ⟨htail, hplain⟩)
    · exact .typed hspace hchars hnamed (tail_meant_iff.mpr ⟨htail, hplain⟩)

/-- The name that gives the type has no comma. -/
theorem plainNames_iff :
    PlainNames assignments ↔ ∀ o ∈ optionsIn assignments, ',' ∉ o.1.toList := by
  constructor
  · intro h o ho
    obtain ⟨a, ha, rfl⟩ := List.mem_map.mp ho
    exact h a (List.mem_of_mem_filter ha)
  · intro h a ha
    by_cases hname : a.name = "jdbcType"
    · rw [hname]
      decide
    · exact h (a.name, a.value) (List.mem_map.mpr
        ⟨a, List.mem_filter.mpr ⟨ha, decide_eq_true hname⟩, rfl⟩)

end

/-- A content is written as it is meant if it is one of the reader's and no name
has a comma in it. -/
theorem derives_meant_iff {content : String} {m : Mapping} :
    Derives inMeantName content m
      ↔ Derives inReadName content m ∧ ∀ o ∈ m.options, ',' ∉ o.1.toList := by
  constructor
  · rintro ⟨source, details, type, assignments, hcontent, hsource, hdetails, htype, hoptions⟩
    obtain ⟨hdetails, hplain⟩ := details_meant_iff.mp hdetails
    refine ⟨⟨source, details, type, assignments, hcontent, hsource, hdetails, htype, hoptions⟩, ?_⟩
    rw [hoptions]
    exact plainNames_iff.mp hplain
  · rintro ⟨⟨source, details, type, assignments, hcontent, hsource, hdetails, htype, hoptions⟩,
      hplain⟩
    rw [hoptions, ← plainNames_iff] at hplain
    exact ⟨source, details, type, assignments, hcontent, hsource,
      details_meant_iff.mpr ⟨hdetails, hplain⟩, htype, hoptions⟩

/-- The reader takes the contents of the grammar in which names may hold commas,
and no others. Those that are written as they are meant are just those that it
takes without a comma in a name. -/
theorem read_options_listed (content : String) (m : Mapping) :
    (Mapping.read content = .ok m ↔ Derives inReadName content m)
      ∧ (Derives inMeantName content m
        ↔ Mapping.read content = .ok m ∧ ∀ o ∈ m.options, ',' ∉ o.1.toList) :=
  ⟨read_eq_ok_iff_derives, by rw [read_eq_ok_iff_derives]; exact derives_meant_iff⟩

/-- An option without a value is taken for the beginning of the next one's
name. -/
theorem read_takes_option_into_name :
    Mapping.read "id, mode, a=b" = .ok ⟨.property "id", none, [("mode, a", "b")]⟩
      ∧ ¬∃ m, Derives inMeantName "id, mode, a=b" m := by
  have hread : Mapping.read "id, mode, a=b" = .ok ⟨.property "id", none, [("mode, a", "b")]⟩ := by
    decide +kernel
  refine ⟨hread, fun ⟨m, hm⟩ => ?_⟩
  obtain ⟨hderives, hplain⟩ := derives_meant_iff.mp hm
  obtain rfl := Except.ok.inj ((read_eq_ok_iff_derives.mpr hderives).symm.trans hread)
  have hcomma := List.forall_mem_singleton.mp hplain
  exact hcomma (by decide)

end DynamicSql.Parameter
