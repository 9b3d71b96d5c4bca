/-
Reading a parameter whose blanks are all what the reader takes for space.

Then what is trimmed off a part takes every blank at its ends along, and what
is passed over before a part ends where a run of blanks does. So the reader
takes the same steps on the squeezed content as on the content itself, each
part comes out squeezed, and a fault of the one is a fault of the other. Only
the offsets differ.
-/
import DynamicSql.Proofs.Parameter.Squeezed

namespace DynamicSql

open Text (isBlank isSpaceOrControl squeezeFrom trimBy)

namespace Parameter

/-- Each blank is what the reader takes for space. -/
def PlainBlanks (cs : List Char) : Prop := ∀ c ∈ cs, isBlank c = true → isSpaceOrControl c = true

theorem PlainBlanks.mono {cs ds : List Char} (h : PlainBlanks cs) (hsub : ds ⊆ cs) :
    PlainBlanks ds := fun c hc => h c (hsub hc)

theorem PlainBlanks.takeWhile {cs : List Char} (h : PlainBlanks cs) (p : Char → Bool) :
    PlainBlanks (cs.takeWhile p) :=
  h.mono (List.takeWhile_prefix p).subset

theorem PlainBlanks.dropWhile {cs : List Char} (h : PlainBlanks cs) (p : Char → Bool) :
    PlainBlanks (cs.dropWhile p) :=
  h.mono (List.dropWhile_suffix p).subset

/-- Those of ASCII are. -/
theorem plainBlanks_of_ascii {cs : List Char}
    (h : cs.all (fun c => decide (c.toNat < 128)) = true) : PlainBlanks cs := fun c hc hb =>
  Text.isSpaceOrControl_of_isBlank hb (of_decide_eq_true (List.all_eq_true.mp h c hc))

/-- What is no space is no blank then. -/
theorem PlainBlanks.isBlank {cs : List Char} (h : PlainBlanks cs) {c : Char} (hc : c ∈ cs)
    (hspace : isSpaceOrControl c = false) : isBlank c = false :=
  Bool.eq_false_iff.mpr fun hb => Bool.eq_false_iff.mp hspace (h c hc hb)

-- ================================================================= parts

/-- Trimmed text is solid. -/
theorem solid_trimBy {cs : List Char} (h : PlainBlanks cs) :
    Solid (trimBy isSpaceOrControl cs) := by
  obtain ⟨before, after, hcs, -, -⟩ := Text.exists_of_trimBy isSpaceOrControl cs
  have hplain : PlainBlanks (trimBy isSpaceOrControl cs) := h.mono fun c hc => by
    rw [hcs]
    exact List.mem_append_right _ (List.mem_append_left _ hc)
  exact ⟨fun c hc => hplain.isBlank (List.mem_of_head? hc) (Text.head?_trimBy hc),
    fun c hc => hplain.isBlank (List.mem_of_getLast? hc) (Text.getLast?_trimBy hc)⟩

/-- Every part is squeezed as it stands. -/
theorem partText_squeezeFrom_of_plain {cs : List Char} (h : PlainBlanks cs) (blank : Bool) :
    partText (squeezeFrom blank cs) = Text.squeeze (partText cs) := by
  by_cases hne : trimBy isSpaceOrControl cs = []
  · obtain ⟨before, after, hcs, hbefore, hafter⟩ := Text.exists_of_trimBy isSpaceOrControl cs
    have hall : cs.all isSpaceOrControl = true := by
      rw [hcs, hne, List.all_append, List.nil_append, hbefore, hafter]
      rfl
    rw [partText, partText, hne, Text.trimBy_of_all (Text.all_squeezeFrom rfl hall)]
    rfl
  · exact partText_squeezeFrom (solid_trimBy h) hne blank

/-- All characters but one are a class that blanks belong to, if that one is no
blank. -/
theorem bne_of_isBlank {d : Char} (hd : isBlank d = false) (x : Char) (hx : isBlank x = true) :
    (x != d) = true :=
  bne_iff_ne.mpr (Text.ne_of_isBlank hx hd)

/-- One cursor has left what the other has left, squeezed. -/
structure Cursor.Squeezed (c c' : Cursor) : Prop where
  rest : c'.rest = squeezeFrom false c.rest
  plain : PlainBlanks c.rest

namespace Cursor.Squeezed

variable {c c' : Cursor}

/-- The two pass over a class that blanks belong to. -/
theorem skip (h : Squeezed c c') {p : Char → Bool} (hp : ∀ x, isBlank x = true → p x = true) :
    Squeezed (c.skip p) (c'.skip p) where
  rest := by
    show c'.rest.dropWhile p = _
    rw [h.rest, Text.dropWhile_squeezeFrom_of_blank hp]
    rfl
  plain := h.plain.dropWhile p

/-- They pass over space. -/
theorem skipSpace (h : Squeezed c c') : Squeezed c.skipSpace c'.skipSpace where
  rest := by
    show c'.rest.dropWhile isSpaceOrControl = squeezeFrom false (c.rest.dropWhile _)
    rw [h.rest]
    exact dropWhile_squeezeFrom_space fun x hx =>
      (h.plain.dropWhile _).isBlank (List.mem_of_head? hx) (Text.head?_dropWhile hx)
  plain := h.plain.dropWhile _

/-- They pass over one character that is no blank. -/
theorem advance (h : Squeezed c c') (hhead : ∀ x ∈ c.rest.head?, isBlank x = false) :
    Squeezed c.advance c'.advance := by
  obtain ⟨offset, rest⟩ := c
  obtain ⟨offset', rest'⟩ := c'
  obtain ⟨rfl, hplain⟩ := h
  cases rest with
  | nil => exact ⟨rfl, hplain⟩
  | cons x xs =>
    refine ⟨?_, hplain.mono (List.subset_cons_self x xs)⟩
    rw [Text.squeezeFrom_cons (hhead x rfl)]
    rfl

/-- They read the same part up to what ends it, and pass over that. -/
theorem part (h : Squeezed c c') {p : Char → Bool} (hp : ∀ x, isBlank x = true → p x = true) :
    partText (c'.rest.takeWhile p) = Text.squeeze (partText (c.rest.takeWhile p)) := by
  rw [h.rest, Text.takeWhile_squeezeFrom_of_blank hp,
    partText_squeezeFrom_of_plain (h.plain.takeWhile p)]

theorem skip_advance (h : Squeezed c c') {p : Char → Bool}
    (hp : ∀ x, isBlank x = true → p x = true) :
    Squeezed (c.skip p).advance (c'.skip p).advance :=
  (h.skip hp).advance fun x hx => Bool.eq_false_iff.mpr fun hb =>
    Bool.eq_false_iff.mp (Text.head?_dropWhile hx) (hp x hb)

theorem rest_eq_nil_iff (h : Squeezed c c') : c'.rest = [] ↔ c.rest = [] := by
  rw [h.rest]
  refine ⟨Text.squeezeFrom_false_eq_nil, fun hnil => ?_⟩
  rw [hnil]
  rfl

end Cursor.Squeezed

-- =============================================================== options

def Source.squeeze : Source → Source
  | .property path => .property (Text.squeeze path)
  | .expression text => .expression (Text.squeeze text)

def Assignment.squeeze (a : Assignment) : Assignment := ⟨Text.squeeze a.name, Text.squeeze a.value⟩

/-- A mapping with each of its texts squeezed. -/
def Mapping.squeeze (m : Mapping) : Mapping :=
  ⟨m.source.squeeze, m.jdbcType.map Text.squeeze,
    m.options.map (Prod.map Text.squeeze Text.squeeze)⟩

/-- No other name is squeezed to that of the type. -/
theorem squeeze_eq_jdbcType {name : String} :
    Text.squeeze name = "jdbcType" ↔ name = "jdbcType" := by
  refine ⟨fun h => Text.eq_of_squeeze_eq h (by decide), ?_⟩
  rintro rfl
  rfl

theorem Mapping.assign_squeeze (m : Mapping) (a : Assignment) :
    m.squeeze.assign a.squeeze = (m.assign a).squeeze := by
  unfold Mapping.assign
  by_cases ha : a.name = "jdbcType"
  · have ha' : a.squeeze.name = "jdbcType" := squeeze_eq_jdbcType.mpr ha
    rw [if_pos ha, if_pos ha']
    rfl
  · have ha' : a.squeeze.name ≠ "jdbcType" := fun h => ha (squeeze_eq_jdbcType.mp h)
    rw [if_neg ha, if_neg ha']
    simp only [Mapping.squeeze, List.map_append, List.map_cons, List.map_nil]
    rfl

theorem Mapping.foldl_assign_squeeze (m : Mapping) (assignments : List Assignment) :
    (assignments.map Assignment.squeeze).foldl Mapping.assign m.squeeze
      = (assignments.foldl Mapping.assign m).squeeze := by
  induction assignments generalizing m with
  | nil => rfl
  | cons a rest ih =>
    rw [List.map_cons, List.foldl_cons, Mapping.assign_squeeze, ih]
    rfl

namespace Cursor

/-- The place of the equals sign of the option that follows. -/
def atEquals (c : Cursor) : Cursor := c.skipSpace.skip (· != '=')

/-- The name of the option that follows. -/
def optionName (c : Cursor) : String := partText (c.skipSpace.rest.takeWhile (· != '='))

/-- Its value. -/
def optionValue (c : Cursor) : String := partText (c.atEquals.advance.rest.takeWhile (· != ','))

/-- What is read after it. -/
def nextOption (c : Cursor) : Cursor := (c.atEquals.advance.skip (· != ',')).advance

end Cursor

theorem Cursor.length_nextOption {c : Cursor} (h : c.atEquals.rest ≠ []) :
    c.nextOption.rest.length < c.rest.length := by
  have hadvance : ∀ d : Cursor, d.advance.rest.length ≤ d.rest.length := by
    rintro ⟨offset, _ | ⟨x, xs⟩⟩
    · exact Nat.le_refl _
    · exact Nat.le_succ _
  calc c.nextOption.rest.length
      ≤ (c.atEquals.advance.skip (· != ',')).rest.length := hadvance _
    _ ≤ c.atEquals.advance.rest.length := length_skip _ _
    _ < c.atEquals.rest.length := length_advance h
    _ ≤ c.skipSpace.rest.length := length_skip _ _
    _ ≤ c.rest.length := length_skip _ _

/-- Options are read one at a time. -/
theorem readOptions_eq (c : Cursor) :
    readOptions c
      = if c.skipSpace.rest = [] then .ok []
        else if c.atEquals.rest = [] then c.skipSpace.fail .expectedEquals
        else if c.optionName.isEmpty then c.skipSpace.fail .missingOptionName
        else (readOptions c.nextOption).map (⟨c.optionName, c.optionValue⟩ :: ·) := by
  rw [readOptions]
  simp only [List.isEmpty_iff, dite_eq_ite]
  rfl

/-- Without the faults. -/
theorem readOptions_toOption (c : Cursor) :
    (readOptions c).toOption
      = if c.skipSpace.rest = [] then some []
        else if c.atEquals.rest = [] then none
        else if c.optionName.isEmpty then none
        else (readOptions c.nextOption).toOption.map (⟨c.optionName, c.optionValue⟩ :: ·) := by
  rw [readOptions_eq]
  split
  · rfl
  · split
    · rfl
    · split
      · rfl
      · cases readOptions c.nextOption <;> rfl

namespace Cursor.Squeezed

variable {c c' : Cursor}

theorem atEquals (h : Squeezed c c') : Squeezed c.atEquals c'.atEquals :=
  h.skipSpace.skip (bne_of_isBlank rfl)

theorem optionName (h : Squeezed c c') : c'.optionName = Text.squeeze c.optionName :=
  h.skipSpace.part (bne_of_isBlank rfl)

theorem optionValue (h : Squeezed c c') : c'.optionValue = Text.squeeze c.optionValue :=
  (h.skipSpace.skip_advance (bne_of_isBlank rfl)).part (bne_of_isBlank rfl)

theorem nextOption (h : Squeezed c c') : Squeezed c.nextOption c'.nextOption :=
  (h.skipSpace.skip_advance (bne_of_isBlank rfl)).skip_advance (bne_of_isBlank rfl)

end Cursor.Squeezed

/-- The options of a squeezed content are those of the content, squeezed. -/
theorem readOptions_squeezed {c c' : Cursor} (h : c.Squeezed c') :
    (readOptions c').toOption
      = (readOptions c).toOption.map (List.map Assignment.squeeze) := by
  rw [readOptions_toOption c, readOptions_toOption c', h.optionName, h.optionValue,
    Text.isEmpty_squeeze]
  simp only [h.skipSpace.rest_eq_nil_iff, h.atEquals.rest_eq_nil_iff]
  split
  · rfl
  · split
    · rfl
    · next hsign =>
      have hlength := Cursor.length_nextOption hsign
      split
      · rfl
      · rw [readOptions_squeezed h.nextOption, Option.map_map, Option.map_map]
        rfl
termination_by c.rest.length

-- =============================================================== content

/-- At a character that is no space the two have the same before them. -/
theorem Cursor.Squeezed.rest_cons {c c' : Cursor} (h : c.Squeezed c') {x : Char} {xs : List Char}
    (hrest : c.rest = x :: xs) (hspace : isSpaceOrControl x = false) :
    c'.rest = x :: squeezeFrom false xs := by
  have hx : isBlank x = false :=
    h.plain.isBlank (by rw [hrest]; exact List.mem_cons_self) hspace
  rw [h.rest, hrest, Text.squeezeFrom_cons hx]

theorem toOption_bind {α β : Type} (x : Except Error α) (f : α → Except Error β) :
    (x >>= f).toOption = x.toOption.bind fun a => (f a).toOption := by
  cases x <;> rfl

/-- A parenthesis that closes stands between what is inside and what follows. -/
theorem eq_of_closing? {depth : Nat} {cs inside after : List Char}
    (h : closing? depth cs = some (inside, after)) : cs = inside ++ ')' :: after := by
  induction cs generalizing depth inside with
  | nil => cases h
  | cons c cs ih =>
    rw [closing?] at h
    split at h
    · next hc =>
      obtain ⟨rfl, rfl⟩ := Prod.mk.inj (Option.some.inj h)
      rw [hc.1]
      rfl
    · obtain ⟨⟨inside', after'⟩, hfound, hsame⟩ := Option.map_eq_some_iff.mp h
      obtain ⟨rfl, rfl⟩ := Prod.mk.inj hsame
      rw [ih hfound]
      rfl

/-- What follows the source of a squeezed content is read as what follows
that of the content. -/
theorem readDetails_squeezed {c c' : Cursor} (h : c.Squeezed c') (source : Source) :
    (readDetails source.squeeze c').toOption
      = (readDetails source c).toOption.map Mapping.squeeze := by
  have hspace := h.skipSpace
  -- Behind a colon or comma both read options, and give them the same meaning.
  have hoptions : ∀ (jdbcType : Option String) {d d' : Cursor}, d.Squeezed d' →
      (readOptions d' >>= fun assignments => pure (assignments.foldl Mapping.assign
          ⟨source.squeeze, jdbcType.map Text.squeeze, []⟩)).toOption
        = (readOptions d >>= fun assignments => pure (assignments.foldl Mapping.assign
          ⟨source, jdbcType, []⟩)).toOption.map Mapping.squeeze := by
    intro jdbcType d d' hd
    rw [toOption_bind, toOption_bind, readOptions_squeezed hd]
    cases (readOptions d).toOption with
    | none => rfl
    | some assignments =>
      exact congrArg some (Mapping.foldl_assign_squeeze ⟨source, jdbcType, []⟩ assignments)
  unfold readDetails
  simp only []
  cases hrest : c.skipSpace.rest with
  | nil =>
    rw [hspace.rest_eq_nil_iff.mpr hrest]
    rfl
  | cons x xs =>
    have hx : isSpaceOrControl x = false := Text.eq_false_of_dropWhile hrest
    have hadvance : c.skipSpace.advance.Squeezed c'.skipSpace.advance :=
      hspace.advance fun y hy => by
        rw [hrest] at hy
        obtain rfl := Option.some.inj hy
        exact hspace.plain.isBlank (by rw [hrest]; exact List.mem_cons_self) hx
    rw [hspace.rest_cons hrest hx]
    simp only []
    split
    · have hleft := hadvance.skipSpace
      have hcomma : ∀ y, isBlank y = true → (y != ',') = true := bne_of_isBlank rfl
      rw [hleft.part hcomma, Text.isEmpty_squeeze]
      split
      · rfl
      · exact hoptions (some _) (hleft.skip_advance hcomma)
    · split
      · exact hoptions none hadvance
      · rfl

/-- The source of a squeezed content is that of the content, squeezed. -/
theorem readSource_squeezed {c c' : Cursor} (h : c.Squeezed c')
    (hhead : ∀ x ∈ c.rest.head?, isSpaceOrControl x = false) :
    (readSource c).toOption = none ∧ (readSource c').toOption = none
      ∨ ∃ source after after', readSource c = .ok (source, after)
        ∧ readSource c' = .ok (source.squeeze, after') ∧ after.Squeezed after' := by
  unfold readSource
  cases hrest : c.rest with
  | nil =>
    rw [h.rest_eq_nil_iff.mpr hrest]
    exact .inl ⟨rfl, rfl⟩
  | cons x xs =>
    have hplain : PlainBlanks xs := h.plain.mono (by rw [hrest]; exact List.subset_cons_self x xs)
    have hrest' := h.rest_cons hrest (hhead x (by rw [hrest]; rfl))
    have hinside := h.part isInside_of_isBlank
    rw [hrest, hrest'] at hinside
    rw [hrest']
    simp only []
    split
    · rw [closing?_squeezeFrom]
      cases hclosing : closing? 1 xs with
      | none => exact .inl ⟨rfl, rfl⟩
      | some found =>
        obtain ⟨inside, after⟩ := found
        rw [eq_of_closing? hclosing] at hplain
        have hpart := partText_squeezeFrom_of_plain
          (hplain.mono (List.subset_append_left _ _)) false
        have hafter : PlainBlanks after := hplain.mono fun c hc =>
          List.mem_append_right _ (List.mem_cons_of_mem _ hc)
        simp only [Option.map_some, hpart, Text.isEmpty_squeeze]
        split
        · exact .inl ⟨rfl, rfl⟩
        · exact .inr ⟨_, _, _, rfl, rfl, rfl, hafter⟩
    · simp only [show (fun y => y != ',' && y != ':') = isInside from rfl, hinside,
        Text.isEmpty_squeeze]
      split
      · exact .inl ⟨rfl, rfl⟩
      · exact .inr ⟨_, _, _, rfl, rfl, h.skip isInside_of_isBlank⟩

/-- Where each blank is plain, the squeezed content is read as the content is,
and gives the squeezed mapping. -/
theorem read_squeeze {content : String} (hplain : PlainBlanks content.toList) :
    (Mapping.read (Text.squeeze content)).toOption
      = (Mapping.read content).toOption.map Mapping.squeeze := by
  have hstart : Cursor.Squeezed ⟨0, content.toList⟩ ⟨0, (Text.squeeze content).toList⟩ :=
    ⟨String.toList_ofList, hplain⟩
  unfold Mapping.read
  obtain ⟨hnone, hnone'⟩ | ⟨source, after, after', hsource, hsource', hafter⟩ :=
    readSource_squeezed hstart.skipSpace fun x hx => Text.head?_dropWhile hx
  · rw [toOption_bind, toOption_bind, hnone]
    rw [show (readSource (Cursor.skipSpace ⟨0, (Text.squeeze content).toList⟩)).toOption = none
      from hnone']
    rfl
  · rw [hsource, hsource']
    exact readDetails_squeezed hafter source

end Parameter

end DynamicSql
