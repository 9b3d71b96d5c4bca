/-
A tag that is written is read again.

A tag is its name and then, each behind a space, its attributes with values in
double quotes. Names are of plain characters, none of which means anything to
the reader of tags, and values hold no quote and no bracket once they are
escaped. So an attribute's key ends before its equals sign and its value before
the quote behind it, and where one attribute ends the next one begins.
-/
import DynamicSql.Proofs.Xml.Escaping
import DynamicSql.Proofs.Xml.Spans

namespace DynamicSql.Xml

-- ================================================================= names

/-- A letter or digit of ASCII, or one of three signs. -/
def isNameChar (c : Char) : Bool := c.isAlphanum || c == '-' || c == '_' || c == '.'

/-- At least one such character, and no other. -/
def IsWord (s : String) : Prop := s ≠ "" ∧ ∀ c ∈ s.toList, isNameChar c = true

instance (s : String) : Decidable (IsWord s) :=
  decidable_of_iff (s ≠ "" ∧ s.toList.all isNameChar = true) (by rw [IsWord, List.all_eq_true])

/-- The parts of the name are words. -/
structure Name.Plain (n : Name) : Prop where
  localName : IsWord n.localName
  qualifier : ∀ q ∈ n.qualifier, IsWord q

/-- No character of a plain name means anything to a reader of tags, a colon
apart. -/
theorem ne_of_isNameChar {c d : Char} (hc : isNameChar c = true) (hd : isNameChar d = false) :
    c ≠ d := by
  rintro rfl
  rw [hc] at hd
  cases hd

namespace Name.Plain

variable {n : Name}

theorem written_ne_nil (h : n.Plain) : n.written.toList ≠ [] := by
  have hlocal : n.localName.toList ≠ [] := fun hnil =>
    h.localName.1 (String.toList_injective (by rw [hnil]; rfl))
  obtain ⟨qualifier, localName⟩ := n
  cases qualifier with
  | none => exact hlocal
  | some q => simp [written, String.toList_append]

theorem mem_written (h : n.Plain) {c : Char} (hc : c ∈ n.written.toList) :
    isNameChar c = true ∨ c = ':' := by
  obtain ⟨qualifier, localName⟩ := n
  cases qualifier with
  | none => exact .inl (h.localName.2 c hc)
  | some q =>
    simp only [written, String.toList_append, List.mem_append] at hc
    rcases hc with (hc | hc) | hc
    · exact .inl ((h.qualifier q rfl).2 c hc)
    · exact .inr (List.mem_singleton.mp hc)
    · exact .inl (h.localName.2 c hc)

/-- What is neither in words nor the colon is in no plain name. -/
theorem ne_of_mem_written (h : n.Plain) {c d : Char} (hc : c ∈ n.written.toList)
    (hd : isNameChar d = false) (hcolon : d ≠ ':') : c ≠ d := by
  rcases h.mem_written hc with hword | rfl
  · exact ne_of_isNameChar hword hd
  · exact hcolon.symm

theorem isSpace_of_mem_written (h : n.Plain) {c : Char} (hc : c ∈ n.written.toList) :
    Markup.isSpace c = false := by
  have htab := h.ne_of_mem_written hc (d := '\t') (by decide) (by decide)
  have hspace := h.ne_of_mem_written hc (d := ' ') (by decide) (by decide)
  have hreturn := h.ne_of_mem_written hc (d := '\r') (by decide) (by decide)
  have hfeed := h.ne_of_mem_written hc (d := '\n') (by decide) (by decide)
  simp [Markup.isSpace, htab, hspace, hreturn, hfeed]

/-- A plain name that was written is split where it was joined. -/
theorem ofChars_written (h : n.Plain) : Name.ofChars n.written.toList = n := by
  have hword : ∀ {s : String}, IsWord s → ∀ c ∈ s.toList, (c != ':') = true := by
    intro s hs c hc
    exact bne_iff_ne.mpr (ne_of_isNameChar (hs.2 c hc) (by decide))
  obtain ⟨qualifier, localName⟩ := n
  cases qualifier with
  | none =>
    have hdrop : localName.toList.dropWhile (· != ':') = [] := by
      rw [List.dropWhile_eq_nil_iff]
      exact hword h.localName
    simp [ofChars, written, hdrop]
  | some q =>
    have hchars : (Name.written ⟨some q, localName⟩).toList
        = q.toList ++ ':' :: localName.toList := by
      simp [written, String.toList_append]
    have hq := hword (h.qualifier q rfl)
    rw [hchars, ofChars, List.dropWhile_append_of_pos hq, List.takeWhile_append_of_pos hq]
    simp

theorem written_injective {m : Name} (hn : n.Plain) (hm : m.Plain)
    (h : n.written.toList = m.written.toList) : n = m := by
  rw [← hn.ofChars_written, h, hm.ofChars_written]

end Name.Plain

-- ================================================================== tags

/-- An attribute as it is written, behind a space. -/
def Attribute.written (a : Attribute) : List Char :=
  ' ' :: (a.name.written.toList ++ '=' :: '"' :: (escape true a.value.toList ++ ['"']))

/-- What is written of a tag between `<` and `>`. -/
def Tag.written (t : Tag) : List Char :=
  t.name.written.toList ++ t.attributes.flatMap Attribute.written

/-- The names of a tag are plain, and those of its attributes are different. -/
structure Tag.Plain (t : Tag) : Prop where
  name : t.name.Plain
  attributes : ∀ a ∈ t.attributes, a.name.Plain
  distinct : (t.attributes.map Attribute.name).Nodup

/-- An attribute without the places of its parts. -/
def Attribute.bare (a : Attribute) : Attribute := ⟨a.name, a.value, ⟨0, 0⟩, ⟨0, 0⟩⟩

/-- A tag without the places of its parts. -/
def Tag.bare (t : Tag) : Tag := ⟨t.name, ⟨0, 0⟩, t.attributes.map Attribute.bare⟩

namespace RawAttribute

/-- Skipping characters of a class up to one that is not. -/
theorem Place.rest_skip {p : Char → Bool} {start : Place} {before after : List Char} {c : Char}
    (hstart : start.rest = before ++ c :: after) (hbefore : ∀ d ∈ before, p d = true)
    (hc : p c = false) : (start.skip p).rest = c :: after := by
  show start.rest.dropWhile p = _
  rw [hstart, List.dropWhile_append_of_pos hbefore, List.dropWhile_cons_of_neg (by simp [hc])]

/-- An attribute that was written is read: its key, and its value as it stands
between the quotes. -/
theorem read_written {seen : List RawAttribute} {start : Place} {a : Attribute}
    {more : List Char} (h : a.name.Plain)
    (hstart : start.rest = a.name.written.toList
      ++ '=' :: '"' :: (escape true a.value.toList ++ '"' :: more))
    (hseen : positionOf? seen a.name.written.toList = none) :
    ∃ after, read seen start
        = .ok (⟨a.name.written.toList, start.position, escape true a.value.toList⟩, after)
      ∧ after.rest = more := by
  obtain ⟨c, key, hkey⟩ := List.exists_cons_of_ne_nil h.written_ne_nil
  have hword : ∀ d ∈ key, isKeyChar d = true := by
    intro d hd
    have hmem : d ∈ a.name.written.toList := hkey ▸ List.mem_cons_of_mem _ hd
    have hsign := h.ne_of_mem_written hmem (d := '=') (by decide) (by decide)
    simp [isKeyChar, h.isSpace_of_mem_written hmem, hsign]
  have hvalue : ∀ d ∈ escape true a.value.toList, (d != '"') = true := by
    intro d hd
    exact bne_iff_ne.mpr fun heq => quote_not_mem_escape a.value.toList (heq ▸ hd)
  rw [hkey] at hstart hseen ⊢
  rw [List.cons_append] at hstart
  have hadvance : start.advance.rest
      = key ++ '=' :: '"' :: (escape true a.value.toList ++ '"' :: more) :=
    Place.advance_rest hstart
  have hsign : (start.advance.skip isKeyChar).skipSpace.rest
      = '=' :: '"' :: (escape true a.value.toList ++ '"' :: more) := by
    have hend := Place.rest_skip hadvance hword (by decide)
    exact @Place.rest_skip _ _ [] _ _ hend (by simp) (by decide)
  have hopening : (start.advance.skip isKeyChar).skipSpace.advance.skipSpace.rest
      = '"' :: (escape true a.value.toList ++ '"' :: more) :=
    @Place.rest_skip _ _ [] _ _ (Place.advance_rest hsign) (by simp) (by decide)
  have hclosing := Place.rest_skip (Place.advance_rest hopening) hvalue (by decide)
  have htake : (key ++ '=' :: '"' :: (escape true a.value.toList ++ '"' :: more)).takeWhile
      isKeyChar = key := by
    rw [List.takeWhile_append_of_pos hword, List.takeWhile_cons_of_neg (by decide),
      List.append_nil]
  have hraw : (escape true a.value.toList ++ '"' :: more).takeWhile (· != '"')
      = escape true a.value.toList := by
    rw [List.takeWhile_append_of_pos hvalue, List.takeWhile_cons_of_neg (by decide),
      List.append_nil]
  refine ⟨_, ?_, Place.advance_rest hclosing⟩
  simp only [read, hstart, List.take_succ_cons, List.take_zero, List.drop_succ_cons,
    List.drop_zero, List.singleton_append, htake, hsign, List.head?_cons, if_true, hseen,
    readValue, hopening, hclosing, hraw]
  simp

theorem positionOf?_concat {seen : List RawAttribute} {a : RawAttribute} {key : List Char}
    (hseen : positionOf? seen key = none) (ha : a.key ≠ key) :
    positionOf? (seen ++ [a]) key = none := by
  simp only [positionOf?, Option.map_eq_none_iff, List.find?_eq_none, List.mem_append,
    List.mem_singleton] at hseen ⊢
  rintro b (hb | rfl)
  · exact hseen b hb
  · simpa using ha

/-- Attributes that were written are read in order. -/
theorem readAll_written {attributes : List Attribute} (base : Nat) (seen : List RawAttribute)
    (search start : Place) (h : ∀ a ∈ attributes, a.name.Plain)
    (hdistinct : (attributes.map Attribute.name).Nodup)
    (hseen : ∀ a ∈ attributes, positionOf? seen a.name.written.toList = none)
    (hstart : start.rest = attributes.flatMap Attribute.written) :
    ∃ found, readAll base seen search start = .ok found
      ∧ found.map Attribute.bare = attributes.map Attribute.bare := by
  induction attributes generalizing seen search start with
  | nil =>
    have hnil : start.skipSpace.rest = [] := by
      show start.rest.dropWhile Markup.isSpace = []
      rw [hstart]
      rfl
    exact ⟨[], by rw [readAll, dif_pos hnil], rfl⟩
  | cons a rest ih =>
    obtain ⟨hnew, hrest⟩ := List.nodup_cons.mp hdistinct
    have hplain : a.name.Plain := h a List.mem_cons_self
    obtain ⟨c, key, hkey⟩ := List.exists_cons_of_ne_nil hplain.written_ne_nil
    have hnext : start.skipSpace.rest = a.name.written.toList
        ++ '=' :: '"' :: (escape true a.value.toList
          ++ '"' :: rest.flatMap Attribute.written) := by
      have hc : Markup.isSpace c = false :=
        hplain.isSpace_of_mem_written (by rw [hkey]; exact List.mem_cons_self)
      have hwritten : start.rest = [' '] ++ c :: (key
          ++ '=' :: '"' :: (escape true a.value.toList
            ++ '"' :: rest.flatMap Attribute.written)) := by
        rw [hstart, List.flatMap_cons, Attribute.written, hkey]
        simp
      rw [hkey]
      exact Place.rest_skip hwritten (by simp [Markup.isSpace]) hc
    have hne : start.skipSpace.rest ≠ [] := by
      rw [hnext, hkey]
      simp
    obtain ⟨after, hread, hafter⟩ := read_written hplain hnext (hseen a List.mem_cons_self)
    have hkeys : ∀ b ∈ rest, positionOf?
        (seen ++ [⟨a.name.written.toList, start.skipSpace.position, escape true a.value.toList⟩])
        b.name.written.toList = none := by
      intro b hb
      refine positionOf?_concat (hseen b (List.mem_cons_of_mem _ hb)) fun heq => hnew ?_
      rw [hplain.written_injective (h b (List.mem_cons_of_mem _ hb)) heq]
      exact List.mem_map_of_mem hb
    obtain ⟨others, hothers, hbare⟩ := ih _ (locate base a.name.written.toList search).2.2 after
      (fun b hb => h b (List.mem_cons_of_mem _ hb)) hrest hkeys hafter
    refine ⟨⟨a.name, a.value, (locate base a.name.written.toList search).1,
      (locate base a.name.written.toList search).2.1⟩ :: others, ?_, congrArg (a.bare :: ·) hbare⟩
    rw [readAll, dif_neg hne]
    split
    · next herror => cases hread.symm.trans herror
    · next found place hfound =>
      obtain ⟨rfl, rfl⟩ := Prod.mk.inj (Except.ok.inj (hread.symm.trans hfound))
      simp only [resolve, unescape_escape, hplain.ofChars_written]
      show (readAll base _ (locate base a.name.written.toList search).2.2 after >>= _) = _
      rw [hothers]
      rfl

end RawAttribute

theorem Tag.takeWhile_written {t : Tag} (h : t.Plain) :
    t.written.takeWhile (fun c => !Markup.isSpace c) = t.name.written.toList
      ∧ t.written.dropWhile (fun c => !Markup.isSpace c)
        = t.attributes.flatMap Attribute.written := by
  have hname : ∀ c ∈ t.name.written.toList, (!Markup.isSpace c) = true := by
    intro c hc
    rw [h.name.isSpace_of_mem_written hc]
    rfl
  rw [written, List.takeWhile_append_of_pos hname, List.dropWhile_append_of_pos hname]
  cases t.attributes with
  | nil => simp
  | cons a rest =>
    have hspace : Markup.isSpace ' ' = true := by decide
    simp [Attribute.written, hspace]

/-- A tag that was written is read. -/
theorem Tag.read_written {t : Tag} (h : t.Plain) (base : Nat) :
    ∃ found, Tag.read base t.written = .ok found ∧ found.bare = t.bare := by
  obtain ⟨htake, hdrop⟩ := Tag.takeWhile_written h
  obtain ⟨attributes, hread, hbare⟩ := RawAttribute.readAll_written base []
    ⟨byteLength t.name.written.toList, t.attributes.flatMap Attribute.written⟩
    ⟨byteLength t.name.written.toList, t.attributes.flatMap Attribute.written⟩
    h.attributes h.distinct (fun _ _ => rfl) rfl
  refine ⟨⟨t.name, ⟨base, base + byteLength t.name.written.toList⟩, attributes⟩, ?_, ?_⟩
  · simp only [read, htake, hdrop, hread, h.name.ofChars_written]
    rfl
  · rw [bare, bare, hbare]

end DynamicSql.Xml
