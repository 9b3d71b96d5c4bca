/-
The places of names and values in a start tag.

An attribute is read at one place and looked for at another: reading goes on
where the attribute before it ended, and the search begins there too, but
the two know different things. Reading passes over space and takes what it
meets for the key; the search is given the key and takes the first place
where its characters occur.

# Why the search is exact

Between the place where it begins and the key there is space only, and a key
does not begin with space. So the key does not occur before the place where
it was read, neither in a value nor in a name before it. Behind the key the
search takes more characters for blanks than the reading does, but what
stands behind the space is the equals sign or a quote in both cases. It ends
behind the value, where the next attribute is read.
-/
import DynamicSql.Proofs.Text.Runs
import DynamicSql.Proofs.Text.Slice
import DynamicSql.Xml.Attribute

namespace DynamicSql.Xml

-- ==================================================== what is to be shown

/-- A name as it is written, its qualifier and the colon included. -/
def Name.written (n : Name) : String :=
  match n.qualifier with
  | none => n.localName
  | some qualifier => qualifier ++ ":" ++ n.localName

/-- The spans of an attribute cover its key and its quoted value, with an
equals sign between the two and space around it. -/
structure Attribute.Exact (source : String) (a : Attribute) : Prop where
  name : a.nameSpan.slice? source = some a.name.written
  sign : ∃ before after, before.all Markup.isSpace = true ∧ after.all Markup.isSpace = true
    ∧ Span.slice? ⟨a.nameSpan.stop, a.valueSpan.start⟩ source
      = some (String.ofList (before ++ '=' :: after))
  value : ∃ quote raw, (quote = '"' ∨ quote = '\'') ∧ quote ∉ raw
    ∧ a.valueSpan.slice? source = some (String.ofList (quote :: (raw ++ [quote])))
    ∧ unescape raw = .ok a.value

/-- The spans of an attribute, in the order in which they stand. -/
def Attribute.spans (a : Attribute) : List Span := [a.nameSpan, a.valueSpan]

/-- The name of a tag stands directly behind the `<` at the byte offset
`start`, and the attributes are where their spans say. -/
structure Tag.Exact (source : String) (start : Nat) (t : Tag) : Prop where
  name_start : t.nameSpan.start = start + 1
  name : t.nameSpan.slice? source = some t.name.written
  attributes : ∀ a ∈ t.attributes, a.Exact source

/-- The spans of a tag, in the order in which they stand. -/
def Tag.spans (t : Tag) : List Span := t.nameSpan :: t.attributes.flatMap Attribute.spans

/-- Splitting a name loses nothing of it. -/
theorem Name.written_ofChars (cs : List Char) : (ofChars cs).written = String.ofList cs := by
  have hcs : cs.takeWhile (· != ':') ++ cs.dropWhile (· != ':') = cs :=
    List.takeWhile_append_dropWhile
  unfold ofChars
  cases hrest : cs.dropWhile (· != ':') with
  | nil => rfl
  | cons c rest =>
    obtain rfl : c = ':' := by simpa using Text.eq_false_of_dropWhile hrest
    rw [hrest] at hcs
    calc (String.ofList (cs.takeWhile (· != ':')) ++ ":") ++ String.ofList rest
        = String.ofList (cs.takeWhile (· != ':') ++ ':' :: rest) := by
          rw [String.append_assoc, String.ofList_append, String.ofList_cons]; rfl
      _ = String.ofList cs := by rw [hcs]

namespace RawAttribute

-- ================================================================= places

namespace Place

variable {start middle after : Place} {as bs : List Char}

/-- Past the characters, one place leads to another. -/
structure Leads (start : Place) (cs : List Char) (after : Place) : Prop where
  rest : start.rest = cs ++ after.rest
  position : after.position = start.position + byteLength cs

theorem Leads.trans (h₁ : start.Leads as middle) (h₂ : middle.Leads bs after) :
    start.Leads (as ++ bs) after :=
  ⟨by rw [h₁.rest, h₂.rest, List.append_assoc],
    by rw [h₂.position, h₁.position, byteLength_append, Nat.add_assoc]⟩

theorem leads_skip (p : Char → Bool) (start : Place) :
    start.Leads (start.rest.takeWhile p) (start.skip p) :=
  ⟨List.takeWhile_append_dropWhile.symm, rfl⟩

theorem leads_advance {c : Char} {cs : List Char} (h : start.rest = c :: cs) :
    start.Leads [c] start.advance := by
  unfold advance
  rw [h]
  exact ⟨h, rfl⟩

theorem advance_rest {c : Char} {cs : List Char} (h : start.rest = c :: cs) :
    start.advance.rest = cs := by
  unfold advance
  rw [h]

/-- In a text that holds what is left at a place, the characters stand at
that place, and what is left behind them does so too. -/
theorem Leads.standsAt {text : List Char} {base : Nat} (h : start.Leads as after)
    (hs : StandsAt text (base + start.position) start.rest) :
    StandsAt text (base + start.position) as
      ∧ StandsAt text (base + after.position) after.rest := by
  rw [h.rest] at hs
  rw [h.position, ← Nat.add_assoc]
  exact ⟨hs.left, hs.right⟩

/-- The span from one place to the other covers the characters. -/
theorem Leads.slice? {source : String} {base : Nat} (h : start.Leads as after)
    (hs : StandsAt source.toList (base + start.position) start.rest) :
    Span.slice? ⟨base + start.position, base + after.position⟩ source
      = some (String.ofList as) := by
  rw [h.position, ← Nat.add_assoc]
  exact (h.standsAt hs).1.slice?

theorem Leads.le (base : Nat) (h : start.Leads as after) :
    base + start.position ≤ base + after.position := by
  rw [h.position]
  exact Nat.add_le_add_left (Nat.le_add_right _ _) base

/-- A wider class skips no more, if it does not hold of what comes next. -/
theorem skip_eq_skip {p q : Char → Bool} (hpq : ∀ c, p c = true → q c = true)
    (hnext : ∀ c cs, (start.skip p).rest = c :: cs → q c = false) :
    start.skip q = start.skip p := by
  have hlist : ∀ cs : List Char, (∀ c rest, cs.dropWhile p = c :: rest → q c = false) →
      cs.takeWhile q = cs.takeWhile p ∧ cs.dropWhile q = cs.dropWhile p := by
    intro cs
    induction cs with
    | nil => exact fun _ => ⟨rfl, rfl⟩
    | cons c cs ih =>
      intro h
      cases hp : p c with
      | true =>
        simp only [List.dropWhile_cons, List.takeWhile_cons, hp, hpq c hp, if_true] at h ⊢
        exact ⟨by rw [(ih h).1], (ih h).2⟩
      | false =>
        have hq : q c = false := h c cs (by rw [List.dropWhile_cons, hp]; rfl)
        simp only [List.dropWhile_cons, List.takeWhile_cons, hp, hq, Bool.false_eq_true,
          if_false, and_self]
  obtain ⟨htake, hdrop⟩ := hlist start.rest hnext
  rw [skip, skip, htake, hdrop]

end Place

-- ================================================================ reading

/-- Space is blank, and no sign of an attribute is. -/
theorem isBlank_of_isSpace {c : Char} (h : Markup.isSpace c = true) : Text.isBlank c = true := by
  simp only [Markup.isSpace, Bool.or_eq_true, beq_iff_eq] at h
  obtain ((rfl | rfl) | rfl) | rfl := h <;> rfl

theorem isBlank_quote {quote : Char} (h : quote = '"' ∨ quote = '\'') :
    Text.isBlank quote = false := by
  obtain rfl | rfl := h <;> rfl

/-- A value that is read stands behind space, in quotes that do not occur in
it, and the search passes over it as the reading does. -/
theorem readValue_eq_ok {key : List Char} {keyPosition : Nat} {start after : Place}
    {a : RawAttribute} (h : readValue key keyPosition start = .ok (a, after)) :
    a.key = key ∧ ∃ quote, (quote = '"' ∨ quote = '\'') ∧ quote ∉ a.value
      ∧ start.skipSpace.Leads (quote :: (a.value ++ [quote])) after
      ∧ start.skipSpace.skipValue = after := by
  simp only [readValue] at h
  split at h
  · cases h
  · next quote cs hopening =>
    have hcs := Place.advance_rest hopening
    split at h
    · next hquote =>
      split at h
      · cases h
      · next hclosing =>
        simp only [Except.ok.injEq, Prod.mk.injEq] at h
        obtain ⟨rfl, rfl⟩ := h
        refine ⟨rfl, quote, hquote, fun hmem => ?_, ?_, ?_⟩
        · have hother : (quote != quote) = true :=
            List.all_eq_true.mp (List.all_takeWhile (p := (· != quote))) quote hmem
          exact absurd rfl (bne_iff_ne.mp hother)
        · have hskip := Place.leads_skip (· != quote) start.skipSpace.advance
          rw [hcs] at hskip
          cases hend : (start.skipSpace.advance.skip (· != quote)).rest with
          | nil => rw [hend] at hclosing; exact absurd rfl hclosing
          | cons c rest =>
            obtain rfl : c = quote := by simpa using Text.eq_false_of_dropWhile hend
            exact (Place.leads_advance hopening).trans
              (hskip.trans (Place.leads_advance hend))
        · unfold Place.skipValue
          rw [hopening]
          simp only [hquote, if_true]
          rw [if_neg hclosing]
    · cases h

/-- An attribute that is read begins with its key; behind space and an equals
sign comes its value. -/
theorem read_eq_ok {seen : List RawAttribute} {start after : Place} {a : RawAttribute}
    {c : Char} {cs : List Char} (hrest : start.rest = c :: cs)
    (h : read seen start = .ok (a, after)) :
    (∃ key, a.key = c :: key) ∧ ∃ keyEnd, start.Leads a.key keyEnd
      ∧ keyEnd.skipSpace.rest.head? = some '='
      ∧ ∃ quote, (quote = '"' ∨ quote = '\'') ∧ quote ∉ a.value
        ∧ keyEnd.skipSpace.advance.skipSpace.Leads (quote :: (a.value ++ [quote])) after
        ∧ keyEnd.skipSpace.advance.skipSpace.skipValue = after := by
  simp only [read] at h
  split at h
  · next hsign =>
    split at h
    · cases h
    · obtain ⟨hkey, hvalue⟩ := readValue_eq_ok h
      rw [hrest] at hkey
      have hskip := Place.leads_skip isKeyChar start.advance
      rw [Place.advance_rest hrest] at hskip
      refine ⟨⟨_, hkey⟩, start.advance.skip isKeyChar, ?_, hsign, hvalue⟩
      exact hkey ▸ (Place.leads_advance hrest).trans hskip
  · cases h

-- ================================================================= search

/-- A mark is found behind characters that hold none like its first. -/
theorem splitAtMark?_append {c : Char} {mark before : List Char} (after : List Char)
    (h : c ∉ before) :
    Markup.splitAtMark? (c :: mark) (before ++ (c :: mark ++ after)) = some (before, after) := by
  induction before with
  | nil =>
    have hhere : (c :: mark).isPrefixOf (c :: (mark ++ after)) = true :=
      List.isPrefixOf_iff_prefix.mpr (List.prefix_append (c :: mark) after)
    rw [List.nil_append, List.cons_append, Markup.splitAtMark?, if_pos hhere, List.length_cons,
      List.drop_succ_cons, List.drop_left]
  | cons d before ih =>
    have hne : (c == d) = false := beq_eq_false_iff_ne.mpr fun hc => h (hc ▸ List.mem_cons_self)
    have hnot : ¬(c :: mark).isPrefixOf (d :: (before ++ (c :: mark ++ after))) = true := by
      rw [List.isPrefixOf_cons_cons, hne]
      exact Bool.false_ne_true
    rw [List.cons_append, Markup.splitAtMark?, if_neg hnot,
      ih fun hmem => h (List.mem_cons_of_mem d hmem)]
    rfl

/-- Where space is followed by something that is not blank, the search passes
over the space as the reading does. -/
theorem skip_isBlank {at_ : Place} {c : Char} {cs : List Char} (h : at_.skipSpace.rest = c :: cs)
    (hc : Text.isBlank c = false) : at_.skip Text.isBlank = at_.skipSpace :=
  Place.skip_eq_skip (fun _ => isBlank_of_isSpace) fun d ds hd => by
    rw [show (at_.skip Markup.isSpace).rest = c :: cs from h] at hd
    cases hd
    exact hc

/-- The search that begins where the reading begins finds the attribute where
it is read, and ends where the reading ends. -/
theorem locate_of_read {seen : List RawAttribute} {start after : Place} {a : RawAttribute}
    (base : Nat) (hne : start.skipSpace.rest ≠ [])
    (h : read seen start.skipSpace = .ok (a, after)) :
    ∃ keyEnd quote,
      start.skipSpace.Leads a.key keyEnd
        ∧ keyEnd.skipSpace.rest.head? = some '='
        ∧ (quote = '"' ∨ quote = '\'') ∧ quote ∉ a.value
        ∧ keyEnd.skipSpace.advance.skipSpace.Leads (quote :: (a.value ++ [quote])) after
        ∧ locate base a.key start
          = (⟨base + start.skipSpace.position, base + keyEnd.position⟩,
            ⟨base + keyEnd.skipSpace.advance.skipSpace.position, base + after.position⟩,
            after) := by
  obtain ⟨c, cs, hrest⟩ := List.exists_cons_of_ne_nil hne
  obtain ⟨⟨key, hc⟩, keyEnd, hkey, hsign, quote, hquote, hnot, hvalue, hskip⟩ := read_eq_ok hrest h
  refine ⟨keyEnd, quote, hkey, hsign, hquote, hnot, hvalue, ?_⟩
  -- The key begins with no space, so it does not occur before the space ends.
  have hspace : Markup.isSpace c = false := Text.eq_false_of_dropWhile hrest
  have hbefore : c ∉ start.rest.takeWhile Markup.isSpace := fun hmem => by
    rw [List.all_eq_true.mp List.all_takeWhile c hmem] at hspace
    cases hspace
  have hsplit : start.rest.takeWhile Markup.isSpace ++ (c :: key ++ keyEnd.rest) = start.rest := by
    rw [← hc, ← hkey.rest]
    exact List.takeWhile_append_dropWhile
  have hfound : Markup.splitAtMark? a.key start.rest
      = some (start.rest.takeWhile Markup.isSpace, keyEnd.rest) :=
    calc Markup.splitAtMark? a.key start.rest
        = Markup.splitAtMark? (c :: key)
            (start.rest.takeWhile Markup.isSpace ++ (c :: key ++ keyEnd.rest)) := by rw [hsplit, hc]
      _ = _ := splitAtMark?_append keyEnd.rest hbefore
  have hequals : (keyEnd.skip Text.isBlank).skipEquals = keyEnd.skipSpace.advance := by
    cases hs : keyEnd.skipSpace.rest with
    | nil => rw [hs] at hsign; cases hsign
    | cons d ds =>
      have hd : some d = some '=' := by rw [← hsign, hs]; rfl
      obtain rfl := Option.some.inj hd
      rw [skip_isBlank hs rfl, Place.skipEquals, if_pos hsign]
  have hopening : keyEnd.skipSpace.advance.skip Text.isBlank
      = keyEnd.skipSpace.advance.skipSpace :=
    skip_isBlank hvalue.rest (isBlank_quote hquote)
  have hstart : start.position + byteLength (start.rest.takeWhile Markup.isSpace)
      = start.skipSpace.position := rfl
  simp only [locate, hfound, hstart, hequals, hopening, hskip, ← hkey.position]

-- ============================================================ attributes

/-- An attribute that is read and looked for at one place has exact spans, and
both go on at one place behind it. -/
theorem resolve_exact {source : String} {base : Nat} {seen : List RawAttribute}
    {start after resume : Place} {a : RawAttribute} {first : Attribute}
    (hs : StandsAt source.toList (base + start.position) start.rest)
    (hne : start.skipSpace.rest ≠ []) (hread : read seen start.skipSpace = .ok (a, after))
    (h : a.resolve base start = .ok (first, resume)) :
    resume = after ∧ (∃ cs, start.Leads cs after) ∧ first.Exact source
      ∧ Span.Ordered (base + start.position) (base + after.position) first.spans := by
  obtain ⟨keyEnd, quote, hkey, hsign, hquote, hnot, hvalue, hlocate⟩ :=
    locate_of_read base hne hread
  unfold resolve at h
  split at h
  · cases h
  · next value hunescape =>
    simp only [hlocate, Except.ok.injEq, Prod.mk.injEq] at h
    obtain ⟨rfl, rfl⟩ := h
    -- From the key's end to the opening quote there are space and the sign.
    obtain ⟨cs, hequals⟩ : ∃ cs, keyEnd.skipSpace.rest = '=' :: cs :=
      List.head?_eq_some_iff.mp hsign
    have hbefore := Place.leads_skip Markup.isSpace keyEnd
    have hafter := Place.leads_skip Markup.isSpace keyEnd.skipSpace.advance
    have hbetween := hbefore.trans ((Place.leads_advance hequals).trans hafter)
    have hspace := Place.leads_skip Markup.isSpace start
    have hsName := (hspace.standsAt hs).2
    have hsBetween := (hkey.standsAt hsName).2
    have hsValue := (hbetween.standsAt hsBetween).2
    refine ⟨rfl, ⟨_, hspace.trans (hkey.trans (hbetween.trans hvalue))⟩, ⟨?_, ?_, ?_⟩, ?_⟩
    · rw [Name.written_ofChars]
      exact hkey.slice? hsName
    · exact ⟨_, _, List.all_takeWhile, List.all_takeWhile, hbetween.slice? hsBetween⟩
    · exact ⟨quote, a.value, hquote, hnot, hvalue.slice? hsValue, hunescape⟩
    · exact ⟨hspace.le base, hkey.le base, hbetween.le base, hvalue.le base, Nat.le_refl _⟩

/-- What the attributes that are left of a tag's content were read from. -/
theorem readAll_eq_ok {base : Nat} {seen : List RawAttribute} {search start : Place}
    {attributes : List Attribute} (h : readAll base seen search start = .ok attributes) :
    (start.skipSpace.rest = [] ∧ attributes = [])
      ∨ (start.skipSpace.rest ≠ [] ∧ ∃ a after first resume others,
        read seen start.skipSpace = .ok (a, after) ∧ a.resolve base search = .ok (first, resume)
          ∧ readAll base (seen ++ [a]) resume after = .ok others
          ∧ attributes = first :: others) := by
  rw [readAll] at h
  split at h
  · next hnil => exact .inl ⟨hnil, (Except.ok.inj h).symm⟩
  · next hne =>
    split at h
    · cases h
    · next a after hread =>
      cases hresolve : a.resolve base search with
      | error e => rw [hresolve] at h; cases h
      | ok found =>
        rw [hresolve] at h
        cases hothers : readAll base (seen ++ [a]) found.2 after with
        | error e =>
          simp only [hothers, bind, Except.bind] at h
          cases h
        | ok others =>
          simp only [hothers, bind, Except.bind, pure, Except.pure] at h
          exact .inr ⟨hne, a, after, found.1, found.2, others, hread, hresolve,
            hothers, (Except.ok.inj h).symm⟩

/-- Attributes have exact spans and stand one behind the other. -/
theorem readAll_exact {source : String} {base : Nat} {seen : List RawAttribute}
    {start : Place} {attributes : List Attribute}
    (hs : StandsAt source.toList (base + start.position) start.rest)
    (h : readAll base seen start start = .ok attributes) :
    (∀ a ∈ attributes, a.Exact source)
      ∧ Span.Ordered (base + start.position) (base + start.position + byteLength start.rest)
          (attributes.flatMap Attribute.spans) := by
  -- Each attribute leaves less; the search stays where the reading is.
  induction hn : start.rest.length using Nat.strongRecOn
    generalizing seen start attributes with
  | ind n ih =>
    obtain ⟨-, rfl⟩ | ⟨hne, a, after, first, resume, others, hread, hresolve, hothers, rfl⟩ :=
      readAll_eq_ok h
    · exact ⟨nofun, Nat.le_add_right _ _⟩
    · obtain ⟨rfl, ⟨cs, hleads⟩, hexact, hordered⟩ := resolve_exact hs hne hread hresolve
      have hless : resume.rest.length < n :=
        hn ▸ Nat.lt_of_lt_of_le (length_read hne hread) (start.length_skip Markup.isSpace)
      obtain ⟨hexacts, hordereds⟩ := ih _ hless (hleads.standsAt hs).2 hothers rfl
      refine ⟨fun b hb => ?_, ?_⟩
      · obtain rfl | hb := List.mem_cons.mp hb
        · exact hexact
        · exact hexacts b hb
      · have hlast : base + resume.position + byteLength resume.rest
            = base + start.position + byteLength start.rest := by
          rw [hleads.position, hleads.rest, byteLength_append]
          omega
        exact hordered.append (hlast ▸ hordereds)

end RawAttribute

-- ================================================================== tags

/-- The name in a tag's content ends before the first space or, if there is
none, before what is written behind the content. -/
theorem exists_nameEnd (content : List Char) {last : Char} (hlast : last = '/' ∨ last = '>') :
    ∃ c cs, (Markup.isSpace c = true ∨ c = '/' ∨ c = '>')
      ∧ content ++ [last] = content.takeWhile (fun d => !Markup.isSpace d) ++ c :: cs := by
  have hsplit : content.takeWhile (fun d => !Markup.isSpace d)
      ++ content.dropWhile (fun d => !Markup.isSpace d) = content :=
    List.takeWhile_append_dropWhile
  cases hrest : content.dropWhile (fun d => !Markup.isSpace d) with
  | nil =>
    rw [hrest, List.append_nil] at hsplit
    exact ⟨last, [], .inr hlast, by rw [hsplit]⟩
  | cons c cs =>
    refine ⟨c, cs ++ [last], .inl ?_, ?_⟩
    · simpa using Text.eq_false_of_dropWhile hrest
    · rw [← List.cons_append, ← List.append_assoc, ← hrest, hsplit]

/-- A tag that is read from what stands behind the `<` has exact spans. -/
theorem Tag.read_exact {source : String} {start : Nat} {content : List Char} {t : Tag}
    (hs : StandsAt source.toList (start + 1) content) (h : Tag.read (start + 1) content = .ok t) :
    t.name.written = String.ofList (content.takeWhile fun c => !Markup.isSpace c)
      ∧ t.Exact source start
      ∧ Span.Ordered start (start + 1 + byteLength content) t.spans := by
  have hcontent : content.takeWhile (fun c => !Markup.isSpace c)
      ++ content.dropWhile (fun c => !Markup.isSpace c) = content :=
    List.takeWhile_append_dropWhile
  cases hall : RawAttribute.readAll (start + 1) []
      ⟨byteLength (content.takeWhile fun c => !Markup.isSpace c),
        content.dropWhile fun c => !Markup.isSpace c⟩
      ⟨byteLength (content.takeWhile fun c => !Markup.isSpace c),
        content.dropWhile fun c => !Markup.isSpace c⟩ with
  | error e =>
    simp only [Tag.read, hall, bind, Except.bind] at h
    cases h
  | ok attributes =>
    simp only [Tag.read, hall, bind, Except.bind, pure, Except.pure, Except.ok.injEq] at h
    subst h
    rw [← hcontent] at hs
    obtain ⟨hexact, hordered⟩ := RawAttribute.readAll_exact hs.right hall
    have hwritten := Name.written_ofChars (content.takeWhile fun c => !Markup.isSpace c)
    refine ⟨hwritten, ⟨rfl, hwritten ▸ hs.left.slice?, hexact⟩, ?_⟩
    have hlength : byteLength content
        = byteLength (content.takeWhile fun c => !Markup.isSpace c)
          + byteLength (content.dropWhile fun c => !Markup.isSpace c) := by
      rw [← byteLength_append, hcontent]
    rw [hlength, ← Nat.add_assoc]
    exact ⟨Nat.le_succ _, Nat.le_add_right _ _, hordered⟩

end DynamicSql.Xml
