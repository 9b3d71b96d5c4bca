/-
The source of a parameter whose content was squeezed.

The reader cuts its parts at characters that are no blanks, so each part is
squeezed by itself; then it drops what it takes for space at both ends. That
is not what squeezing takes for a blank: the reader's space is every character
up to the space, and the blanks beyond it are part of a source. Where a source
begins and ends with no blank, the two do not meet and the source is squeezed
as it stands (`source_squeeze`). Where it does not, the source is no expression
and does not survive, and the squeezed content may have any other.
-/
import DynamicSql.Proofs.Expr.Squeezed
import DynamicSql.Proofs.Parameter.Source

namespace DynamicSql

open Text (isBlank isAsciiBlank isSpaceOrControl squeezeFrom squeeze squeezeFrom_cons
  squeezeFrom_false_blank squeezeFrom_true_blank trimBy)

namespace Parameter

/-- Text that neither begins nor ends with a blank. -/
structure Solid (cs : List Char) : Prop where
  head : ∀ c ∈ cs.head?, isBlank c = false
  last : ∀ c ∈ cs.getLast?, isBlank c = false

/-- Solid text keeps both its ends. -/
theorem Solid.ends_squeezeFrom {cs : List Char} (h : Solid cs) (blank : Bool) :
    (squeezeFrom blank cs).head? = cs.head?
      ∧ (squeezeFrom blank cs).getLast? = cs.getLast? := by
  rcases List.eq_nil_or_concat' cs with rfl | ⟨front, c, rfl⟩
  · exact ⟨rfl, rfl⟩
  · have hc : isBlank c = false := h.last c List.getLast?_concat
    constructor
    · rw [Text.squeezeFrom_eq_false h.head, Text.head?_squeezeFrom_false]
      cases hhead : (front ++ [c]).head? with
      | none => rfl
      | some d =>
        rw [Option.map_some, h.head d hhead]
        rfl
    · rw [Text.squeezeFrom_append hc, List.getLast?_concat, Text.squeezeFrom,
        List.getLast?_concat]

/-- It is squeezed by itself wherever it stands. -/
theorem Solid.squeeze_append {cs : List Char} (h : Solid cs) (hne : cs ≠ []) (blank : Bool)
    (before after : List Char) :
    squeezeFrom blank (before ++ (cs ++ after))
      = squeezeFrom blank before ++ (squeezeFrom false cs ++ squeezeFrom false after) := by
  have hhead : ∀ c ∈ (cs ++ after).head?, isBlank c = false := by
    rw [List.head?_append_of_ne_nil _ hne]
    exact h.head
  rw [Text.squeezeFrom_append_of_head hhead]
  rcases List.eq_nil_or_concat' cs with rfl | ⟨front, c, rfl⟩
  · exact absurd rfl hne
  · rw [Text.squeezeFrom_concat_append (h.last c List.getLast?_concat)]

/-- A part that is solid is squeezed as it stands. -/
theorem partText_squeezeFrom {cs : List Char} (h : Solid (trimBy isSpaceOrControl cs))
    (hne : trimBy isSpaceOrControl cs ≠ []) (blank : Bool) :
    partText (squeezeFrom blank cs) = squeeze (partText cs) := by
  obtain ⟨before, after, hcs, hbefore, hafter⟩ := Text.exists_of_trimBy isSpaceOrControl cs
  obtain ⟨hhead, hlast⟩ := h.ends_squeezeFrom false
  have hne' : squeezeFrom false (trimBy isSpaceOrControl cs) ≠ [] := fun hnil => by
    rw [hnil] at hhead
    exact hne (List.head?_eq_none_iff.mp hhead.symm)
  have hsqueezed : squeezeFrom blank cs = squeezeFrom blank before
      ++ (squeezeFrom false (trimBy isSpaceOrControl cs) ++ squeezeFrom false after) := by
    rw [← h.squeeze_append hne, ← hcs]
  have htrim : trimBy isSpaceOrControl (squeezeFrom blank cs)
      = squeezeFrom false (trimBy isSpaceOrControl cs) := by
    rw [hsqueezed]
    refine Text.trimBy_eq hne' (Text.all_squeezeFrom rfl hbefore) (Text.all_squeezeFrom rfl hafter)
      ?_ ?_
    · rw [hhead]
      exact fun c hc => Text.head?_trimBy hc
    · rw [hlast]
      exact fun c hc => Text.getLast?_trimBy hc
  rw [partText, htrim, squeeze, partText, String.toList_ofList]

/-- A character that is no parenthesis is passed over. -/
theorem closing?_plain {c : Char} (hopen : c ≠ '(') (hclose : c ≠ ')') (depth : Nat)
    (cs : List Char) :
    closing? depth (c :: cs)
      = (closing? depth cs).map fun (inside, after) => (c :: inside, after) := by
  rw [closing?, if_neg fun h => hclose h.1]
  simp only [if_neg hclose, if_neg hopen]

/-- A parenthesis that closes does so in the squeezed text. -/
theorem closing?_squeezeFrom (depth : Nat) (blank : Bool) (cs : List Char) :
    closing? depth (squeezeFrom blank cs)
      = (closing? depth cs).map fun (inside, after) =>
          (squeezeFrom blank inside, squeezeFrom false after) := by
  fun_induction closing? depth cs generalizing blank with
  | case1 => rfl
  | case2 depth c cs hc =>
    obtain ⟨rfl, hdepth⟩ := hc
    rw [squeezeFrom_cons rfl, closing?, if_pos ⟨rfl, hdepth⟩]
    rfl
  | case3 depth c cs hc inner ih =>
    cases hb : isBlank c with
    | false =>
      rw [squeezeFrom_cons hb, closing?, if_neg hc]
      simp only []
      rw [ih]
      cases closing? inner cs with
      | none => rfl
      | some found => simp only [Option.map_some, squeezeFrom_cons hb]
    | true =>
      have hclose : c ≠ ')' := Text.ne_of_isBlank hb rfl
      have hinner : inner = depth :=
        (if_neg hclose).trans (if_neg (Text.ne_of_isBlank hb rfl))
      rw [hinner] at ih ⊢
      cases blank with
      | false =>
        rw [squeezeFrom_false_blank hb, closing?_plain (by decide) (by decide), ih]
        cases closing? depth cs with
        | none => rfl
        | some found => simp only [Option.map_some, squeezeFrom_false_blank hb]
      | true =>
        rw [squeezeFrom_true_blank hb, ih]
        cases closing? depth cs with
        | none => rfl
        | some found => simp only [Option.map_some, squeezeFrom_true_blank hb]

/-- The space before a text that begins with no blank is passed over squeezed,
too. -/
theorem dropWhile_squeezeFrom_space {cs : List Char}
    (h : ∀ c ∈ (cs.dropWhile isSpaceOrControl).head?, isBlank c = false) :
    (squeezeFrom false cs).dropWhile isSpaceOrControl
      = squeezeFrom false (cs.dropWhile isSpaceOrControl) := by
  have hcs : cs.takeWhile isSpaceOrControl ++ cs.dropWhile isSpaceOrControl = cs :=
    List.takeWhile_append_dropWhile
  have hspace : ∀ c ∈ squeezeFrom false (cs.takeWhile isSpaceOrControl),
      isSpaceOrControl c = true :=
    List.all_eq_true.mp (Text.all_squeezeFrom rfl List.all_takeWhile)
  have hstop : ∀ c ∈ (squeezeFrom false (cs.dropWhile isSpaceOrControl)).head?,
      isSpaceOrControl c = false := by
    rw [Text.head?_squeezeFrom_false]
    intro c hc
    obtain ⟨d, hd, rfl⟩ := Option.map_eq_some_iff.mp hc
    rw [h d hd]
    exact Text.head?_dropWhile hd
  calc (squeezeFrom false cs).dropWhile isSpaceOrControl
      = (squeezeFrom false (cs.takeWhile isSpaceOrControl)
          ++ squeezeFrom false (cs.dropWhile isSpaceOrControl)).dropWhile isSpaceOrControl := by
        rw [← Text.squeezeFrom_append_of_head h, hcs]
    _ = squeezeFrom false (cs.dropWhile isSpaceOrControl) := by
        rw [List.dropWhile_append_of_pos hspace, Text.dropWhile_eq_self hstop]

/-- The characters of a property. -/
def isInside (c : Char) : Bool := c != ',' && c != ':'

theorem isInside_of_isBlank (c : Char) (h : isBlank c = true) : isInside c = true := by
  rw [isInside, bne_iff_ne.mpr (Text.ne_of_isBlank h rfl),
    bne_iff_ne.mpr (Text.ne_of_isBlank h rfl)]
  rfl

/-- What the source of a parameter was read from: a part that is not
empty. -/
theorem readSource_eq_ok {start after : Cursor} {source : Source}
    (h : readSource start = .ok (source, after)) :
    ∃ c cs, start.rest = c :: cs ∧ source.text ≠ ""
      ∧ ((c = '(' ∧ ∃ inside rest, closing? 1 cs = some (inside, rest)
          ∧ source = .expression (partText inside))
        ∨ c ≠ '(' ∧ source = .property (partText (start.rest.takeWhile isInside))) := by
  unfold readSource at h
  split at h
  · cases h
  · next c cs hrest =>
    refine ⟨c, cs, hrest, ?_⟩
    split at h
    · next hc =>
      split at h
      · cases h
      · next inside rest hclosing =>
        simp only [] at h
        split at h
        · cases h
        · next hempty =>
          obtain ⟨rfl, -⟩ := Prod.mk.inj (Except.ok.inj h)
          refine ⟨fun heq => hempty ?_, .inl ⟨hc, inside, rest, hclosing, rfl⟩⟩
          exact congrArg String.isEmpty heq
    · next hc =>
      simp only [] at h
      split at h
      · cases h
      · next hempty =>
        obtain ⟨rfl, -⟩ := Prod.mk.inj (Except.ok.inj h)
        refine ⟨fun heq => hempty ?_, .inr ⟨hc, rfl⟩⟩
        exact congrArg String.isEmpty heq

/-- The source of a mapping. -/
theorem readSource_of_read {content : String} {m : Mapping} (h : Mapping.read content = .ok m) :
    ∃ after, readSource (Cursor.skipSpace ⟨0, content.toList⟩) = .ok (m.source, after) := by
  unfold Mapping.read at h
  cases hs : readSource (Cursor.skipSpace ⟨0, content.toList⟩) with
  | error e =>
    rw [hs] at h
    cases h
  | ok found =>
    rw [hs] at h
    exact ⟨found.2, by rw [source_readDetails h]⟩

/-- If the source of a parameter is solid, that of the squeezed content is the
squeezed source. -/
theorem source_squeeze {content : String} {m m' : Mapping} (h : Mapping.read content = .ok m)
    (h' : Mapping.read (squeeze content) = .ok m') (hsolid : Solid m.source.text.toList) :
    m'.source.text = squeeze m.source.text := by
  obtain ⟨after, hread⟩ := readSource_of_read h
  obtain ⟨after', hread'⟩ := readSource_of_read h'
  obtain ⟨c, cs, hrest, hne, hsource⟩ := readSource_eq_ok hread
  obtain ⟨c', cs', hrest', -, hsource'⟩ := readSource_eq_ok hread'
  -- What follows the space begins with no blank.
  have hc : isBlank c = false := by
    obtain ⟨rfl, -⟩ | ⟨-, hproperty⟩ := hsource
    · rfl
    · have hspace : isSpaceOrControl c = false := Text.eq_false_of_dropWhile hrest
      rw [hproperty, hrest, List.takeWhile_cons] at hne hsolid
      split at hne
      · next hinside =>
        refine hsolid.head c ?_
        rw [if_pos hinside, Source.text, partText, String.toList_ofList]
        exact Text.head?_trimBy_cons hspace _
      · exact absurd rfl hne
  have hsame : (Cursor.skipSpace ⟨0, (squeeze content).toList⟩).rest
      = squeezeFrom false (Cursor.skipSpace ⟨0, content.toList⟩).rest := by
    show (squeeze content).toList.dropWhile isSpaceOrControl = _
    rw [squeeze, String.toList_ofList]
    refine dropWhile_squeezeFrom_space fun d hd => ?_
    rw [show content.toList.dropWhile isSpaceOrControl = c :: cs from hrest] at hd
    exact Option.some.inj hd ▸ hc
  rw [hsame, hrest, squeezeFrom_cons hc] at hrest'
  obtain ⟨rfl, rfl⟩ := List.cons.inj hrest'
  have hpart : ∀ {part : List Char}, m.source.text = partText part →
      partText (squeezeFrom false part) = squeeze (partText part) := by
    intro part hpart
    rw [hpart, partText, String.toList_ofList] at hsolid
    refine partText_squeezeFrom hsolid (fun hnil => hne ?_) false
    rw [hpart, partText, hnil]
  obtain ⟨hopen, inside, rest, hclosing, hm⟩ | ⟨hopen, hm⟩ := hsource
  · obtain ⟨-, inside', rest', hclosing', hm'⟩ | ⟨hopen', -⟩ := hsource'
    · rw [closing?_squeezeFrom, hclosing] at hclosing'
      obtain ⟨rfl, -⟩ := Prod.mk.inj (Option.some.inj hclosing')
      rw [hm, hm']
      exact hpart (by rw [hm]; rfl)
    · exact absurd hopen hopen'
  · obtain ⟨hopen', -⟩ | ⟨-, hm'⟩ := hsource'
    · exact absurd hopen' hopen
    · rw [hm, hm', hsame, Text.takeWhile_squeezeFrom_of_blank isInside_of_isBlank]
      exact hpart (by rw [hm]; rfl)

/-- The source of a parameter begins and ends with no space. -/
theorem exists_partText {content : String} {m : Mapping} (h : Mapping.read content = .ok m) :
    ∃ part, m.source.text = partText part := by
  obtain ⟨after, hread⟩ := readSource_of_read h
  obtain ⟨c, cs, -, -, ⟨-, inside, -, -, hm⟩ | ⟨-, hm⟩⟩ := readSource_eq_ok hread
  · exact ⟨inside, by rw [hm]; rfl⟩
  · exact ⟨_, by rw [hm]; rfl⟩

/-- So it is solid if the blanks at its ends are those of ASCII. -/
theorem solid_source {content : String} {m : Mapping} (h : Mapping.read content = .ok m)
    (hhead : ∀ c ∈ m.source.text.toList.head?, isBlank c = true → isAsciiBlank c = true)
    (hlast : ∀ c ∈ m.source.text.toList.getLast?, isBlank c = true → isAsciiBlank c = true) :
    Solid m.source.text.toList := by
  have hspace : ∀ c, isAsciiBlank c = true → isSpaceOrControl c = true := by
    intro c hc
    simp only [isAsciiBlank, Bool.or_eq_true, beq_iff_eq] at hc
    obtain (((rfl | rfl) | rfl) | rfl) | rfl := hc <;> rfl
  obtain ⟨part, hpart⟩ := exists_partText h
  rw [hpart, partText, String.toList_ofList] at hhead hlast ⊢
  constructor
  · intro c hc
    cases hb : isBlank c with
    | false => rfl
    | true =>
      have hnot := Text.head?_trimBy hc
      rw [hspace c (hhead c hc hb)] at hnot
      cases hnot
  · intro c hc
    cases hb : isBlank c with
    | false => rfl
    | true =>
      have hnot := Text.getLast?_trimBy hc
      rw [hspace c (hlast c hc hb)] at hnot
      cases hnot

/-- The source of a parameter has the same expression in the squeezed content
just if it survives or the other is none. -/
theorem sameReading_source_iff {content : String} {m m' : Mapping}
    (h : Mapping.read content = .ok m) (h' : Mapping.read (squeeze content) = .ok m') :
    Expr.SameReading m.source.text m'.source.text
      ↔ Token.survives none false m.source.text.toList = true
        ∨ (Expr.parse m'.source.text).toOption = none := by
  by_cases hsolid : Solid m.source.text.toList
  · rw [source_squeeze h h' hsolid]
    exact Expr.sameReading_squeeze_iff m.source.text
  · have hsurvives : ¬Token.survives none false m.source.text.toList = true := fun hs =>
      have hblanks := Token.isAsciiBlank_of_survives hs
      hsolid (solid_source h (fun c hc => hblanks c (List.mem_of_head? hc))
        fun c hc => hblanks c (List.mem_of_getLast? hc))
    have hnone : (Expr.parse m.source.text).toOption = none := by
      cases hlex : Token.lex m.source.text with
      | error e => exact Expr.parse_toOption_of_lex_error hlex
      | ok lexemes =>
        refine absurd (solid_source h (fun c hc hb => ?_)
          (Token.isAsciiBlank_getLast_of_lexFrom lexemes hlex)) hsolid
        obtain ⟨cs, hcs⟩ := List.head?_eq_some_iff.mp hc
        rw [Token.lex, hcs] at hlex
        exact Token.isAsciiBlank_head_of_lexFrom hlex hb
    rw [Expr.SameReading, hnone, or_iff_right hsurvives]
    exact eq_comm

end Parameter

end DynamicSql
