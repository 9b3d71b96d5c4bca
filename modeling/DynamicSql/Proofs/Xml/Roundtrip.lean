/-
An element that is written as a document is read again.

What is written of an element is a start tag, what is written of its children,
and an end tag, or a single tag if there are no children and it is to be short.
Names must be plain and those of attributes different. Reading makes one text
of texts that follow each other, finds nothing where a text without characters
was written, and drops a blank one behind an element, so there may be none of
these (`Node.MayFollow`). All else comes back as it was, at any depth and
whatever characters the texts and values hold.

A tag ends where it is said to end, because no name and no value holds what
would end it before. A CDATA section ends at the first `]]>` that is written:
what it encloses holds none, and the brackets that it may end with make none
with the mark behind it (`Markup.splitAtMark?_cdata`).

# Whole pieces

What is written of a node is cut into pieces that end where it ends, whatever is
written behind it, and taking them puts the node where it belongs
(`Assembly.Reads`). Text is the one thing that must not be followed by anything
but a bracket. So nodes are read one behind the other, and the recursion is that
of the tree: what is inside an element is read with that element open.
-/
import DynamicSql.Proofs.Xml.Writing
import Mathlib.Data.List.Chain

namespace DynamicSql.Xml

-- ================================================================ cutting

namespace Markup

/-- A tag that holds the characters, outside of quotes, goes on behind them. -/
def Passed (cs : List Char) : Prop :=
  ∀ rest, tagEnd? none (cs ++ rest) = (tagEnd? none rest).map (Prod.map (cs ++ ·) id)

theorem passed_nil : Passed [] := by
  intro rest
  rw [List.nil_append]
  cases tagEnd? none rest <;> rfl

theorem Passed.append {cs ds : List Char} (h : Passed cs) (h' : Passed ds) : Passed (cs ++ ds) := by
  intro rest
  rw [List.append_assoc, h, h', Option.map_map]
  cases tagEnd? none rest with
  | none => rfl
  | some found => simp [Prod.map]

theorem passed_flatMap {α : Type} {as : List α} {write : α → List Char}
    (h : ∀ a ∈ as, Passed (write a)) : Passed (as.flatMap write) := by
  induction as with
  | nil => exact passed_nil
  | cons a as ih =>
    rw [List.flatMap_cons]
    exact (h a List.mem_cons_self).append (ih fun b hb => h b (List.mem_cons_of_mem _ hb))

/-- Characters that neither end a tag nor are quotes. -/
theorem passed_of_plain {cs : List Char} (h : ∀ c ∈ cs, c ≠ '>' ∧ c ≠ '"' ∧ c ≠ '\'') :
    Passed cs := by
  induction cs with
  | nil => exact passed_nil
  | cons c cs ih =>
    obtain ⟨hend, hdouble, hsingle⟩ := h c List.mem_cons_self
    intro rest
    rw [List.cons_append, tagEnd?, if_neg hend, if_neg (by simp [hdouble, hsingle]),
      ih (fun d hd => h d (List.mem_cons_of_mem _ hd)) rest, Option.map_map]
    rfl

/-- In quotes there is no end of a tag before the second quote. -/
theorem tagEnd?_quoted {cs : List Char} (h : '"' ∉ cs) (rest : List Char) :
    tagEnd? (some '"') (cs ++ '"' :: rest)
      = (tagEnd? none rest).map (Prod.map (cs ++ '"' :: ·) id) := by
  induction cs with
  | nil =>
    rw [List.nil_append, tagEnd?, if_pos rfl]
    rfl
  | cons c cs ih =>
    have hne : c ≠ '"' := fun heq => h (heq ▸ List.mem_cons_self)
    rw [List.cons_append, tagEnd?, if_neg hne, ih fun hmem => h (List.mem_cons_of_mem _ hmem),
      Option.map_map]
    rfl

theorem passed_quoted {cs : List Char} (h : '"' ∉ cs) : Passed ('"' :: (cs ++ ['"'])) := by
  intro rest
  have hopening : tagEnd? none ('"' :: (cs ++ '"' :: rest))
      = (tagEnd? (some '"') (cs ++ '"' :: rest)).map (Prod.map ('"' :: ·) id) := rfl
  rw [List.cons_append, List.append_assoc, List.singleton_append, hopening, tagEnd?_quoted h,
    Option.map_map]
  cases tagEnd? none rest with
  | none => rfl
  | some found => simp [Prod.map]

theorem passed_name {n : Name} (h : n.Plain) : Passed n.written.toList :=
  passed_of_plain fun _ hc => ⟨h.ne_of_mem_written hc (by decide) (by decide),
    h.ne_of_mem_written hc (by decide) (by decide), h.ne_of_mem_written hc (by decide) (by decide)⟩

theorem passed_attribute {a : Attribute} (h : a.name.Plain) : Passed a.written := by
  have hparts : a.written = [' '] ++ (a.name.written.toList
      ++ (['='] ++ '"' :: (escape true a.value.toList ++ ['"']))) := by
    simp [Attribute.written]
  rw [hparts]
  have hvalue := passed_quoted (quote_not_mem_escape a.value.toList)
  exact (passed_of_plain (by simp)).append
    ((passed_name h).append ((passed_of_plain (by simp)).append hvalue))

/-- A tag that was written has no end inside. -/
theorem passed_tag {t : Tag} (h : t.Plain) : Passed t.written :=
  (passed_name h.name).append (passed_flatMap fun a ha => passed_attribute (h.attributes a ha))

/-- What is written of a tag does not end with a slash. -/
theorem getLast?_tag {t : Tag} (h : t.Plain) : t.written.getLast? ≠ some '/' := by
  rcases List.eq_nil_or_concat t.attributes with hnil | ⟨init, a, hconcat⟩
  · rw [Tag.written, hnil, List.flatMap_nil, List.append_nil]
    intro hlast
    exact h.name.ne_of_mem_written (List.mem_of_mem_getLast? hlast) (by decide) (by decide) rfl
  · have hquote : t.written = t.name.written.toList ++ init.flatMap Attribute.written
        ++ ' ' :: (a.name.written.toList ++ '=' :: '"' :: escape true a.value.toList) ++ ['"'] := by
      rw [Tag.written, hconcat]
      simp [Attribute.written]
    rw [hquote, List.getLast?_concat]
    decide

/-- What is written of a tag begins with its name, and so is cut as a start tag. -/
theorem cut_tag {t : Tag} (h : t.Plain) (rest : List Char) :
    cut '<' (t.written ++ rest) = cutStartTag (t.written ++ rest) := by
  obtain ⟨c, cs, hname⟩ := List.exists_cons_of_ne_nil h.name.written_ne_nil
  have hc : c ∈ t.name.written.toList := hname ▸ List.mem_cons_self
  have hbang : c ≠ '!' := h.name.ne_of_mem_written hc (by decide) (by decide)
  have hquestion : c ≠ '?' := h.name.ne_of_mem_written hc (by decide) (by decide)
  have hslash : c ≠ '/' := h.name.ne_of_mem_written hc (by decide) (by decide)
  rw [Tag.written, hname, List.cons_append, List.cons_append, cut, if_pos rfl, cutTag,
    if_neg hbang, if_neg hquestion, if_neg hslash]

theorem cut_startTag {t : Tag} (h : t.Plain) (rest : List Char) :
    cut '<' (t.written ++ '>' :: rest) = .ok (.startTag t.written false, rest) := by
  have hend : tagEnd? none (t.written ++ '>' :: rest) = some (t.written, rest) := by
    rw [passed_tag h, tagEnd?, if_pos rfl]
    simp
  rw [cut_tag h, cutStartTag, hend]
  simp only [getLast?_tag h, if_false]

/-- A tag that is short is the element as a whole. -/
theorem cut_shortTag {t : Tag} (h : t.Plain) (rest : List Char) :
    cut '<' (t.written ++ '/' :: '>' :: rest) = .ok (.startTag t.written true, rest) := by
  have hend : tagEnd? none (t.written ++ '/' :: '>' :: rest)
      = some (t.written ++ ['/'], rest) := by
    rw [passed_tag h]
    rfl
  rw [cut_tag h, cutStartTag, hend]
  simp

theorem cut_endTag {n : Name} (h : n.Plain) (rest : List Char) :
    cut '<' ('/' :: (n.written.toList ++ '>' :: rest)) = .ok (.endTag n.written.toList, rest) := by
  have hend : tagEnd? none (n.written.toList ++ '>' :: rest) = some (n.written.toList, rest) := by
    rw [passed_name h, tagEnd?, if_pos rfl]
    simp
  rw [cut, if_pos rfl, cutTag, if_neg (by decide), if_neg (by decide), if_pos rfl, cutEndTag, hend]

/-- Text goes on up to a bracket. -/
theorem cut_text {c : Char} {cs rest : List Char} (h : '<' ∉ c :: cs)
    (hrest : rest.head? = some '<') : cut c (cs ++ rest) = .ok (.text (c :: cs), rest) := by
  obtain ⟨more, rfl⟩ := List.head?_eq_some_iff.mp hrest
  have hc : c ≠ '<' := fun heq => h (heq ▸ List.mem_cons_self)
  have hcs : ∀ d ∈ cs, (d != '<') = true := fun d hd =>
    bne_iff_ne.mpr fun heq => h (List.mem_cons_of_mem _ (heq ▸ hd))
  rw [cut, if_neg hc, List.takeWhile_append_of_pos hcs, List.dropWhile_append_of_pos hcs]
  simp

/-- Where characters hold no `]]>`, the first one is that behind them, whichever
brackets they end with. -/
theorem splitAtMark?_cdata {content : List Char} (h : ¬"]]>".toList <:+: content)
    (rest : List Char) :
    splitAtMark? "]]>".toList (content ++ ("]]>".toList ++ rest)) = some (content, rest) := by
  induction content with
  | nil => rfl
  | cons c content ih =>
    have hnot : ¬"]]>".toList.isPrefixOf (c :: content ++ ("]]>".toList ++ rest)) = true := by
      intro hbegins
      rcases content with - | ⟨d, - | ⟨e, more⟩⟩
      -- One or two characters and the mark behind them do not begin with it.
      · simp at hbegins
      · simp at hbegins
      · have hmark : "]]>".toList <+: c :: d :: e :: more :=
          List.prefix_of_prefix_length_le (List.isPrefixOf_iff_prefix.mp hbegins)
            (List.prefix_append _ _) (by simp)
        exact h hmark.isInfix
    have hinside : ¬"]]>".toList <:+: content := fun hmark =>
      h (hmark.trans (List.suffix_cons c content).isInfix)
    rw [List.cons_append] at hnot ⊢
    rw [splitAtMark?, if_neg hnot, ih hinside]
    rfl

/-- What begins with a character stands behind characters that are others. -/
theorem infix_of_infix_append {c : Char} {mark before after : List Char} (hc : c ∉ before)
    (h : c :: mark <:+: before ++ after) : c :: mark <:+: after := by
  induction before with
  | nil => exact h
  | cons d before ih =>
    rcases List.infix_cons_iff.mp h with ⟨rest, hrest⟩ | hinside
    · exact absurd ((List.cons.inj hrest).1 ▸ List.mem_cons_self) hc
    · exact ih (fun hmem => hc (List.mem_cons_of_mem _ hmem)) hinside

theorem cut_cdata {content : List Char} (h : ¬"]]>".toList <:+: content) (rest : List Char) :
    cut '<' ('!' :: '[' :: ("CDATA[".toList ++ (content ++ ("]]>".toList ++ rest))))
      = .ok (.cdata content, rest) := by
  have hwhole : splitAtMark? "]]>".toList ("CDATA[".toList ++ content ++ ("]]>".toList ++ rest))
      = some ("CDATA[".toList ++ content, rest) :=
    splitAtMark?_cdata (fun hmark => h (infix_of_infix_append (by decide) hmark)) rest
  rw [List.append_assoc] at hwhole
  have hbegins : "CDATA[".toList.isPrefixOf ("CDATA[".toList ++ content) = true :=
    List.isPrefixOf_iff_prefix.mpr (List.prefix_append _ _)
  rw [cut, if_pos rfl, cutTag, if_pos rfl, cutDeclaration, if_pos rfl, cutCData, hwhole]
  simp only [hbegins, if_true]
  rfl

end Markup

-- ================================================================= trees

mutual

/-- An element as it is written. One without children is written short if it is
to be. -/
def Element.written (short : Element → Bool) : Element → List Char
  | ⟨tag, children, span⟩ =>
    if children.isEmpty && short ⟨tag, children, span⟩ then '<' :: (tag.written ++ ['/', '>'])
    else
      '<' :: (tag.written ++ '>' :: (Node.allWritten short children
        ++ '<' :: '/' :: (tag.name.written.toList ++ ['>'])))

/-- A node as it is written: text escaped, CDATA as it is. -/
def Node.written (short : Element → Bool) : Node → List Char
  | .element e => e.written short
  | .text content _ => escape false content.toList
  | .cdata content _ => '<' :: '!' :: '[' :: ("CDATA[".toList ++ (content.toList ++ "]]>".toList))

/-- Nodes one behind the other. -/
def Node.allWritten (short : Element → Bool) : List Node → List Char
  | [] => []
  | n :: rest => n.written short ++ Node.allWritten short rest

end

mutual

/-- An element without the places of its parts, at all depths. -/
def Element.bare : Element → Element
  | ⟨tag, children, _⟩ => ⟨tag.bare, Node.allBare children, ⟨0, 0⟩⟩

def Node.bare : Node → Node
  | .element e => .element e.bare
  | .text content _ => .text content ⟨0, 0⟩
  | .cdata content _ => .cdata content ⟨0, 0⟩

def Node.allBare : List Node → List Node
  | [] => []
  | n :: rest => n.bare :: Node.allBare rest

end

/-- The two may stand next to each other: not two texts, nor blank text behind
an element. -/
def Node.MayFollow : Node → Node → Prop
  | .text _ _, .text _ _ => False
  | .element _, .text content _ => Text.allBlank content = false
  | _, _ => True

/-- The places of a node have no part in this. -/
theorem Node.MayFollow.of_bare {n m found : Node} (h : n.MayFollow m)
    (hbare : found.bare = n.bare) : found.MayFollow m := by
  cases n <;> cases found
  case element.element => cases m <;> exact h
  case text.text => cases m <;> exact h
  case cdata.cdata => cases m <;> trivial
  all_goals cases hbare

/-- The node can be written, if what it holds can be. -/
def Node.Writable : Node → Prop
  | .element e => e.tag.Plain ∧ e.children.IsChain Node.MayFollow
  | .text content _ => content ≠ ""
  | .cdata content _ => ¬"]]>".toList <:+: content.toList

/-- So can all that it holds. -/
def Node.AllWritable (n : Node) : Prop := ∀ m, n.Holds m → m.Writable

theorem Node.AllWritable.element {e : Element} (he : (Node.element e).Writable)
    (hchildren : ∀ n ∈ e.children, n.AllWritable) : (Node.element e).AllWritable := by
  intro m hm
  cases hm with
  | self => exact he
  | child hn hm => exact hchildren _ hn m hm

theorem Node.AllWritable.leaf {n : Node} (hn : n.element? = none) (h : n.Writable) :
    n.AllWritable := by
  intro m hm
  cases hm with
  | self => exact h
  | child => cases hn

theorem Node.AllWritable.child {e : Element} {n : Node} (h : (Node.element e).AllWritable)
    (hn : n ∈ e.children) : n.AllWritable := fun m hm => h m (.child hn hm)

-- =============================================================== reading

namespace Assembly

theorem run_append (a : Assembly) (before after : List Piece) :
    a.run (before ++ after) = (a.run before >>= fun b => b.run after) := by
  induction before generalizing a with
  | nil => rfl
  | cons piece rest ih =>
    rw [List.cons_append, run, run, bind_assoc]
    simp only [ih]

/-- The characters are cut into whole pieces, which are taken and lead from one
assembly to the other. -/
def Reads (offset : Nat) (cs rest : List Char) (a b : Assembly) : Prop :=
  ∃ pieces, Piece.ofChars offset (cs ++ rest)
      = (pieces ++ (Piece.ofChars (offset + byteLength cs) rest).1,
        (Piece.ofChars (offset + byteLength cs) rest).2)
    ∧ a.run pieces = .ok b

variable {offset : Nat} {cs ds rest : List Char} {a b c : Assembly}

theorem reads_nil : Reads offset [] rest a a := ⟨[], rfl, rfl⟩

theorem Reads.append (h : Reads offset cs (ds ++ rest) a b)
    (h' : Reads (offset + byteLength cs) ds rest b c) : Reads offset (cs ++ ds) rest a c := by
  obtain ⟨first, hfirst, hrun⟩ := h
  obtain ⟨second, hsecond, hrun'⟩ := h'
  refine ⟨first ++ second, ?_, by rw [run_append, hrun]; exact hrun'⟩
  rw [List.append_assoc, hfirst, hsecond, byteLength_append, Nat.add_assoc, List.append_assoc]

/-- One piece. -/
theorem reads_of_cut {d : Char} {m : Markup} (hcut : Markup.cut d (ds ++ rest) = .ok (m, rest))
    (hwritten : m.written = d :: ds) (hstep : a.step ⟨offset, m⟩ = .ok b) :
    Reads offset (d :: ds) rest a b := by
  refine ⟨[⟨offset, m⟩], ?_, by rw [run, hstep]; rfl⟩
  rw [List.cons_append, Piece.ofChars_of_cut hcut, hwritten]
  rfl

/-- A start tag opens an element. -/
theorem reads_startTag {t : Tag} (h : t.Plain) (offset : Nat) (rest : List Char) (a : Assembly) :
    ∃ found, found.bare = t.bare
      ∧ Reads offset ('<' :: (t.written ++ ['>'])) rest a
        ⟨⟨t.name.written.toList, found, offset, []⟩ :: a.stack, a.root⟩ := by
  obtain ⟨found, hread, hbare⟩ := Tag.read_written h (offset + 1)
  refine ⟨found, hbare, reads_of_cut (m := .startTag t.written false) ?_ rfl ?_⟩
  · rw [List.append_assoc]
    exact Markup.cut_startTag h rest
  · simp only [step, hread, (Tag.takeWhile_written h).1]
    rfl

/-- A short tag is an element. -/
theorem reads_shortTag {t : Tag} (h : t.Plain) (offset : Nat) (rest : List Char) (a : Assembly) :
    ∃ found span, found.bare = t.bare ∧ ∀ b, a.addElement ⟨found, [], span⟩ = .ok b →
      Reads offset ('<' :: (t.written ++ ['/', '>'])) rest a b := by
  obtain ⟨found, hread, hbare⟩ := Tag.read_written h (offset + 1)
  refine ⟨found, (⟨offset, .startTag t.written true⟩ : Piece).span, hbare, fun b hb =>
    reads_of_cut (m := .startTag t.written true) ?_ rfl ?_⟩
  · rw [List.append_assoc]
    exact Markup.cut_shortTag h rest
  · simp only [step, hread]
    exact hb

theorem endName_written {n : Name} (h : n.Plain) : endName n.written.toList = n.written.toList := by
  obtain ⟨c, cs, hname⟩ := List.exists_cons_of_ne_nil h.written_ne_nil
  have hspace : ∀ d ∈ n.written.toList, Markup.isSpace d = false := fun d hd =>
    h.isSpace_of_mem_written hd
  have hnot : ¬n.written.toList.all Markup.isSpace = true := by
    rw [hname, List.all_cons, hspace c (hname ▸ List.mem_cons_self)]
    exact Bool.false_ne_true
  rw [endName, if_neg hnot, Text.dropWhile_eq_self fun d hd => ?_, List.reverse_reverse]
  exact hspace d (List.mem_reverse.mp (List.mem_of_mem_head? hd))

/-- An end tag closes the element of its name. -/
theorem reads_endTag {top : OpenElement} {outer : List OpenElement} {n : Name} (h : n.Plain)
    (hname : top.writtenName = n.written.toList) (offset : Nat) (rest : List Char)
    (root : Option Element) :
    ∃ span, ∀ b, addElement ⟨outer, root⟩ ⟨top.tag, top.children.reverse, span⟩ = .ok b →
      Reads offset ('<' :: '/' :: (n.written.toList ++ ['>'])) rest ⟨top :: outer, root⟩ b := by
  refine ⟨⟨top.start, (⟨offset, .endTag n.written.toList⟩ : Piece).span.stop⟩, fun b hb =>
    reads_of_cut (m := .endTag n.written.toList) ?_ rfl ?_⟩
  · rw [List.cons_append, List.append_assoc]
    exact Markup.cut_endTag h rest
  · simp only [step, close, endName_written h, hname, if_true]
    exact hb

/-- A text becomes a child, if it is not blank behind an element. -/
theorem reads_text {text : String} (htext : text ≠ "") (hrest : rest.head? = some '<')
    (ha : Text.allBlank text = true → a.isAfterElement = false) :
    ∃ span, Reads offset (escape false text.toList) rest a (a.addChild (.text text span)) := by
  have hne : text.toList ≠ [] := fun hnil => htext (String.toList_injective (by rw [hnil]; rfl))
  obtain ⟨c, cs, hwritten⟩ := List.exists_cons_of_ne_nil (@escape_ne_nil false _ hne)
  have hbracket : '<' ∉ c :: cs := hwritten ▸ bracket_not_mem_escape text.toList
  have hread : unescape (c :: cs) = .ok text := hwritten ▸ unescape_escape text
  refine ⟨(⟨offset, .text (c :: cs)⟩ : Piece).span, ?_⟩
  rw [hwritten]
  refine reads_of_cut (Markup.cut_text hbracket hrest) rfl ?_
  have hkept : (Text.allBlank text && a.isAfterElement) = false := by
    cases hblank : Text.allBlank text with
    | false => rfl
    | true => exact ha hblank
  simp only [step, hread, hkept, Bool.false_eq_true, if_false]

/-- Blank text that may stand where it does is not behind an element. -/
theorem isAfterElement_eq_false {top : OpenElement} {content : String} {span : Span}
    (h : ∀ before ∈ top.children.head?, before.MayFollow (.text content span))
    (hblank : Text.allBlank content = true) (outer : List OpenElement) (root : Option Element) :
    isAfterElement ⟨top :: outer, root⟩ = false := by
  obtain ⟨writtenName, tag, start, children⟩ := top
  match children with
  | [] => rfl
  | .element e :: others =>
    have hnot : Text.allBlank content = false := h _ rfl
    rw [hblank] at hnot
    cases hnot
  | .text _ _ :: others => rfl
  | .cdata _ _ :: others => rfl

theorem reads_cdata {content : String} (h : ¬"]]>".toList <:+: content.toList) :
    ∃ span, Reads offset
      ('<' :: '!' :: '[' :: ("CDATA[".toList ++ (content.toList ++ "]]>".toList))) rest a
      (a.addChild (.cdata content span)) := by
  refine ⟨(⟨offset, .cdata content.toList⟩ : Piece).span,
    reads_of_cut (m := .cdata content.toList) ?_ rfl ?_⟩
  · have hcut := Markup.cut_cdata h rest
    rw [← List.append_assoc content.toList, ← List.append_assoc "CDATA[".toList] at hcut
    exact hcut
  · simp only [step, String.ofList_toList]

end Assembly

open Assembly (Reads)

/-- What is written of nodes begins with a bracket, unless the first is text. -/
theorem Node.head?_allWritten {short : Element → Bool} {nodes : List Node} {rest : List Char}
    (h : ∀ n ∈ nodes.head?, ∀ content span, n ≠ .text content span)
    (hrest : rest.head? = some '<') :
    (Node.allWritten short nodes ++ rest).head? = some '<' := by
  match nodes with
  | [] => exact hrest
  | .element ⟨tag, children, span⟩ :: more =>
    rw [allWritten, Node.written, Element.written]
    split <;> rfl
  | .text content span :: more => exact absurd rfl (h _ rfl content span)
  | .cdata content span :: more => rfl

mutual

/-- An element that was written is read, and put where it belongs. -/
theorem Element.reads (short : Element → Bool) : (e : Element) → (Node.element e).AllWritable →
    (offset : Nat) → (rest : List Char) → (a : Assembly) →
      ∃ found : Element, found.bare = e.bare
        ∧ ∀ b, a.addElement found = .ok b → Reads offset (e.written short) rest a b
  | ⟨tag, children, span⟩, h, offset, rest, a => by
    obtain ⟨htag, hchain⟩ : tag.Plain ∧ children.IsChain Node.MayFollow := h _ (.self _)
    rw [Element.written]
    split
    · next hshort =>
      obtain ⟨hempty, -⟩ := Bool.and_eq_true_iff.mp hshort
      obtain rfl : children = [] := List.isEmpty_iff.mp hempty
      obtain ⟨found, foundSpan, hbare, hreads⟩ := Assembly.reads_shortTag htag offset rest a
      refine ⟨⟨found, [], foundSpan⟩, ?_, hreads⟩
      rw [Element.bare, Element.bare, hbare]
    · -- What is between the two tags is read with the element open.
      obtain ⟨found, hbare, hstart⟩ := Assembly.reads_startTag htag offset
        (Node.allWritten short children
          ++ ('<' :: '/' :: (tag.name.written.toList ++ ['>'])) ++ rest) a
      obtain ⟨nodes, hnodes, hinside⟩ := Node.allReads short children
        (fun n hn => h.child hn) hchain (offset + byteLength ('<' :: (tag.written ++ ['>'])))
        ('<' :: '/' :: (tag.name.written.toList ++ ['>']) ++ rest)
        ⟨tag.name.written.toList, found, offset, []⟩ a.stack a.root rfl nofun
      obtain ⟨endSpan, hend⟩ := @Assembly.reads_endTag
        ⟨tag.name.written.toList, found, offset, nodes.reverse ++ []⟩ a.stack tag.name htag.name rfl
        (offset + byteLength ('<' :: (tag.written ++ ['>']))
          + byteLength (Node.allWritten short children)) rest a.root
      refine ⟨⟨found, nodes, endSpan⟩, by rw [Element.bare, Element.bare, hbare, hnodes],
        fun b hb => ?_⟩
      have hclosed := hend b (by simpa using hb)
      have hwhole := hstart.append (hinside.append hclosed)
      simpa using hwhole

/-- A node that was written is read, and becomes the last child of the element
that is open. -/
theorem Node.reads (short : Element → Bool) : (n : Node) → n.AllWritable →
    (offset : Nat) → (rest : List Char) → (top : OpenElement) → (outer : List OpenElement) →
    (root : Option Element) → (∀ content span, n = .text content span → rest.head? = some '<') →
    (∀ before ∈ top.children.head?, before.MayFollow n) →
      ∃ found : Node, found.bare = n.bare
        ∧ Reads offset (n.written short) rest ⟨top :: outer, root⟩
          (Assembly.addChild ⟨top :: outer, root⟩ found)
  | .element e, h, offset, rest, top, outer, root, _, _ => by
    obtain ⟨found, hbare, hreads⟩ := Element.reads short e h offset rest ⟨top :: outer, root⟩
    exact ⟨.element found, by rw [Node.bare, Node.bare, hbare], hreads _ rfl⟩
  | .text content span, h, offset, rest, top, outer, root, hrest, hbefore => by
    have hcontent : content ≠ "" := h _ (.self _)
    obtain ⟨found, hreads⟩ := Assembly.reads_text hcontent (hrest content span rfl)
      fun hblank => Assembly.isAfterElement_eq_false hbefore hblank outer root
    exact ⟨.text content found, rfl, hreads⟩
  | .cdata content span, h, offset, rest, top, outer, root, _, _ => by
    obtain ⟨found, hreads⟩ := Assembly.reads_cdata (h _ (.self _))
    exact ⟨.cdata content found, rfl, hreads⟩

/-- Nodes that were written are read, and become children of the element that is
open. -/
theorem Node.allReads (short : Element → Bool) : (nodes : List Node) →
    (∀ n ∈ nodes, n.AllWritable) → nodes.IsChain Node.MayFollow →
    (offset : Nat) → (rest : List Char) → (top : OpenElement) → (outer : List OpenElement) →
    (root : Option Element) → rest.head? = some '<' →
    (∀ before ∈ top.children.head?, ∀ n ∈ nodes.head?, before.MayFollow n) →
      ∃ found : List Node, Node.allBare found = Node.allBare nodes
        ∧ Reads offset (Node.allWritten short nodes) rest ⟨top :: outer, root⟩
          ⟨{ top with children := found.reverse ++ top.children } :: outer, root⟩
  | [], _, _, offset, rest, top, outer, root, _, _ => ⟨[], rfl, Assembly.reads_nil⟩
  | n :: more, h, hchain, offset, rest, top, outer, root, hrest, hbefore => by
    obtain ⟨hnext, hmore⟩ := List.isChain_cons.mp hchain
    have hbracket : ∀ content span, n = .text content span →
        (Node.allWritten short more ++ rest).head? = some '<' := by
      rintro content span rfl
      refine Node.head?_allWritten (fun m hm content' span' htext => ?_) hrest
      subst htext
      exact hnext _ hm
    obtain ⟨found, hbare, hfirst⟩ := Node.reads short n (h n List.mem_cons_self) offset
      (Node.allWritten short more ++ rest) top outer root hbracket
      fun before hlast => hbefore before hlast n rfl
    obtain ⟨others, hothers, hrun⟩ := Node.allReads short more
      (fun m hm => h m (List.mem_cons_of_mem _ hm)) hmore
      (offset + byteLength (n.written short)) rest
      { top with children := found :: top.children } outer root hrest
      (by
        intro before hlast m hm
        obtain rfl := Option.some.inj hlast
        exact (hnext m hm).of_bare hbare)
    refine ⟨found :: others, by rw [Node.allBare, Node.allBare, hbare, hothers], ?_⟩
    rw [List.reverse_cons, List.append_assoc]
    exact hfirst.append hrun

end

/-- **An element that is written as a document is read again**, with all that it
holds: names, attributes, children, texts. Only the places are others. -/
theorem Document.read_written_tree (short : Element → Bool) (e : Element)
    (h : (Node.element e).AllWritable) :
    ∃ doc, Document.read (String.ofList (e.written short)) = .ok doc ∧ doc.root.bare = e.bare := by
  obtain ⟨found, hbare, hreads⟩ := Element.reads short e h 0 [] .start
  obtain ⟨pieces, hpieces, hrun⟩ := hreads ⟨[], some found⟩ rfl
  have hhead : (e.written short).head? = some '<' := by
    obtain ⟨tag, children, span⟩ := e
    rw [Element.written]
    split <;> rfl
  obtain ⟨cs, hcs⟩ := List.head?_eq_some_iff.mp hhead
  have hmark : withoutByteOrderMark (e.written short) = e.written short := by
    rw [hcs]
    rfl
  rw [List.append_nil] at hpieces
  have hnil : Piece.ofChars (0 + byteLength (e.written short)) [] = ([], none) := by
    rw [Piece.ofChars]
  refine ⟨⟨found, ⟨0, (String.ofList (e.written short)).utf8ByteSize⟩⟩, ?_, hbare⟩
  rw [Document.read, String.toList_ofList, hmark, hpieces, hnil, List.append_nil]
  simp only [hrun]
  rfl

/-- An element with children of each kind, and characters that are references
where they are written. -/
def Element.sample : Element :=
  ⟨⟨⟨some "m", "if-test"⟩, ⟨0, 0⟩, [⟨⟨none, "test"⟩, "a > 1 && b != \"'\"", ⟨0, 0⟩, ⟨0, 0⟩⟩]⟩,
    [.text "x < 2 " ⟨0, 0⟩, .element ⟨⟨⟨none, "sql.none"⟩, ⟨0, 0⟩, []⟩, [], ⟨0, 0⟩⟩,
      .cdata " & y ]]" ⟨0, 0⟩],
    ⟨0, 0⟩⟩

theorem Element.sample_allWritable : (Node.element sample).AllWritable := by
  have htag : sample.tag.Plain := by
    refine ⟨⟨by decide, by decide⟩, fun a ha => ?_, by decide⟩
    obtain rfl := List.mem_singleton.mp ha
    exact ⟨by decide, by decide⟩
  have hchain : sample.children.IsChain Node.MayFollow := by
    simp [sample, Node.MayFollow]
  refine .element ⟨htag, hchain⟩ fun n hn => ?_
  simp only [sample, List.mem_cons, List.not_mem_nil, or_false] at hn
  rcases hn with rfl | rfl | rfl
  · exact .leaf rfl (by simp [Node.Writable])
  · exact .element ⟨⟨⟨by decide, by decide⟩, nofun, by decide⟩, .nil⟩ nofun
  · exact .leaf rfl (by simp [Node.Writable, List.infix_cons_iff])

example : String.ofList (Element.sample.written fun _ => true)
    = "<m:if-test test=\"a &gt; 1 &amp;&amp; b != &quot;'&quot;\">x &lt; 2 <sql.none/>"
      ++ "<![CDATA[ & y ]]]]></m:if-test>" := by
  decide

theorem Document.read_written_tree_of_sample : (Node.element Element.sample).AllWritable
    ∧ ∃ doc, Document.read (String.ofList (Element.sample.written fun _ => true)) = .ok doc
      ∧ doc.root.bare = Element.sample.bare :=
  ⟨Element.sample_allWritable, Document.read_written_tree _ _ Element.sample_allWritable⟩

end DynamicSql.Xml
