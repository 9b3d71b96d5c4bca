/-
The spans of a document are exact.

Every node of a document that is read covers in the source what it is said
to cover: an element the text from its `<` to its last `>`, text and CDATA
what they were read from, a tag and its attributes their names and values.
What an element holds lies inside of it, in order.

# The invariant

`Assembly.Fits` relates what is under construction to the text taken so far.
An open element begins somewhere in that text and goes on to its end. What
it holds stands in order up to a limit: for the innermost element this is
the end of what was taken, for every other one the start of the element
inside it. A node that is put into the innermost element begins at its limit
or behind it and ends where the taken text ends, so it moves one limit only;
an element that closes gives its own start, the limit of the one around it,
and its stop to that one.
-/
import DynamicSql.Proofs.Xml.Tag
import DynamicSql.Xml.Reader

namespace DynamicSql.Xml

-- ==================================================== what is to be shown

/-- The text that an element covers begins with `<` and its name, which ends
before a space, a slash or `>`, and it ends with `>`. The names and values in
its tag and then its children lie inside of it, one behind the other. -/
structure Element.Exact (source : String) (e : Element) : Prop where
  text : ∃ c inside, (Markup.isSpace c = true ∨ c = '/' ∨ c = '>')
    ∧ e.span.slice? source
      = some ("<" ++ e.tag.name.written ++ String.ofList (c :: inside) ++ ">")
  tag : e.tag.Exact source e.span.start
  order : Span.Ordered e.span.start e.span.stop (e.tag.spans ++ e.children.map Node.span)

/-- A node covers what it was read from. -/
def Node.Exact (source : String) : Node → Prop
  | .element e => e.Exact source
  | .text content span =>
    ∃ raw, span.slice? source = some (String.ofList raw) ∧ unescape raw = .ok content
  | .cdata content span => span.slice? source = some ("<![CDATA[" ++ content ++ "]]>")

/-- A node holds itself and what its children hold. -/
inductive Node.Holds : Node → Node → Prop where
  | self (n : Node) : Node.Holds n n
  | child {e : Element} {n m : Node} : n ∈ e.children → Node.Holds n m → Node.Holds (.element e) m

/-- All that a node holds is exact. -/
def Node.AllExact (source : String) (n : Node) : Prop :=
  ∀ m, n.Holds m → m.Exact source

theorem Node.AllExact.element {source : String} {e : Element} (he : e.Exact source)
    (hchildren : ∀ n ∈ e.children, n.AllExact source) : (Node.element e).AllExact source := by
  intro m hm
  cases hm with
  | self => exact he
  | child hn hm => exact hchildren _ hn m hm

/-- What is no element holds itself only. -/
theorem Node.AllExact.leaf {source : String} {n : Node} (hn : n.element? = none)
    (h : n.Exact source) : n.AllExact source := by
  intro m hm
  cases hm with
  | self => exact h
  | child => cases hn

/-- The pieces of a text that begins with one. -/
theorem Piece.ofChars_of_cut {offset : Nat} {c : Char} {cs after : List Char} {m : Markup}
    (h : Markup.cut c cs = .ok (m, after)) :
    Piece.ofChars offset (c :: cs)
      = (⟨offset, m⟩ :: (Piece.ofChars (offset + byteLength m.written) after).1,
        (Piece.ofChars (offset + byteLength m.written) after).2) := by
  rw [Piece.ofChars]
  split
  · next h' => rw [h] at h'; cases h'
  · next h' =>
    rw [h] at h'
    cases h'
    rfl

-- ========================================================== the invariant

variable {source : String} {taken more : List Char} {limit : Nat}

/-- An open element begins in the text taken so far, and what is known of it
is exact. What it holds ends at the limit. -/
structure OpenElement.Fits (source : String) (taken : List Char) (limit : Nat)
    (e : OpenElement) : Prop where
  text : ∃ before c tail, (Markup.isSpace c = true ∨ c = '/' ∨ c = '>')
    ∧ taken = before ++ ('<' :: e.tag.name.written.toList ++ c :: tail)
    ∧ byteLength before = e.start
  tag : e.tag.Exact source e.start
  order : Span.Ordered e.start limit (e.tag.spans ++ e.children.reverse.map Node.span)
  children : ∀ n ∈ e.children, n.AllExact source

theorem OpenElement.Fits.extend {e : OpenElement} {further : Nat}
    (h : e.Fits source taken limit) (hle : limit ≤ further) :
    e.Fits source (taken ++ more) further := by
  obtain ⟨before, c, tail, hc, rfl, hstart⟩ := h.text
  exact ⟨⟨before, c, tail ++ more, hc, by simp only [List.append_assoc, List.cons_append], hstart⟩,
    h.tag, h.order.widen hle, h.children⟩

namespace Assembly

/-- Each open element ends its children where the one inside of it begins. -/
def StackFits (source : String) (taken : List Char) : Nat → List OpenElement → Prop
  | _, [] => True
  | limit, e :: outer => e.Fits source taken limit ∧ StackFits source taken e.start outer

theorem StackFits.extend {stack : List OpenElement} {further : Nat}
    (h : StackFits source taken limit stack) (hle : limit ≤ further) :
    StackFits source (taken ++ more) further stack := by
  induction stack generalizing limit further with
  | nil => trivial
  | cons e outer ih => exact ⟨h.1.extend hle, ih h.2 (Nat.le_refl _)⟩

/-- What is under construction is exact as far as the text was taken. -/
structure Fits (source : String) (taken : List Char) (a : Assembly) : Prop where
  stack : StackFits source taken (byteLength taken) a.stack
  root : ∀ e, a.root = some e → (Node.element e).AllExact source

theorem start_fits (source : String) : start.Fits source [] :=
  ⟨trivial, nofun⟩

-- ========================================================= adding a node

/-- A child that begins at the limit or behind it, and ends where the taken
text ends, may be added. -/
theorem addChild_fits {a : Assembly} {child : Node}
    (hstack : StackFits source taken limit a.stack)
    (hroot : ∀ e, a.root = some e → (Node.element e).AllExact source)
    (hchild : child.AllExact source) (hstart : limit ≤ child.span.start)
    (horder : child.span.start ≤ child.span.stop) (hstop : child.span.stop = byteLength taken) :
    (a.addChild child).Fits source taken := by
  unfold addChild
  cases hs : a.stack with
  | nil => exact ⟨by rw [hs]; trivial, hroot⟩
  | cons top outer =>
    rw [hs] at hstack
    obtain ⟨htop, houter⟩ := hstack
    refine ⟨⟨⟨htop.text, htop.tag, ?_, fun n hn => ?_⟩, houter⟩, hroot⟩
    · show Span.Ordered top.start _ (top.tag.spans ++ (child :: top.children).reverse.map Node.span)
      rw [List.reverse_cons, List.map_append, ← List.append_assoc, ← hstop]
      exact htop.order.concat hstart horder
    · obtain rfl | hn := List.mem_cons.mp hn
      · exact hchild
      · exact htop.children n hn

/-- So may a complete element, also as the root. -/
theorem addElement_fits {a after : Assembly} {e : Element}
    (hstack : StackFits source taken e.span.start a.stack)
    (hroot : ∀ e, a.root = some e → (Node.element e).AllExact source)
    (he : (Node.element e).AllExact source) (horder : e.span.start ≤ e.span.stop)
    (hstop : e.span.stop = byteLength taken) (h : a.addElement e = .ok after) :
    after.Fits source taken := by
  unfold addElement at h
  cases hs : a.stack with
  | nil =>
    simp only [hs] at h
    split at h
    · cases h
    · obtain rfl := Except.ok.inj h
      exact ⟨trivial, fun d hd => Option.some.inj hd ▸ he⟩
  | cons top outer =>
    simp only [hs] at h
    obtain rfl := Except.ok.inj h
    exact addChild_fits hstack hroot he (Nat.le_refl _) horder hstop

-- ============================================================== one piece

section Step

variable {a next : Assembly} {after : List Char}

/-- A span over the text taken last covers it. -/
theorem slice?_of_append {before cs : List Char}
    (hsource : source.toList = before ++ (cs ++ after)) :
    Span.slice? ⟨byteLength before, byteLength (before ++ cs)⟩ source
      = some (String.ofList cs) := by
  rw [byteLength_append]
  exact StandsAt.slice? ⟨before, after, hsource, rfl⟩

/-- The text of an element, put together. -/
theorem slice?_element {before inside : List Char} {name : String} {c : Char}
    (hsource : source.toList = before ++ (('<' :: name.toList ++ c :: inside ++ ['>']) ++ after)) :
    Span.slice? ⟨byteLength before,
        byteLength (before ++ ('<' :: name.toList ++ c :: inside ++ ['>']))⟩ source
      = some ("<" ++ name ++ String.ofList (c :: inside) ++ ">") := by
  rw [slice?_of_append hsource]
  simp only [String.ofList_append, String.ofList_cons, String.ofList_toList]
  rfl

/-- The span of the piece that is taken next. -/
theorem span_piece (taken : List Char) (m : Markup) :
    (⟨byteLength taken, m⟩ : Piece).span
      = ⟨byteLength taken, byteLength (taken ++ m.written)⟩ := by
  rw [byteLength_append]
  rfl

/-- The tag read from what stands behind a `<` is exact. -/
theorem tag_exact {content behind : List Char} {tag : Tag}
    (hsource : source.toList = taken ++ ('<' :: (content ++ behind) ++ after))
    (h : Tag.read (byteLength taken + 1) content = .ok tag) :
    tag.name.written.toList = content.takeWhile (fun c => !Markup.isSpace c)
      ∧ tag.Exact source (byteLength taken)
      ∧ Span.Ordered (byteLength taken) (byteLength (taken ++ '<' :: (content ++ behind)))
          tag.spans := by
  have hs : StandsAt source.toList (byteLength taken) (['<'] ++ (content ++ behind)) :=
    ⟨taken, after, hsource, rfl⟩
  obtain ⟨hname, hexact, hordered⟩ := Tag.read_exact hs.right.left h
  refine ⟨by rw [hname, String.toList_ofList], hexact, hordered.widen ?_⟩
  rw [byteLength_append, byteLength_cons, byteLength_append, show '<'.utf8Size = 1 from rfl]
  omega

/-- An empty element is complete with its tag. -/
theorem step_emptyTag_fits {content : List Char}
    (hsource : source.toList = taken ++ ((Markup.startTag content true).written ++ after))
    (ha : a.Fits source taken)
    (h : a.step ⟨byteLength taken, .startTag content true⟩ = .ok next) :
    next.Fits source (taken ++ (Markup.startTag content true).written) := by
  cases htag : Tag.read (byteLength taken + 1) content with
  | error e =>
    simp only [step, htag, bind, Except.bind] at h
    cases h
  | ok tag =>
    simp only [step, htag, bind, Except.bind, if_true, span_piece] at h
    obtain ⟨hname, hexact, hordered⟩ := tag_exact hsource htag
    obtain ⟨c, inside, hc, hinside⟩ := exists_nameEnd content (.inl (rfl : '/' = '/'))
    have hwritten : (Markup.startTag content true).written
        = '<' :: tag.name.written.toList ++ c :: inside ++ ['>'] := by
      rw [hname, List.cons_append, ← hinside, List.cons_append, List.append_assoc]
      rfl
    have hslice := slice?_element (hwritten ▸ hsource)
    rw [← hwritten] at hslice
    have hwhole : (Node.element ⟨tag, [], ⟨byteLength taken,
        byteLength (taken ++ (Markup.startTag content true).written)⟩⟩).AllExact source :=
      .element ⟨⟨c, inside, hc, hslice⟩, hexact, by
        show Span.Ordered _ _ (tag.spans ++ [])
        rw [List.append_nil]
        exact hordered⟩ nofun
    exact addElement_fits (ha.stack.extend (Nat.le_refl _)) ha.root hwhole hordered.le rfl h

/-- A start tag opens an element. -/
theorem step_startTag_fits {content : List Char}
    (hsource : source.toList = taken ++ ((Markup.startTag content false).written ++ after))
    (ha : a.Fits source taken)
    (h : a.step ⟨byteLength taken, .startTag content false⟩ = .ok next) :
    next.Fits source (taken ++ (Markup.startTag content false).written) := by
  cases htag : Tag.read (byteLength taken + 1) content with
  | error e =>
    simp only [step, htag, bind, Except.bind] at h
    cases h
  | ok tag =>
    simp only [step, htag, bind, Except.bind, Bool.false_eq_true, if_false] at h
    obtain rfl := Except.ok.inj h
    obtain ⟨hname, hexact, hordered⟩ := tag_exact hsource htag
    obtain ⟨c, inside, hc, hinside⟩ := exists_nameEnd content (.inr (rfl : '>' = '>'))
    have hwritten : (Markup.startTag content false).written
        = '<' :: tag.name.written.toList ++ c :: inside := by
      rw [hname, List.cons_append, ← hinside]
      rfl
    refine ⟨⟨⟨⟨taken, c, inside, hc, by rw [hwritten], rfl⟩, hexact, ?_, nofun⟩,
      ha.stack.extend (Nat.le_refl _)⟩, ha.root⟩
    show Span.Ordered (byteLength taken) _ (tag.spans ++ [])
    rw [List.append_nil]
    exact hordered

/-- An end tag completes the innermost element. -/
theorem step_endTag_fits {content : List Char}
    (hsource : source.toList = taken ++ ((Markup.endTag content).written ++ after))
    (ha : a.Fits source taken)
    (h : a.step ⟨byteLength taken, .endTag content⟩ = .ok next) :
    next.Fits source (taken ++ (Markup.endTag content).written) := by
  simp only [step, close, span_piece] at h
  split at h
  · cases h
  · next top outer hstack =>
    split at h
    · have hfits := ha.stack
      rw [hstack] at hfits
      obtain ⟨htop, houter⟩ := hfits
      obtain ⟨before, c, tail, hc, htaken, hstart⟩ := htop.text
      -- The element's text is what was taken since it was opened, and the end tag.
      have hwhole : taken ++ (Markup.endTag content).written
          = before ++ ('<' :: top.tag.name.written.toList
            ++ c :: (tail ++ '<' :: '/' :: content) ++ ['>']) := by
        rw [htaken]
        simp only [Markup.written, List.append_assoc, List.cons_append]
      have hslice := slice?_element (hsource.trans (by
        rw [← List.append_assoc, hwhole, List.append_assoc]))
      rw [← hwhole, hstart] at hslice
      have horder : Span.Ordered top.start (byteLength (taken ++ (Markup.endTag content).written))
          (top.tag.spans ++ top.children.reverse.map Node.span) :=
        htop.order.widen (by rw [byteLength_append]; exact Nat.le_add_right _ _)
      have hchildren : ∀ n ∈ top.children.reverse, n.AllExact source := fun n hn =>
        htop.children n (List.mem_reverse.mp hn)
      have hexact : Element.Exact source ⟨top.tag, top.children.reverse,
          ⟨top.start, byteLength (taken ++ (Markup.endTag content).written)⟩⟩ :=
        ⟨⟨c, _, hc, hslice⟩, htop.tag, horder⟩
      refine addElement_fits ?_ ?_ (.element hexact hchildren) horder.le rfl h
      · exact houter.extend (Nat.le_refl _)
      · exact ha.root
    · cases h

/-- What is passed over leaves all as it is. -/
theorem Fits.extend (ha : a.Fits source taken) : a.Fits source (taken ++ more) :=
  ⟨ha.stack.extend (by rw [byteLength_append]; exact Nat.le_add_right _ _), ha.root⟩

/-- A node that covers the whole piece may be added. -/
theorem addPiece_fits {child : Node} (ha : a.Fits source taken)
    (hchild : child.AllExact source)
    (hspan : child.span = ⟨byteLength taken, byteLength (taken ++ more)⟩) :
    (a.addChild child).Fits source (taken ++ more) := by
  have hstart : child.span.start = byteLength taken := by rw [hspan]
  have hstop : child.span.stop = byteLength (taken ++ more) := by rw [hspan]
  have horder : child.span.start ≤ child.span.stop := by
    rw [hstart, hstop, byteLength_append]
    exact Nat.le_add_right _ _
  exact addChild_fits (ha.stack.extend (Nat.le_refl _)) ha.root hchild (Nat.le_of_eq hstart.symm)
    horder hstop

/-- A piece that is taken keeps what is under construction exact. -/
theorem step_fits {m : Markup} (hsource : source.toList = taken ++ (m.written ++ after))
    (ha : a.Fits source taken) (h : a.step ⟨byteLength taken, m⟩ = .ok next) :
    next.Fits source (taken ++ m.written) := by
  have hslice := slice?_of_append hsource
  have hspan := span_piece taken m
  cases m with
  | startTag content selfClosing =>
    cases selfClosing with
    | true => exact step_emptyTag_fits hsource ha h
    | false => exact step_startTag_fits hsource ha h
  | endTag content => exact step_endTag_fits hsource ha h
  | text content =>
    simp only [step] at h
    split at h
    · cases h
    · next text hunescape =>
      split at h
      · exact Except.ok.inj h ▸ ha.extend
      · obtain rfl := Except.ok.inj h
        rw [hspan]
        exact addPiece_fits ha (.leaf rfl ⟨content, hslice, hunescape⟩) rfl
  | cdata content =>
    obtain rfl := Except.ok.inj h
    rw [hspan]
    refine addPiece_fits ha (.leaf rfl (hslice.trans (congrArg some ?_))) rfl
    show String.ofList ("<![CDATA[".toList ++ (content ++ "]]>".toList)) = _
    rw [String.ofList_append, String.ofList_append, String.ofList_toList, String.ofList_toList,
      String.append_assoc]
  | skipped written => exact Except.ok.inj h ▸ ha.extend

end Step

/-- So do all pieces. -/
theorem run_fits {a last : Assembly} {cs : List Char} (hsource : source.toList = taken ++ cs)
    (ha : a.Fits source taken) (h : a.run (Piece.ofChars (byteLength taken) cs).1 = .ok last) :
    ∃ all, last.Fits source all := by
  induction hn : cs.length using Nat.strongRecOn generalizing taken cs a with
  | ind n ih =>
    cases cs with
    | nil =>
      rw [Piece.ofChars] at h
      exact ⟨taken, Except.ok.inj h ▸ ha⟩
    | cons c cs =>
      cases hcut : Markup.cut c cs with
      | error e =>
        rw [Piece.ofChars] at h
        split at h
        · exact ⟨taken, Except.ok.inj h ▸ ha⟩
        · next hcut' => rw [hcut] at hcut'; cases hcut'
      | ok found =>
        obtain ⟨m, after⟩ := found
        rw [Piece.ofChars_of_cut hcut, ← byteLength_append] at h
        cases hstep : a.step ⟨byteLength taken, m⟩ with
        | error e =>
          simp only [run, hstep, bind, Except.bind] at h
          cases h
        | ok next =>
          simp only [run, hstep, bind, Except.bind] at h
          rw [Markup.cut_written hcut] at hsource
          exact ih after.length (hn ▸ Markup.length_cut hcut)
            (hsource.trans (List.append_assoc ..).symm) (step_fits hsource ha hstep) h rfl

end Assembly

theorem Assembly.finish_eq_ok {a : Assembly} {e : Element} (h : a.finish = .ok e) :
    a.root = some e := by
  unfold finish at h
  split at h
  · cases h
  · cases h
  · next hroot => rw [hroot, Except.ok.inj h]

theorem withoutByteOrderMark_of_head? {cs : List Char} (h : cs.head? ≠ some '\uFEFF') :
    withoutByteOrderMark cs = cs := by
  cases cs with
  | nil => rfl
  | cons c cs => exact if_neg fun hc => h (congrArg some hc)

/-- The spans of a document that does not begin with a byte order mark are
exact, at every depth. -/
theorem Document.spans_exact {source : String} {doc : Document}
    (hmark : source.toList.head? ≠ some '\uFEFF') (h : Document.read source = .ok doc) :
    ∀ n, (Node.element doc.root).Holds n → n.Exact source := by
  simp only [Document.read, withoutByteOrderMark_of_head? hmark] at h
  cases hrun : Assembly.start.run (Piece.ofChars 0 source.toList).1 with
  | error e =>
    simp only [hrun, bind, Except.bind] at h
    cases h
  | ok last =>
    obtain ⟨all, hfits⟩ :=
      Assembly.run_fits (List.nil_append _).symm (Assembly.start_fits source) hrun
    simp only [hrun, bind, Except.bind] at h
    split at h
    · cases h
    · cases hfinish : last.finish with
      | error e =>
        simp only [hfinish] at h
        cases h
      | ok root =>
        simp only [hfinish, pure, Except.pure] at h
        obtain rfl := Except.ok.inj h
        exact hfits.root root (Assembly.finish_eq_ok hfinish)

/-- A tag with an attribute whose value begins like the next one, characters
of two bytes, an empty element, a reference and CDATA. -/
def nestedSource : String := "<q:a k='b=\"é' b = \"&lt;\"><i b='1'/> x&amp;é<![CDATA[<é]]></q:a>"

/-- Its tags, the outer one first. -/
def nestedTags : Tag × Tag :=
  (⟨⟨some "q", "a"⟩, ⟨1, 4⟩,
      [⟨⟨none, "k"⟩, "b=\"é", ⟨5, 6⟩, ⟨7, 14⟩⟩, ⟨⟨none, "b"⟩, "<", ⟨15, 16⟩, ⟨19, 25⟩⟩]⟩,
    ⟨⟨none, "i"⟩, ⟨27, 28⟩, [⟨⟨none, "b"⟩, "1", ⟨29, 30⟩, ⟨31, 34⟩⟩]⟩)

def nestedDocument : Document :=
  ⟨⟨nestedTags.1,
      [.element ⟨nestedTags.2, [], ⟨26, 36⟩⟩, .text " x&é" ⟨36, 45⟩, .cdata "<é" ⟨45, 60⟩],
      ⟨0, 66⟩⟩,
    ⟨0, 66⟩⟩

theorem Document.read_nestedSource : Document.read nestedSource = .ok nestedDocument := by
  have hcut : Piece.ofChars 0 (withoutByteOrderMark nestedSource.toList)
      = ([⟨0, .startTag "q:a k='b=\"é' b = \"&lt;\"".toList false⟩,
        ⟨26, .startTag "i b='1'".toList true⟩, ⟨36, .text " x&amp;é".toList⟩,
        ⟨45, .cdata "<é".toList⟩, ⟨60, .endTag "q:a".toList⟩], none) := by decide +kernel
  have hone : Tag.read 1 "q:a k='b=\"é' b = \"&lt;\"".toList = .ok nestedTags.1 := by
    decide +kernel
  have htwo : Tag.read 27 "i b='1'".toList = .ok nestedTags.2 := by decide +kernel
  have htext : unescape " x&amp;é".toList = .ok " x&é" := by decide +kernel
  simp only [read, hcut, Assembly.run, Assembly.step, hone, htwo, htext]
  rfl

theorem Document.spans_exact_of_nested :
    nestedSource.toList.head? ≠ some '\uFEFF' ∧ Document.read nestedSource = .ok nestedDocument
      ∧ ∀ n, (Node.element nestedDocument.root).Holds n → n.Exact nestedSource := by
  have hmark : nestedSource.toList.head? ≠ some '\uFEFF' := by decide
  exact ⟨hmark, read_nestedSource, Document.spans_exact hmark read_nestedSource⟩

end DynamicSql.Xml
