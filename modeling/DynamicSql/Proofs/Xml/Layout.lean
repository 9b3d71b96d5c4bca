/-
The pieces of a document as a tree of items.

Between the tags of an element stands a sequence of items: nodes, also those that
do not become children, and what is passed over. An element is one item, with
items of its own between its tags. `LaidOut` says this of pieces, and which
children the items of an element make (`Item.children`).

# That a document is laid out

What was taken since an element was opened is laid out as items
(`Assembly.IsLaidOut`), and its children so far are what is collected of these.
An element that closes is one item of the element around it. So in the end the
pieces of the root are laid out as the one item that the root is
(`Document.root_laidOut`).

# That there is one layout

No items begin with an end tag, so the first end tag behind some items is where
they end (`LaidOut.unique`). No two pieces begin at one place, so a span tells the
tags of an element. What stands between them is what its children are made of
(`Element.Encloses.children_eq`).
-/
import DynamicSql.Proofs.Xml.Spans
import Mathlib.Data.List.Nodup

namespace DynamicSql.Xml

-- =================================================================== items

/-- What stands between the tags of an element: nodes, also those that are left
out, and what is passed over. -/
inductive Item where
  | node (n : Node)
  | skipped

namespace Item

/-- True of children, the last one first, of which the last is an element. -/
def endsInElement : List Node → Bool
  | .element _ :: _ => true
  | _ => false

/-- One more item behind children, the last one first. -/
def collect (children : List Node) : Item → List Node
  | .skipped => children
  | .node (.text content span) =>
    if Text.allBlank content && endsInElement children then children
    else .text content span :: children
  | .node n => n :: children

/-- The children that items make. -/
def children (items : List Item) : List Node := (items.foldl collect []).reverse

end Item

/-- The pieces are those of the items, one behind the other. An element is what
stands from its start tag to its end tag, and has the children that the items
between these make. -/
inductive LaidOut : List Piece → List Item → Prop where
  | nil : LaidOut [] []
  | text {p : Piece} {raw : List Char} {content : String} {rest : List Piece} {items : List Item} :
      p.markup = .text raw → unescape raw = .ok content → LaidOut rest items →
        LaidOut (p :: rest) (.node (.text content p.span) :: items)
  | cdata {p : Piece} {content : List Char} {rest : List Piece} {items : List Item} :
      p.markup = .cdata content → LaidOut rest items →
        LaidOut (p :: rest) (.node (.cdata (String.ofList content) p.span) :: items)
  | skipped {p : Piece} {written : List Char} {rest : List Piece} {items : List Item} :
      p.markup = .skipped written → LaidOut rest items → LaidOut (p :: rest) (.skipped :: items)
  | empty {p : Piece} {content : List Char} {e : Element} {rest : List Piece}
      {items : List Item} :
      p.markup = .startTag content true → Tag.read (p.offset + 1) content = .ok e.tag →
        e.children = [] → e.span = p.span → LaidOut rest items →
          LaidOut (p :: rest) (.node (.element e) :: items)
  | element {p q : Piece} {content name : List Char} {e : Element} {inside rest : List Piece}
      {inner items : List Item} :
      p.markup = .startTag content false → Tag.read (p.offset + 1) content = .ok e.tag →
        LaidOut inside inner → q.markup = .endTag name → e.children = Item.children inner →
          e.span = ⟨p.offset, q.span.stop⟩ → LaidOut rest items →
            LaidOut (p :: (inside ++ q :: rest)) (.node (.element e) :: items)

/-- Among the pieces are those of the element, and these items stand between its
tags. -/
def Element.Encloses (pieces : List Piece) (e : Element) (items : List Item) : Prop :=
  ∃ before p content inside q name after,
    pieces = before ++ p :: (inside ++ q :: after)
      ∧ p.markup = .startTag content false ∧ q.markup = .endTag name
      ∧ e.span = ⟨p.offset, q.span.stop⟩ ∧ LaidOut inside items

/-- The pieces of a document. -/
def Document.pieces (source : String) : List Piece :=
  (Piece.ofChars 0 (withoutByteOrderMark source.toList)).1

-- ========================================================= what is collected

namespace Item

variable {items : List Item} {i : Item} {n : Node}

theorem collect_text (children : List Node) (content : String) (span : Span) :
    collect children (.node (.text content span))
      = if Text.allBlank content && endsInElement children then children
        else .text content span :: children := rfl

/-- Another item changes nothing for a node. -/
theorem mem_collect_of_ne {children : List Node} (h : i ≠ .node n) :
    n ∈ collect children i ↔ n ∈ children := by
  cases i with
  | skipped => exact Iff.rfl
  | node m =>
    have hne : n ≠ m := fun heq => h (heq ▸ rfl)
    cases m with
    | element e => simp [collect, hne]
    | cdata content span => simp [collect, hne]
    | text content span =>
      rw [collect_text]
      split
      · exact Iff.rfl
      · simp [hne]

theorem mem_foldl_collect_of_not_mem {children : List Node} (h : .node n ∉ items) :
    n ∈ items.foldl collect children ↔ n ∈ children := by
  induction items generalizing children with
  | nil => exact Iff.rfl
  | cons i items ih =>
    rw [List.mem_cons, not_or] at h
    rw [List.foldl_cons, ih h.2, mem_collect_of_ne fun heq => h.1 heq.symm]

/-- Nothing is taken back. -/
theorem mem_foldl_collect {children : List Node} (h : n ∈ children) :
    n ∈ items.foldl collect children := by
  induction items generalizing children with
  | nil => exact h
  | cons i items ih =>
    refine ih ?_
    cases i with
    | skipped => exact h
    | node m =>
      cases m with
      | element e => exact List.mem_cons_of_mem _ h
      | cdata content span => exact List.mem_cons_of_mem _ h
      | text content span =>
        rw [collect_text]
        split
        · exact h
        · exact List.mem_cons_of_mem _ h

/-- An element is always kept. -/
theorem element_mem_children {e : Element} (h : .node (.element e) ∈ items) :
    .element e ∈ children items := by
  obtain ⟨before, after, rfl⟩ := List.append_of_mem h
  rw [children, List.mem_reverse, List.foldl_append, List.foldl_cons]
  exact mem_foldl_collect List.mem_cons_self

theorem mem_of_mem_children (h : n ∈ children items) : .node n ∈ items := by
  by_contra hnot
  rw [children, List.mem_reverse, mem_foldl_collect_of_not_mem hnot] at h
  cases h

end Item

-- ============================================================= the layout

namespace LaidOut

variable {pieces more : List Piece} {items others : List Item}

theorem append (h : LaidOut pieces items) (h' : LaidOut more others) :
    LaidOut (pieces ++ more) (items ++ others) := by
  induction h with
  | nil => exact h'
  | text hmarkup hunescape _ ih => exact .text hmarkup hunescape ih
  | cdata hmarkup _ ih => exact .cdata hmarkup ih
  | skipped hmarkup _ ih => exact .skipped hmarkup ih
  | empty hmarkup htag hchildren hspan _ ih => exact .empty hmarkup htag hchildren hspan ih
  | element hopen htag hinside hclose hchildren hspan _ _ ih =>
    rw [List.cons_append, List.append_assoc, List.cons_append]
    exact .element hopen htag hinside hclose hchildren hspan ih

/-- An element begins where one of its pieces does and ends where one does. -/
theorem element_bounds {e : Element} (h : LaidOut pieces [.node (.element e)]) :
    (∃ p ∈ pieces, p.offset = e.span.start) ∧ ∃ q ∈ pieces, q.span.stop = e.span.stop := by
  cases h with
  | empty _ _ _ hspan _ =>
    exact ⟨⟨_, List.mem_cons_self, by rw [hspan]; rfl⟩, _, List.mem_cons_self, by rw [hspan]⟩
  | element _ _ _ _ _ hspan _ =>
    refine ⟨⟨_, List.mem_cons_self, by rw [hspan]⟩, _, ?_, by rw [hspan]⟩
    exact List.mem_cons_of_mem _ (List.mem_append_right _ List.mem_cons_self)

end LaidOut

/-- More pieces around change nothing for what stands between the tags. -/
theorem Element.Encloses.append {e : Element} {pieces : List Piece} {items : List Item}
    (h : e.Encloses pieces items) (front back : List Piece) :
    e.Encloses (front ++ (pieces ++ back)) items := by
  obtain ⟨before, p, content, inside, q, name, after, rfl, h⟩ := h
  exact ⟨front ++ before, p, content, inside, q, name, after ++ back, by simp, h⟩

namespace Piece

/-- A run of text with its content stands directly in an element that one of the
items holds. -/
def StandsInside (p : Piece) (content : String) (pieces : List Piece) (items : List Item) : Prop :=
  ∃ d e before after, .node (.element d) ∈ items ∧ (Node.element d).Holds (.element e)
    ∧ e.Encloses pieces (before ++ .node (.text content p.span) :: after)

/-- It does, or is one of the items itself. -/
def StandsIn (p : Piece) (content : String) (pieces : List Piece) (items : List Item) : Prop :=
  .node (.text content p.span) ∈ items ∨ p.StandsInside content pieces items

variable {p : Piece} {content : String} {pieces : List Piece} {items : List Item}

theorem StandsIn.cons (h : p.StandsIn content pieces items) (front : List Piece) (i : Item) :
    p.StandsIn content (front ++ pieces) (i :: items) := by
  obtain hmem | ⟨d, e, before, after, hmem, hholds, hencloses⟩ := h
  · exact .inl (List.mem_cons_of_mem _ hmem)
  · have hmore := hencloses.append front []
    rw [List.append_nil] at hmore
    exact .inr ⟨d, e, before, after, List.mem_cons_of_mem _ hmem, hholds, hmore⟩

end Piece

namespace LaidOut

/-- What stands between the tags of the first item stands in it. -/
theorem standsInside_cons {p q r : Piece} {content name : List Char} {text : String} {e : Element}
    {inside : List Piece} {inner : List Item} (hopen : p.markup = .startTag content false)
    (hinside : LaidOut inside inner) (hclose : q.markup = .endTag name)
    (hchildren : e.children = Item.children inner) (hspan : e.span = ⟨p.offset, q.span.stop⟩)
    (h : r.StandsIn text inside inner) (rest : List Piece) (items : List Item) :
    r.StandsInside text (p :: (inside ++ q :: rest)) (.node (.element e) :: items) := by
  obtain hmem | ⟨d, e', before, after, hmem, hholds, hencloses⟩ := h
  · obtain ⟨before, after, rfl⟩ := List.append_of_mem hmem
    exact ⟨e, e, before, after, List.mem_cons_self, .self _,
      ⟨[], p, content, inside, q, name, rest, rfl, hopen, hclose, hspan, hinside⟩⟩
  · have hheld : Node.element d ∈ e.children := hchildren ▸ Item.element_mem_children hmem
    exact ⟨e, e', before, after, List.mem_cons_self, .child hheld hholds,
      hencloses.append [p] (q :: rest)⟩

/-- Each run of text is one of the items, or stands in one of the elements that
these hold. -/
theorem text_standsIn {pieces : List Piece} {items : List Item} {p : Piece} {raw : List Char}
    (h : LaidOut pieces items) (hp : p ∈ pieces) (hraw : p.markup = .text raw) :
    ∃ content, unescape raw = .ok content ∧ p.StandsIn content pieces items := by
  have hlater : ∀ {q : Piece} {qs : List Piece}, q.markup ≠ .text raw → p ∈ q :: qs → p ∈ qs :=
    fun hq hp => (List.mem_cons.mp hp).resolve_left fun heq => hq (heq ▸ hraw)
  induction h with
  | nil => cases hp
  | @text first raw' content' rest items hmarkup hunescape _ ih =>
    rcases List.mem_cons.mp hp with rfl | hp
    · obtain rfl : raw' = raw := Markup.text.inj (hmarkup.symm.trans hraw)
      exact ⟨content', hunescape, .inl List.mem_cons_self⟩
    · exact (ih hp).imp fun _ h => ⟨h.1, h.2.cons [first] _⟩
  | @cdata first _ _ _ hmarkup _ ih =>
    exact (ih (hlater (by simp [hmarkup]) hp)).imp fun _ h => ⟨h.1, h.2.cons [first] _⟩
  | @skipped first _ _ _ hmarkup _ ih =>
    exact (ih (hlater (by simp [hmarkup]) hp)).imp fun _ h => ⟨h.1, h.2.cons [first] _⟩
  | @empty first _ _ _ _ hmarkup _ _ _ _ ih =>
    exact (ih (hlater (by simp [hmarkup]) hp)).imp fun _ h => ⟨h.1, h.2.cons [first] _⟩
  | @element first last _ _ e inside rest _ items hopen _ hinside hclose hchildren hspan _ ih ih' =>
    rcases List.mem_append.mp (hlater (by simp [hopen]) hp) with hp | hp
    · exact (ih hp).imp fun _ h =>
        ⟨h.1, .inr (standsInside_cons hopen hinside hclose hchildren hspan h.2 rest items)⟩
    · obtain ⟨text, hunescape, h⟩ := ih' (hlater (by simp [hclose]) hp)
      refine ⟨text, hunescape, ?_⟩
      have hmore := h.cons (first :: (inside ++ [last])) (.node (.element e))
      rwa [List.cons_append, List.append_assoc] at hmore

end LaidOut

-- ============================================================== one layout

theorem Element.ext_parts {e e' : Element} (htag : e.tag = e'.tag)
    (hchildren : e.children = e'.children) (hspan : e.span = e'.span) : e = e' := by
  obtain ⟨tag, children, span⟩ := e
  obtain ⟨tag', children', span'⟩ := e'
  obtain rfl : tag = tag' := htag
  obtain rfl : children = children' := hchildren
  obtain rfl : span = span' := hspan
  rfl

/-- Pieces have only one layout that ends before an end tag, and one such end. -/
theorem LaidOut.unique {pieces pieces' rest rest' : List Piece} {items items' : List Item}
    {p q : Piece} {name name' : List Char} (h : LaidOut pieces items) (h' : LaidOut pieces' items')
    (hp : p.markup = .endTag name) (hq : q.markup = .endTag name')
    (hall : pieces ++ p :: rest = pieces' ++ q :: rest') : pieces = pieces' ∧ items = items' := by
  -- The two begin with the same piece, which tells the case; an end tag is none.
  induction h generalizing pieces' items' p q name name' rest rest' with
  | nil =>
    cases h' with
    | nil => exact ⟨rfl, rfl⟩
    | _ =>
      obtain rfl := List.head_eq_of_cons_eq hall
      simp_all
  | text hmarkup hunescape _ ih =>
    cases h' with
    | text hmarkup' hunescape' hrest =>
      obtain ⟨rfl, htail⟩ := List.cons_eq_cons.mp hall
      obtain rfl := Markup.text.inj (hmarkup.symm.trans hmarkup')
      obtain rfl := Except.ok.inj (hunescape.symm.trans hunescape')
      obtain ⟨rfl, rfl⟩ := ih hrest hp hq htail
      exact ⟨rfl, rfl⟩
    | _ =>
      obtain rfl := List.head_eq_of_cons_eq hall
      simp_all
  | cdata hmarkup _ ih =>
    cases h' with
    | cdata hmarkup' hrest =>
      obtain ⟨rfl, htail⟩ := List.cons_eq_cons.mp hall
      obtain rfl := Markup.cdata.inj (hmarkup.symm.trans hmarkup')
      obtain ⟨rfl, rfl⟩ := ih hrest hp hq htail
      exact ⟨rfl, rfl⟩
    | _ =>
      obtain rfl := List.head_eq_of_cons_eq hall
      simp_all
  | skipped hmarkup _ ih =>
    cases h' with
    | skipped hmarkup' hrest =>
      obtain ⟨rfl, htail⟩ := List.cons_eq_cons.mp hall
      obtain ⟨rfl, rfl⟩ := ih hrest hp hq htail
      exact ⟨rfl, rfl⟩
    | _ =>
      obtain rfl := List.head_eq_of_cons_eq hall
      simp_all
  | empty hmarkup htag hchildren hspan _ ih =>
    cases h' with
    | empty hmarkup' htag' hchildren' hspan' hrest =>
      obtain ⟨rfl, htail⟩ := List.cons_eq_cons.mp hall
      obtain ⟨rfl, -⟩ := Markup.startTag.inj (hmarkup.symm.trans hmarkup')
      obtain ⟨rfl, rfl⟩ := ih hrest hp hq htail
      obtain rfl := Element.ext_parts (Except.ok.inj (htag.symm.trans htag'))
        (hchildren.trans hchildren'.symm) (hspan.trans hspan'.symm)
      exact ⟨rfl, rfl⟩
    | _ =>
      obtain rfl := List.head_eq_of_cons_eq hall
      simp_all
  | element hopen htag _ hclose hchildren hspan _ ih ih' =>
    cases h' with
    | element hopen' htag' hinside hclose' hchildren' hspan' hrest =>
      rw [List.cons_append, List.cons_append, List.append_assoc, List.append_assoc] at hall
      obtain ⟨rfl, htail⟩ := List.cons_eq_cons.mp hall
      obtain ⟨rfl, rfl⟩ := ih hinside hclose hclose' htail
      obtain ⟨rfl, hbehind⟩ := List.cons_eq_cons.mp (List.append_cancel_left htail)
      obtain ⟨rfl, rfl⟩ := ih' hrest hp hq hbehind
      obtain ⟨rfl, -⟩ := Markup.startTag.inj (hopen.symm.trans hopen')
      obtain rfl := Element.ext_parts (Except.ok.inj (htag.symm.trans htag'))
        (hchildren.trans hchildren'.symm) (hspan.trans hspan'.symm)
      exact ⟨rfl, rfl⟩
    | _ =>
      obtain rfl := List.head_eq_of_cons_eq hall
      simp_all

/-- Among the pieces the element is a short tag, or it encloses items of which its
children are made. -/
def Element.StandsAmong (pieces : List Piece) (e : Element) : Prop :=
  (∃ p ∈ pieces, ∃ content, p.markup = .startTag content true ∧ e.span = p.span)
    ∨ ∃ inner, e.Encloses pieces inner ∧ e.children = Item.children inner

theorem Element.StandsAmong.append {e : Element} {pieces : List Piece} (h : e.StandsAmong pieces)
    (front back : List Piece) : e.StandsAmong (front ++ (pieces ++ back)) := by
  obtain ⟨p, hp, hshort⟩ | ⟨inner, hencloses, hchildren⟩ := h
  · exact .inl ⟨p, List.mem_append_right _ (List.mem_append_left _ hp), hshort⟩
  · exact .inr ⟨inner, hencloses.append front back, hchildren⟩

theorem Element.StandsAmong.behind {e : Element} {pieces : List Piece} (h : e.StandsAmong pieces)
    (front : List Piece) : e.StandsAmong (front ++ pieces) := by
  have hmore := h.append front []
  rwa [List.append_nil] at hmore

/-- Only elements hold elements. -/
theorem Node.Holds.exists_element {n : Node} {e : Element} (h : n.Holds (.element e)) :
    ∃ d, n = .element d := by
  cases h with
  | self => exact ⟨e, rfl⟩
  | child => exact ⟨_, rfl⟩

/-- Each element that one of the items holds stands among the pieces. -/
theorem LaidOut.standsAmong {pieces : List Piece} {items : List Item} {d e : Element}
    (h : LaidOut pieces items) (hd : .node (.element d) ∈ items)
    (he : (Node.element d).Holds (.element e)) : e.StandsAmong pieces := by
  induction h generalizing d with
  | nil => cases hd
  | @text p _ _ _ _ _ _ _ ih =>
    exact (ih ((List.mem_cons.mp hd).resolve_left nofun) he).behind [p]
  | @cdata p _ _ _ _ _ ih => exact (ih ((List.mem_cons.mp hd).resolve_left nofun) he).behind [p]
  | @skipped p _ _ _ _ _ ih => exact (ih ((List.mem_cons.mp hd).resolve_left nofun) he).behind [p]
  | @empty p _ _ _ _ hmarkup _ hchildren hspan _ ih =>
    rcases List.mem_cons.mp hd with hd | hd
    · obtain rfl := Node.element.inj (Item.node.inj hd)
      cases he with
      | self => exact .inl ⟨p, List.mem_cons_self, _, hmarkup, hspan⟩
      | child hn => rw [hchildren] at hn; cases hn
    · exact (ih hd he).behind [p]
  | @element p q _ _ _ inside rest _ _ hopen _ hinside hclose hchildren hspan _ ih ih' =>
    rcases List.mem_cons.mp hd with hd | hd
    · obtain rfl := Node.element.inj (Item.node.inj hd)
      cases he with
      | self =>
        exact .inr ⟨_, ⟨[], p, _, inside, q, _, rest, rfl, hopen, hclose, hspan, hinside⟩,
          hchildren⟩
      | child hn he =>
        obtain ⟨d', rfl⟩ := he.exists_element
        rw [hchildren] at hn
        exact (ih (Item.mem_of_mem_children hn) he).append [p] (q :: rest)
    · have hmore := (ih' hd he).behind (p :: (inside ++ [q]))
      rwa [List.cons_append, List.append_assoc] at hmore

/-- A place among pieces is told by the offset there. -/
theorem Piece.split_unique {before before' after after' : List Piece} {p p' : Piece}
    (hnodup : ((before ++ p :: after).map Piece.offset).Nodup)
    (hoffset : p.offset = p'.offset) (h : before ++ p :: after = before' ++ p' :: after') :
    p = p' ∧ after = after' := by
  have hp' : p' ∈ before ++ p :: after := h ▸ List.mem_append_right _ List.mem_cons_self
  obtain rfl : p = p' := List.inj_on_of_nodup_map hnodup
    (List.mem_append_right _ List.mem_cons_self) hp' hoffset
  have honce := (List.nodup_cons.mp (List.nodup_middle.mp hnodup.of_map)).1
  rw [List.mem_append, not_or] at honce
  obtain ⟨-, -, hafter⟩ := (List.append_cons_inj_of_notMem honce.1 honce.2).mp h
  exact ⟨rfl, hafter⟩

/-- Between the tags of an element stand the items that its children are made of,
and no others. -/
theorem Element.Encloses.children_eq {e : Element} {pieces : List Piece} {items : List Item}
    (hnodup : (pieces.map Piece.offset).Nodup) (hamong : e.StandsAmong pieces)
    (h : e.Encloses pieces items) : e.children = Item.children items := by
  obtain ⟨before, p, content, inside, q, name, after, rfl, hopen, hclose, hspan, hinside⟩ := h
  obtain ⟨p', hp', content', hshort, hspan'⟩ | ⟨inner, hinner, hchildren⟩ := hamong
  · obtain ⟨before', after', hpieces⟩ := List.append_of_mem hp'
    have hoffset : p.offset = p'.offset := (Span.mk.inj (hspan.symm.trans hspan')).1
    obtain ⟨rfl, -⟩ := Piece.split_unique hnodup hoffset hpieces
    rw [hopen] at hshort
    cases hshort
  · obtain ⟨before', p', content', inside', q', name', after', hpieces, -, hclose', hspan',
      hinside'⟩ := hinner
    have hoffset : p.offset = p'.offset := (Span.mk.inj (hspan.symm.trans hspan')).1
    obtain ⟨rfl, hafter⟩ := Piece.split_unique hnodup hoffset hpieces
    obtain ⟨-, rfl⟩ := hinside.unique hinside' hclose hclose' hafter
    exact hchildren

-- ========================================================= order of pieces

namespace Piece

theorem offset_lt_stop {p : Piece} (h : p.markup.written ≠ []) : p.offset < p.span.stop := by
  obtain ⟨c, cs, hwritten⟩ := List.exists_cons_of_ne_nil h
  show p.offset < p.offset + byteLength p.markup.written
  rw [hwritten, byteLength_cons]
  have := c.utf8Size_pos
  omega

/-- Pieces take something each, and stand one behind the other from the offset on. -/
theorem ofChars_ordered (offset : Nat) (cs : List Char) :
    (∀ p ∈ (ofChars offset cs).1, offset ≤ p.offset ∧ p.offset < p.span.stop)
      ∧ (ofChars offset cs).1.Pairwise fun p q => p.span.stop ≤ q.offset := by
  induction hn : cs.length using Nat.strongRecOn generalizing offset cs with
  | ind n ih =>
    cases cs with
    | nil =>
      rw [ofChars]
      exact ⟨fun p hp => absurd hp List.not_mem_nil, .nil⟩
    | cons c cs =>
      cases hcut : Markup.cut c cs with
      | error e =>
        rw [ofChars]
        split
        · exact ⟨fun p hp => absurd hp List.not_mem_nil, .nil⟩
        · next hcut' => rw [hcut] at hcut'; cases hcut'
      | ok found =>
        obtain ⟨m, after⟩ := found
        obtain ⟨hlater, hordered⟩ := ih after.length (hn ▸ Markup.length_cut hcut)
          (offset + byteLength m.written) after rfl
        have hwritten : m.written ≠ [] := by
          intro hnil
          have hlength := Markup.length_cut hcut
          rw [Markup.cut_written hcut, hnil, List.nil_append] at hlength
          exact Nat.lt_irrefl _ hlength
        rw [ofChars_of_cut hcut]
        refine ⟨fun p hp => ?_, List.pairwise_cons.mpr ⟨fun p hp => (hlater p hp).1, hordered⟩⟩
        rcases List.mem_cons.mp hp with rfl | hp
        · exact ⟨Nat.le_refl _, offset_lt_stop hwritten⟩
        · obtain ⟨hstart, hstop⟩ := hlater p hp
          exact ⟨by omega, hstop⟩

theorem offsets_nodup (offset : Nat) (cs : List Char) :
    ((ofChars offset cs).1.map Piece.offset).Nodup := by
  obtain ⟨hsize, hordered⟩ := ofChars_ordered offset cs
  refine List.pairwise_map.mpr (hordered.imp_of_mem fun {p q} hp _ hstop heq => ?_)
  have hsize := (hsize p hp).2
  omega

end Piece

-- ========================================================== the invariant

namespace Assembly

/-- What was taken since the innermost element was opened is laid out as items, of
which its children are collected; and likewise outwards. -/
inductive StackLaidOut : List Piece → List OpenElement → Prop where
  | nil (taken : List Piece) : StackLaidOut taken []
  | opened {before inside : List Piece} {p : Piece} {content : List Char} {items : List Item}
      {top : OpenElement} {outer : List OpenElement} :
      StackLaidOut before outer → p.markup = .startTag content false → p.offset = top.start →
        Tag.read (p.offset + 1) content = .ok top.tag → LaidOut inside items →
          top.children = items.foldl Item.collect [] →
            StackLaidOut (before ++ p :: inside) (top :: outer)

/-- Among what was taken are the pieces of the root. -/
def RootLaidOut (taken : List Piece) (root : Option Element) : Prop :=
  ∀ e, root = some e → ∃ prolog body epilog,
    taken = prolog ++ (body ++ epilog) ∧ LaidOut body [.node (.element e)]

/-- What is under construction is laid out. -/
structure IsLaidOut (taken : List Piece) (a : Assembly) : Prop where
  stack : StackLaidOut taken a.stack
  root : RootLaidOut taken a.root

theorem start_isLaidOut : IsLaidOut [] start := ⟨.nil [], nofun⟩

variable {taken more : List Piece} {a after : Assembly}

theorem RootLaidOut.append {root : Option Element} (h : RootLaidOut taken root)
    (more : List Piece) : RootLaidOut (taken ++ more) root := by
  intro e he
  obtain ⟨prolog, body, epilog, rfl, hbody⟩ := h e he
  exact ⟨prolog, body, epilog ++ more, by simp, hbody⟩

-- ============================================================== one piece

/-- One more item in the innermost open element. -/
def put (a : Assembly) (i : Item) : Assembly :=
  match a.stack with
  | [] => a
  | top :: outer =>
    { a with stack := { top with children := Item.collect top.children i } :: outer }

theorem put_cons (top : OpenElement) (outer : List OpenElement) (root : Option Element) (i : Item) :
    put ⟨top :: outer, root⟩ i
      = ⟨{ top with children := Item.collect top.children i } :: outer, root⟩ := rfl

theorem put_isLaidOut {i : Item} (hstack : StackLaidOut taken a.stack)
    (hroot : RootLaidOut (taken ++ more) a.root) (hi : LaidOut more [i]) :
    (a.put i).IsLaidOut (taken ++ more) := by
  obtain ⟨stack, root⟩ := a
  cases hstack with
  | nil => exact ⟨.nil _, hroot⟩
  | opened houter hopen hstart htag hinside hchildren =>
    refine ⟨?_, hroot⟩
    rw [List.append_assoc, List.cons_append]
    refine .opened houter hopen hstart htag (hinside.append hi) ?_
    rw [List.foldl_append, hchildren]
    rfl

/-- A complete element is an item of the one around it, or the root. -/
theorem addElement_isLaidOut {e : Element} (hstack : StackLaidOut taken a.stack)
    (hroot : RootLaidOut (taken ++ more) a.root) (he : LaidOut more [.node (.element e)])
    (h : a.addElement e = .ok after) : after.IsLaidOut (taken ++ more) := by
  unfold addElement at h
  split at h
  · next hs =>
    split at h
    · cases h
    · obtain rfl := Except.ok.inj h
      refine ⟨hs ▸ .nil _, fun d hd => ?_⟩
      obtain rfl := Option.some.inj hd
      exact ⟨taken, more, [], by rw [List.append_nil], he⟩
  · obtain rfl := Except.ok.inj h
    exact put_isLaidOut hstack hroot he

theorem isAfterElement_cons (top : OpenElement) (outer : List OpenElement) (root : Option Element) :
    isAfterElement ⟨top :: outer, root⟩ = Item.endsInElement top.children := rfl

/-- A run of text is one more item, whether it is kept or not. -/
theorem step_text {raw : List Char} {content : String} {p : Piece}
    (hp : p.markup = .text raw) (h : unescape raw = .ok content) :
    a.step p = .ok (a.put (.node (.text content p.span))) := by
  obtain ⟨stack, root⟩ := a
  simp only [step, hp, h]
  cases stack with
  | nil =>
    split
    · rfl
    · rfl
  | cons top outer =>
    rw [isAfterElement_cons, put_cons, Item.collect_text]
    split
    · rfl
    · rfl

theorem put_skipped (a : Assembly) : a.put .skipped = a := by
  obtain ⟨stack, root⟩ := a
  cases stack with
  | nil => rfl
  | cons top outer => rfl

/-- A piece that is taken keeps all laid out. -/
theorem step_isLaidOut {p : Piece} (ha : a.IsLaidOut taken) (h : a.step p = .ok after) :
    after.IsLaidOut (taken ++ [p]) := by
  have hroot := ha.root.append [p]
  cases hp : p.markup with
  | startTag content selfClosing =>
    cases htag : Tag.read (p.offset + 1) content with
    | error e =>
      simp only [step, hp, htag, bind, Except.bind] at h
      cases h
    | ok tag =>
      simp only [step, hp, htag, bind, Except.bind] at h
      cases selfClosing with
      | true => exact addElement_isLaidOut ha.stack hroot (.empty hp htag rfl rfl .nil) h
      | false =>
        obtain rfl := Except.ok.inj h
        exact ⟨.opened ha.stack hp rfl htag .nil rfl, hroot⟩
  | endTag content =>
    simp only [step, hp, close] at h
    split at h
    · cases h
    · next top outer hs =>
      split at h
      · have hstack := ha.stack
        rw [hs] at hstack
        cases hstack with
        | opened houter hopen hstart htag hinside hchildren =>
          rw [List.append_assoc, List.cons_append] at hroot ⊢
          have hreverse : top.children.reverse = Item.children _ := congrArg List.reverse hchildren
          have helement := LaidOut.element (e := ⟨top.tag, top.children.reverse, _⟩) hopen htag
            hinside hp hreverse (by rw [hstart]) .nil
          exact addElement_isLaidOut (a := ⟨outer, a.root⟩) houter hroot helement h
      · cases h
  | text raw =>
    cases hunescape : unescape raw with
    | error fault =>
      simp only [step, hp, hunescape] at h
      cases h
    | ok content =>
      rw [step_text hp hunescape] at h
      obtain rfl := Except.ok.inj h
      exact put_isLaidOut ha.stack hroot (.text hp hunescape .nil)
  | cdata content =>
    simp only [step, hp] at h
    obtain rfl := Except.ok.inj h
    exact put_isLaidOut ha.stack hroot (.cdata hp .nil)
  | skipped written =>
    simp only [step, hp] at h
    obtain rfl := Except.ok.inj h
    rw [← put_skipped a]
    exact put_isLaidOut ha.stack hroot (.skipped hp .nil)

/-- So do all pieces. -/
theorem run_isLaidOut {pieces : List Piece} (ha : a.IsLaidOut taken)
    (h : a.run pieces = .ok after) : after.IsLaidOut (taken ++ pieces) := by
  induction pieces generalizing a taken with
  | nil =>
    obtain rfl := Except.ok.inj h
    rwa [List.append_nil]
  | cons p pieces ih =>
    cases hstep : a.step p with
    | error e =>
      simp only [run, hstep, bind, Except.bind] at h
      cases h
    | ok next =>
      simp only [run, hstep, bind, Except.bind] at h
      have hlast := ih (step_isLaidOut ha hstep) h
      rwa [List.append_assoc] at hlast

end Assembly

-- ============================================================== documents

namespace Document

variable {source : String} {doc : Document}

/-- The pieces of a document that is read are those of the root, with others before
and behind. -/
theorem root_laidOut (h : read source = .ok doc) : ∃ prolog body epilog,
    pieces source = prolog ++ (body ++ epilog) ∧ LaidOut body [.node (.element doc.root)] := by
  simp only [read] at h
  cases hrun : Assembly.start.run (Piece.ofChars 0 (withoutByteOrderMark source.toList)).1 with
  | error e =>
    simp only [hrun, bind, Except.bind] at h
    cases h
  | ok last =>
    have hlast := Assembly.run_isLaidOut Assembly.start_isLaidOut hrun
    simp only [hrun, bind, Except.bind] at h
    split at h
    · cases h
    · cases hfinish : last.finish with
      | error e =>
        simp only [hfinish] at h
        cases h
      | ok root =>
        simp only [hfinish, pure, Except.pure] at h
        obtain rfl := Except.ok.inj h
        exact hlast.root root (Assembly.finish_eq_ok hfinish)

/-- A piece inside the root is one of those that are laid out. -/
theorem mem_of_inside {prolog body epilog : List Piece} {e : Element} {p : Piece}
    (hpieces : pieces source = prolog ++ (body ++ epilog))
    (hbody : LaidOut body [.node (.element e)]) (hp : p ∈ pieces source)
    (hstart : e.span.start ≤ p.offset) (hstop : p.offset < e.span.stop) : p ∈ body := by
  obtain ⟨hsize, hordered⟩ := Piece.ofChars_ordered 0 (withoutByteOrderMark source.toList)
  obtain ⟨⟨first, hfirst, hfirstStart⟩, last, hlast, hlastStop⟩ := hbody.element_bounds
  have hpstop := (hsize p hp).2
  change (pieces source).Pairwise _ at hordered
  rw [hpieces] at hp hordered
  obtain ⟨-, hrest, hprolog⟩ := List.pairwise_append.mp hordered
  obtain ⟨-, -, hepilog⟩ := List.pairwise_append.mp hrest
  rcases List.mem_append.mp hp with hp | hp
  · have hbefore := hprolog p hp first (List.mem_append_left _ hfirst)
    omega
  · rcases List.mem_append.mp hp with hp | hp
    · exact hp
    · have hbehind := hepilog last hlast p hp
      omega

end Document

end DynamicSql.Xml
