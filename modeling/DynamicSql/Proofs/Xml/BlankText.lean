/-
Which runs of text are missing from the tree of a document.

When a run of text is taken it is known what stands before it and not yet what
stands behind. So a blank run is left out if an element comes before it, with
nothing in between but what is left out as well or passed over
(`Item.BehindElement`). What comes behind it has no part in this.

# Blank runs between elements

These are left out as they should be, as indentation. But so is a blank run that
stands behind an element and before an end tag, other text or a CDATA section
(`Document.text_missing_iff`), and there it is part of what the author wrote
(`Document.trailing_text_missing`).
-/
import DynamicSql.Proofs.Xml.Layout
import Mathlib.Data.List.Induction

namespace DynamicSql.Xml

-- ============================================================ around a text

namespace Item

/-- Blank text, and what is passed over. -/
def IsGap : Item → Prop
  | .node (.text content _) => Text.allBlank content = true
  | .node _ => False
  | .skipped => True

/-- The items end with an element, gaps apart. Blank text in such a gap is itself
behind the element. -/
def BehindElement (before : List Item) : Prop :=
  ∃ front e gap, before = front ++ .node (.element e) :: gap ∧ ∀ i ∈ gap, i.IsGap

/-- The items begin with an element, gaps apart. -/
def BeforeElement (after : List Item) : Prop :=
  ∃ gap e back, after = gap ++ .node (.element e) :: back ∧ ∀ i ∈ gap, i.IsGap

/-- Where a run of text begins. -/
def textStart? : Item → Option Nat
  | .node (.text _ span) => some span.start
  | _ => none

variable {items before after : List Item} {i : Item}

theorem behindElement_nil : ¬BehindElement [] := by
  rintro ⟨front, e, gap, h, -⟩
  simp at h

/-- An element is behind itself; behind a gap stands what stands before it. -/
theorem behindElement_concat :
    BehindElement (items ++ [i])
      ↔ (∃ e, i = .node (.element e)) ∨ i.IsGap ∧ BehindElement items := by
  constructor
  · rintro ⟨front, e, gap, h, hgap⟩
    rcases List.eq_nil_or_concat gap with rfl | ⟨gap, j, rfl⟩
    · exact .inl ⟨e, List.head_eq_of_cons_eq (List.append_inj' h rfl).2⟩
    · rw [List.concat_eq_append] at h hgap
      rw [← List.cons_append, ← List.append_assoc] at h
      obtain ⟨rfl, hlast⟩ := List.append_inj' h rfl
      obtain rfl := List.head_eq_of_cons_eq hlast
      exact .inr ⟨hgap _ (by simp), front, e, gap, rfl, fun k hk => hgap k (by simp [hk])⟩
  · rintro (⟨e, rfl⟩ | ⟨hi, front, e, gap, rfl, hgap⟩)
    · exact ⟨items, e, [], rfl, nofun⟩
    · refine ⟨front, e, gap ++ [i], by simp, fun j hj => ?_⟩
      rcases List.mem_append.mp hj with hj | hj
      · exact hgap j hj
      · rwa [List.mem_singleton.mp hj]

/-- The last child is an element exactly if an element stands at the end, gaps
apart. -/
theorem endsInElement_iff :
    endsInElement (items.foldl collect []) = true ↔ BehindElement items := by
  induction items using List.reverseRecOn with
  | nil => exact iff_of_false Bool.false_ne_true behindElement_nil
  | append_singleton items i ih =>
    rw [List.foldl_append, List.foldl_cons, List.foldl_nil, behindElement_concat]
    cases i with
    | skipped => simp [collect, IsGap, ih]
    | node n =>
      cases n with
      | element e => simp [collect, endsInElement]
      | cdata content span => simp [collect, endsInElement, IsGap]
      | text content span =>
        rw [collect_text]
        cases hblank : Text.allBlank content with
        | false => simp [endsInElement, IsGap, hblank]
        | true =>
          cases hends : endsInElement (items.foldl collect []) with
          | false =>
            have hbehind : ¬BehindElement items := fun h => Bool.false_ne_true (hends ▸ ih.mpr h)
            simp [endsInElement, IsGap, hblank, hbehind]
          | true => simp [IsGap, hblank, ih.mp hends, hends]

/-- A run of text that stands once among the items is missing from the children
exactly if it is blank and behind an element. -/
theorem text_not_mem_children_iff {content : String} {span : Span}
    (hbefore : .node (.text content span) ∉ before) (hafter : .node (.text content span) ∉ after) :
    .text content span ∉ children (before ++ .node (.text content span) :: after)
      ↔ Text.allBlank content = true ∧ BehindElement before := by
  rw [children, List.mem_reverse, List.foldl_append, List.foldl_cons,
    mem_foldl_collect_of_not_mem hafter, ← endsInElement_iff, collect_text]
  have hnot : .text content span ∉ before.foldl collect [] := by
    rw [mem_foldl_collect_of_not_mem hbefore]
    exact List.not_mem_nil
  split
  · next hboth => exact iff_of_true hnot (Bool.and_eq_true_iff.mp hboth)
  · next hboth =>
    exact iff_of_false (fun h => h List.mem_cons_self)
      fun h => hboth (Bool.and_eq_true_iff.mpr h)

end Item

namespace LaidOut

/-- The runs of text among the items begin where pieces do, in the same order. -/
theorem textStarts_sublist {pieces : List Piece} {items : List Item} (h : LaidOut pieces items) :
    (items.filterMap Item.textStart?).Sublist (pieces.map Piece.offset) := by
  induction h with
  | nil => exact .slnil
  | text _ _ _ ih => exact ih.cons_cons _
  | cdata _ _ ih => exact ih.cons _
  | skipped _ _ ih => exact ih.cons _
  | empty _ _ _ _ _ ih => exact ih.cons _
  | element _ _ _ _ _ _ _ _ ih =>
    rw [List.map_cons, List.map_append]
    exact .cons _ ((ih.cons _).trans (List.sublist_append_right _ _))

/-- So each of them stands once, if no two pieces begin at one place. -/
theorem text_not_mem {pieces : List Piece} {before after : List Item} {content : String}
    {span : Span} (h : LaidOut pieces (before ++ .node (.text content span) :: after))
    (hnodup : (pieces.map Piece.offset).Nodup) :
    .node (.text content span) ∉ before ∧ .node (.text content span) ∉ after := by
  have honce := hnodup.sublist h.textStarts_sublist
  rw [List.filterMap_append, List.filterMap_cons] at honce
  obtain ⟨hnot, -⟩ := List.nodup_cons.mp (List.nodup_middle.mp honce)
  rw [List.mem_append, not_or] at hnot
  exact ⟨fun hmem => hnot.1 (List.mem_filterMap.mpr ⟨_, hmem, rfl⟩),
    fun hmem => hnot.2 (List.mem_filterMap.mpr ⟨_, hmem, rfl⟩)⟩

end LaidOut

theorem Element.Encloses.text_not_mem {e : Element} {pieces : List Piece} {before after : List Item}
    {content : String} {span : Span}
    (h : e.Encloses pieces (before ++ .node (.text content span) :: after))
    (hnodup : (pieces.map Piece.offset).Nodup) :
    .node (.text content span) ∉ before ∧ .node (.text content span) ∉ after := by
  obtain ⟨front, p, _, inside, q, _, back, rfl, -, -, -, hinside⟩ := h
  have hsublist : inside.Sublist (front ++ p :: (inside ++ q :: back)) :=
    ((List.sublist_append_left _ _).cons _).trans (List.sublist_append_right _ _)
  exact hinside.text_not_mem (hnodup.sublist (hsublist.map _))

-- ============================================================== documents

namespace Document

variable {source : String} {doc : Document}

/-- **What becomes of runs of text** inside the root of a document that is read.
Each stands directly between the tags of an element there, with some items before
and some behind it. From the children of this element it is missing exactly if it is
blank and stands behind an element. So it is missing exactly if it is blank and stands
between two elements, unless it is blank, behind an element and not before another. -/
theorem text_missing_iff (h : read source = .ok doc) :
    (∀ p ∈ pieces source, ∀ raw, p.markup = .text raw → doc.root.span.start ≤ p.offset →
        p.offset < doc.root.span.stop → ∃ content e before after, unescape raw = .ok content
          ∧ (Node.element doc.root).Holds (.element e)
          ∧ e.Encloses (pieces source) (before ++ .node (.text content p.span) :: after))
      ∧ ∀ (e : Element) (before after : List Item) (content : String) (span : Span),
        (Node.element doc.root).Holds (.element e) →
          e.Encloses (pieces source) (before ++ .node (.text content span) :: after) →
            (.text content span ∉ e.children
              ↔ Text.allBlank content = true ∧ Item.BehindElement before)
            ∧ ((.text content span ∉ e.children
                ↔ Text.allBlank content = true ∧ Item.BehindElement before
                  ∧ Item.BeforeElement after)
              ↔ (Text.allBlank content = true → Item.BehindElement before →
                Item.BeforeElement after)) := by
  obtain ⟨prolog, body, epilog, hpieces, hbody⟩ := root_laidOut h
  have hnodup : ((pieces source).map Piece.offset).Nodup := Piece.offsets_nodup _ _
  constructor
  · intro p hp raw hraw hstart hstop
    obtain ⟨content, hunescape, hmem | ⟨d, e, before, after, hmem, hholds, hencloses⟩⟩ :=
      hbody.text_standsIn (mem_of_inside hpieces hbody hp hstart hstop) hraw
    · simp at hmem
    · obtain rfl := Node.element.inj (Item.node.inj (List.mem_singleton.mp hmem))
      exact ⟨content, e, before, after, hunescape, hholds,
        hpieces ▸ hencloses.append prolog epilog⟩
  · intro e before after content span hholds hencloses
    have hamong : e.StandsAmong (pieces source) :=
      hpieces ▸ (hbody.standsAmong List.mem_cons_self hholds).append prolog epilog
    have hmissing : .text content span ∉ e.children
        ↔ Text.allBlank content = true ∧ Item.BehindElement before := by
      obtain ⟨hbefore, hafter⟩ := hencloses.text_not_mem hnodup
      rw [hencloses.children_eq hnodup hamong]
      exact Item.text_not_mem_children_iff hbefore hafter
    refine ⟨hmissing, ?_⟩
    rw [hmissing]
    constructor
    · intro hiff hblank hbehind
      exact (hiff.mp ⟨hblank, hbehind⟩).2.2
    · intro hbefore
      exact ⟨fun ⟨hblank, hbehind⟩ => ⟨hblank, hbehind, hbefore hblank hbehind⟩,
        fun ⟨hblank, hbehind, _⟩ => ⟨hblank, hbehind⟩⟩

/-- A blank behind an element and before the end tag. -/
def trailingSource : String := "<a><b/> </a>"

def trailingBlank : Piece := ⟨7, .text [' ']⟩

/-- Its elements, the outer one first. -/
def trailingElements : Element × Element :=
  let inner : Element := ⟨⟨⟨none, "b"⟩, ⟨4, 5⟩, []⟩, [], ⟨3, 7⟩⟩
  (⟨⟨⟨none, "a"⟩, ⟨1, 2⟩, []⟩, [.element inner], ⟨0, 12⟩⟩, inner)

theorem pieces_trailingSource : Piece.ofChars 0 (withoutByteOrderMark trailingSource.toList)
    = ([⟨0, .startTag ['a'] false⟩, ⟨3, .startTag ['b'] true⟩, trailingBlank,
      ⟨8, .endTag ['a']⟩], none) := by
  decide +kernel

theorem read_trailingSource :
    read trailingSource = .ok ⟨trailingElements.1, ⟨0, 12⟩⟩ := by
  have houter : Tag.read 1 ['a'] = .ok trailingElements.1.tag := by decide +kernel
  have hinner : Tag.read 4 ['b'] = .ok trailingElements.2.tag := by decide +kernel
  have hblank : unescape [' '] = .ok " " := by decide +kernel
  simp only [read, pieces_trailingSource, Assembly.run, Assembly.step, trailingBlank, houter,
    hinner, hblank]
  rfl

/-- Its root encloses the inner element and then the blank. -/
theorem trailing_encloses : trailingElements.1.Encloses (pieces trailingSource)
    ([.node (.element trailingElements.2)] ++ .node (.text " " trailingBlank.span) :: []) := by
  refine ⟨[], ⟨0, .startTag ['a'] false⟩, ['a'], [⟨3, .startTag ['b'] true⟩, trailingBlank],
    ⟨8, .endTag ['a']⟩, ['a'], [], ?_, rfl, rfl, rfl, ?_⟩
  · rw [pieces, pieces_trailingSource]
    rfl
  · refine .empty rfl ?_ rfl rfl (.text rfl ?_ .nil)
    · decide +kernel
    · decide +kernel

theorem text_missing_iff_of_trailing :
    read trailingSource = .ok ⟨trailingElements.1, ⟨0, 12⟩⟩
      ∧ trailingElements.1.Encloses (pieces trailingSource)
        ([.node (.element trailingElements.2)] ++ .node (.text " " trailingBlank.span) :: [])
      ∧ .text " " trailingBlank.span ∉ trailingElements.1.children := by
  obtain ⟨-, hmissing⟩ := text_missing_iff read_trailingSource
  have hbehind : Item.BehindElement [.node (.element trailingElements.2)] :=
    ⟨[], trailingElements.2, [], rfl, nofun⟩
  exact ⟨read_trailingSource, trailing_encloses,
    (hmissing _ _ _ _ _ (.self _) trailing_encloses).1.mpr ⟨by decide, hbehind⟩⟩

/-- Blank text behind the last element is missing, though no element follows. -/
theorem trailing_text_missing :
    read trailingSource = .ok ⟨trailingElements.1, ⟨0, 12⟩⟩
      ∧ trailingElements.1.Encloses (pieces trailingSource)
        ([.node (.element trailingElements.2)] ++ .node (.text " " trailingBlank.span) :: [])
      ∧ .text " " trailingBlank.span ∉ trailingElements.1.children
      ∧ ¬Item.BeforeElement [] := by
  refine ⟨read_trailingSource, trailing_encloses, by simp [trailingElements], ?_⟩
  rintro ⟨gap, e, back, h, -⟩
  simp at h

end Document

end DynamicSql.Xml
