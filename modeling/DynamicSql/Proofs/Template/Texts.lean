/-
What a run of characters becomes by itself.

A run is cut into segments and each segment is read as a piece (`Piece.IsOf`). If
no placeholder is among them the run is literal text, and else it is a text with
the pieces (`Node.ofText_eq_ok_iff`). So the node is the pieces one after the
other, with the cuts between literal ones left out of account
(`Node.marks_ofText`).

# Classes

A text is literal, has parameters only, or is interpolated. It is the same whether
that is asked of the segments or of the node that they become
(`Node.isText_ofText`), so what can be one text is seen before anything is built.
-/
import DynamicSql.Proofs.Template.Built
import Mathlib.Data.List.Forall2

namespace DynamicSql.Template

variable {text : String} {span : Option Span} {segments : List Segment} {pieces : List Piece}
  {n : Node} {k : TextClass}

-- ============================================================== reading

theorem exists_of_forall₂ {α β : Type} {r : α → β → Prop} {as : List α} {bs : List β} {a : α}
    (h : List.Forall₂ r as bs) (ha : a ∈ as) : ∃ b ∈ bs, r a b := by
  induction h with
  | nil => cases ha
  | @cons a' b as bs hr _ ih =>
    rcases List.mem_cons.mp ha with rfl | ha
    · exact ⟨b, List.mem_cons_self, hr⟩
    · obtain ⟨c, hc, hrc⟩ := ih ha
      exact ⟨c, List.mem_cons_of_mem _ hc, hrc⟩

theorem exists_forall₂ {α β : Type} {r : α → β → Prop} {as : List α}
    (h : ∀ a ∈ as, ∃ b, r a b) : ∃ bs, List.Forall₂ r as bs := by
  induction as with
  | nil => exact ⟨[], .nil⟩
  | cons a rest ih =>
    obtain ⟨hfirst, hrest⟩ := List.forall_mem_cons.mp h
    obtain ⟨b, hb⟩ := hfirst
    obtain ⟨bs, hbs⟩ := ih hrest
    exact ⟨b :: bs, .cons hb hbs⟩

/-- A list is read just if each element of it is. -/
theorem mapM_eq_ok_iff {ε α β : Type} {f : α → Except ε β} {as : List α} {bs : List β} :
    as.mapM f = .ok bs ↔ List.Forall₂ (fun a b => f a = .ok b) as bs := by
  induction as generalizing bs with
  | nil =>
    rw [List.forall₂_nil_left_iff]
    constructor
    · exact fun h => (Except.ok.inj h).symm
    · rintro rfl
      rfl
  | cons a rest ih =>
    rw [List.mapM_cons]
    constructor
    · intro h
      obtain ⟨b, hb, h⟩ := Except.bind_eq_ok.mp h
      obtain ⟨others, hothers, h⟩ := Except.bind_eq_ok.mp h
      obtain rfl := Except.ok.inj h
      exact .cons hb (ih.mp hothers)
    · rintro (_ | ⟨hb, hothers⟩)
      exact Except.bind_eq_ok.mpr ⟨_, hb, Except.bind_eq_ok.mpr ⟨_, ih.mpr hothers, rfl⟩⟩

/-- What a segment is read as: text as it is, an expression unread, and a
parameter as its content is read. -/
inductive Piece.IsOf : Segment → Piece → Prop where
  | literal (text : String) : IsOf (.literal text) (.literal text)
  | interpolation (expression : String) :
      IsOf (.placeholder .interpolation expression) (.interpolation expression)
  | parameter {content : String} {m : Parameter.Mapping} :
      Parameter.Mapping.read content = .ok m →
      IsOf (.placeholder .parameter content) (.parameter m)

theorem Piece.ofSegment_eq_ok_iff {s : Segment} {p : Piece} :
    Piece.ofSegment span s = .ok p ↔ Piece.IsOf s p := by
  constructor
  · intro h
    unfold ofSegment at h
    split at h
    · obtain rfl := Except.ok.inj h
      exact .literal _
    · obtain rfl := Except.ok.inj h
      exact .interpolation _
    · split at h
      · next m hm =>
        obtain rfl := Except.ok.inj h
        exact .parameter hm
      · cases h
  · rintro (_ | _ | hm)
    · rfl
    · rfl
    · rw [ofSegment, hm]

/-- A run becomes a text with its pieces, or literal text if none of them is a
placeholder. -/
theorem Node.ofText_eq_ok_iff : Node.ofText text span = .ok n
    ↔ ∃ pieces, List.Forall₂ Piece.IsOf (Segment.split text) pieces
      ∧ n = if (Segment.split text).any isPlaceholder then .placeholders ⟨pieces, span⟩
        else .text (String.join ((Segment.split text).map literalText)) := by
  have hread : ∀ {pieces : List Piece},
      (Segment.split text).mapM (Piece.ofSegment span) = .ok pieces
        ↔ List.Forall₂ Piece.IsOf (Segment.split text) pieces := by
    intro pieces
    simp only [mapM_eq_ok_iff, Piece.ofSegment_eq_ok_iff]
  rw [Node.ofText]
  split
  · rw [Except.bind_eq_ok]
    constructor
    · rintro ⟨pieces, hpieces, h⟩
      exact ⟨pieces, hread.mp hpieces, (Except.ok.inj h).symm⟩
    · rintro ⟨pieces, hpieces, rfl⟩
      exact ⟨pieces, hread.mpr hpieces, rfl⟩
  · next hnone =>
    constructor
    · intro h
      -- Each segment is literal, and is read as what it is.
      have hliteral : ∀ s ∈ Segment.split text, ∃ p, Piece.IsOf s p := by
        intro s hs
        cases s with
        | literal content => exact ⟨_, .literal content⟩
        | placeholder kind content => exact absurd (List.any_eq_true.mpr ⟨_, hs, rfl⟩) hnone
      obtain ⟨pieces, hpieces⟩ := exists_forall₂ hliteral
      exact ⟨pieces, hpieces, (Except.ok.inj h).symm⟩
    · rintro ⟨pieces, -, rfl⟩
      rfl

/-- A run that is one literal segment becomes its text. -/
theorem Node.ofText_of_literal {content : String} (h : Segment.split text = [.literal content]) :
    Node.ofText text span = .ok (.text content) := by
  rw [Node.ofText, h]
  show Except.ok (Node.text (String.join [content])) = _
  rw [String.join_cons, String.join_nil, String.append_empty]

/-- A run is read if its parameters are. -/
theorem Node.exists_ofText (span : Option Span)
    (h : ∀ content, Segment.placeholder .parameter content ∈ Segment.split text →
      ∃ mapping, Parameter.Mapping.read content = .ok mapping) :
    ∃ n, Node.ofText text span = .ok n := by
  have hread : ∀ s ∈ Segment.split text, ∃ p, Piece.IsOf s p := by
    intro s hs
    cases s with
    | literal content => exact ⟨_, .literal content⟩
    | placeholder kind content =>
      cases kind with
      | interpolation => exact ⟨_, .interpolation content⟩
      | parameter =>
        obtain ⟨mapping, hmapping⟩ := h content hs
        exact ⟨_, .parameter hmapping⟩
  obtain ⟨pieces, hpieces⟩ := exists_forall₂ hread
  exact ⟨_, Node.ofText_eq_ok_iff.mpr ⟨pieces, hpieces, rfl⟩⟩

-- ============================================================== classes

/-- Texts of one class become one. -/
inductive TextClass where
  | literal
  /-- With parameters only. -/
  | parameters
  | interpolated
deriving DecidableEq, Repr, Inhabited

/-- The class of what these segments become. -/
inductive TextClass.Of (segments : List Segment) : TextClass → Prop where
  | literal : (∀ kind content, .placeholder kind content ∉ segments) → Of segments .literal
  | parameters {content : String} : .placeholder .parameter content ∈ segments →
      (∀ expression, .placeholder .interpolation expression ∉ segments) → Of segments .parameters
  | interpolated {expression : String} : .placeholder .interpolation expression ∈ segments →
      Of segments .interpolated

/-- The node is a text of this class. -/
inductive Node.IsText : Node → TextClass → Prop where
  | literal (content : String) : IsText (.text content) .literal
  | parameters {t : PlaceholderText} : (∀ expression, .interpolation expression ∉ t.pieces) →
      IsText (.placeholders t) .parameters
  | interpolated {t : PlaceholderText} {expression : String} :
      .interpolation expression ∈ t.pieces → IsText (.placeholders t) .interpolated

/-- The class of a text; other nodes have none. -/
def Node.textClass? : Node → Option TextClass
  | .text _ => some .literal
  | .placeholders t => some (if t.isInterpolated then .interpolated else .parameters)
  | _ => none

theorem PlaceholderText.isInterpolated_iff {t : PlaceholderText} :
    t.isInterpolated = true ↔ ∃ expression, .interpolation expression ∈ t.pieces := by
  rw [isInterpolated, List.any_eq_true]
  constructor
  · rintro ⟨p, hp, hsome⟩
    cases p with
    | interpolation expression => exact ⟨expression, hp⟩
    | literal _ | parameter _ => cases hsome
  · rintro ⟨expression, hp⟩
    exact ⟨_, hp, rfl⟩

theorem Node.isText_iff : n.IsText k ↔ n.textClass? = some k := by
  constructor
  · rintro (content | hnone | hsome)
    · rfl
    · next t =>
      have hplain : t.isInterpolated = false := Bool.eq_false_iff.mpr fun h => by
        obtain ⟨expression, hp⟩ := PlaceholderText.isInterpolated_iff.mp h
        exact hnone expression hp
      simp only [textClass?, hplain]
      rfl
    · simp only [textClass?, PlaceholderText.isInterpolated_iff.mpr ⟨_, hsome⟩]
      rfl
  · intro h
    cases n with
    | text content =>
      obtain rfl := Option.some.inj h
      exact .literal content
    | placeholders t =>
      obtain rfl := Option.some.inj h
      split
      · next hsome =>
        obtain ⟨expression, hp⟩ := PlaceholderText.isInterpolated_iff.mp hsome
        exact .interpolated hp
      · next hnone =>
        exact .parameters fun expression hp =>
          hnone (PlaceholderText.isInterpolated_iff.mpr ⟨expression, hp⟩)
    | bind | conditional | choose | foreach | sequence => cases h

theorem Node.textClass?_ofText (h : Node.ofText text span = .ok n) :
    n.textClass?.isSome = true := by
  rcases Node.ofText_eq_ok h with ⟨content, rfl⟩ | ⟨t, rfl⟩ <;> rfl

theorem TextClass.Of.unique {k' : TextClass} (h : Of segments k) (h' : Of segments k') :
    k = k' := by
  cases h with
  | literal hnone =>
    cases h' with
    | literal => rfl
    | parameters hmem => exact absurd hmem (hnone _ _)
    | interpolated hmem => exact absurd hmem (hnone _ _)
  | parameters hmem hplain =>
    cases h' with
    | literal hnone => exact absurd hmem (hnone _ _)
    | parameters => rfl
    | interpolated hmem' => exact absurd hmem' (hplain _)
  | interpolated hmem =>
    cases h' with
    | literal hnone => exact absurd hmem (hnone _ _)
    | parameters _ hplain => exact absurd hmem (hplain _)
    | interpolated => rfl

/-- An expression stands among the pieces just if it stands among the
segments. -/
theorem Piece.interpolation_mem_iff {expression : String}
    (h : List.Forall₂ Piece.IsOf segments pieces) :
    .interpolation expression ∈ pieces
      ↔ Segment.placeholder .interpolation expression ∈ segments := by
  constructor
  · intro hp
    obtain ⟨s, hs, hof⟩ := exists_of_forall₂ h.flip hp
    cases hof
    exact hs
  · intro hs
    obtain ⟨p, hp, hof⟩ := exists_of_forall₂ h hs
    cases hof
    exact hp

/-- A node is of the class that its segments are of. -/
theorem Node.isText_ofText (h : Node.ofText text span = .ok n) :
    n.IsText k ↔ TextClass.Of (Segment.split text) k := by
  obtain ⟨pieces, hpieces, rfl⟩ := Node.ofText_eq_ok_iff.mp h
  -- As each has one class only, it is enough to find one that both have.
  suffices hboth : ∃ k', TextClass.Of (Segment.split text) k' ∧ Node.IsText _ k' by
    obtain ⟨k', hof, htext⟩ := hboth
    rw [Node.isText_iff] at htext ⊢
    rw [htext]
    constructor
    · intro heq
      obtain rfl := Option.some.inj heq
      exact hof
    · intro hof'
      rw [hof.unique hof']
  split
  · next hany =>
    obtain ⟨s, hs, hplaceholder⟩ := List.any_eq_true.mp hany
    by_cases hsome : ∃ expression,
        Segment.placeholder .interpolation expression ∈ Segment.split text
    · obtain ⟨expression, hmem⟩ := hsome
      exact ⟨.interpolated, .interpolated hmem,
        .interpolated ((Piece.interpolation_mem_iff hpieces).mpr hmem)⟩
    · have hnone : ∀ expression,
          Segment.placeholder .interpolation expression ∉ Segment.split text :=
        fun expression hmem => hsome ⟨expression, hmem⟩
      refine ⟨.parameters, ?_, .parameters fun expression hp =>
        hnone expression ((Piece.interpolation_mem_iff hpieces).mp hp)⟩
      cases s with
      | literal content => cases hplaceholder
      | placeholder kind content =>
        cases kind with
        | interpolation => exact absurd hs (hnone content)
        | parameter => exact .parameters hs hnone
  · next hnone =>
    exact ⟨.literal, .literal fun kind content hmem =>
      hnone (List.any_eq_true.mpr ⟨_, hmem, rfl⟩), .literal _⟩

-- ================================================================ marks

/-- What is seen of a piece however literal text is cut: characters and
placeholders. -/
def Piece.marks : Piece → List (Char ⊕ Piece)
  | .literal text => text.toList.map .inl
  | piece => [.inr piece]

/-- The characters and placeholders of a text, in order. -/
def Node.marks : Node → List (Char ⊕ Piece)
  | .text content => content.toList.map .inl
  | .placeholders t => t.pieces.flatMap Piece.marks
  | _ => []

/-- A run becomes its segments as they were read. -/
theorem Node.marks_ofText (h : Node.ofText text span = .ok n) :
    ∃ pieces, List.Forall₂ Piece.IsOf (Segment.split text) pieces
      ∧ n.marks = pieces.flatMap Piece.marks := by
  obtain ⟨pieces, hpieces, rfl⟩ := Node.ofText_eq_ok_iff.mp h
  refine ⟨pieces, hpieces, ?_⟩
  split
  · rfl
  · next hnone =>
    show (String.join ((Segment.split text).map literalText)).toList.map Sum.inl = _
    clear h
    generalize Segment.split text = segments at hpieces hnone
    induction hpieces with
    | nil => rfl
    | cons hp _ ih =>
      rw [List.any_cons, Bool.or_eq_true, not_or] at hnone
      cases hp with
      | literal content =>
        simp only [List.map_cons, String.join_cons, String.toList_append, List.map_append,
          ih hnone.2, List.flatMap_cons, Piece.marks, literalText]
      | interpolation | parameter => exact absurd rfl hnone.1

end DynamicSql.Template
