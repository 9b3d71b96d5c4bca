/-
The parameters of a built template were read from placeholders.

Nothing else puts a mapping into a template. So what is known of mappings
that were read is known of all parameters of a script: that their properties
have no space around them, for one (`DynamicSql.Proofs.Parameter.Source`).

# Method

Building puts nodes together and merges texts. A statement about all parts of
a node is passed on by both (`DynamicSql.Proofs.Template.Built`), as long as it
is made of statements about single parts.
-/
import DynamicSql.Proofs.Template.Built
import DynamicSql.Proofs.Template.Parts

namespace DynamicSql

namespace Template

/-- True of a part that is no parameter, or one that was read. -/
def Part.WasRead : Part → Prop
  | .parameter m => ∃ content, Parameter.Mapping.read content = .ok m
  | _ => True

/-- All parts were read, whatever loops are around. -/
def Node.WasRead (n : Node) : Prop := ∀ around, ∀ p ∈ n.places around, p.part.WasRead

-- ================================================================= nodes

theorem wasRead_allPlaces {nodes : List Node} (h : ∀ n ∈ nodes, n.WasRead)
    (around : List LoopHead) : ∀ p ∈ Node.allPlaces around nodes, p.part.WasRead := by
  induction nodes with
  | nil =>
    intro p hp
    cases hp
  | cons n rest ih =>
    intro p hp
    rcases List.mem_append.mp hp with hp | hp
    · exact h n (List.mem_cons_self ..) around p hp
    · exact ih (fun m hm => h m (List.mem_cons_of_mem _ hm)) p hp

theorem wasRead_branches {branches : List Branch}
    (h : ∀ b ∈ branches.map Branch.body, b.node.WasRead) (around : List LoopHead) :
    ∀ p ∈ Branch.allPlaces around branches, p.part.WasRead := by
  induction branches with
  | nil =>
    intro p hp
    cases hp
  | cons branch rest ih =>
    obtain ⟨tag, test, ⟨own, node⟩, span⟩ := branch
    intro p hp
    rcases List.mem_append.mp hp with hp | hp
    · rcases List.mem_cons.mp hp with rfl | hp
      · trivial
      · exact h _ (List.mem_cons_self ..) around p hp
    · exact ih (fun b hb => h b (List.mem_cons_of_mem _ hb)) p hp

theorem wasRead_cases {cases : List Case}
    (h : ∀ b ∈ cases.map Case.body, b.node.WasRead) (around : List LoopHead) :
    ∀ p ∈ Case.allPlaces around cases, p.part.WasRead := by
  induction cases with
  | nil =>
    intro p hp
    cases hp
  | cons k rest ih =>
    obtain ⟨test, breaks, ⟨own, node⟩, span⟩ := k
    intro p hp
    rcases List.mem_cons.mp hp with rfl | hp
    · trivial
    · rcases List.mem_append.mp hp with hp | hp
      · exact h _ (List.mem_cons_self ..) around p hp
      · exact ih (fun b hb => h b (List.mem_cons_of_mem _ hb)) p hp

theorem Node.wasRead_conditional {first : Branch} {others : List Branch}
    {otherwise : Option Body}
    (h : ∀ b ∈ (Node.conditional first others otherwise).bodies, b.node.WasRead) :
    (Node.conditional first others otherwise).WasRead := by
  have hbranches : ∀ b ∈ (first :: others).map Branch.body, b.node.WasRead := fun b hb =>
    h b (List.mem_append_left otherwise.toList hb)
  have hall := wasRead_branches hbranches
  intro around p hp
  cases otherwise with
  | none =>
    have hmem : p ∈ Branch.allPlaces around (first :: others) ++ [] :=
      List.append_assoc .. ▸ hp
    rw [List.append_nil] at hmem
    exact hall around p hmem
  | some body =>
    have hmem : p ∈ Branch.allPlaces around (first :: others) ++ body.places around :=
      List.append_assoc .. ▸ hp
    rcases List.mem_append.mp hmem with hp | hp
    · exact hall around p hp
    · obtain ⟨own, node⟩ := body
      exact h _ (List.mem_append_right ((first :: others).map Branch.body)
        (List.mem_singleton.mpr rfl)) around p hp

theorem Node.wasRead_choose {cases : List Case} {otherwise : Option Body}
    {span : Option Span} (h : ∀ b ∈ (Node.choose cases otherwise span).bodies, b.node.WasRead) :
    (Node.choose cases otherwise span).WasRead := by
  have hall := wasRead_cases fun b hb => h b (List.mem_append_left otherwise.toList hb)
  intro around p hp
  cases otherwise with
  | none =>
    rcases List.mem_append.mp hp with hp | hp
    · exact hall around p hp
    · cases hp
  | some body =>
    rcases List.mem_append.mp hp with hp | hp
    · exact hall around p hp
    · obtain ⟨own, node⟩ := body
      exact h _ (List.mem_append_right (cases.map Case.body) (List.mem_singleton.mpr rfl))
        around p hp

theorem Node.wasRead_foreach {body : Node} (h : body.WasRead) (head : LoopHead) :
    (Node.foreach head body).WasRead := by
  intro around p hp
  rcases List.mem_cons.mp hp with rfl | hp
  · trivial
  · exact h (head :: around) p hp

-- ================================================================= text

/-- True of a piece that is no parameter, or one that was read. -/
def Piece.WasRead (p : Piece) : Prop := ∀ part ∈ p.part?, part.WasRead

theorem Node.wasRead_placeholders {t : PlaceholderText} :
    (Node.placeholders t).WasRead ↔ ∀ p ∈ t.pieces, p.WasRead := by
  constructor
  · intro h p hp part hpart
    refine h [] ⟨[], part⟩ (List.mem_map.mpr ⟨part, ?_, rfl⟩)
    exact List.mem_filterMap.mpr ⟨p, hp, hpart⟩
  · intro h around p hp
    obtain ⟨part, hpart, rfl⟩ := List.mem_map.mp hp
    obtain ⟨piece, hpiece, hsome⟩ := List.mem_filterMap.mp hpart
    exact h piece hpiece part hsome

theorem Node.wasRead_text (content : String) : (Node.text content).WasRead :=
  fun _ _ hp => nomatch hp

theorem Piece.wasRead_literal (text : String) : (Piece.literal text).WasRead :=
  fun _ hpart => nomatch hpart

theorem Piece.wasRead_ofSegment {span : Option Span} {segment : Segment} {p : Piece}
    (h : Piece.ofSegment span segment = .ok p) : p.WasRead := by
  unfold Piece.ofSegment at h
  split at h
  · obtain rfl := Except.ok.inj h
    exact Piece.wasRead_literal _
  · obtain rfl := Except.ok.inj h
    intro part hpart
    obtain rfl := Option.some.inj hpart
    trivial
  · split at h
    · next content _ m hread =>
      obtain rfl := Except.ok.inj h
      intro part hpart
      obtain rfl := Option.some.inj hpart
      exact ⟨content, hread⟩
    · cases h

theorem Piece.wasRead_mapM {span : Option Span} {segments : List Segment}
    {pieces : List Piece} (h : segments.mapM (Piece.ofSegment span) = .ok pieces) :
    ∀ p ∈ pieces, p.WasRead := by
  induction segments generalizing pieces with
  | nil =>
    obtain rfl := Except.ok.inj h
    intro p hp
    cases hp
  | cons segment rest ih =>
    rw [List.mapM_cons] at h
    obtain ⟨first, hfirst, h⟩ := Except.bind_eq_ok.mp h
    obtain ⟨others, hothers, h⟩ := Except.bind_eq_ok.mp h
    obtain rfl := Except.ok.inj h
    intro p hp
    rcases List.mem_cons.mp hp with rfl | hp
    · exact Piece.wasRead_ofSegment hfirst
    · exact ih hothers p hp

theorem Node.wasRead_ofText {text : String} {span : Option Span} {n : Node}
    (h : Node.ofText text span = .ok n) : n.WasRead := by
  unfold Node.ofText at h
  simp only [] at h
  split at h
  · obtain ⟨pieces, hpieces, h⟩ := Except.bind_eq_ok.mp h
    obtain rfl := Except.ok.inj h
    exact Node.wasRead_placeholders.mpr (Piece.wasRead_mapM hpieces)
  · obtain rfl := Except.ok.inj h
    exact Node.wasRead_text _

theorem wasRead_pushPiece {pieces : List Piece} {piece : Piece}
    (hpieces : ∀ p ∈ pieces, p.WasRead) (hpiece : piece.WasRead) :
    ∀ p ∈ pushPiece pieces piece, p.WasRead := by
  unfold pushPiece
  split
  · intro p hp
    rcases List.mem_append.mp hp with hp | hp
    · exact hpieces p ((List.dropLast_sublist pieces).subset hp)
    · rw [List.mem_singleton.mp hp]
      exact Piece.wasRead_literal _
  · intro p hp
    rcases List.mem_append.mp hp with hp | hp
    · exact hpieces p hp
    · rw [List.mem_singleton.mp hp]
      exact hpiece

theorem wasRead_foldl_pushPiece {more pieces : List Piece}
    (hpieces : ∀ p ∈ pieces, p.WasRead) (hmore : ∀ p ∈ more, p.WasRead) :
    ∀ p ∈ more.foldl pushPiece pieces, p.WasRead := by
  induction more generalizing pieces with
  | nil => exact hpieces
  | cons piece rest ih =>
    exact ih (wasRead_pushPiece hpieces (hmore piece (List.mem_cons_self ..)))
      fun p hp => hmore p (List.mem_cons_of_mem _ hp)

/-- Merging texts keeps their pieces. -/
theorem wasRead_mergeTexts? {joiner : String} {before after merged : Node}
    (hbefore : before.WasRead) (hafter : after.WasRead)
    (h : mergeTexts? joiner before after = some merged) : merged.WasRead := by
  unfold mergeTexts? at h
  split at h
  · obtain rfl := Option.some.inj h
    exact Node.wasRead_text _
  · split at h
    · obtain rfl := Option.some.inj h
      refine Node.wasRead_placeholders.mpr (wasRead_foldl_pushPiece
        (Node.wasRead_placeholders.mp hbefore) fun p hp => ?_)
      rcases List.mem_cons.mp hp with rfl | hp
      · exact Piece.wasRead_literal _
      · exact Node.wasRead_placeholders.mp hafter p hp
    · cases h
  · cases h

-- ============================================================== building

/-- Building puts nothing into a template but what was read. -/
theorem buildable_wasRead : Buildable Node.WasRead where
  ofText h := Node.wasRead_ofText h
  merge hbefore hafter h := wasRead_mergeTexts? hbefore hafter h
  bind b around p hp := by
    rw [List.mem_singleton.mp hp]
    trivial
  conditional h := Node.wasRead_conditional fun b hb => (h b hb).node
  choose _ h := Node.wasRead_choose fun b hb => (h b hb).node
  foreach head h := Node.wasRead_foreach h head
  sequence h around := wasRead_allPlaces h around

/-- The parameters of built nodes were read. -/
theorem wasRead_buildChildren {options : Options} {trees : List Tree} {nodes : List Node}
    (h : buildChildren options trees = .ok nodes) : ∀ n ∈ nodes, n.WasRead :=
  every_buildChildren buildable_wasRead h

end Template

end DynamicSql
