/-
The texts of a template in normal form, and nothing of what is written lost.

Runs of characters that follow each other are put together when they are of one
class, so of several ways to write a text the same nodes come: no literal text
is empty, no two literal pieces stand together in a text with placeholders, and
no two texts of one class stand together among nodes (`NormalTexts`). With the
cuts between pieces left out of account, each text is the runs that it was made
of, one after the other and with a space between them, or with nothing where white
space is preserved (`PutTogether`). The runs are those of the siblings that the
nodes were built of, at the top as at any depth, and they are all of them
(`MadeOfRuns`).

# Empty literals

Where white space is preserved, runs are joined by the empty text. Between two
placeholders that meet it stays as an empty literal piece. It is a piece of its
own, so no two literal pieces are adjacent, but only the texts that are nodes
are known to be not empty, not the literal pieces.

# What is merged

A text that grows is merged with a text that was read from one run. So each
merge is of normal texts, and pieces only meet at the joiner, where `pushPiece`
lets literal text go on (`isChain_pushPiece`).
-/
import DynamicSql.Proofs.Placeholder.Encoding
import DynamicSql.Proofs.Template.Build
import DynamicSql.Proofs.Template.Enclosed
import DynamicSql.Proofs.Text.Squeezed

namespace DynamicSql.Template

variable {o : Options} {n : Node} {run trees : List Tree} {nodes : List Node}

-- ========================================================== normal texts

def Piece.isLiteral : Piece → Bool
  | .literal _ => true
  | _ => false

/-- At most one of two neighbours is literal. -/
def Piece.Alternate (p next : Piece) : Prop := p.isLiteral = true → next.isLiteral = false

/-- A text as it can be in a template. -/
def Node.NormalText : Node → Prop
  | .text content => content ≠ ""
  | .placeholders t =>
    (∃ p ∈ t.pieces, p.isLiteral = false) ∧ t.pieces.IsChain Piece.Alternate
  | _ => True

/-- Nodes that stand together are normal texts, of which no two neighbours are
of one class. -/
structure NormalTexts (nodes : List Node) : Prop where
  normal : ∀ n ∈ nodes, n.NormalText
  apart : nodes.IsChain fun n next => ∀ k, n.IsText k → ¬next.IsText k

/-- A segment and what it is read as are placeholders, or neither is. -/
theorem Piece.IsOf.isLiteral {s : Segment} {p : Piece} (h : Piece.IsOf s p) :
    p.isLiteral = !isPlaceholder s := by
  cases h <;> rfl

/-- What stands behind a literal segment is a placeholder. -/
theorem isPlaceholder_of_follows {s next : Segment} (h : s.Follows next)
    (hs : isPlaceholder s = false) : isPlaceholder next = true := by
  cases s with
  | placeholder kind content => cases hs
  | literal text =>
    cases next with
    | literal other => exact absurd h id
    | placeholder kind content => rfl

/-- As no two literal segments stand together, no two literal pieces do. -/
theorem Piece.isChain_of_split {segments : List Segment} {pieces : List Piece}
    (h : segments.IsChain Segment.Follows) (hread : List.Forall₂ Piece.IsOf segments pieces) :
    pieces.IsChain Piece.Alternate := by
  induction hread with
  | nil => exact .nil
  | cons hp hrest ih =>
    obtain ⟨hhead, htail⟩ := List.isChain_cons.mp h
    refine List.isChain_cons.mpr ⟨fun next hnext hliteral => ?_, ih htail⟩
    rw [hp.isLiteral, Bool.not_eq_true'] at hliteral
    cases hrest with
    | nil => cases hnext
    | @cons s' _ _ _ hp' =>
      obtain rfl := Option.some.inj hnext
      rw [hp'.isLiteral, isPlaceholder_of_follows (hhead s' rfl) hliteral]
      rfl

theorem ne_empty_of_not_blank {text : String} (h : Text.allBlank text = false) : text ≠ "" := by
  rintro rfl
  cases h

/-- A run that is not blank is used as a text that is not blank. -/
theorem allBlank_usedText (o : Options) (raw : String) :
    Text.allBlank (usedText o raw) = Text.allBlank raw := by
  unfold usedText
  split
  · rfl
  · exact Text.allBlank_collapse raw

/-- Literal segments, of which none is empty, make a text that is not empty. -/
theorem join_literalText_ne_empty {segments : List Segment} (hne : segments ≠ [])
    (hproper : ∀ s ∈ segments, s.Proper) (hnone : segments.any isPlaceholder = false) :
    String.join (segments.map literalText) ≠ "" := by
  cases segments with
  | nil => exact absurd rfl hne
  | cons s rest =>
    cases s with
    | placeholder kind content => cases hnone
    | literal text =>
      rw [List.map_cons, String.join_cons]
      intro h
      exact hproper _ List.mem_cons_self (String.append_eq_empty_iff.mp h).1

/-- A run that is not empty becomes a normal text. -/
theorem Node.normalText_ofText {text : String} {span : Option Span} (hne : text ≠ "")
    (h : Node.ofText text span = .ok n) : n.NormalText := by
  have hcanonical := Segment.canonical_split text
  obtain ⟨pieces, hpieces, rfl⟩ := Node.ofText_eq_ok_iff.mp h
  split
  · next hany =>
    refine ⟨?_, Piece.isChain_of_split hcanonical.follows hpieces⟩
    obtain ⟨s, hs, hplaceholder⟩ := List.any_eq_true.mp hany
    obtain ⟨p, hp, hsp⟩ := exists_of_forall₂ hpieces hs
    exact ⟨p, hp, by rw [hsp.isLiteral, hplaceholder]; rfl⟩
  · next hnone =>
    exact join_literalText_ne_empty (Segment.split_ne_nil hne) hcanonical.proper
      (Bool.eq_false_iff.mpr hnone)

-- ================================================================ merging

/-- Literal text goes on where literal text ended, so no two literal pieces come
to stand together. -/
theorem isChain_pushPiece {pieces : List Piece} (h : pieces.IsChain Piece.Alternate)
    (p : Piece) : (pushPiece pieces p).IsChain Piece.Alternate := by
  unfold pushPiece
  split
  · next before after hlast =>
    obtain ⟨rest, rfl⟩ := List.getLast?_eq_some_iff.mp hlast
    rw [List.dropLast_concat]
    -- Before the longer literal stands what stood before the shorter one.
    obtain ⟨hrest, -, hbetween⟩ := List.isChain_append.mp h
    refine List.isChain_append.mpr ⟨hrest, .singleton _, fun q hq next hnext hliteral => ?_⟩
    exact absurd (hbetween q hq _ rfl hliteral) nofun
  · next p _ _ hboth =>
    refine List.isChain_append.mpr ⟨h, .singleton _, fun q hq next hnext hliteral => ?_⟩
    obtain rfl := Option.some.inj hnext
    cases p with
    | interpolation _ | parameter _ => rfl
    | literal after =>
      cases q with
      | interpolation _ | parameter _ => cases hliteral
      | literal before => exact absurd rfl (hboth before after hq)

theorem isChain_foldl_pushPiece {pieces : List Piece} (h : pieces.IsChain Piece.Alternate)
    (more : List Piece) : (more.foldl pushPiece pieces).IsChain Piece.Alternate := by
  induction more generalizing pieces with
  | nil => exact h
  | cons p more ih => exact ih (isChain_pushPiece h p)

/-- A placeholder is seen from the marks of pieces. -/
theorem exists_not_literal_iff {pieces : List Piece} :
    (∃ p ∈ pieces, p.isLiteral = false) ↔ ∃ p, .inr p ∈ pieces.flatMap Piece.marks := by
  constructor
  · rintro ⟨p, hp, hliteral⟩
    refine ⟨p, List.mem_flatMap.mpr ⟨p, hp, ?_⟩⟩
    cases p with
    | literal text => cases hliteral
    | interpolation _ | parameter _ => exact List.mem_singleton_self _
  · rintro ⟨p, hmem⟩
    obtain ⟨q, hq, hmark⟩ := List.mem_flatMap.mp hmem
    refine ⟨q, hq, ?_⟩
    cases q with
    | literal text => simp [Piece.marks] at hmark
    | interpolation _ | parameter _ => rfl

/-- Normal texts are merged to normal ones. -/
theorem Node.NormalText.merge {j : String} {before after merged : Node}
    (hbefore : before.NormalText) (h : mergeTexts? j before after = some merged) :
    merged.NormalText := by
  unfold mergeTexts? at h
  split at h
  · obtain rfl := Option.some.inj h
    intro hempty
    rw [String.append_assoc] at hempty
    exact hbefore (String.append_eq_empty_iff.mp hempty).1
  · split at h
    · obtain rfl := Option.some.inj h
      obtain ⟨hplaceholder, hchain⟩ := hbefore
      refine ⟨?_, isChain_foldl_pushPiece hchain _⟩
      obtain ⟨p, hp⟩ := exists_not_literal_iff.mp hplaceholder
      refine exists_not_literal_iff.mpr ⟨p, ?_⟩
      rw [flatMap_marks_foldl_pushPiece]
      exact List.mem_append_left _ hp
    · cases h
  · cases h

theorem Node.NormalText.mergeAll {j : String} {more : List Node} {merged : Node}
    (hn : n.NormalText) (h : more.foldlM (mergeTexts? j) n = some merged) :
    merged.NormalText := by
  induction more generalizing n with
  | nil =>
    obtain rfl := Option.some.inj h
    exact hn
  | cons next more ih =>
    rw [List.foldlM_cons] at h
    obtain ⟨between, hbetween, h⟩ := Option.bind_eq_some_iff.mp h
    exact ih (hn.merge hbetween) h

theorem Contribution.normalText_of_read {t : Tree} (h : read o t = .ok (.text n)) :
    n.NormalText := by
  obtain ⟨raw, span, -, hblank, hn⟩ := read_text h
  refine Node.normalText_ofText (ne_empty_of_not_blank ?_) hn
  rw [allBlank_usedText, hblank]

/-- Each node that siblings make is a normal text if it is a text. -/
theorem Makes.normalText (h : Makes o run n) : n.NormalText := by
  cases h with
  | @whole t n hread =>
    cases Contribution.of_read hread with
    | whole _ _ _ hnone =>
      cases n with
      | text _ | placeholders _ => cases hnone
      | _ => trivial
  | chain => trivial
  | texts hread hjoined =>
    obtain ⟨hfirst, -⟩ := List.forall₂_cons.mp hread
    exact (Contribution.normalText_of_read hfirst).mergeAll hjoined.merge

/-- Runs that are apart make nodes of different classes. -/
theorem Apart.not_isText {next : List Tree} {m : Node} {k : TextClass} (h : Apart o run next)
    (hrun : Makes o run n) (hnext : Makes o next m) (hn : n.IsText k) : ¬m.IsText k := by
  intro hm
  obtain ⟨u, hu⟩ := Option.ne_none_iff_exists'.mp (mt List.getLast?_eq_none_iff.mp hrun.ne_nil)
  obtain ⟨v, hv⟩ := Option.ne_none_iff_exists'.mp (mt List.head?_eq_none_iff.mp hnext.ne_nil)
  have hlast := (hrun.isText_iff (List.mem_of_mem_getLast? hu) k).mpr hn
  have hfirst := (hnext.isText_iff (List.mem_of_mem_head? hv) k).mpr hm
  exact h u hu v hv (.inr ⟨k, hlast, hfirst⟩)

theorem isChain_not_isText {runs : List (List Tree)} (h : runs.IsChain (Apart o))
    (hmakes : List.Forall₂ (Makes o) runs nodes) :
    nodes.IsChain fun n next => ∀ k, n.IsText k → ¬next.IsText k := by
  induction hmakes with
  | nil => exact .nil
  | cons hn hrest ih =>
    obtain ⟨hhead, htail⟩ := List.isChain_cons.mp h
    refine List.isChain_cons.mpr ⟨fun m hm k hk => ?_, ih htail⟩
    cases hrest with
    | nil => cases hm
    | cons hm' =>
      obtain rfl := Option.some.inj hm
      exact (hhead _ rfl).not_isText hn hm' hk

theorem normalTexts_of_assembled {siblings : List Tree} (h : Assembled o siblings nodes) :
    NormalTexts nodes := by
  obtain ⟨runs, -, hmakes, happart⟩ := h
  refine ⟨fun n hn => ?_, isChain_not_isText happart hmakes⟩
  obtain ⟨run, -, hrun⟩ := exists_of_forall₂ hmakes.flip hn
  exact hrun.normalText

-- ====================================================== nothing is lost

/-- What a run of characters is read as, its pieces taken apart. White space is
collapsed first where it is not preserved. -/
def Tree.ReadAs (o : Options) (t : Tree) (marks : List (Char ⊕ Piece)) : Prop :=
  ∃ raw span pieces, t = .text raw span
    ∧ List.Forall₂ Piece.IsOf
        (Segment.split (if o.preserveWhitespace then raw else Text.collapse raw)) pieces
    ∧ marks = pieces.flatMap Piece.marks

/-- The marks of a text are those of the runs, one after the other, with one
space between each two of them, or nothing where white space is preserved. -/
def PutTogether (o : Options) (run : List Tree) (n : Node) : Prop :=
  ∃ parts, List.Forall₂ (Tree.ReadAs o) run parts
    ∧ n.marks = (if o.preserveWhitespace then [] else [.inl ' ']).intercalate parts

theorem joiner_marks (o : Options) :
    ((joiner o).toList.map .inl : List (Char ⊕ Piece))
      = if o.preserveWhitespace then [] else [.inl ' '] := by
  unfold joiner
  split <;> rfl

theorem Tree.readAs_of_read {t : Tree} (h : Contribution.read o t = .ok (.text n)) :
    t.ReadAs o n.marks := by
  obtain ⟨raw, span, rfl, -, hn⟩ := Contribution.read_text h
  obtain ⟨pieces, hread, hmarks⟩ := Node.marks_ofText hn
  exact ⟨raw, span, pieces, rfl, hread, hmarks⟩

theorem intercalate_cons {α : Type} (between first : List α) (more : List (List α)) :
    between.intercalate (first :: more) = first ++ more.flatMap (between ++ ·) := by
  induction more generalizing first with
  | nil => simp
  | cons second more ih =>
    rw [List.flatMap_cons, List.append_assoc, ← ih second]
    simp [List.intercalate]

/-- A node that is no text is made of elements. -/
theorem Makes.isElement (h : Makes o run n) (hnone : n.textClass? = none) :
    ∀ t ∈ run, t.isElement = true := by
  rcases h.siblings with ⟨k, hk, -⟩ | ⟨-, helements⟩
  · rw [Node.isText_iff, hnone] at hk
    cases hk
  · exact helements

/-- A text is put together of its run. -/
theorem Makes.putTogether (h : Makes o run n) (hsome : n.textClass?.isSome = true) :
    PutTogether o run n := by
  cases h with
  | whole hread =>
    cases Contribution.of_read hread with
    | whole _ _ _ hnone => simp [hnone] at hsome
  | chain => cases hsome
  | @texts first more m _ ms hread hjoined =>
    refine ⟨(m :: ms).map Node.marks, ?_, ?_⟩
    · exact List.forall₂_map_right_iff.mpr (hread.imp fun t n => Tree.readAs_of_read)
    · rw [hjoined.marks, List.map_cons, ← joiner_marks, intercalate_cons, List.flatMap_map]

/-- The siblings, save blank text, fall into runs, one for each node in order: each
text is put together of a run of texts, and other nodes are made of elements. -/
def MadeOfRuns (o : Options) (siblings : List Tree) (nodes : List Node) : Prop :=
  ∃ runs : List (List Tree), runs.flatten = (siblings.filter fun t => !t.isBlank)
    ∧ List.Forall₂ (fun run n => run ≠ [] ∧ ((∃ k, n.IsText k) → PutTogether o run n)
      ∧ ((∀ k, ¬n.IsText k) → ∀ t ∈ run, t.isElement = true)) runs nodes

theorem madeOfRuns_of_buildChildren (h : buildChildren o trees = .ok nodes) :
    MadeOfRuns o trees nodes := by
  obtain ⟨runs, hflatten, hmakes, -⟩ := assembled_of_buildChildren h
  refine ⟨runs, hflatten, hmakes.imp fun run n hrun => ⟨hrun.ne_nil, ?_, fun hnone => ?_⟩⟩
  · rintro ⟨k, hk⟩
    exact hrun.putTogether (by rw [Node.isText_iff.mp hk]; rfl)
  · refine hrun.isElement (Option.eq_none_iff_forall_ne_some.mpr fun k hk => ?_)
    exact hnone k (Node.isText_iff.mpr hk)

/-- Nodes that were built are normal texts and other nodes, made of the runs of the
siblings. So are all that stand together at any depth, each of siblings within
these: what stands together there was built of such siblings, and none of them is
left out. -/
theorem normalTexts_of_siblingsIn (h : buildChildren o trees = .ok nodes) :
    (NormalTexts nodes ∧ MadeOfRuns o trees nodes)
      ∧ (∀ inner, Node.SiblingsIn inner nodes → ∃ siblings, Tree.SiblingsIn siblings trees
        ∧ buildChildren o siblings = .ok inner ∧ NormalTexts inner ∧ MadeOfRuns o siblings inner)
      ∧ ∀ siblings, Tree.SiblingsIn siblings trees → ∃ inner, Node.SiblingsIn inner nodes
        ∧ buildChildren o siblings = .ok inner := by
  refine ⟨⟨normalTexts_of_assembled (assembled_of_buildChildren h),
    madeOfRuns_of_buildChildren h⟩, fun inner hin => ?_, fun siblings hin =>
    exists_siblingsIn_of_built h hin⟩
  obtain ⟨siblings, hsiblings, hbuild⟩ := exists_built_of_siblingsIn h hin
  exact ⟨siblings, hsiblings, hbuild, normalTexts_of_assembled (assembled_of_buildChildren hbuild),
    madeOfRuns_of_buildChildren hbuild⟩

/-- A word, a blank run, and two runs with parameters. -/
def fourRuns : List Tree :=
  [.text "a " none, .text "\n" none, .text "#\x7bb\x7d" none, .text "#\x7bc\x7d  d" none]

/-- Two texts: a word, and two parameters with some text between them and some
behind. -/
def twoTexts (word between rest : String) : List Node :=
  [.text word, .placeholders ⟨[.parameter ⟨.property "b", none, []⟩, .literal between,
    .parameter ⟨.property "c", none, []⟩, .literal rest], none⟩]

/-- The last two of the runs become one text. -/
theorem buildSiblings_fourRuns {word rest : String}
    (hword : Segment.split (usedText o "a ") = [.literal word])
    (hfirst : Segment.split (usedText o "#\x7bb\x7d") = [.placeholder .parameter "b"])
    (hsecond : Segment.split (usedText o "#\x7bc\x7d  d")
      = [.placeholder .parameter "c", .literal rest]) :
    buildSiblings o .empty fourRuns = .ok ⟨(twoTexts word (joiner o) rest).reverse, none⟩ := by
  rw [fourRuns, buildSiblings, Siblings.pushRun, if_neg (by decide),
    Node.ofText_of_literal hword]
  show buildSiblings _ ⟨[.text word], none⟩ _ = _
  rw [buildSiblings, Siblings.pushRun, if_pos (by decide)]
  show buildSiblings _ ⟨[.text word], none⟩ _ = _
  rw [buildSiblings, Siblings.pushRun, if_neg (by decide), Node.ofText, hfirst]
  show buildSiblings _ ⟨[.placeholders ⟨[.parameter ⟨.property "b", none, []⟩], none⟩,
    .text word], none⟩ _ = _
  rw [buildSiblings, Siblings.pushRun, if_neg (by decide), Node.ofText, hsecond]
  show buildSiblings _ ⟨(twoTexts word (joiner o) rest).reverse, none⟩ [] = _
  rw [buildSiblings]

/-- Within a loop as at the top they are two texts. There is a space between the
parameters, or where white space is preserved an empty piece. -/
theorem normalTexts_of_loop :
    (∃ nodes siblings, buildChildren Options.standard
        [.element "foreach" [("collection", "xs")] fourRuns none] = .ok nodes
      ∧ Node.SiblingsIn (twoTexts "a" " " " d") nodes
      ∧ buildChildren Options.standard siblings = .ok (twoTexts "a" " " " d")
      ∧ NormalTexts (twoTexts "a" " " " d")
      ∧ MadeOfRuns Options.standard siblings (twoTexts "a" " " " d"))
    ∧ buildChildren { Options.standard with preserveWhitespace := true } fourRuns
        = .ok (twoTexts "a " "" "  d")
      ∧ NormalTexts (twoTexts "a " "" "  d")
      ∧ MadeOfRuns { Options.standard with preserveWhitespace := true } fourRuns
        (twoTexts "a " "" "  d") := by
  constructor
  · have hruns : buildSiblings Options.standard .empty fourRuns
        = .ok ⟨(twoTexts "a" " " " d").reverse, none⟩ :=
      buildSiblings_fourRuns (by decide +kernel) (by decide +kernel) (by decide +kernel)
    have hbuild : buildChildren Options.standard
        [.element "foreach" [("collection", "xs")] fourRuns none]
          = .ok [.foreach ⟨"xs", none, none, none, none, none, none, none⟩
            (Node.ofList (twoTexts "a" " " " d"))] := buildChildren_foreach rfl hruns
    have hin : Node.SiblingsIn (twoTexts "a" " " " d")
        [.foreach ⟨"xs", none, none, none, none, none, none, none⟩
          (Node.ofList (twoTexts "a" " " " d"))] :=
      .inside List.mem_cons_self List.mem_cons_self .here
    obtain ⟨siblings, -, hsiblings, hnormal, hmade⟩ :=
      (normalTexts_of_siblingsIn hbuild).2.1 _ hin
    exact ⟨_, siblings, hbuild, hin, hsiblings, hnormal, hmade⟩
  · have hruns : buildSiblings { Options.standard with preserveWhitespace := true } .empty fourRuns
        = .ok ⟨(twoTexts "a " "" "  d").reverse, none⟩ :=
      buildSiblings_fourRuns (by decide +kernel) (by decide +kernel) (by decide +kernel)
    have hbuild : buildChildren { Options.standard with preserveWhitespace := true } fourRuns
        = .ok (twoTexts "a " "" "  d") := by
      rw [buildChildren, hruns]
      rfl
    obtain ⟨⟨hnormal, hmade⟩, -⟩ := normalTexts_of_siblingsIn hbuild
    exact ⟨hbuild, hnormal, hmade⟩

end DynamicSql.Template
