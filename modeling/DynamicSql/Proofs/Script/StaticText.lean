/-
The text of a script without tags and without substituted text.

Runs are collapsed, cut at their placeholders and merged where they are of one
class; what comes of this is written node by node, with a space between each
two. A merged text has the same space between its runs (`joiner`). So which runs
were merged cannot be seen: the text of the script is that of its runs, with
one space between each two, whether they share a node or not
(`intercalate_flatten`).

# What could be seen

A text that is empty is not written, and no space goes around it. A run is not
empty if it is not blank, unless all of it are placeholders and the marker is
the empty text. With any other marker each run that is not blank is there.
-/
import DynamicSql.Proofs.Script.Markers
import DynamicSql.Proofs.Script.Static
import DynamicSql.Proofs.Template.Classified

namespace DynamicSql

-- =========================================================== texts as written

namespace Segment

/-- A segment as it stands in a text with this marker for parameters. -/
def shown (marker : String) : Segment → String
  | .literal text => text
  | .placeholder _ _ => marker

/-- The content of a parameter. -/
def parameterContent? : Segment → Option String
  | .placeholder .parameter content => some content
  | _ => none

end Segment

/-- A run as it stands in the text of a script: its words with one space between
each two, opening tokens without their escapes, and the marker for each
placeholder. -/
def runText (marker raw : String) : String :=
  String.join ((Segment.split (Text.collapse raw)).map (Segment.shown marker))

/-- The contents of the parameters of a run. -/
def runParameters (raw : String) : List String :=
  (Segment.split (Text.collapse raw)).filterMap Segment.parameterContent?

-- ============================================================ joined lists

section Joined

variable {α β : Type}

theorem flatMap_intercalate (f : α → List β) (between : List α) (parts : List (List α)) :
    (between.intercalate parts).flatMap f
      = (between.flatMap f).intercalate (parts.map (List.flatMap f)) := by
  cases parts with
  | nil => rfl
  | cons first more =>
    rw [List.map_cons, Template.intercalate_cons, Template.intercalate_cons, List.flatMap_append,
      List.flatMap_assoc, List.flatMap_map]
    simp only [List.flatMap_append]

/-- Elements that give nothing may be left out. -/
theorem flatMap_filter_of_nil {p : α → Bool} {f : α → List β} {as : List α}
    (h : ∀ a ∈ as, p a = false → f a = []) : (as.filter p).flatMap f = as.flatMap f := by
  induction as with
  | nil => rfl
  | cons a rest ih =>
    obtain ⟨ha, hrest⟩ := List.forall_mem_cons.mp h
    cases hp : p a with
    | true => rw [List.filter_cons_of_pos hp, List.flatMap_cons, List.flatMap_cons, ih hrest]
    | false =>
      rw [List.filter_cons_of_neg (by simp [hp]), List.flatMap_cons, ha hp, List.nil_append,
        ih hrest]

/-- Between the last of one group and the first of the next there stands what
stands between two of a group. -/
theorem intercalate_flatten (between : String) {groups : List (List String)}
    (h : ∀ g ∈ groups, g ≠ []) :
    between.intercalate (groups.map between.intercalate)
      = between.intercalate groups.flatten := by
  induction groups with
  | nil => rfl
  | cons g rest ih =>
    obtain ⟨hg, hrest⟩ := List.forall_mem_cons.mp h
    rw [List.map_cons, List.flatten_cons]
    cases rest with
    | nil => simp
    | cons g' rest =>
      have hne : (g' :: rest).flatten ≠ [] := by
        rw [List.flatten_cons]
        exact List.append_ne_nil_of_left_ne_nil (hrest g' List.mem_cons_self) _
      rw [String.intercalate_cons_of_ne_nil (by simp), ih hrest,
        String.intercalate_append_of_ne_nil hg hne]

end Joined

namespace Template

variable {o : Options} {n : Node} {t : Tree} {run trees : List Tree} {nodes : List Node}
  {marker : String}

-- ================================================================= marks

/-- A mark as it stands in a text with this marker for parameters. -/
def shownMark (marker : String) : Char ⊕ Piece → List Char :=
  Sum.elim (fun c => [c]) (fun _ => marker.toList)

/-- The text of a node that is text. -/
def Node.shown (marker : String) (n : Node) : String :=
  String.ofList (n.marks.flatMap (shownMark marker))

/-- A run as it stands in the text of a script. -/
def Tree.shown (marker : String) : Tree → String
  | .text raw _ => runText marker raw
  | .element _ _ _ _ => ""

theorem flatMap_shownMark_chars (marker : String) (cs : List Char) :
    (cs.map Sum.inl).flatMap (shownMark marker) = cs := by
  induction cs with
  | nil => rfl
  | cons c cs ih => rw [List.map_cons, List.flatMap_cons, ih]; rfl

/-- A piece is shown as the segment that it was read from. -/
theorem Piece.IsOf.shown {s : Segment} {p : Piece} (h : Piece.IsOf s p) :
    p.marks.flatMap (shownMark marker) = (s.shown marker).toList := by
  cases h with
  | literal text => exact flatMap_shownMark_chars marker _
  | interpolation | parameter => exact List.append_nil _

/-- Where white space is not preserved, the words of a run are read, segment by
segment. -/
theorem Tree.ReadAs.collapsed {marks : List (Char ⊕ Piece)} (ho : o.preserveWhitespace = false)
    (h : t.ReadAs o marks) :
    ∃ raw span pieces, t = .text raw span
      ∧ List.Forall₂ Piece.IsOf (Segment.split (Text.collapse raw)) pieces
      ∧ marks = pieces.flatMap Piece.marks := by
  obtain ⟨raw, span, pieces, htext, hread, hmarks⟩ := h
  rw [if_neg (Bool.eq_false_iff.mp ho)] at hread
  exact ⟨raw, span, pieces, htext, hread, hmarks⟩

theorem Tree.ReadAs.shown {marks : List (Char ⊕ Piece)} (ho : o.preserveWhitespace = false)
    (h : t.ReadAs o marks) : String.ofList (marks.flatMap (shownMark marker)) = t.shown marker := by
  obtain ⟨raw, span, pieces, rfl, hpieces, rfl⟩ := h.collapsed ho
  refine String.toList_injective ?_
  rw [String.toList_ofList, Tree.shown, runText]
  clear h
  generalize Segment.split (Text.collapse raw) = segments at hpieces
  induction hpieces with
  | nil => rfl
  | cons hp _ ih =>
    rw [List.flatMap_cons, List.flatMap_append, ih, hp.shown, List.map_cons,
      String.join_cons, String.toList_append]

/-- The text of a node is that of its runs, with one space between each two. -/
theorem PutTogether.shown (ho : o.preserveWhitespace = false) (h : PutTogether o run n) :
    n.shown marker = " ".intercalate (run.map (Tree.shown marker)) := by
  obtain ⟨parts, hparts, hmarks⟩ := h
  rw [if_neg (Bool.eq_false_iff.mp ho)] at hmarks
  have hruns : parts.map (List.flatMap (shownMark marker))
      = (run.map (Tree.shown marker)).map String.toList := by
    clear hmarks
    induction hparts with
    | nil => rfl
    | cons hread _ ih =>
      rw [List.map_cons, List.map_cons, List.map_cons, ← hread.shown ho, String.toList_ofList, ih]
  rw [Node.shown, hmarks, flatMap_intercalate, hruns]
  refine String.toList_injective ?_
  rw [String.toList_ofList, String.toList_intercalate]
  rfl

/-- With a marker that is not empty, a normal text has characters to show. -/
theorem Node.NormalText.shown_ne_empty (h : n.NormalText) (hsome : n.textClass?.isSome = true)
    (hmarker : marker ≠ "") : n.shown marker ≠ "" := by
  have hmarks : n.marks ≠ [] := by
    cases n with
    | text content =>
      intro hnil
      exact h (String.toList_injective (List.map_eq_nil_iff.mp hnil))
    | placeholders t =>
      obtain ⟨p, hp⟩ := exists_not_literal_iff.mp h.1
      exact List.ne_nil_of_mem hp
    | bind | conditional | choose | foreach | sequence => cases hsome
  intro hempty
  have hnil : n.marks.flatMap (shownMark marker) = [] := by
    rw [← String.toList_ofList (l := n.marks.flatMap (shownMark marker))]
    exact congrArg String.toList hempty
  obtain ⟨mark, hmark⟩ := List.exists_mem_of_ne_nil _ hmarks
  have hnone := List.flatMap_eq_nil_iff.mp hnil mark hmark
  cases mark with
  | inl c => cases hnone
  | inr p => exact hmarker (String.toList_injective hnone)

-- ============================================================ parameters

/-- The mapping of a parameter among the marks of a text. -/
def markParameter? : Char ⊕ Piece → Option Parameter.Mapping :=
  Sum.elim (fun _ => none) fun p => p.part?.bind Part.parameter?

/-- The parameters of a run. -/
def Tree.parameters : Tree → List String
  | .text raw _ => runParameters raw
  | .element _ _ _ _ => []

theorem filterMap_markParameter_chars (cs : List Char) :
    (cs.map Sum.inl).filterMap markParameter? = [] := by
  rw [List.filterMap_map]
  exact List.filterMap_eq_nil_iff.mpr fun _ _ => rfl

/-- The contents were read as the mappings, one by one. -/
def ReadsTo (contents : List String) (mappings : List Parameter.Mapping) : Prop :=
  List.Forall₂ (fun content m => Parameter.Mapping.read content = .ok m) contents mappings

/-- The parameters of a text are those of its pieces. -/
theorem Node.parameters_of_text (hsome : n.textClass?.isSome = true) :
    n.parameters = n.marks.filterMap markParameter? := by
  cases n with
  | text content => exact (filterMap_markParameter_chars content.toList).symm
  | placeholders t =>
    show Place.parameters (Piece.places [] t.pieces) = _
    rw [Node.marks]
    induction t.pieces with
    | nil => rfl
    | cons p rest ih =>
      rw [List.flatMap_cons, List.filterMap_append, ← ih]
      cases p with
      | literal text => rw [Piece.marks, filterMap_markParameter_chars]; rfl
      | interpolation _ | parameter _ => rfl
  | bind | conditional | choose | foreach | sequence => cases hsome

theorem Tree.ReadAs.readsTo {marks : List (Char ⊕ Piece)} (ho : o.preserveWhitespace = false)
    (h : t.ReadAs o marks) : ReadsTo t.parameters (marks.filterMap markParameter?) := by
  obtain ⟨raw, span, pieces, rfl, hpieces, rfl⟩ := h.collapsed ho
  rw [Tree.parameters, runParameters]
  clear h
  generalize Segment.split (Text.collapse raw) = segments at hpieces
  induction hpieces with
  | nil => exact .nil
  | @cons s p _ _ hp _ ih =>
    rw [List.flatMap_cons, List.filterMap_append]
    cases hp with
    | literal text =>
      rw [Piece.marks, filterMap_markParameter_chars]
      exact ih
    | interpolation => exact ih
    | parameter hm => exact .cons hm ih

/-- A text has the parameters of its runs, in order. -/
theorem PutTogether.readsTo (ho : o.preserveWhitespace = false) (h : PutTogether o run n) :
    ReadsTo (run.flatMap Tree.parameters) (n.marks.filterMap markParameter?) := by
  obtain ⟨parts, hparts, hmarks⟩ := h
  rw [hmarks, ← joiner_marks]
  clear hmarks
  cases hparts with
  | nil => exact .nil
  | cons hfirst hmore =>
    rw [intercalate_cons, List.filterMap_append, List.flatMap_cons]
    refine List.rel_append (hfirst.readsTo ho) ?_
    induction hmore with
    | nil => exact .nil
    | cons hnext _ ih =>
      rw [List.flatMap_cons, List.flatMap_cons, List.filterMap_append, List.filterMap_append,
        filterMap_markParameter_chars, List.nil_append]
      exact List.rel_append (hnext.readsTo ho) ih

-- ========================================================== static texts

/-- A node that static runs become. -/
structure StaticText (o : Options) (run : List Tree) (n : Node) : Prop where
  ne_nil : run ≠ []
  isText : n.textClass?.isSome = true
  normal : n.NormalText
  static : n.isDynamic = false
  putTogether : PutTogether o run n

/-- Where only static runs stand, only static texts are built. -/
theorem exists_staticTexts
    (htexts : ∀ t ∈ trees, t.isElement = false ∧ t.holds .interpolation = false)
    (h : buildChildren o trees = .ok nodes) :
    ∃ runs : List (List Tree), runs.flatten = (trees.filter fun t => !t.isBlank)
      ∧ List.Forall₂ (StaticText o) runs nodes := by
  obtain ⟨runs, hflatten, hmakes, -⟩ := assembled_of_buildChildren h
  have hrun : ∀ run ∈ runs, ∀ t ∈ run, t.isElement = false ∧ t.holds .interpolation = false := by
    intro run hrun t ht
    exact htexts t (mem_of_mem_run hflatten hrun ht)
  refine ⟨runs, hflatten, ?_⟩
  clear hflatten h
  induction hmakes with
  | nil => exact .nil
  | @cons run n _ _ hn _ ih =>
    obtain ⟨hfirst, hrest⟩ := List.forall_mem_cons.mp hrun
    have hisText : n.textClass?.isSome = true := by
      obtain ⟨t, ht⟩ := List.exists_mem_of_ne_nil run hn.ne_nil
      by_contra hnone
      rw [Option.not_isSome_iff_eq_none] at hnone
      exact Bool.false_ne_true ((hfirst t ht).1.symm.trans (hn.isElement hnone t ht))
    have hstatic : n.isDynamic = false := by
      rw [hn.isDynamic, List.any_eq_false]
      intro t ht
      rw [(hfirst t ht).1, (hfirst t ht).2]
      exact Bool.false_ne_true
    exact .cons ⟨hn.ne_nil, hisText, hn.normalText, hstatic, hn.putTogether hisText⟩ (ih hrest)

end Template

namespace Render

open Template (Node Piece)

variable {σ : Setting} {marker : String} {n : Node}

-- ================================================================ writing

/-- Pieces into which nothing is substituted are written as they are shown. -/
theorem outcome_pieces_shown (hmarker : ∀ i, σ.marker i = marker)
    (hσ : σ.collectsValues = false) {ps : List Piece}
    (h : ps.any Piece.isInterpolation = false) (c : Context) :
    ∃ d, outcome (pieces σ ps) c
        = (.ok (String.ofList ((ps.flatMap Piece.marks).flatMap (Template.shownMark marker))), d)
      ∧ d.fragments = c.fragments ∧ d.frames = c.frames := by
  induction ps generalizing c with
  | nil => exact ⟨c, rfl, rfl, rfl⟩
  | cons p rest ih =>
    rw [List.any_cons, Bool.or_eq_false_iff] at h
    have hpiece : ∃ d, outcome (piece σ p) c
          = (.ok (String.ofList (p.marks.flatMap (Template.shownMark marker))), d)
        ∧ d.fragments = c.fragments ∧ d.frames = c.frames := by
      cases p with
      | literal text =>
        refine ⟨c, ?_, rfl, rfl⟩
        rw [Piece.marks, Template.flatMap_shownMark_chars, String.ofList_toList]
        rfl
      | interpolation text => cases h.1
      | parameter m =>
        refine ⟨c.addMapping (Context.uniquify c.frames m), ?_, rfl, rfl⟩
        rw [outcome_parameter, outcome_collect_plain hσ, hmarker]
        show _ = (Except.ok (String.ofList (marker.toList ++ [])), _)
        rw [List.append_nil, String.ofList_toList]
        rfl
    obtain ⟨d, hd, hfragments, hframes⟩ := hpiece
    obtain ⟨e, he, hfragments', hframes'⟩ := ih h.2 d
    refine ⟨e, ?_, hfragments'.trans hfragments, hframes'.trans hframes⟩
    rw [pieces, outcome_bind_ok hd, outcome_bind_ok he, List.flatMap_cons, List.flatMap_append,
      String.ofList_append]
    rfl

/-- A static text is written as it is shown, after what was there. -/
theorem outcome_apply_shown (hmarker : ∀ i, σ.marker i = marker)
    (hσ : σ.collectsValues = false) (hsome : n.textClass?.isSome = true)
    (hstatic : n.isDynamic = false) (hne : n.shown marker ≠ "") {c : Context}
    (hframes : c.frames = []) :
    ∃ d, outcome (n.apply σ) c = (.ok true, d) ∧ d.frames = []
      ∧ d.fragments = c.fragments ++ [n.shown marker] := by
  have happend : ∀ {text : String} {d : Context}, text ≠ "" → d.frames = [] →
      d.append text = { d with fragments := d.fragments ++ [text] } := by
    intro text d htext hd
    rw [append_outside hd, if_neg (by simpa using htext)]
  cases n with
  | text content =>
    have hshown : (Node.text content).shown marker = content := by
      rw [Node.shown, Node.marks, Template.flatMap_shownMark_chars, String.ofList_toList]
    rw [hshown] at hne ⊢
    exact ⟨c.append content, rfl, by rw [happend hne hframes]; exact hframes,
      by rw [happend hne hframes]⟩
  | placeholders t =>
    obtain ⟨d, hd, hfragments, hframes'⟩ := outcome_pieces_shown hmarker hσ hstatic c
    have hd' : d.frames = [] := hframes'.trans hframes
    refine ⟨d.append ((Node.placeholders t).shown marker), ?_, ?_, ?_⟩
    · show outcome (pieces σ t.pieces >>= fun text => append text >>= fun _ => pure true) c = _
      rw [outcome_bind_ok hd]
      rfl
    · rw [happend hne hd']
      exact hd'
    · rw [happend hne hd', ← hfragments]
  | bind | conditional | choose | foreach | sequence => cases hsome

theorem outcome_applyAll_shown (hmarker : ∀ i, σ.marker i = marker)
    (hσ : σ.collectsValues = false) {nodes : List Node}
    (h : ∀ n ∈ nodes, n.textClass?.isSome = true ∧ n.isDynamic = false ∧ n.shown marker ≠ "")
    {c : Context} (hframes : c.frames = []) :
    ∃ d, outcome (Node.applyAll σ nodes) c = (.ok (), d) ∧ d.frames = []
      ∧ d.fragments = c.fragments ++ nodes.map (Node.shown marker) := by
  induction nodes generalizing c with
  | nil => exact ⟨c, rfl, hframes, (List.append_nil _).symm⟩
  | cons n rest ih =>
    obtain ⟨⟨hsome, hstatic, hne⟩, hrest⟩ := List.forall_mem_cons.mp h
    obtain ⟨d, hd, hdframes, hdfragments⟩ :=
      outcome_apply_shown hmarker hσ hsome hstatic hne hframes
    obtain ⟨e, he, heframes, hefragments⟩ := ih hrest hdframes
    refine ⟨e, ?_, heframes, ?_⟩
    · have hfirst : outcome (discard (n.apply σ)) c = (.ok (), d) := by
        show outcome (n.apply σ >>= fun _ => pure ()) c = _
        rw [outcome_bind_ok hd]
        rfl
      rw [Node.applyAll, outcome_bind_ok hfirst]
      exact he
    · rw [hefragments, hdfragments, List.map_cons, List.append_assoc]
      rfl

end Render

namespace Script

open Render (outcome)
open Template (Tree)

variable {s : Script} {options : Options} {E : Evaluator} {arguments : Arguments}
  {b : BoundSql}

/-- What the root writes is what its runs show, with one space between each
two. -/
theorem sql_of_staticTexts {σ : Setting} {marker : String} {o : Options}
    {groups : List (List Tree)} {nodes : List Template.Node} {handled : Bool} {d : Context}
    (ho : o.preserveWhitespace = false) (hne : marker ≠ "") (hmarker : ∀ i, σ.marker i = marker)
    (hσ : σ.collectsValues = false) (h : List.Forall₂ (Template.StaticText o) groups nodes)
    (hrun : outcome ((Template.Node.sequence nodes).apply σ) (Context.start []) = (.ok handled, d)) :
    d.sql = " ".intercalate (groups.flatten.map (Tree.shown marker)) := by
  have htexts : ∀ n ∈ nodes,
      n.textClass?.isSome = true ∧ n.isDynamic = false ∧ n.shown marker ≠ "" := by
    intro n hn
    obtain ⟨run, -, hstatic⟩ := Template.exists_of_forall₂ h.flip hn
    exact ⟨hstatic.isText, hstatic.static, hstatic.normal.shown_ne_empty hstatic.isText hne⟩
  obtain ⟨e, he, -, hfragments⟩ :=
    Render.outcome_applyAll_shown hmarker hσ htexts (c := Context.start []) rfl
  have hsame : d = e := by
    have hroot : outcome ((Template.Node.sequence nodes).apply σ) (Context.start [])
        = (.ok true, e) := by
      show outcome (Template.Node.applyAll σ nodes >>= fun _ => pure true) _ = _
      rw [Render.outcome_bind_ok he]
      rfl
    exact (Prod.mk.inj (hrun.symm.trans hroot)).2
  have hshown : nodes.map (Template.Node.shown marker)
      = (groups.map (List.map (Tree.shown marker))).map (" ".intercalate) := by
    clear hrun he hfragments htexts hsame
    induction h with
    | nil => rfl
    | cons hstatic _ ih =>
      rw [List.map_cons, List.map_cons, List.map_cons, ih, hstatic.putTogether.shown ho]
  have hgroups : ∀ g ∈ groups.map (List.map (Tree.shown marker)), g ≠ [] := by
    intro g hg
    obtain ⟨run, hrun', rfl⟩ := List.mem_map.mp hg
    obtain ⟨n, -, hstatic⟩ := Template.exists_of_forall₂ h hrun'
    exact fun hnil => hstatic.ne_nil (List.map_eq_nil_iff.mp hnil)
  rw [hsame, Context.sql, hfragments, hshown, List.map_flatten]
  exact intercalate_flatten " " hgroups

/-- A blank run has no parameters. -/
theorem runParameters_of_allBlank {raw : String} (h : Text.allBlank raw = true) :
    runParameters raw = [] := by
  have hblank : Text.allBlank (Text.collapse raw) = true := by rw [Text.allBlank_collapse, h]
  have hnone := List.any_eq_false.mp
    (Template.any_isPlaceholder_of_asWritten (Segment.asWritten_of_allBlank hblank))
  refine List.filterMap_eq_nil_iff.mpr fun segment hsegment => ?_
  cases segment with
  | literal text => rfl
  | placeholder kind content => exact absurd rfl (hnone _ hsegment)

/-- The root has the parameters of its runs. -/
theorem readsTo_of_staticTexts {o : Options} {groups : List (List Tree)}
    {nodes : List Template.Node} (ho : o.preserveWhitespace = false)
    (h : List.Forall₂ (Template.StaticText o) groups nodes) :
    Template.ReadsTo (groups.flatten.flatMap Tree.parameters)
      (Template.Node.sequence nodes).parameters := by
  induction h with
  | nil => exact .nil
  | @cons run n _ nodes hstatic _ ih =>
    have hsequence : (Template.Node.sequence (n :: nodes)).parameters
        = n.parameters ++ (Template.Node.sequence nodes).parameters :=
      Template.Place.parameters_append ..
    rw [hsequence, List.flatten_cons, List.flatMap_append,
      Template.Node.parameters_of_text hstatic.isText]
    exact List.rel_append (hstatic.putTogether.readsTo ho) ih

theorem isPrepared_iff_parameters : s.isPrepared = true ↔ s.root.parameters ≠ [] := by
  rw [isPrepared, ← Template.Node.any_isParameter [], List.any_eq_true]
  unfold Template.Node.parameters Template.Place.parameters
  rw [Ne, List.filterMap_eq_nil_iff]
  simp only [not_forall]
  constructor
  · rintro ⟨place, hplace, hparameter⟩
    refine ⟨place, hplace, ?_⟩
    cases hpart : place.part with
    | parameter m => exact nofun
    | interpolation _ | bind _ | test _ | loop _ =>
      rw [hpart] at hparameter
      cases hparameter
  · rintro ⟨place, hplace, hsome⟩
    refine ⟨place, hplace, ?_⟩
    cases hpart : place.part with
    | parameter m => rfl
    | interpolation _ | bind _ | test _ | loop _ =>
      rw [hpart] at hsome
      exact absurd rfl hsome

/-- The parameters of a result are there just if there are mappings. -/
theorem map_mapping_parameters {known : StaticSql} {values : List Value}
    (hprepared : s.isPrepared = true ↔ known.mappings ≠ [])
    (hbound : (s.result known values).bound.map Parameter.Bound.mapping = known.mappings) :
    (s.result known values).parameters.map (List.map Parameter.Bound.mapping)
      = if known.mappings.isEmpty then none else some known.mappings := by
  unfold result BoundSql.bound at hbound
  unfold result
  cases hp : s.isPrepared with
  | true =>
    have hne : known.mappings.isEmpty = false := by simpa using hprepared.mp hp
    rw [hp] at hbound
    rw [hne]
    exact congrArg some hbound
  | false =>
    have hnil : known.mappings = [] := by
      by_contra hsome
      rw [hprepared.mpr hsome] at hp
      cases hp
    rw [hnil]
    rfl

/-- A script of nothing but runs into which nothing is substituted. Where white
space is not preserved and the marker is not empty, the text of each render is
that of the runs which are not blank, in order and with one space between each
two of them. The parameters are those of all runs, from left to right, and there
are none if no run has one. -/
theorem build_renderWith_runs {runs : List (String × Option Span)}
    (hblanks : options.preserveWhitespace = false) (hmarker : options.parameterMarker ≠ "")
    (hruns : ∀ run ∈ runs, (Segment.split run.1).any (Segment.isOfKind .interpolation) = false)
    (hbuild : build options (runs.map fun run => .text run.1 run.2) = .ok s)
    (hrender : s.renderWith E arguments = .ok b) :
    b.sql = " ".intercalate (((runs.map Prod.fst).filter fun raw => !Text.allBlank raw).map
        (runText options.parameterMarker))
      ∧ ∃ mappings, ((runs.map Prod.fst).flatMap runParameters).mapM Parameter.Mapping.read
          = .ok mappings
        ∧ b.parameters.map (List.map Parameter.Bound.mapping)
          = if mappings.isEmpty then none else some mappings := by
  have hs : s.BuiltFrom options _ := build_eq_ok.mp hbuild
  obtain ⟨nodes, hnodes, hroot⟩ := hs.root_eq
  have htexts : ∀ t ∈ runs.map fun run => Tree.text run.1 run.2,
      t.isElement = false ∧ t.holds .interpolation = false := by
    intro t ht
    obtain ⟨run, hrun, rfl⟩ := List.mem_map.mp ht
    exact ⟨rfl, hruns run hrun⟩
  obtain ⟨groups, hflatten, hgroups⟩ := Template.exists_staticTexts htexts hnodes
  have hstatic : s.isDynamic = false := by
    rw [isDynamic, hroot, Bool.eq_false_iff]
    intro hdynamic
    obtain ⟨t, ht, hsome⟩ := (Template.anyIsDynamic_of_buildChildren hnodes).mp hdynamic
    rw [(htexts t ht).1, (htexts t ht).2] at hsome
    rcases hsome with hsome | hsome <;> cases hsome
  -- The runs of the nodes are those that are not blank.
  have hkept : groups.flatten
      = (runs.filter fun run => !Text.allBlank run.1).map fun run => Tree.text run.1 run.2 := by
    rw [hflatten, List.filter_map]
    rfl
  obtain ⟨handled, d, hrun, hmappings, hparts⟩ := hs.parts_static hstatic
  obtain ⟨known, values, hknown, rfl⟩ := parts_of_renderWith hrender
  obtain rfl : (⟨d.sql, d.mappings⟩ : StaticSql) = known := by
    rw [hparts] at hknown
    obtain ⟨found, -, hfound⟩ := Except.map_eq_ok.mp hknown
    exact (Prod.mk.inj hfound).1
  refine ⟨?_, d.mappings, ?_, ?_⟩
  · rw [hroot, hs.options_eq] at hrun
    have hsql := sql_of_staticTexts hblanks hmarker (fun _ => rfl) rfl hgroups hrun
    show d.sql = _
    rw [hsql, hkept, List.map_map, List.filter_map, List.map_map]
    rfl
  · have hread := readsTo_of_staticTexts hblanks hgroups
    rw [hkept, List.flatMap_map, flatMap_filter_of_nil, ← hroot, ← hmappings] at hread
    · rw [List.flatMap_map]
      exact Template.mapM_eq_ok_iff.mpr hread
    · intro run _ hblank
      exact runParameters_of_allBlank (by simpa using hblank)
  · have hbound := hs.map_mapping_bound hknown
    have hprepared := isPrepared_iff_parameters (s := s)
    rw [← hmappings] at hprepared
    exact map_mapping_parameters hprepared hbound

/-- Words, a blank run, a parameter and an escaped opening token. -/
def mixedRuns : List (String × Option Span) :=
  [("a\n b", none), (" ", none), ("#\x7bc\x7d", none), ("\\#\x7bd", none)]

theorem buildChildren_mixedRuns :
    Template.buildChildren Options.standard (mixedRuns.map fun run => .text run.1 run.2)
      = .ok [.text "a b", .placeholders ⟨[.parameter ⟨.property "c", none, []⟩], none⟩,
        .text "#\x7bd"] := by
  have hwords : Segment.split (Template.usedText Options.standard "a\n b") = [.literal "a b"] := by
    decide +kernel
  have hparameter : Segment.split (Template.usedText Options.standard "#\x7bc\x7d")
      = [.placeholder .parameter "c"] := by decide +kernel
  have hescaped : Segment.split (Template.usedText Options.standard "\\#\x7bd")
      = [.literal "#\x7bd"] := by decide +kernel
  have hblank : Text.allBlank " " = true := rfl
  simp only [mixedRuns, List.map_cons, List.map_nil, Template.buildChildren,
    Template.buildSiblings, Template.Siblings.pushRun, Template.Node.ofText, hwords, hparameter,
    hescaped, hblank]
  rfl

/-- The text is that of three runs, with the marker of the one parameter. -/
theorem build_renderWith_runs_of_mixed :
    ∃ s b, build Options.standard (mixedRuns.map fun run => .text run.1 run.2) = .ok s
      ∧ s.renderWith (fun _ _ => .ok .null) [] = .ok b ∧ b.sql = "a b ? #\x7bd"
      ∧ b.parameters.map (List.map Parameter.Bound.mapping)
        = some [⟨.property "c", none, []⟩] := by
  have hfilter : readFilter Options.standard = .ok none := rfl
  obtain ⟨known, hbuild⟩ := build_of_static hfilter buildChildren_mixedRuns rfl
  obtain ⟨-, d, -, hmappings, hparts⟩ := (build_eq_ok.mp hbuild).parts_static rfl
  have hfound := hparts (fun _ _ => .ok .null) []
  rw [hmappings] at hfound
  have hrender := renderWith_of_ok hfound
  have hruns : ∀ run ∈ mixedRuns,
      (Segment.split run.1).any (Segment.isOfKind .interpolation) = false := by decide +kernel
  obtain ⟨hsql, mappings, hread, hparameters⟩ :=
    build_renderWith_runs rfl (by decide) hruns hbuild hrender
  refine ⟨_, _, hbuild, hrender, ?_, ?_⟩
  · rw [hsql]
    decide +kernel
  · have hcontents : (mixedRuns.map Prod.fst).flatMap runParameters = ["c"] := by decide +kernel
    rw [hcontents] at hread
    obtain rfl := Except.ok.inj hread
    exact hparameters

end Script

end DynamicSql
