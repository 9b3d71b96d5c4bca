/-
What collapsing a run of text does to the placeholders in it.

A run is collapsed before it is cut, as a whole. Its placeholders come through
this: they are as many, of the same kinds and in the same order. Their contents
come through squeezed, and whether an expression does is seen from its text: if
no blank in it stands where the language has none, and those in its strings are
spaces that stand alone, it is the expression that it was. If it does not come
through and still is an expression, it is another one, with other strings.

Whether a run is built at all is not touched if each of its blanks is what the
reader of parameters takes for space. Other blanks may be a property, and as a
space they are none.
-/
import DynamicSql.Proofs.Parameter.Plain
import DynamicSql.Proofs.Placeholder.Squeezed
import DynamicSql.Proofs.Template.Parts
import DynamicSql.Template.Build

namespace DynamicSql

/-- The options, but literal text is kept as it is written, or it is not. -/
def Options.preserving (o : Options) (preserve : Bool) : Options :=
  { o with preserveWhitespace := preserve }

namespace Segment

theorem mem_braced {content : List Char} {c : Char} (hc : c ∈ content) : c ∈ braced content := by
  refine List.mem_flatMap.mpr ⟨c, hc, ?_⟩
  split
  · next hbrace =>
    rw [hbrace]
    exact List.mem_cons_of_mem _ List.mem_cons_self
  · exact List.mem_singleton_self c

/-- Each character of a content is one of the text. -/
theorem mem_of_mem_placeholders {cs : List Char} {p : PlaceholderKind × String} {c : Char}
    (hp : p ∈ placeholders (leadingLiteral cs).2) (hc : c ∈ p.2.toList) : c ∈ cs := by
  induction cs using induction_on_steps with
  | nil =>
    rw [leadingLiteral_nil] at hp
    cases hp
  | placeholder kind body content after hclosing ih =>
    have hbody : c ∈ body := by
      rw [(closing?_eq_some_iff.mp hclosing).1]
      rw [leadingLiteral_placeholder kind hclosing, placeholders_cons] at hp
      rcases List.mem_cons.mp hp with rfl | hp
      · rw [String.toList_ofList] at hc
        exact List.mem_append_left _ (mem_braced hc)
      · exact List.mem_append_right _ (List.mem_cons_of_mem _ (ih hp))
    exact List.mem_cons_of_mem _ (List.mem_cons_of_mem _ hbody)
  | unclosed kind body hclosing =>
    rw [leadingLiteral_unclosed kind hclosing] at hp
    cases hp
  | escaped kind body ih =>
    rw [leadingLiteral_escaped] at hp
    exact List.mem_cons_of_mem _ (List.mem_cons_of_mem _ (List.mem_cons_of_mem _ (ih hp)))
  | plain d cs hopen hescape ih =>
    rw [leadingLiteral_plain hopen hescape] at hp
    exact List.mem_cons_of_mem _ (ih hp)

end Segment

namespace Template

-- =========================================================== placeholders

/-- The part that a placeholder is, if its content is one. -/
def Part.read? : PlaceholderKind × String → Option Part
  | (.interpolation, content) => some (.interpolation content)
  | (.parameter, content) => (Parameter.Mapping.read content).toOption.map .parameter

/-- The kind of a part that is a placeholder. -/
def Part.kind? : Part → Option PlaceholderKind
  | .interpolation _ => some .interpolation
  | .parameter _ => some .parameter
  | .bind _ | .test _ | .loop _ => none

/-- A placeholder with its texts squeezed. -/
def Part.squeeze : Part → Part
  | .interpolation expression => .interpolation (Text.squeeze expression)
  | .parameter mapping => .parameter mapping.squeeze
  | part => part

theorem Node.parts_placeholders (t : PlaceholderText) :
    (Node.placeholders t).parts = t.pieces.filterMap Piece.part? := by
  rw [parts, places, Piece.places, List.map_map]
  exact List.map_id _

/-- Without the fault, a list is read as each of its elements is. -/
theorem toOption_mapM {α β ε : Type} (f : α → Except ε β) (as : List α) :
    (as.mapM f).toOption = as.mapM fun a => (f a).toOption := by
  induction as with
  | nil => rfl
  | cons a rest ih =>
    rw [List.mapM_cons, List.mapM_cons, ← ih]
    cases f a with
    | error e => rfl
    | ok b => cases rest.mapM f <;> rfl

/-- The parts of pieces are the placeholders that were read. -/
theorem Piece.parts_mapM (span : Option Span) (segments : List Segment) :
    (segments.mapM (Piece.ofSegment span)).toOption.map (List.filterMap Piece.part?)
      = (Segment.placeholders segments).mapM Part.read? := by
  rw [toOption_mapM]
  induction segments with
  | nil => rfl
  | cons segment rest ih =>
    rw [List.mapM_cons]
    cases segment with
    | literal text =>
      show _ = (Segment.placeholders rest).mapM Part.read?
      rw [← ih]
      cases rest.mapM fun s => (Piece.ofSegment span s).toOption <;> rfl
    | placeholder kind content =>
      show _ = ((kind, content) :: Segment.placeholders rest).mapM Part.read?
      rw [List.mapM_cons, ← ih]
      cases kind with
      | interpolation => cases rest.mapM fun s => (Piece.ofSegment span s).toOption <;> rfl
      | parameter =>
        rw [Piece.ofSegment, Part.read?]
        cases Parameter.Mapping.read content with
        | error e => rfl
        | ok m => cases rest.mapM fun s => (Piece.ofSegment span s).toOption <;> rfl

/-- The parts of a run of text are the placeholders among its segments. -/
theorem Node.parts_ofText (text : String) (span : Option Span) :
    (Node.ofText text span).toOption.map Node.parts
      = (Segment.placeholders (Segment.split text)).mapM Part.read? := by
  unfold Node.ofText
  simp only []
  split
  · rw [← Piece.parts_mapM span]
    cases (Segment.split text).mapM (Piece.ofSegment span) with
    | error e => rfl
    | ok pieces => exact congrArg some (Node.parts_placeholders ⟨pieces, span⟩)
  · next hnone =>
    have hnil : Segment.placeholders (Segment.split text) = [] := by
      refine List.filterMap_eq_nil_iff.mpr fun segment hsegment => ?_
      cases segment with
      | literal text => rfl
      | placeholder kind content =>
        exact absurd (List.any_eq_true.mpr ⟨_, hsegment, rfl⟩) hnone
    rw [hnil]
    rfl

-- ============================================================ collapsing

/-- A placeholder of a run, and that of the collapsed run: they are of one
kind, and the same expression just if the first survives or the second is no
expression. -/
structure Part.Collapses (p p' : Part) : Prop where
  kind : ∃ kind, p.kind? = some kind ∧ p'.kind? = some kind
  sameReading : Expr.SameReading p.text p'.text
    ↔ Token.survives none false p.text.toList = true ∨ (Expr.parse p'.text).toOption = none

theorem eq_ok_of_toOption {ε α : Type} {x : Except ε α} {a : α} (h : x.toOption = some a) :
    x = .ok a := by
  cases x with
  | error e => cases h
  | ok b => rw [Option.some.inj h]

/-- A content and the squeezed content, where both were read. -/
theorem Part.collapses_of_read? {kind : PlaceholderKind} {content : String} {p p' : Part}
    (h : Part.read? (kind, content) = some p)
    (h' : Part.read? (kind, Text.squeeze content) = some p') : p.Collapses p' := by
  cases kind with
  | interpolation =>
    obtain rfl := Option.some.inj h
    obtain rfl := Option.some.inj h'
    exact ⟨⟨.interpolation, rfl, rfl⟩, Expr.sameReading_squeeze_iff content⟩
  | parameter =>
    obtain ⟨m, hm, rfl⟩ := Option.map_eq_some_iff.mp h
    obtain ⟨m', hm', rfl⟩ := Option.map_eq_some_iff.mp h'
    exact ⟨⟨.parameter, rfl, rfl⟩,
      Parameter.sameReading_source_iff (eq_ok_of_toOption hm) (eq_ok_of_toOption hm')⟩

/-- Many of them. -/
theorem Part.forall₂_collapses {contents : List (PlaceholderKind × String)} {ps ps' : List Part}
    (h : contents.mapM Part.read? = some ps)
    (h' : (contents.map (Prod.map id Text.squeeze)).mapM Part.read? = some ps') :
    List.Forall₂ Part.Collapses ps ps' := by
  induction contents generalizing ps ps' with
  | nil =>
    obtain rfl := Option.some.inj h
    obtain rfl := Option.some.inj h'
    exact .nil
  | cons content rest ih =>
    rw [List.mapM_cons] at h
    rw [List.map_cons, List.mapM_cons] at h'
    obtain ⟨p, hp, h⟩ := Option.bind_eq_some_iff.mp h
    obtain ⟨others, hothers, h⟩ := Option.bind_eq_some_iff.mp h
    obtain ⟨p', hp', h'⟩ := Option.bind_eq_some_iff.mp h'
    obtain ⟨others', hothers', h'⟩ := Option.bind_eq_some_iff.mp h'
    obtain rfl := Option.some.inj h
    obtain rfl := Option.some.inj h'
    exact .cons (Part.collapses_of_read? hp hp') (ih hothers hothers')

/-- A content of plain blanks is read as the squeezed content is. -/
theorem Part.read?_squeeze {content : PlaceholderKind × String}
    (h : Parameter.PlainBlanks content.2.toList) :
    Part.read? (Prod.map id Text.squeeze content) = (Part.read? content).map Part.squeeze := by
  obtain ⟨kind, content⟩ := content
  cases kind with
  | interpolation => rfl
  | parameter =>
    show (Parameter.Mapping.read (Text.squeeze content)).toOption.map Part.parameter = _
    rw [Parameter.read_squeeze h, Part.read?, Option.map_map, Option.map_map]
    rfl

theorem Part.mapM_read?_squeeze {contents : List (PlaceholderKind × String)}
    (h : ∀ content ∈ contents, Parameter.PlainBlanks content.2.toList) :
    (contents.map (Prod.map id Text.squeeze)).mapM Part.read?
      = (contents.mapM Part.read?).map (List.map Part.squeeze) := by
  induction contents with
  | nil => rfl
  | cons content rest ih =>
    rw [List.map_cons, List.mapM_cons, List.mapM_cons,
      Part.read?_squeeze (h content List.mem_cons_self),
      ih fun c hc => h c (List.mem_cons_of_mem _ hc)]
    cases Part.read? content with
    | none => rfl
    | some p => cases rest.mapM Part.read? <;> rfl

/-- Collapsing a run keeps its placeholders, with squeezed contents. Where both
runs are built, an expression is the same just if it survives or the squeezed
one is none. Where each blank is plain, both are built or neither is. -/
theorem collapse_keeps_placeholders (options : Options) (raw : String) (span : Option Span) :
    let kept := usedText (options.preserving true) raw
    let collapsed := usedText (options.preserving false) raw
    Segment.placeholders (Segment.split collapsed)
        = (Segment.placeholders (Segment.split kept)).map (Prod.map id Text.squeeze)
      ∧ (∀ n n', Node.ofText kept span = .ok n → Node.ofText collapsed span = .ok n' →
          List.Forall₂ Part.Collapses n.parts n'.parts)
      ∧ (Parameter.PlainBlanks raw.toList →
          (Node.ofText collapsed span).toOption.map Node.parts
            = ((Node.ofText kept span).toOption.map Node.parts).map (List.map Part.squeeze)) := by
  intro kept collapsed
  have hplaceholders : Segment.placeholders (Segment.split collapsed)
      = (Segment.placeholders (Segment.split kept)).map (Prod.map id Text.squeeze) :=
    Segment.placeholders_collapse raw
  refine ⟨hplaceholders, fun n n' hn hn' => ?_, fun hplain => ?_⟩
  · have hparts := Node.parts_ofText kept span
    have hparts' := Node.parts_ofText collapsed span
    rw [hn] at hparts
    rw [hn', hplaceholders] at hparts'
    exact Part.forall₂_collapses hparts.symm hparts'.symm
  · rw [Node.parts_ofText, Node.parts_ofText, hplaceholders]
    refine Part.mapM_read?_squeeze fun content hcontent => hplain.mono fun c hc => ?_
    rw [Segment.placeholders_split] at hcontent
    exact Segment.mem_of_mem_placeholders hcontent hc

/-- A string with two spaces in it, and a parameter with two spaces between its
parts. -/
def spacedText : String := "$\x7b'a  b'\x7d #\x7bx,  mode = IN\x7d"

/-- The pieces of it, as written. -/
def spacedPieces : List Piece :=
  [.interpolation "'a  b'", .literal " ", .parameter ⟨.property "x", none, [("mode", "IN")]⟩]

theorem ofText_spacedText (span : Option Span) :
    Node.ofText (usedText (Options.standard.preserving true) spacedText) span
      = .ok (.placeholders ⟨spacedPieces, span⟩) := by
  have hsplit : Segment.split (usedText (Options.standard.preserving true) spacedText)
      = [.placeholder .interpolation "'a  b'", .literal " ",
        .placeholder .parameter "x,  mode = IN"] := by decide +kernel
  have hread : Parameter.Mapping.read "x,  mode = IN"
      = .ok ⟨.property "x", none, [("mode", "IN")]⟩ := by decide +kernel
  simp only [Node.ofText, hsplit, List.mapM_cons, Piece.ofSegment, hread]
  rfl

/-- Collapsed, the parameter is what it was, and the string is not. -/
theorem collapse_keeps_placeholders_of_spaced :
    Parameter.PlainBlanks spacedText.toList
      ∧ Node.ofText (usedText (Options.standard.preserving true) spacedText) none
        = .ok (.placeholders ⟨spacedPieces, none⟩)
      ∧ ∃ n', Node.ofText (usedText (Options.standard.preserving false) spacedText) none = .ok n'
        ∧ n'.parts = [.interpolation "'a b'", .parameter ⟨.property "x", none, [("mode", "IN")]⟩]
        ∧ ¬Expr.SameReading "'a  b'" "'a b'" := by
  obtain ⟨-, hcollapses, hplain⟩ := collapse_keeps_placeholders Options.standard spacedText none
  have hblanks : Parameter.PlainBlanks spacedText.toList :=
    Parameter.plainBlanks_of_ascii (by decide)
  have hkept := ofText_spacedText none
  have hparts := hplain hblanks
  rw [hkept] at hparts
  obtain ⟨n', hn', hn'parts⟩ := Option.map_eq_some_iff.mp hparts
  have hcollapsed := eq_ok_of_toOption hn'
  have hforall := hcollapses _ _ hkept hcollapsed
  refine ⟨hblanks, hkept, n', hcollapsed, hn'parts, ?_⟩
  rw [hn'parts] at hforall
  cases hforall with
  | cons hstring _ =>
    intro hsame
    rcases hstring.sameReading.mp hsame with hsurvives | hnone
    · exact absurd hsurvives (by decide)
    · exact absurd hnone (by decide +kernel)

/-- A string of which the blanks do not survive. -/
def stringText : String := "$\x7b'a  b'\x7d"

/-- Collapsing changes the value of an expression: what is substituted has one
space where two were written. -/
theorem collapse_changes_string :
    Node.ofText (usedText (Options.standard.preserving true) stringText) none
        = .ok (.placeholders ⟨[.interpolation "'a  b'"], none⟩)
      ∧ Node.ofText (usedText (Options.standard.preserving false) stringText) none
        = .ok (.placeholders ⟨[.interpolation "'a b'"], none⟩)
      ∧ Expr.parse "'a  b'" = .ok (.literal (.string "a  b"))
      ∧ Expr.parse "'a b'" = .ok (.literal (.string "a b")) := by
  have hnode : ∀ {text content : String}, Segment.split text = [.placeholder .interpolation content]
      → Node.ofText text none = .ok (.placeholders ⟨[.interpolation content], none⟩) := by
    intro text content hsplit
    rw [Node.ofText, hsplit]
    rfl
  have hparse : ∀ {text : String} (cs : List Char) {content : String}, text.toList = '\'' :: cs →
      Token.scan '\'' cs = .ok (.string content, []) →
      Expr.parse text = .ok (.literal (.string content)) := by
    intro text cs content htext hscan
    obtain ⟨next, hnext⟩ := Token.lexFrom_of_scan rfl hscan 0
    rw [Expr.parse, Token.lex, htext, hnext, Token.lexFrom]
    rfl
  exact ⟨hnode (by decide +kernel), hnode (by decide +kernel), hparse "a  b'".toList rfl rfl,
    hparse "a b'".toList rfl rfl⟩

end Template

end DynamicSql
