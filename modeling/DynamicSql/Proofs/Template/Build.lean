/-
How templates are built under options, and what single elements become.

Only the treatment of blanks is decided while a template is built. The
marker, the filter and the word about null are looked at when it renders, so
two builds that differ in these give the same template, or the same
complaint.

# Complaints

Nothing is evaluated while a template is built, so it is only complained of
the template. That a render failed is said of no template
(`buildChildren_onlyFaults`).
-/
import DynamicSql.Template.Build

namespace DynamicSql.Template

variable {o o' : Options}

-- ============================================================== options

/-- A run of text is used according to its blanks. -/
theorem Siblings.pushRun_congr (h : o.preserveWhitespace = o'.preserveWhitespace)
    (s : Siblings) (raw : String) (span : Option Span) :
    s.pushRun o raw span = s.pushRun o' raw span := by
  unfold pushRun usedText joiner
  rw [h]

mutual

theorem buildSiblings_congr (h : o.preserveWhitespace = o'.preserveWhitespace) :
    (trees : List Tree) → (done : Siblings) →
      buildSiblings o done trees = buildSiblings o' done trees
  | [], done => by rw [buildSiblings, buildSiblings]
  | .text raw span :: rest, done => by
    rw [buildSiblings, buildSiblings, Siblings.pushRun_congr h]
    simp only [buildSiblings_congr h rest]
  | .element name attributes children span :: rest, done => by
    rw [buildSiblings, buildSiblings]
    simp only [buildSiblings_congr h children, buildSiblings_congr h rest,
      buildChoice_congr h children]

theorem buildChoice_congr (h : o.preserveWhitespace = o'.preserveWhitespace) :
    (trees : List Tree) → (done : Choice) →
      buildChoice o done trees = buildChoice o' done trees
  | [], done => by rw [buildChoice, buildChoice]
  | .text raw span :: rest, done => by
    rw [buildChoice, buildChoice]
    exact buildChoice_congr h rest done
  | .element name attributes children span :: rest, done => by
    rw [buildChoice, buildChoice]
    simp only [buildSiblings_congr h children, buildChoice_congr h rest]

end

/-- Options that treat blanks alike build the same nodes. -/
theorem buildChildren_congr (h : o.preserveWhitespace = o'.preserveWhitespace)
    (trees : List Tree) : buildChildren o trees = buildChildren o' trees := by
  rw [buildChildren, buildChildren, buildSiblings_congr h]

-- =========================================================== complaints

/-- If this fails, then because of the template, and not in a render. -/
def OnlyFaults {α : Type} (x : Except BuildError α) : Prop := ∀ e, x ≠ .error (.render e)

section OnlyFaults

variable {α β : Type}

theorem onlyFaults_ok (a : α) : OnlyFaults (.ok a) := fun _ h => nomatch h

theorem onlyFaults_bind {x : Except BuildError α} {f : α → Except BuildError β}
    (hx : OnlyFaults x) (hf : ∀ a, OnlyFaults (f a)) : OnlyFaults (x >>= f) := by
  intro e h
  cases x with
  | error err => exact hx e (congrArg Except.error (Except.error.inj h))
  | ok a => exact hf a e h

theorem onlyFaults_map {x : Except BuildError α} (hx : OnlyFaults x) (f : α → β) :
    OnlyFaults (x.map f) := by
  intro e h
  cases x with
  | error err => exact hx e (congrArg Except.error (Except.error.inj h))
  | ok a => cases h

end OnlyFaults

theorem Piece.ofSegment_onlyFaults (span : Option Span) (segment : Segment) :
    OnlyFaults (Piece.ofSegment span segment) := by
  intro e h
  unfold Piece.ofSegment at h
  split at h
  · cases h
  · cases h
  · split at h <;> cases h

theorem Node.ofText_onlyFaults (text : String) (span : Option Span) :
    OnlyFaults (Node.ofText text span) := by
  have hpieces : ∀ segments : List Segment,
      OnlyFaults (segments.mapM (Piece.ofSegment span)) := by
    intro segments
    induction segments with
    | nil => exact onlyFaults_ok []
    | cons segment rest ih =>
      rw [List.mapM_cons]
      exact onlyFaults_bind (Piece.ofSegment_onlyFaults span segment) fun piece =>
        onlyFaults_bind ih fun pieces => onlyFaults_ok (piece :: pieces)
  unfold Node.ofText
  simp only []
  split
  · exact onlyFaults_bind (hpieces _) fun pieces => onlyFaults_ok _
  · exact onlyFaults_ok _

theorem Siblings.pushRun_onlyFaults (s : Siblings) (options : Options) (raw : String)
    (span : Option Span) : OnlyFaults (s.pushRun options raw span) := by
  unfold pushRun
  split
  · exact onlyFaults_ok s
  · exact onlyFaults_map (Node.ofText_onlyFaults _ span) _

theorem Siblings.extendChain_onlyFaults (s : Siblings) (branch : Branch) :
    OnlyFaults (s.extendChain branch) := by
  intro e h
  unfold extendChain at h
  split at h <;> cases h

theorem Siblings.endChain_onlyFaults (s : Siblings) (body : Body) (span : Option Span) :
    OnlyFaults (s.endChain body span) := by
  intro e h
  unfold endChain at h
  split at h <;> cases h

theorem requiredAttribute_onlyFaults (tag : String) (attributes : Attributes)
    (span : Option Span) (name : String) :
    OnlyFaults (requiredAttribute tag attributes span name) := by
  intro e h
  unfold requiredAttribute at h
  split at h <;> cases h

theorem booleanAttribute_onlyFaults (tag : String) (attributes : Attributes)
    (span : Option Span) (name : String) :
    OnlyFaults (booleanAttribute tag attributes span name) := by
  intro e h
  unfold booleanAttribute at h
  split at h <;> cases h

theorem LoopHead.read_onlyFaults (tag : String) (attributes : Attributes)
    (span : Option Span) : OnlyFaults (LoopHead.read tag attributes span) := by
  refine onlyFaults_bind (requiredAttribute_onlyFaults tag attributes span _) fun _ => ?_
  simp only []
  split
  · exact onlyFaults_bind
      (onlyFaults_map (booleanAttribute_onlyFaults tag attributes span _) some) fun _ =>
        onlyFaults_ok _
  · exact onlyFaults_ok _

theorem Bind.read_onlyFaults (tag : String) (attributes : Attributes) (span : Option Span) :
    OnlyFaults (Bind.read tag attributes span) :=
  onlyFaults_bind (requiredAttribute_onlyFaults tag attributes span _) fun _ =>
    onlyFaults_bind (requiredAttribute_onlyFaults tag attributes span _) fun _ =>
      onlyFaults_ok _

mutual

theorem buildSiblings_onlyFaults (o : Options) :
    (trees : List Tree) → (done : Siblings) → OnlyFaults (buildSiblings o done trees)
  | [], done => by
    rw [buildSiblings]
    exact onlyFaults_ok done
  | .text raw span :: rest, done => by
    rw [buildSiblings]
    exact onlyFaults_bind (done.pushRun_onlyFaults o raw span) fun next =>
      buildSiblings_onlyFaults o rest next
  | .element name attributes children span :: rest, done => by
    rw [buildSiblings]
    have hinside := buildSiblings_onlyFaults o children .empty
    have htest := requiredAttribute_onlyFaults name attributes span "test"
    have hrest : ∀ next, OnlyFaults (buildSiblings o next rest) :=
      buildSiblings_onlyFaults o rest
    split
    · exact fun e h => nomatch h
    · exact fun e h => nomatch h
    · exact onlyFaults_bind (Bind.read_onlyFaults name attributes span) fun _ => hrest _
    · exact onlyFaults_bind htest fun _ => onlyFaults_bind hinside fun _ => hrest _
    · exact onlyFaults_bind htest fun _ => onlyFaults_bind hinside fun _ =>
        onlyFaults_bind (done.extendChain_onlyFaults _) hrest
    · exact onlyFaults_bind hinside fun _ =>
        onlyFaults_bind (done.endChain_onlyFaults _ span) hrest
    · exact onlyFaults_bind (buildChoice_onlyFaults o children _) fun _ => hrest _
    · exact onlyFaults_bind (LoopHead.read_onlyFaults name attributes span) fun _ =>
        onlyFaults_bind hinside fun _ => hrest _

theorem buildChoice_onlyFaults (o : Options) :
    (trees : List Tree) → (done : Choice) → OnlyFaults (buildChoice o done trees)
  | [], done => by
    rw [buildChoice]
    exact onlyFaults_ok done
  | .text _ _ :: rest, done => by
    rw [buildChoice]
    exact buildChoice_onlyFaults o rest done
  | .element name attributes children span :: rest, done => by
    rw [buildChoice]
    have hinside := buildSiblings_onlyFaults o children .empty
    have hrest : ∀ next, OnlyFaults (buildChoice o next rest) := buildChoice_onlyFaults o rest
    split
    · exact fun e h => nomatch h
    · exact onlyFaults_bind (requiredAttribute_onlyFaults name attributes span _) fun _ =>
        onlyFaults_bind (booleanAttribute_onlyFaults name attributes span _) fun _ =>
          onlyFaults_bind hinside fun _ => hrest _
    · split
      · exact fun e h => nomatch h
      · exact onlyFaults_bind hinside fun _ => hrest _

end

/-- Building nodes fails because of the template, if at all. -/
theorem buildChildren_onlyFaults (o : Options) (trees : List Tree) :
    OnlyFaults (buildChildren o trees) :=
  onlyFaults_map (buildSiblings_onlyFaults o trees .empty) _

-- ================================================================ loops

/-- A run that is one placeholder of a parameter. -/
theorem Node.ofText_parameter {text content : String} {m : Parameter.Mapping}
    (hsplit : Segment.split text = [.placeholder .parameter content])
    (hread : Parameter.Mapping.read content = .ok m) (span : Option Span) :
    Node.ofText text span = .ok (.placeholders ⟨[.parameter m], span⟩) := by
  have hpiece : Piece.ofSegment span (.placeholder .parameter content) = .ok (.parameter m) := by
    rw [Piece.ofSegment, hread]
  rw [Node.ofText, hsplit]
  show (do
    let pieces ← [Segment.placeholder .parameter content].mapM (Piece.ofSegment span)
    pure (Node.placeholders ⟨pieces, span⟩)) = _
  rw [List.mapM_cons, hpiece]
  rfl

/-- A run of text that is not blank becomes a node. -/
theorem buildSiblings_text {raw : String} {span : Option Span} {node : Node}
    (hraw : Text.allBlank raw = false) (hnode : Node.ofText (usedText o raw) span = .ok node) :
    buildSiblings o .empty [.text raw span] = .ok ⟨[node], none⟩ := by
  rw [buildSiblings, Siblings.pushRun, if_neg (Bool.eq_false_iff.mp hraw), hnode]
  show buildSiblings o ⟨[node], none⟩ [] = _
  rw [buildSiblings]

/-- A loop is built of its head and of what it encloses. -/
theorem buildSiblings_foreach {attributes : Attributes} {children : List Tree}
    {span : Option Span} {head : LoopHead} {inside : Siblings}
    (hhead : LoopHead.read "foreach" attributes span = .ok head)
    (hinside : buildSiblings o .empty children = .ok inside) :
    buildSiblings o .empty [.element "foreach" attributes children span]
      = .ok ⟨[.foreach head (Node.ofList inside.toList)], none⟩ := by
  have hkind : ElementKind.ofName? "foreach" = some .foreach := rfl
  rw [buildSiblings, hkind]
  simp only [hhead, hinside]
  show buildSiblings o ⟨[.foreach head (Node.ofList inside.toList)], none⟩ [] = _
  rw [buildSiblings]

theorem buildChildren_foreach {attributes : Attributes} {children : List Tree}
    {span : Option Span} {head : LoopHead} {inside : Siblings}
    (hhead : LoopHead.read "foreach" attributes span = .ok head)
    (hinside : buildSiblings o .empty children = .ok inside) :
    buildChildren o [.element "foreach" attributes children span]
      = .ok [.foreach head (Node.ofList inside.toList)] := by
  rw [buildChildren, buildSiblings_foreach hhead hinside]
  rfl

end DynamicSql.Template
