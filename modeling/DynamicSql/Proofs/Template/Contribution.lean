/-
What a sibling contributes, apart from where it stands.

A sibling is read without a look at the others: whether its name is known,
whether it has its attributes, what its content becomes. What comes of this is
its contribution, and only then is it added to what has been built
(`buildSiblings_cons`). Adding fails for one reason only, which is that an
`else-if` or an `else` finds no open chain (`Siblings.add_cases`).

# Places

A chain is open behind an `if`, a `when` and an `else-if`, and behind nothing
else: an `else` ends it, and whatever is no part of a chain closes it. So
whether a sibling finds an open chain is seen from the sibling before it,
blank text aside, and while siblings are built from left to right the chain is
open exactly if the last of them left one open. That is the invariant of
`buildSiblings_places`: siblings that can be read are built up to the first of
them that is out of place.
-/
import DynamicSql.Proofs.Template.Chains
import DynamicSql.Proofs.Template.Texts
import Mathlib.Data.List.Induction

namespace DynamicSql.Template

variable {o : Options}

-- ======================================================= contributions

/-- What a sibling is when it is read by itself. -/
inductive Contribution where
  /-- Blank text. -/
  | nothing
  | text (node : Node)
  /-- An element that is a node by itself. -/
  | whole (node : Node)
  /-- A branch that opens a chain. -/
  | opening (branch : Branch)
  /-- A branch that extends a chain. -/
  | further (branch : Branch)
  /-- An `else`. -/
  | last (body : Body)

namespace Contribution

/-- Reads a sibling by itself. -/
def read (o : Options) : Tree → Except BuildError Contribution
  | .text raw span =>
    if Text.allBlank raw then .ok .nothing else (Node.ofText (usedText o raw) span).map .text
  | .element name attributes children span =>
    match ElementKind.ofName? name with
    | none => .error (.unknownTag name span)
    | some .otherwise => .error (.misplacedOtherwise span)
    | some .bind => do
      let bind ← Bind.read name attributes span
      return .whole (.bind bind)
    | some (.branch tag) => do
      let test ← requiredAttribute name attributes span "test"
      let nodes ← buildChildren o children
      return .opening ⟨tag, test, Body.ofList nodes, span⟩
    | some .elseIf => do
      let test ← requiredAttribute name attributes span "test"
      let nodes ← buildChildren o children
      return .further ⟨.elseIf, test, Body.ofList nodes, span⟩
    | some .else_ => do
      let nodes ← buildChildren o children
      return .last (Body.ofList nodes)
    | some .choose => do
      let choice ← buildChoice o ⟨[], none⟩ children
      return .whole (.choose choice.cases.reverse choice.otherwise span)
    | some .foreach => do
      let head ← LoopHead.read name attributes span
      let nodes ← buildChildren o children
      return .whole (.foreach head (Node.ofList nodes))

end Contribution

/-- Adds what a sibling with this span contributes to what has been built. -/
def Siblings.add (o : Options) (s : Siblings) (span : Option Span) :
    Contribution → Except BuildError Siblings
  | .nothing => .ok s
  | .text node => .ok (s.pushText (joiner o) node)
  | .whole node => .ok (s.push node)
  | .opening branch => .ok (s.openChain branch)
  | .further branch => s.extendChain branch
  | .last body => s.endChain body span

namespace Tree

/-- Where the sibling stood in its source. -/
def span : Tree → Option Span
  | .text _ span => span
  | .element _ _ _ span => span

/-- The name of an element; text has none. -/
def name : Tree → String
  | .text _ _ => ""
  | .element name _ _ _ => name

def isElement : Tree → Bool
  | .text _ _ => false
  | .element _ _ _ _ => true

/-- True of an `else-if` and of an `else`. -/
def isElse (t : Tree) : Bool := t.name == "else-if" || t.name == "else"

/-- True of an `if`, a `when` and an `else-if`. -/
def leavesOpen (t : Tree) : Bool := t.name == "if" || t.name == "when" || t.name == "else-if"

end Tree

/-- Building a sibling is reading it by itself and then adding it. -/
theorem buildSiblings_cons (s : Siblings) (t : Tree) (rest : List Tree) :
    buildSiblings o s (t :: rest) = (do
      let c ← Contribution.read o t
      let next ← s.add o t.span c
      buildSiblings o next rest) := by
  cases t with
  | text raw span =>
    rw [buildSiblings, Siblings.pushRun, Contribution.read]
    cases Text.allBlank raw with
    | true => rfl
    | false => cases Node.ofText (usedText o raw) span <;> rfl
  | element name attributes children span =>
    rw [buildSiblings, Contribution.read]
    have hinside : ∀ {α : Type} (f : List Node → Except BuildError α),
        (buildChildren o children >>= f)
          = buildSiblings o .empty children >>= fun inside => f inside.toList := by
      intro α f
      rw [buildChildren]
      cases buildSiblings o .empty children <;> rfl
    cases ElementKind.ofName? name with
    | none => rfl
    | some kind =>
      cases kind with
      | otherwise => rfl
      | bind => cases Bind.read name attributes span <;> rfl
      | branch _ | elseIf =>
        simp only [hinside]
        cases requiredAttribute name attributes span "test" with
        | error e => rfl
        | ok test => cases buildSiblings o .empty children <;> rfl
      | else_ =>
        simp only [hinside]
        cases buildSiblings o .empty children <;> rfl
      | choose => cases buildChoice o ⟨[], none⟩ children <;> rfl
      | foreach =>
        simp only [hinside]
        cases LoopHead.read name attributes span with
        | error e => rfl
        | ok head => cases buildSiblings o .empty children <;> rfl

theorem buildSiblings_of_read {s : Siblings} {t : Tree} {rest : List Tree} {c : Contribution}
    (hc : Contribution.read o t = .ok c) : buildSiblings o s (t :: rest)
      = (s.add o t.span c >>= fun next => buildSiblings o next rest) := by
  rw [buildSiblings_cons, hc]
  rfl

theorem buildSiblings_of_add {s next : Siblings} {t : Tree} {rest : List Tree} {c : Contribution}
    (hc : Contribution.read o t = .ok c) (hadd : s.add o t.span c = .ok next) :
    buildSiblings o s (t :: rest) = buildSiblings o next rest := by
  rw [buildSiblings_of_read hc, hadd]
  rfl

-- ========================================================= what was read

/-- The name that an element of the kind has. -/
def ElementKind.name : ElementKind → String
  | .bind => "bind"
  | .branch tag => tag.name
  | .elseIf => "else-if"
  | .else_ => "else"
  | .choose => "choose"
  | .foreach => "foreach"
  | .otherwise => "otherwise"

theorem ElementKind.name_of_ofName? {name : String} {kind : ElementKind}
    (h : ofName? name = some kind) : name = kind.name := by
  unfold ofName? at h
  split at h <;> first
    | obtain rfl := Option.some.inj h
      rfl
    | cases h

/-- What the sibling's name tells of its contribution. -/
inductive Contribution.Of (t : Tree) : Contribution → Prop where
  | nothing : t.isBlank = true → t.isElse = false → Of t .nothing
  | text {n : Node} {raw : String} {span : Option Span} : t.isBlank = false →
      t.isElse = false → t.leavesOpen = false → n.textClass?.isSome = true →
      t = .text raw span → Of t (.text n)
  | whole {n : Node} : t.isBlank = false → t.isElse = false → t.leavesOpen = false →
      n.textClass? = none → (∀ first others otherwise, n ≠ .conditional first others otherwise) →
      Of t (.whole n)
  | opening {b : Branch} : t.isBlank = false → t.isElse = false → t.leavesOpen = true →
      Of t (.opening b)
  | further {b : Branch} : t.isBlank = false → t.isElse = true → t.leavesOpen = true →
      t.name = "else-if" → b.span = t.span → Of t (.further b)
  | last {b : Body} : t.isBlank = false → t.isElse = true → t.leavesOpen = false →
      t.name = "else" → Of t (.last b)

/-- Each kind of sibling has its kind of contribution. -/
theorem Contribution.of_read {t : Tree} {c : Contribution} (h : read o t = .ok c) : Of t c := by
  cases t with
  | text raw span =>
    rw [read] at h
    split at h
    · next hblank =>
      obtain rfl := Except.ok.inj h
      exact .nothing hblank rfl
    · next hblank =>
      obtain ⟨node, hnode, rfl⟩ := Except.map_eq_ok.mp h
      exact .text (Bool.eq_false_iff.mpr hblank) rfl rfl (Node.textClass?_ofText hnode) rfl
  | element name attributes children span =>
    rw [read] at h
    split at h
    · cases h
    · cases h
    · next hkind =>
      obtain rfl := ElementKind.name_of_ofName? hkind
      obtain ⟨bind, -, h⟩ := Except.bind_eq_ok.mp h
      obtain rfl := Except.ok.inj h
      exact .whole rfl rfl rfl rfl (by simp)
    · next tag hkind =>
      obtain rfl := ElementKind.name_of_ofName? hkind
      obtain ⟨test, -, h⟩ := Except.bind_eq_ok.mp h
      obtain ⟨nodes, -, h⟩ := Except.bind_eq_ok.mp h
      obtain rfl := Except.ok.inj h
      cases tag with
      | elseIf => cases hkind
      | if_ | when_ => exact .opening rfl rfl rfl
    · next hkind =>
      obtain rfl := ElementKind.name_of_ofName? hkind
      obtain ⟨test, -, h⟩ := Except.bind_eq_ok.mp h
      obtain ⟨nodes, -, h⟩ := Except.bind_eq_ok.mp h
      obtain rfl := Except.ok.inj h
      exact .further rfl rfl rfl rfl rfl
    · next hkind =>
      obtain rfl := ElementKind.name_of_ofName? hkind
      obtain ⟨nodes, -, h⟩ := Except.bind_eq_ok.mp h
      obtain rfl := Except.ok.inj h
      exact .last rfl rfl rfl rfl
    · next hkind =>
      obtain rfl := ElementKind.name_of_ofName? hkind
      obtain ⟨choice, -, h⟩ := Except.bind_eq_ok.mp h
      obtain rfl := Except.ok.inj h
      exact .whole rfl rfl rfl rfl (by simp)
    · next hkind =>
      obtain rfl := ElementKind.name_of_ofName? hkind
      obtain ⟨head, -, h⟩ := Except.bind_eq_ok.mp h
      obtain ⟨nodes, -, h⟩ := Except.bind_eq_ok.mp h
      obtain rfl := Except.ok.inj h
      exact .whole rfl rfl rfl rfl (by simp)

-- ========================================================= text siblings

/-- The sibling is text of this class. Blank text is of none. -/
def Tree.IsText (o : Options) (t : Tree) (k : TextClass) : Prop :=
  ∃ raw span, t = .text raw span ∧ Text.allBlank raw = false
    ∧ TextClass.Of (Segment.split (if o.preserveWhitespace then raw else Text.collapse raw)) k

/-- A sibling that is text was read from a run that is not blank. -/
theorem Contribution.read_text {t : Tree} {n : Node} (h : read o t = .ok (.text n)) :
    ∃ raw span, t = .text raw span ∧ Text.allBlank raw = false
      ∧ Node.ofText (usedText o raw) span = .ok n := by
  cases of_read h with
  | @text _ raw span hblank _ _ _ ht =>
    subst ht
    have hraw : Text.allBlank raw = false := hblank
    rw [read, hraw] at h
    obtain ⟨m, hm, heq⟩ := Except.map_eq_ok.mp h
    obtain rfl := Contribution.text.inj heq
    exact ⟨raw, span, rfl, hraw, hm⟩

/-- The sibling is of the class that its node is of. -/
theorem Contribution.isText_of_read {t : Tree} {n : Node} (h : read o t = .ok (.text n))
    (k : TextClass) : t.IsText o k ↔ n.IsText k := by
  obtain ⟨raw, span, rfl, hblank, hn⟩ := read_text h
  rw [Node.isText_ofText hn]
  constructor
  · rintro ⟨_, _, heq, -, hof⟩
    cases heq
    exact hof
  · exact fun hof => ⟨raw, span, rfl, hblank, hof⟩

/-- Characters that are no blank text are read as a text. -/
theorem Contribution.isElement_of_read {t : Tree} {c : Contribution} (h : read o t = .ok c)
    (hsome : c ≠ .nothing) (htext : ∀ n, c ≠ .text n) : t.isElement = true := by
  cases t with
  | element name attributes children span => rfl
  | text raw span =>
    rw [read] at h
    split at h
    · exact absurd (Except.ok.inj h).symm hsome
    · obtain ⟨n, -, hn⟩ := Except.map_eq_ok.mp h
      exact absurd hn.symm (htext n)

/-- An element is no text. -/
theorem Tree.not_isText {t : Tree} (h : t.isElement = true) (k : TextClass) : ¬t.IsText o k := by
  rintro ⟨_, _, rfl, -⟩
  cases h

-- ================================================================ places

/-- The last of the siblings leaves a chain open. -/
def leftOpen (siblings : List Tree) : Bool := siblings.getLast?.any Tree.leavesOpen

/-- A sibling behind others is in its place, unless it is an `else-if` or an
`else` and the one before it leaves no chain open. -/
def InPlace (before : List Tree) (t : Tree) : Prop := t.isElse = true → leftOpen before = true

/-- Each of the siblings is in its place. -/
def WellPlaced (siblings : List Tree) : Prop :=
  ∀ before t after, siblings = before ++ t :: after → InPlace before t

theorem wellPlaced_nil : WellPlaced [] := by
  intro before t after h
  simp at h

theorem wellPlaced_concat {siblings : List Tree} {t : Tree} :
    WellPlaced (siblings ++ [t]) ↔ WellPlaced siblings ∧ InPlace siblings t := by
  constructor
  · intro h
    refine ⟨fun before u after hsplit => h before u (after ++ [t]) ?_, h siblings t [] rfl⟩
    rw [hsplit, List.append_assoc, List.cons_append]
  · rintro ⟨hwell, ht⟩ before u after hsplit
    rcases List.eq_nil_or_concat after with rfl | ⟨after, v, rfl⟩
    · obtain ⟨rfl, hu⟩ := List.append_inj' hsplit rfl
      obtain rfl := (List.cons.inj hu).1
      exact ht
    · rw [List.concat_eq_append, ← List.cons_append, ← List.append_assoc] at hsplit
      exact hwell before u after (List.append_inj' hsplit rfl).1

/-- Where not each is in its place, there is a first that is not. -/
theorem exists_misplaced {siblings : List Tree} (h : ¬WellPlaced siblings) :
    ∃ before t after, siblings = before ++ t :: after ∧ WellPlaced before ∧ ¬InPlace before t := by
  induction siblings using List.reverseRecOn with
  | nil => exact absurd wellPlaced_nil h
  | append_singleton siblings t ih =>
    by_cases hwell : WellPlaced siblings
    · exact ⟨siblings, t, [], rfl, hwell, fun ht => h (wellPlaced_concat.mpr ⟨hwell, ht⟩)⟩
    · obtain ⟨before, u, after, hsplit, hbefore, hu⟩ := ih hwell
      refine ⟨before, u, after ++ [t], ?_, hbefore, hu⟩
      rw [hsplit, List.append_assoc, List.cons_append]

/-- A chain is open that may be extended. -/
def Siblings.isOpen (s : Siblings) : Bool := s.extensible?.isSome

/-- What is no blank text is added if it needs no open chain or finds one, and
is itself what decides whether there is one afterwards. Otherwise it dangles. -/
theorem Siblings.add_cases (s : Siblings) {t : Tree} {c : Contribution}
    (h : Contribution.read o t = .ok c) (hblank : t.isBlank = false) :
    ((t.isElse = true → s.isOpen = true) →
        ∃ next, s.add o t.span c = .ok next ∧ next.isOpen = t.leavesOpen)
      ∧ (t.isElse = true → s.isOpen = false →
        s.add o t.span c = .error (.danglingElse t.name t.span)) := by
  have hopen : ∀ {chain : Chain} {built : List Node},
      Siblings.isOpen ⟨built, some chain⟩ = chain.otherwise.isNone := by
    intro chain built
    cases hother : chain.otherwise <;> simp [isOpen, extensible?, hother]
  cases Contribution.of_read h with
  | nothing hb _ => simp [hblank] at hb
  | text _ helse hleaves =>
    refine ⟨fun _ => ⟨_, rfl, ?_⟩, by simp [helse]⟩
    rw [hleaves, pushText]
    split
    · rfl
    · split <;> rfl
  | whole _ helse hleaves => exact ⟨fun _ => ⟨_, rfl, hleaves.symm⟩, by simp [helse]⟩
  | opening _ helse hleaves => exact ⟨fun _ => ⟨_, rfl, hleaves.symm⟩, by simp [helse]⟩
  | @further b _ helse hleaves hname hspan =>
    rw [add, extendChain, isOpen]
    cases hchain : s.extensible? with
    | none => simp [helse, hname, hspan]
    | some chain =>
      obtain ⟨-, hnone⟩ := Siblings.Every.chain_of_extensible? hchain
      refine ⟨fun _ => ⟨_, rfl, ?_⟩, by simp⟩
      rw [hopen, hleaves, hnone]
      rfl
  | @last body _ helse hleaves hname =>
    rw [add, endChain, isOpen]
    cases hchain : s.extensible? with
    | none => simp [helse, hname]
    | some chain =>
      refine ⟨fun _ => ⟨_, rfl, ?_⟩, by simp⟩
      rw [hopen, hleaves]
      rfl

theorem buildSiblings_append (s : Siblings) (before after : List Tree) :
    buildSiblings o s (before ++ after)
      = (buildSiblings o s before >>= fun next => buildSiblings o next after) := by
  induction before generalizing s with
  | nil =>
    rw [List.nil_append, buildSiblings]
    rfl
  | cons t rest ih =>
    rw [List.cons_append, buildSiblings_cons, buildSiblings_cons, bind_assoc]
    simp only [bind_assoc, ih]

theorem buildSiblings_concat {siblings : List Tree} {t : Tree} {c : Contribution} {s : Siblings}
    (hs : buildSiblings o .empty siblings = .ok s) (hc : Contribution.read o t = .ok c) :
    buildSiblings o .empty (siblings ++ [t]) = s.add o t.span c := by
  rw [buildSiblings_append, hs]
  show buildSiblings o s [t] = _
  rw [buildSiblings_of_read hc]
  simp only [buildSiblings]
  exact bind_pure _

/-- Siblings that can be read and are in their places are built, and a chain is open
then just if the last of them leaves one open. -/
theorem buildSiblings_places {siblings : List Tree}
    (hread : ∀ t ∈ siblings, t.isBlank = false ∧ ∃ c, Contribution.read o t = .ok c)
    (h : WellPlaced siblings) :
    ∃ s, buildSiblings o .empty siblings = .ok s ∧ s.isOpen = leftOpen siblings := by
  induction siblings using List.reverseRecOn with
  | nil => exact ⟨.empty, by rw [buildSiblings], rfl⟩
  | append_singleton siblings t ih =>
    obtain ⟨hwell, ht⟩ := wellPlaced_concat.mp h
    obtain ⟨s, hs, hopen⟩ := ih (fun u hu => hread u (List.mem_append_left _ hu)) hwell
    obtain ⟨hblank, c, hc⟩ := hread t (List.mem_append_right _ (List.mem_singleton_self t))
    obtain ⟨next, hnext, hleaves⟩ := (s.add_cases hc hblank).1 (by rw [hopen]; exact ht)
    refine ⟨next, by rw [buildSiblings_concat hs hc, hnext], ?_⟩
    rw [hleaves, leftOpen, List.getLast?_concat]
    rfl

/-- The first sibling that is out of place is what is complained about. -/
theorem buildSiblings_misplaced {before after : List Tree} {t : Tree}
    (hread : ∀ u ∈ before ++ t :: after, u.isBlank = false ∧ ∃ c, Contribution.read o u = .ok c)
    (hbefore : WellPlaced before) (ht : ¬InPlace before t) :
    buildSiblings o .empty (before ++ t :: after) = .error (.danglingElse t.name t.span) := by
  obtain ⟨s, hs, hopen⟩ :=
    buildSiblings_places (fun u hu => hread u (List.mem_append_left _ hu)) hbefore
  obtain ⟨hblank, c, hc⟩ := hread t (List.mem_append_right _ List.mem_cons_self)
  obtain ⟨helse, hclosed⟩ := Classical.not_imp.mp ht
  have hadd := (s.add_cases hc hblank).2 helse (by rw [hopen]; exact Bool.eq_false_iff.mpr hclosed)
  rw [buildSiblings_append, hs]
  show buildSiblings o s (t :: after) = _
  rw [buildSiblings_of_read hc, hadd]
  rfl

end DynamicSql.Template
