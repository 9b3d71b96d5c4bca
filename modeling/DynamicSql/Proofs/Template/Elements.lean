/-
What the elements of a template say.

An element is known by its name. Its attributes name what it tests, binds or goes
through, and what it encloses becomes its body. This is said here of an element as
it is written (`Tree.Says`), and it is what is read of one, no more and no less
(`Contribution.read_eq_ok_iff`).

# Bodies

What an element encloses is built like a template, to a list of nodes. A single node
is the body by itself and any other number of them is a sequence. The body has a
scope of its own just if a variable is bound in one of the nodes, at any depth
(`Body.Holds`).

# Sound elements

An element can be read if it says enough: it has its attributes, its boolean ones
are one of the two words, and what it encloses can be built (`Tree.Sound`). Where it
stands is another matter.
-/
import DynamicSql.Proofs.Template.Contribution

namespace DynamicSql.Template

variable {o : Options} {attributes : Attributes} {children trees : List Tree}
  {nodes : List Node} {span : Option Span}

-- ============================================================ attributes

namespace Attributes

/-- The attribute is written with this value, or it is not written. Of two with
one name the first counts. -/
def Says (attributes : Attributes) (name : String) : Option String → Prop
  | some value => ∃ before after, attributes = before ++ (name, value) :: after
      ∧ ∀ a ∈ before, a.1 ≠ name
  | none => ∀ a ∈ attributes, a.1 ≠ name

/-- The attribute is written with one of the two words, blanks around it aside, or
it is not written. -/
def SaysWhether (attributes : Attributes) (name : String) : Option Bool → Prop
  | some b => ∃ value, attributes.Says name (some value)
      ∧ Text.trim value = if b then "true" else "false"
  | none => attributes.Says name none

theorem find?_eq_iff {name : String} {value : Option String} :
    attributes.find? name = value ↔ attributes.Says name value := by
  induction attributes with
  | nil => cases value <;> simp [find?, Says]
  | cons a rest ih =>
    obtain ⟨key, written⟩ := a
    have hrest : find? ((key, written) :: rest) name
        = if key = name then some written else find? rest name := rfl
    rw [hrest]
    by_cases hkey : key = name
    · subst hkey
      rw [if_pos rfl]
      cases value with
      | none => simp [Says]
      | some value =>
        constructor
        · intro h
          obtain rfl := Option.some.inj h
          exact ⟨[], rest, rfl, by simp⟩
        · rintro ⟨before, after, hsplit, hbefore⟩
          -- The first attribute has the name, so none stands before.
          cases before with
          | nil => rw [(Prod.mk.inj (List.cons.inj hsplit).1).2]
          | cons b more =>
            obtain rfl := (List.cons.inj hsplit).1
            exact absurd rfl (hbefore _ List.mem_cons_self)
    · rw [if_neg hkey, ih]
      cases value with
      | none => simp [Says, hkey]
      | some value =>
        constructor
        · rintro ⟨before, after, rfl, hbefore⟩
          exact ⟨(key, written) :: before, after, rfl, List.forall_mem_cons.mpr ⟨hkey, hbefore⟩⟩
        · rintro ⟨before, after, hsplit, hbefore⟩
          cases before with
          | nil => exact absurd (Prod.mk.inj (List.cons.inj hsplit).1).1 hkey
          | cons b more =>
            exact ⟨more, after, (List.cons.inj hsplit).2,
              fun a ha => hbefore a (List.mem_cons_of_mem _ ha)⟩

theorem boolean_eq_ok_iff {name : String} {absent b : Bool} :
    attributes.boolean name absent = .ok b
      ↔ ∃ word, attributes.SaysWhether name word ∧ b = word.getD absent := by
  unfold boolean
  cases hfind : attributes.find? name with
  | none =>
    constructor
    · intro h
      obtain rfl := Except.ok.inj h
      exact ⟨none, find?_eq_iff.mp hfind, rfl⟩
    · rintro ⟨word, hword, rfl⟩
      cases word with
      | none => rfl
      | some b =>
        obtain ⟨value, hvalue, -⟩ := hword
        rw [find?_eq_iff.mpr hvalue] at hfind
        cases hfind
  | some value =>
    constructor
    · intro h
      dsimp only at h
      split at h
      · next htrue =>
        obtain rfl := Except.ok.inj h
        exact ⟨some true, ⟨value, find?_eq_iff.mp hfind, htrue⟩, rfl⟩
      · next hfalse =>
        obtain rfl := Except.ok.inj h
        exact ⟨some false, ⟨value, find?_eq_iff.mp hfind, hfalse⟩, rfl⟩
      · cases h
    · rintro ⟨word, hword, rfl⟩
      cases word with
      | none =>
        have hnone : attributes.Says name none := hword
        rw [find?_eq_iff.mpr hnone] at hfind
        cases hfind
      | some b =>
        obtain ⟨value', hvalue, hsame⟩ := hword
        rw [find?_eq_iff.mpr hvalue] at hfind
        obtain rfl := Option.some.inj hfind
        cases b <;> simp [hsame]

end Attributes

theorem requiredAttribute_eq_ok_iff {tag name value : String} :
    requiredAttribute tag attributes span name = .ok value
      ↔ attributes.Says name (some value) := by
  rw [← Attributes.find?_eq_iff, requiredAttribute]
  cases attributes.find? name <;> simp

theorem booleanAttribute_eq_ok_iff {tag name : String} {b : Bool} :
    booleanAttribute tag attributes span name = .ok b
      ↔ ∃ word, attributes.SaysWhether name word ∧ b = word.getD false := by
  rw [← Attributes.boolean_eq_ok_iff, booleanAttribute]
  cases attributes.boolean name false <;> simp

-- ================================================================ bodies

/-- What nodes are together: a single one is itself, any other number of them is a
sequence. -/
inductive Node.Together : List Node → Node → Prop where
  | single (n : Node) : Together [n] n
  | sequence {nodes : List Node} : nodes.length ≠ 1 → Together nodes (.sequence nodes)

/-- The body is these nodes, and has a scope of its own just if a variable is bound
in one of them. -/
structure Body.Holds (nodes : List Node) (b : Body) : Prop where
  node : Node.Together nodes b.node
  ownScope : b.ownScope = true ↔ ∃ n ∈ nodes, ∃ x, .bind x ∈ n.within

/-- The body is what becomes of what an element encloses. -/
def Body.IsOf (o : Options) (children : List Tree) (b : Body) : Prop :=
  ∃ nodes, buildChildren o children = .ok nodes ∧ b.Holds nodes

theorem Node.together_iff {n : Node} : Node.Together nodes n ↔ n = Node.ofList nodes := by
  constructor
  · rintro (n | hlength)
    · rfl
    · unfold ofList
      split
      · exact absurd rfl hlength
      · rfl
  · rintro rfl
    unfold ofList
    split
    · exact .single _
    · next hnot =>
      refine .sequence fun hlength => ?_
      obtain ⟨n, rfl⟩ := List.length_eq_one_iff.mp hlength
      exact hnot n rfl

theorem Node.containsBind_ofList (nodes : List Node) :
    (Node.ofList nodes).containsBind = true ↔ ∃ n ∈ nodes, ∃ x, .bind x ∈ n.within := by
  simp only [← Node.containsBind_iff]
  unfold ofList
  split
  · next n => simp
  · rw [Node.containsBind, Node.anyContainsBind_eq, List.any_eq_true]

theorem Body.holds_iff {b : Body} : b.Holds nodes ↔ b = Body.ofList nodes := by
  constructor
  · rintro ⟨hnode, hscope⟩
    obtain ⟨own, node⟩ := b
    obtain rfl := Node.together_iff.mp hnode
    rw [← Node.containsBind_ofList, ← Bool.eq_iff_iff] at hscope
    exact congrArg (Body.mk · _) hscope
  · rintro rfl
    exact ⟨Node.together_iff.mpr rfl, Node.containsBind_ofList nodes⟩

theorem Body.isOf_iff {b : Body} :
    b.IsOf o children ↔ ∃ nodes, buildChildren o children = .ok nodes ∧ b = Body.ofList nodes := by
  simp only [IsOf, holds_iff]

-- ============================================================== elements

/-- What a loop says about itself. -/
structure LoopHead.IsOf (attributes : Attributes) (head : LoopHead) : Prop where
  collection : attributes.Says "collection" (some head.collection)
  nullable : attributes.SaysWhether "nullable" head.nullable
  item : attributes.Says "item" head.item
  index : attributes.Says "index" head.index
  opening : attributes.Says "open" head.opening
  closing : attributes.Says "close" head.closing
  separator : attributes.Says "separator" head.separator

/-- The branch has the test that is written, and the body that is enclosed. -/
structure Branch.IsOf (o : Options) (attributes : Attributes) (children : List Tree)
    (b : Branch) : Prop where
  test : attributes.Says "test" (some b.test)
  body : b.body.IsOf o children

/-- The cases of a choice, in order, and what is done otherwise. Characters between
them are not looked at. -/
inductive IsChoice (o : Options) : List Tree → List Case → Option Body → Prop where
  | nil : IsChoice o [] [] none
  | text {cases : List Case} {otherwise : Option Body} {rest : List Tree} (raw : String)
      (span : Option Span) : IsChoice o rest cases otherwise →
      IsChoice o (.text raw span :: rest) cases otherwise
  | case {name : String} {attributes : Attributes} {children rest : List Tree} {k : Case}
      {word : Option Bool} {cases : List Case} {otherwise : Option Body} :
      name = "when" ∨ name = "if" → attributes.Says "test" (some k.test) →
      attributes.SaysWhether "break" word → k.breaks = word.getD false →
      k.body.IsOf o children → IsChoice o rest cases otherwise →
      IsChoice o (.element name attributes children k.span :: rest) (k :: cases) otherwise
  | otherwise {attributes : Attributes} {children rest : List Tree} {body : Body}
      {span : Option Span} {cases : List Case} : body.IsOf o children →
      IsChoice o rest cases none →
      IsChoice o (.element "otherwise" attributes children span :: rest) cases (some body)

/-- What an element says, wherever it stands. -/
inductive Tree.Says (o : Options) : Tree → Contribution → Prop where
  | bind {attributes : Attributes} {children : List Tree} {b : Bind} :
      attributes.Says "name" (some b.name) → attributes.Says "value" (some b.value) →
      Says o (.element "bind" attributes children b.span) (.whole (.bind b))
  | opening {name : String} {attributes : Attributes} {children : List Tree} {b : Branch} :
      (name = "if" ∧ b.tag = .if_) ∨ (name = "when" ∧ b.tag = .when_) →
      b.IsOf o attributes children →
      Says o (.element name attributes children b.span) (.opening b)
  | further {attributes : Attributes} {children : List Tree} {b : Branch} :
      b.tag = .elseIf → b.IsOf o attributes children →
      Says o (.element "else-if" attributes children b.span) (.further b)
  | last {attributes : Attributes} {children : List Tree} {span : Option Span} {body : Body} :
      body.IsOf o children → Says o (.element "else" attributes children span) (.last body)
  | choose {attributes : Attributes} {children : List Tree} {span : Option Span}
      {cases : List Case} {otherwise : Option Body} : IsChoice o children cases otherwise →
      Says o (.element "choose" attributes children span) (.whole (.choose cases otherwise span))
  | foreach {attributes : Attributes} {children : List Tree} {head : LoopHead}
      {nodes : List Node} {body : Node} : head.IsOf attributes →
      buildChildren o children = .ok nodes → Node.Together nodes body →
      Says o (.element "foreach" attributes children head.span) (.whole (.foreach head body))

-- ================================================================ reading

theorem Bind.read_eq_ok_iff {tag : String} {b : Bind} :
    Bind.read tag attributes span = .ok b
      ↔ attributes.Says "name" (some b.name) ∧ attributes.Says "value" (some b.value)
        ∧ b.span = span := by
  simp only [Bind.read, Except.bind_eq_ok, requiredAttribute_eq_ok_iff]
  constructor
  · rintro ⟨name, hname, value, hvalue, h⟩
    obtain rfl := Except.ok.inj h
    exact ⟨hname, hvalue, rfl⟩
  · rintro ⟨hname, hvalue, rfl⟩
    exact ⟨_, hname, _, hvalue, rfl⟩

/-- A boolean attribute is looked at if it is written. -/
theorem whether_eq_ok_iff {tag name : String} {word : Option Bool} :
    (if (attributes.find? name).isSome then some <$> booleanAttribute tag attributes span name
      else pure none) = Except.ok word ↔ attributes.SaysWhether name word := by
  have hmap : ∀ x : Except BuildError Bool, some <$> x = Except.ok word
      ↔ ∃ b, x = .ok b ∧ some b = word := fun x => Except.map_eq_ok
  cases hfind : attributes.find? name with
  | none =>
    have hnone : attributes.Says name none := Attributes.find?_eq_iff.mp hfind
    constructor
    · intro h
      obtain rfl := Except.ok.inj h
      exact hnone
    · intro h
      cases word with
      | none => rfl
      | some b =>
        obtain ⟨value, hvalue, -⟩ := h
        rw [Attributes.find?_eq_iff.mpr hvalue] at hfind
        cases hfind
  | some value =>
    have hsome : ¬attributes.Says name none := fun h => by
      rw [Attributes.find?_eq_iff.mpr h] at hfind
      cases hfind
    rw [Option.isSome_some, if_pos rfl, hmap]
    simp only [booleanAttribute_eq_ok_iff]
    constructor
    · rintro ⟨b, ⟨word, hword, rfl⟩, rfl⟩
      cases word with
      | none => exact absurd hword hsome
      | some b => exact hword
    · intro h
      cases word with
      | none => exact absurd h hsome
      | some b => exact ⟨b, ⟨some b, h, rfl⟩, rfl⟩

/-- What need not be written is what is found. -/
theorem LoopHead.isOf_found {collection : String} {nullable : Option Bool} (span : Option Span)
    (hcollection : attributes.Says "collection" (some collection))
    (hnullable : attributes.SaysWhether "nullable" nullable) :
    LoopHead.IsOf attributes ⟨collection, nullable, attributes.find? "item",
      attributes.find? "index", attributes.find? "open", attributes.find? "close",
      attributes.find? "separator", span⟩ where
  collection := hcollection
  nullable := hnullable
  item := Attributes.find?_eq_iff.mp rfl
  index := Attributes.find?_eq_iff.mp rfl
  opening := Attributes.find?_eq_iff.mp rfl
  closing := Attributes.find?_eq_iff.mp rfl
  separator := Attributes.find?_eq_iff.mp rfl

theorem LoopHead.read_eq_ok_iff {tag : String} {head : LoopHead} :
    LoopHead.read tag attributes span = .ok head ↔ head.IsOf attributes ∧ head.span = span := by
  have hread : LoopHead.read tag attributes span
      = requiredAttribute tag attributes span "collection" >>= fun collection =>
        (if (attributes.find? "nullable").isSome then
          some <$> booleanAttribute tag attributes span "nullable"
        else pure none) >>= fun nullable =>
        .ok ⟨collection, nullable, attributes.find? "item", attributes.find? "index",
          attributes.find? "open", attributes.find? "close", attributes.find? "separator",
          span⟩ := by
    unfold LoopHead.read
    split <;> rfl
  simp only [hread, Except.bind_eq_ok, requiredAttribute_eq_ok_iff, whether_eq_ok_iff]
  constructor
  · rintro ⟨collection, hcollection, nullable, hnullable, h⟩
    obtain rfl := Except.ok.inj h
    exact ⟨LoopHead.isOf_found span hcollection hnullable, rfl⟩
  · obtain ⟨collection, nullable, item, index, opening, closing, separator, headSpan⟩ := head
    rintro ⟨h, rfl⟩
    refine ⟨_, h.collection, _, h.nullable, ?_⟩
    rw [Attributes.find?_eq_iff.mpr h.item, Attributes.find?_eq_iff.mpr h.index,
      Attributes.find?_eq_iff.mpr h.opening, Attributes.find?_eq_iff.mpr h.closing,
      Attributes.find?_eq_iff.mpr h.separator]

theorem ChoiceKind.case_of_ofName? {name : String} (h : ofName? name = some .case) :
    name = "when" ∨ name = "if" := by
  unfold ofName? at h
  split at h
  · exact .inl rfl
  · exact .inr rfl
  · cases h
  · cases h

theorem ChoiceKind.otherwise_of_ofName? {name : String} (h : ofName? name = some .otherwise) :
    name = "otherwise" := by
  unfold ofName? at h
  split at h <;> first | rfl | cases h

/-- What is read of the content of a choice, behind what was read before. There is
one `otherwise` at most. -/
theorem buildChoice_eq_ok_iff {done out : Choice} :
    buildChoice o done trees = .ok out
      ↔ ∃ cases otherwise, IsChoice o trees cases otherwise
        ∧ (done.otherwise = none ∨ otherwise = none)
        ∧ out = ⟨cases.reverse ++ done.cases, otherwise.or done.otherwise⟩ := by
  have hinside : ∀ {children : List Tree} {body : Body}, body.IsOf o children
      ↔ ∃ inside, buildSiblings o .empty children = .ok inside
        ∧ body = Body.ofList inside.toList := by
    intro children body
    simp only [Body.isOf_iff, buildChildren, Except.map_eq_ok]
    constructor
    · rintro ⟨_, ⟨inside, hinside, rfl⟩, rfl⟩
      exact ⟨inside, hinside, rfl⟩
    · rintro ⟨inside, hinside, rfl⟩
      exact ⟨_, ⟨inside, hinside, rfl⟩, rfl⟩
  induction trees generalizing done with
  | nil =>
    rw [buildChoice]
    constructor
    · intro h
      obtain rfl := Except.ok.inj h
      exact ⟨[], none, .nil, .inr rfl, rfl⟩
    · rintro ⟨cases, otherwise, ⟨⟩, -, rfl⟩
      rfl
  | cons t rest ih =>
    cases t with
    | text raw span =>
      rw [buildChoice]
      constructor
      · intro h
        obtain ⟨cases, otherwise, hchoice, hout⟩ := ih.mp h
        exact ⟨cases, otherwise, .text raw span hchoice, hout⟩
      · rintro ⟨cases, otherwise, ⟨⟩, hout⟩
        exact ih.mpr ⟨cases, otherwise, ‹_›, hout⟩
    | element name attributes children span =>
      rw [buildChoice]
      constructor
      · intro h
        split at h
        · cases h
        · next hkind =>
          obtain ⟨test, htest, h⟩ := Except.bind_eq_ok.mp h
          obtain ⟨breaks, hbreaks, h⟩ := Except.bind_eq_ok.mp h
          obtain ⟨inside, hbuild, h⟩ := Except.bind_eq_ok.mp h
          obtain ⟨word, hword, hbreak⟩ := booleanAttribute_eq_ok_iff.mp hbreaks
          obtain ⟨cases, otherwise, hchoice, hone, rfl⟩ := ih.mp h
          refine ⟨_, otherwise, .case (k := ⟨test, breaks, Body.ofList inside.toList, span⟩)
            (ChoiceKind.case_of_ofName? hkind) (requiredAttribute_eq_ok_iff.mp htest) hword hbreak
            (hinside.mpr ⟨inside, hbuild, rfl⟩) hchoice, hone, ?_⟩
          rw [List.reverse_cons, List.append_assoc]
          rfl
        · next hkind =>
          split at h
          · cases h
          · next hnone =>
            obtain ⟨inside, hbuild, h⟩ := Except.bind_eq_ok.mp h
            obtain ⟨cases, otherwise, hchoice, hone, rfl⟩ := ih.mp h
            obtain rfl := hone.resolve_left nofun
            have hdone : done.otherwise = none := by simpa using hnone
            obtain rfl := ChoiceKind.otherwise_of_ofName? hkind
            exact ⟨cases, _, .otherwise (hinside.mpr ⟨inside, hbuild, rfl⟩) hchoice, .inl hdone,
              rfl⟩
      · rintro ⟨cases, otherwise, hchoice, hone, rfl⟩
        cases hchoice with
        | @case _ _ _ _ k word cases _ hname htest hword hbreaks hbody hrest =>
          obtain ⟨test, breaks, body, span⟩ := k
          obtain ⟨inside, hbuild, rfl⟩ := hinside.mp hbody
          have hkind : ChoiceKind.ofName? name = some .case := by
            rcases hname with rfl | rfl <;> rfl
          rw [hkind]
          simp only [requiredAttribute_eq_ok_iff.mpr htest,
            booleanAttribute_eq_ok_iff.mpr ⟨word, hword, hbreaks⟩, hbuild]
          refine ih.mpr ⟨cases, otherwise, hrest, hone, ?_⟩
          rw [List.reverse_cons, List.append_assoc]
          rfl
        | @otherwise _ _ _ body _ _ hbody hrest =>
          obtain ⟨inside, hbuild, rfl⟩ := hinside.mp hbody
          have hdone : done.otherwise = none := hone.resolve_right nofun
          have hkind : ChoiceKind.ofName? "otherwise" = some .otherwise := rfl
          simp only [hkind, hdone, hbuild]
          exact ih.mpr ⟨cases, none, hrest, .inr rfl, rfl⟩

/-- A branch is read of its test and of what it encloses. -/
theorem Branch.read_eq_ok_iff {name : String} {tag : BranchTag} {f : Branch → Contribution}
    {c : Contribution} :
    (do
      let test ← requiredAttribute name attributes span "test"
      let nodes ← buildChildren o children
      return f ⟨tag, test, Body.ofList nodes, span⟩) = Except.ok c
      ↔ ∃ b, b.tag = tag ∧ b.span = span ∧ b.IsOf o attributes children ∧ c = f b := by
  simp only [Except.bind_eq_ok, requiredAttribute_eq_ok_iff]
  constructor
  · rintro ⟨test, htest, nodes, hnodes, h⟩
    obtain rfl := Except.ok.inj h
    exact ⟨_, rfl, rfl, ⟨htest, Body.isOf_iff.mpr ⟨nodes, hnodes, rfl⟩⟩, rfl⟩
  · rintro ⟨⟨tag, test, body, span⟩, rfl, rfl, ⟨htest, hbody⟩, rfl⟩
    obtain ⟨nodes, hnodes, hof⟩ := Body.isOf_iff.mp hbody
    obtain rfl : body = _ := hof
    exact ⟨test, htest, nodes, hnodes, rfl⟩

/-- What is read of an element is what it says. -/
theorem Contribution.read_eq_ok_iff {name : String} {c : Contribution} :
    read o (.element name attributes children span) = .ok c
      ↔ Tree.Says o (.element name attributes children span) c := by
  constructor
  · intro h
    rw [read] at h
    split at h
    · cases h
    · cases h
    · next hkind =>
      obtain rfl := ElementKind.name_of_ofName? hkind
      obtain ⟨b, hb, h⟩ := Except.bind_eq_ok.mp h
      obtain rfl := Except.ok.inj h
      obtain ⟨hname, hvalue, rfl⟩ := Bind.read_eq_ok_iff.mp hb
      exact .bind hname hvalue
    · next tag hkind =>
      obtain rfl := ElementKind.name_of_ofName? hkind
      obtain ⟨b, htag, rfl, hbranch, rfl⟩ := (Branch.read_eq_ok_iff (f := .opening)).mp h
      cases tag with
      | if_ => exact .opening (.inl ⟨rfl, htag⟩) hbranch
      | when_ => exact .opening (.inr ⟨rfl, htag⟩) hbranch
      | elseIf => cases hkind
    · next hkind =>
      obtain rfl := ElementKind.name_of_ofName? hkind
      obtain ⟨b, htag, rfl, hbranch, rfl⟩ := (Branch.read_eq_ok_iff (f := .further)).mp h
      exact .further htag hbranch
    · next hkind =>
      obtain rfl := ElementKind.name_of_ofName? hkind
      obtain ⟨nodes, hnodes, h⟩ := Except.bind_eq_ok.mp h
      obtain rfl := Except.ok.inj h
      exact .last (Body.isOf_iff.mpr ⟨nodes, hnodes, rfl⟩)
    · next hkind =>
      obtain rfl := ElementKind.name_of_ofName? hkind
      obtain ⟨choice, hread, h⟩ := Except.bind_eq_ok.mp h
      obtain rfl := Except.ok.inj h
      obtain ⟨cases, otherwise, hchoice, -, rfl⟩ := buildChoice_eq_ok_iff.mp hread
      rw [List.append_nil, List.reverse_reverse, Option.or_none]
      exact .choose hchoice
    · next hkind =>
      obtain rfl := ElementKind.name_of_ofName? hkind
      obtain ⟨head, hhead, h⟩ := Except.bind_eq_ok.mp h
      obtain ⟨nodes, hnodes, h⟩ := Except.bind_eq_ok.mp h
      obtain rfl := Except.ok.inj h
      obtain ⟨hword, rfl⟩ := LoopHead.read_eq_ok_iff.mp hhead
      exact .foreach hword hnodes (Node.together_iff.mpr rfl)
  · intro h
    cases h with
    | bind hname hvalue =>
      exact Except.bind_eq_ok.mpr ⟨_, Bind.read_eq_ok_iff.mpr ⟨hname, hvalue, rfl⟩, rfl⟩
    | opening hname hbranch =>
      rcases hname with ⟨rfl, htag⟩ | ⟨rfl, htag⟩ <;>
        exact Branch.read_eq_ok_iff.mpr ⟨_, htag, rfl, hbranch, rfl⟩
    | further htag hbranch => exact Branch.read_eq_ok_iff.mpr ⟨_, htag, rfl, hbranch, rfl⟩
    | last hbody =>
      obtain ⟨nodes, hnodes, rfl⟩ := Body.isOf_iff.mp hbody
      exact Except.bind_eq_ok.mpr ⟨nodes, hnodes, rfl⟩
    | choose hchoice =>
      refine Except.bind_eq_ok.mpr ⟨_, buildChoice_eq_ok_iff.mpr
        ⟨_, _, hchoice, .inl rfl, rfl⟩, ?_⟩
      rw [List.append_nil, List.reverse_reverse, Option.or_none]
      rfl
    | foreach hhead hnodes hbody =>
      obtain rfl := Node.together_iff.mp hbody
      exact Except.bind_eq_ok.mpr ⟨_, LoopHead.read_eq_ok_iff.mpr ⟨hhead, rfl⟩,
        Except.bind_eq_ok.mpr ⟨_, hnodes, rfl⟩⟩

/-- What was read of a sibling is what it says, unless it is text. -/
theorem Contribution.says_of_read {t : Tree} {c : Contribution} (h : read o t = .ok c)
    (hsome : c ≠ .nothing) (htext : ∀ n, c ≠ .text n) : t.Says o c := by
  have helement := Contribution.isElement_of_read h hsome htext
  cases t with
  | text raw span => cases helement
  | element name attributes children span => exact Contribution.read_eq_ok_iff.mp h

-- ======================================================== sound siblings

/-- Nothing is wrong with the sibling but perhaps its place. Of text, the
parameters can be read. An element is a known one, no `otherwise`, has its
attributes, says properly whether it takes null for a collection, and its content
can be built. What a binding encloses is not looked at. -/
inductive Tree.Sound (o : Options) : Tree → Prop where
  | text {raw : String} {span : Option Span} :
      (∀ content, Segment.placeholder .parameter content
          ∈ Segment.split (if o.preserveWhitespace then raw else Text.collapse raw) →
        ∃ mapping, Parameter.Mapping.read content = .ok mapping) →
      Sound o (.text raw span)
  | bind {attributes : Attributes} {children : List Tree} {span : Option Span}
      {name value : String} : attributes.Says "name" (some name) →
      attributes.Says "value" (some value) → Sound o (.element "bind" attributes children span)
  | branch {name : String} {attributes : Attributes} {children : List Tree}
      {span : Option Span} {test : String} {nodes : List Node} :
      name = "if" ∨ name = "when" ∨ name = "else-if" → attributes.Says "test" (some test) →
      buildChildren o children = .ok nodes → Sound o (.element name attributes children span)
  | last {attributes : Attributes} {children : List Tree} {span : Option Span}
      {nodes : List Node} : buildChildren o children = .ok nodes →
      Sound o (.element "else" attributes children span)
  | choose {attributes : Attributes} {children : List Tree} {span : Option Span}
      {cases : List Case} {otherwise : Option Body} : IsChoice o children cases otherwise →
      Sound o (.element "choose" attributes children span)
  | foreach {attributes : Attributes} {children : List Tree} {span : Option Span}
      {collection : String} {nullable : Option Bool} {nodes : List Node} :
      attributes.Says "collection" (some collection) →
      attributes.SaysWhether "nullable" nullable → buildChildren o children = .ok nodes →
      Sound o (.element "foreach" attributes children span)

/-- A sound sibling can be read by itself. -/
theorem Tree.Sound.read {t : Tree} (h : t.Sound o) : ∃ c, Contribution.read o t = .ok c := by
  cases h with
  | @text raw span hparameters =>
    rw [Contribution.read]
    split
    · exact ⟨_, rfl⟩
    · obtain ⟨n, hn⟩ := Node.exists_ofText span hparameters
      have hused : Node.ofText (usedText o raw) span = .ok n := hn
      exact ⟨.text n, by rw [hused]; rfl⟩
  | @bind _ _ span name value hname hvalue =>
    exact ⟨_, Contribution.read_eq_ok_iff.mpr (@Says.bind o _ _ ⟨name, value, span⟩ hname hvalue)⟩
  | @branch name _ _ span test nodes hname htest hnodes =>
    have hbranch : ∀ tag, Branch.IsOf o _ _ ⟨tag, test, Body.ofList nodes, span⟩ :=
      fun tag => ⟨htest, Body.isOf_iff.mpr ⟨nodes, hnodes, rfl⟩⟩
    rcases hname with rfl | rfl | rfl
    · exact ⟨_, Contribution.read_eq_ok_iff.mpr (.opening (.inl ⟨rfl, rfl⟩) (hbranch .if_))⟩
    · exact ⟨_, Contribution.read_eq_ok_iff.mpr (.opening (.inr ⟨rfl, rfl⟩) (hbranch .when_))⟩
    · exact ⟨_, Contribution.read_eq_ok_iff.mpr (.further rfl (hbranch .elseIf))⟩
  | last hnodes =>
    exact ⟨_, Contribution.read_eq_ok_iff.mpr (.last (Body.isOf_iff.mpr ⟨_, hnodes, rfl⟩))⟩
  | choose hchoice => exact ⟨_, Contribution.read_eq_ok_iff.mpr (.choose hchoice)⟩
  | @foreach attributes _ span collection nullable nodes hcollection hnullable hnodes =>
    have hhead := LoopHead.isOf_found span hcollection hnullable
    exact ⟨_, Contribution.read_eq_ok_iff.mpr (.foreach hhead hnodes (Node.together_iff.mpr rfl))⟩

/-- An element that says something is sound. -/
theorem Tree.Says.sound {t : Tree} {c : Contribution} (h : t.Says o c) : t.Sound o := by
  cases h with
  | bind hname hvalue => exact .bind hname hvalue
  | opening hname hbranch =>
    obtain ⟨nodes, hnodes, -⟩ := hbranch.body
    rcases hname with ⟨rfl, -⟩ | ⟨rfl, -⟩
    · exact .branch (.inl rfl) hbranch.test hnodes
    · exact .branch (.inr (.inl rfl)) hbranch.test hnodes
  | further _ hbranch =>
    obtain ⟨nodes, hnodes, -⟩ := hbranch.body
    exact .branch (.inr (.inr rfl)) hbranch.test hnodes
  | last hbody =>
    obtain ⟨nodes, hnodes, -⟩ := hbody
    exact .last hnodes
  | choose hchoice => exact .choose hchoice
  | foreach hhead hnodes _ => exact .foreach hhead.collection hhead.nullable hnodes

end DynamicSql.Template
