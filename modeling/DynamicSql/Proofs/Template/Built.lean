/-
What holds of all nodes that are built, because building passes it on.

Nodes come about in few ways: from a run of text, by merging two of them, from
single elements, and by putting nodes into bodies, cases and loops. A statement
that each of these passes on (`Buildable`) is true of all nodes that building
gives, at whatever depth.

Bodies are made in one way only, from the nodes inside an element. So whoever
shows that a statement is passed on may use what is true of bodies by their
making: they have a scope of their own exactly if they bind a variable.
-/
import DynamicSql.Proofs.Template.Nodes
import DynamicSql.Template.Build

namespace DynamicSql

/-- An action that follows another succeeds only after it. -/
theorem Except.bind_eq_ok {ε α β : Type} {x : Except ε α} {f : α → Except ε β} {b : β} :
    x >>= f = .ok b ↔ ∃ a, x = .ok a ∧ f a = .ok b := by
  constructor
  · intro h
    cases x with
    | error e => cases h
    | ok a => exact ⟨a, rfl, h⟩
  · rintro ⟨a, rfl, h⟩
    exact h

theorem Except.map_eq_ok {ε α β : Type} {x : Except ε α} {f : α → β} {b : β} :
    x.map f = .ok b ↔ ∃ a, x = .ok a ∧ f a = b := by
  constructor
  · intro h
    cases x with
    | error e => cases h
    | ok a => exact ⟨a, rfl, Except.ok.inj h⟩
  · rintro ⟨a, rfl, rfl⟩
    rfl

namespace Template

/-- A body as building makes them, of a node of which the statement is
true. -/
structure Body.MadeOf (P : Node → Prop) (b : Body) : Prop where
  node : P b.node
  ownScope : b.ownScope = b.containsBind

/-- A statement about nodes that is passed on when nodes are built of
others. -/
structure Buildable (P : Node → Prop) : Prop where
  ofText : ∀ {text : String} {span : Option Span} {n : Node},
    Node.ofText text span = .ok n → P n
  merge : ∀ {joiner : String} {before after merged : Node}, P before → P after →
    mergeTexts? joiner before after = some merged → P merged
  bind : ∀ b : Bind, P (.bind b)
  conditional : ∀ {first : Branch} {others : List Branch} {otherwise : Option Body},
    (∀ b ∈ (Node.conditional first others otherwise).bodies, b.MadeOf P) →
      P (.conditional first others otherwise)
  choose : ∀ {cases : List Case} {otherwise : Option Body} (span : Option Span),
    (∀ b ∈ (Node.choose cases otherwise span).bodies, b.MadeOf P) →
      P (.choose cases otherwise span)
  foreach : ∀ {body : Node} (head : LoopHead), P body → P (.foreach head body)
  sequence : ∀ {children : List Node}, (∀ n ∈ children, P n) → P (.sequence children)

variable {P : Node → Prop}

theorem Buildable.ofList (h : Buildable P) {nodes : List Node} (hn : ∀ n ∈ nodes, P n) :
    P (Node.ofList nodes) := by
  unfold Node.ofList
  split
  · next n => exact hn n (List.mem_singleton.mpr rfl)
  · exact h.sequence hn

theorem Buildable.body (h : Buildable P) {nodes : List Node} (hn : ∀ n ∈ nodes, P n) :
    (Body.ofList nodes).MadeOf P := ⟨h.ofList hn, rfl⟩

-- ============================================================== siblings

/-- The statement is true of everything built of siblings, and of what the
open chain will be. -/
structure Siblings.Every (P : Node → Prop) (s : Siblings) : Prop where
  built : ∀ n ∈ s.built, P n
  chain : ∀ c ∈ s.chain, ∀ b ∈ c.toNode.bodies, b.MadeOf P

namespace Siblings.Every

variable {s : Siblings}

theorem empty : Siblings.empty.Every P where
  built _ h := absurd h List.not_mem_nil
  chain _ h := by cases h

theorem flush (h : s.Every P) (hP : Buildable P) : s.flush.Every P := by
  unfold Siblings.flush
  split
  · next chain hchain =>
    refine ⟨fun n hn => ?_, fun _ hc => by cases hc⟩
    rcases List.mem_cons.mp hn with rfl | hn
    · exact hP.conditional (h.chain chain hchain)
    · exact h.built n hn
  · exact h

theorem push (h : s.Every P) (hP : Buildable P) {n : Node} (hn : P n) :
    (s.push n).Every P := by
  refine ⟨fun m hm => ?_, fun _ hc => by cases hc⟩
  rcases List.mem_cons.mp hm with rfl | hm
  · exact hn
  · exact (h.flush hP).built m hm

theorem toList (h : s.Every P) (hP : Buildable P) : ∀ n ∈ s.toList, P n := fun n hn =>
  (h.flush hP).built n (List.mem_reverse.mp hn)

theorem pushText (h : s.Every P) (hP : Buildable P) (joiner : String) {n : Node} (hn : P n) :
    (s.pushText joiner n).Every P := by
  unfold Siblings.pushText
  split
  · exact h.push hP hn
  · next last rest hbuilt =>
    have hlast : ∀ m ∈ last :: rest, P m := by
      rw [← hbuilt]
      exact (h.flush hP).built
    split
    · next merged hmerged =>
      refine ⟨fun m hm => ?_, fun _ hc => by cases hc⟩
      rcases List.mem_cons.mp hm with rfl | hm
      · exact hP.merge (hlast last (List.mem_cons_self ..)) hn hmerged
      · exact hlast m (List.mem_cons_of_mem _ hm)
    · exact h.push hP hn

theorem pushRun (h : s.Every P) (hP : Buildable P) {options : Options} {raw : String}
    {span : Option Span} {out : Siblings} (hout : s.pushRun options raw span = .ok out) :
    out.Every P := by
  unfold Siblings.pushRun at hout
  split at hout
  · obtain rfl := Except.ok.inj hout
    exact h
  · obtain ⟨n, hn, rfl⟩ := Except.map_eq_ok.mp hout
    exact h.pushText hP _ (hP.ofText hn)

theorem openChain (h : s.Every P) (hP : Buildable P) {branch : Branch}
    (hb : branch.body.MadeOf P) : (s.openChain branch).Every P where
  built := (h.flush hP).built
  chain c hc b hmem := by
    obtain rfl := Option.some.inj hc
    rw [List.mem_singleton.mp hmem]
    exact hb

/-- A chain that may be extended is the one that is open, and has no `else`
yet. -/
theorem chain_of_extensible? {chain : Chain} (h : s.extensible? = some chain) :
    s.chain = some chain ∧ chain.otherwise = none := by
  unfold Siblings.extensible? at h
  obtain ⟨c, hc, hsome⟩ := Option.bind_eq_some_iff.mp h
  split at hsome
  · next hnone =>
    rw [← Option.some.inj hsome]
    exact ⟨hc, Option.isNone_iff_eq_none.mp hnone⟩
  · cases hsome

theorem extendChain (h : s.Every P) {branch : Branch} (hb : branch.body.MadeOf P)
    {out : Siblings} (hout : s.extendChain branch = .ok out) : out.Every P := by
  unfold Siblings.extendChain at hout
  split at hout
  · next chain hchain =>
    obtain ⟨hopen, hnone⟩ := chain_of_extensible? hchain
    have hold := h.chain chain hopen
    obtain rfl := Except.ok.inj hout
    refine ⟨h.built, fun c hc b hmem => ?_⟩
    obtain rfl := Option.some.inj hc
    simp only [Chain.toNode, Node.bodies, hnone, Option.toList_none, List.append_nil,
      List.map_append, List.map_cons, List.map_nil, List.mem_cons, List.mem_append,
      List.not_mem_nil, or_false] at hmem hold
    rcases hmem with rfl | hmem | rfl
    · exact hold _ (Or.inl rfl)
    · exact hold b (Or.inr hmem)
    · exact hb
  · cases hout

theorem endChain (h : s.Every P) {body : Body} (hb : body.MadeOf P) {span : Option Span}
    {out : Siblings} (hout : s.endChain body span = .ok out) : out.Every P := by
  unfold Siblings.endChain at hout
  split at hout
  · next chain hchain =>
    obtain ⟨hopen, hnone⟩ := chain_of_extensible? hchain
    have hold := h.chain chain hopen
    obtain rfl := Except.ok.inj hout
    refine ⟨h.built, fun c hc b hmem => ?_⟩
    obtain rfl := Option.some.inj hc
    simp only [Chain.toNode, Node.bodies, hnone, Option.toList_none, Option.toList_some,
      List.append_nil, List.mem_cons, List.mem_append, List.not_mem_nil, or_false] at hmem hold
    rcases hmem with rfl | hmem | rfl
    · exact hold _ (Or.inl rfl)
    · exact hold b (Or.inr hmem)
    · exact hb
  · cases hout

end Siblings.Every

-- ============================================================== building

/-- The statement is true of all bodies of a choice so far. -/
structure Choice.Every (P : Node → Prop) (c : Choice) : Prop where
  cases : ∀ k ∈ c.cases, k.body.MadeOf P
  otherwise : ∀ b ∈ c.otherwise, b.MadeOf P

theorem Choice.Every.empty : Choice.Every P ⟨[], none⟩ where
  cases _ hk := absurd hk List.not_mem_nil
  otherwise _ hb := by cases hb

/-- The bodies of a choice are those of its cases, in whichever order, and the
last one. -/
theorem Choice.Every.bodies {c : Choice} (h : c.Every P) (span : Option Span) :
    ∀ b ∈ (Node.choose c.cases.reverse c.otherwise span).bodies, b.MadeOf P := by
  intro b hb
  rcases List.mem_append.mp hb with hb | hb
  · obtain ⟨k, hk, rfl⟩ := List.mem_map.mp hb
    exact h.cases k (List.mem_reverse.mp hk)
  · exact h.otherwise b (Option.mem_toList.mp hb)

mutual

theorem every_buildSiblings (hP : Buildable P) {options : Options} :
    (trees : List Tree) → {done out : Siblings} → done.Every P →
      buildSiblings options done trees = .ok out → out.Every P
  | [], done, out, hd, h => by
    rw [buildSiblings] at h
    obtain rfl := Except.ok.inj h
    exact hd
  | .text raw span :: rest, done, out, hd, h => by
    rw [buildSiblings] at h
    obtain ⟨next, hnext, h⟩ := Except.bind_eq_ok.mp h
    exact every_buildSiblings hP rest (hd.pushRun hP hnext) h
  | .element name attributes children span :: rest, done, out, hd, h => by
    rw [buildSiblings] at h
    have hrest : ∀ {next : Siblings}, next.Every P →
        buildSiblings options next rest = .ok out → out.Every P :=
      every_buildSiblings hP rest
    have hinside : ∀ {inside : Siblings},
        buildSiblings options .empty children = .ok inside → ∀ n ∈ inside.toList, P n :=
      fun hin => (every_buildSiblings hP children .empty hin).toList hP
    split at h
    · cases h
    · cases h
    · obtain ⟨bind, -, h⟩ := Except.bind_eq_ok.mp h
      exact hrest (hd.push hP (hP.bind bind)) h
    · obtain ⟨test, -, h⟩ := Except.bind_eq_ok.mp h
      obtain ⟨inside, hin, h⟩ := Except.bind_eq_ok.mp h
      exact hrest (hd.openChain hP (hP.body (hinside hin))) h
    · obtain ⟨test, -, h⟩ := Except.bind_eq_ok.mp h
      obtain ⟨inside, hin, h⟩ := Except.bind_eq_ok.mp h
      obtain ⟨next, hnext, h⟩ := Except.bind_eq_ok.mp h
      exact hrest (hd.extendChain (hP.body (hinside hin)) hnext) h
    · obtain ⟨inside, hin, h⟩ := Except.bind_eq_ok.mp h
      obtain ⟨next, hnext, h⟩ := Except.bind_eq_ok.mp h
      exact hrest (hd.endChain (hP.body (hinside hin)) hnext) h
    · obtain ⟨choice, hchoice, h⟩ := Except.bind_eq_ok.mp h
      have hevery := every_buildChoice hP children .empty hchoice
      exact hrest (hd.push hP (hP.choose span (hevery.bodies span))) h
    · obtain ⟨head, -, h⟩ := Except.bind_eq_ok.mp h
      obtain ⟨inside, hin, h⟩ := Except.bind_eq_ok.mp h
      exact hrest (hd.push hP (hP.foreach head (hP.ofList (hinside hin)))) h

theorem every_buildChoice (hP : Buildable P) {options : Options} :
    (trees : List Tree) → {done out : Choice} → done.Every P →
      buildChoice options done trees = .ok out → out.Every P
  | [], done, out, hd, h => by
    rw [buildChoice] at h
    obtain rfl := Except.ok.inj h
    exact hd
  | .text _ _ :: rest, done, out, hd, h => by
    rw [buildChoice] at h
    exact every_buildChoice hP rest hd h
  | .element name attributes children span :: rest, done, out, hd, h => by
    rw [buildChoice] at h
    have hrest : ∀ {next : Choice}, next.Every P →
        buildChoice options next rest = .ok out → out.Every P := every_buildChoice hP rest
    have hinside : ∀ {inside : Siblings},
        buildSiblings options .empty children = .ok inside →
          (Body.ofList inside.toList).MadeOf P := fun hin =>
      hP.body ((every_buildSiblings hP children .empty hin).toList hP)
    split at h
    · cases h
    · obtain ⟨test, -, h⟩ := Except.bind_eq_ok.mp h
      obtain ⟨breaks, -, h⟩ := Except.bind_eq_ok.mp h
      obtain ⟨inside, hin, h⟩ := Except.bind_eq_ok.mp h
      have hnext : Choice.Every P
          ⟨⟨test, breaks, Body.ofList inside.toList, span⟩ :: done.cases, done.otherwise⟩ := by
        refine ⟨fun k hk => ?_, hd.otherwise⟩
        rcases List.mem_cons.mp hk with rfl | hk
        · exact hinside hin
        · exact hd.cases k hk
      exact hrest hnext h
    · split at h
      · cases h
      · obtain ⟨inside, hin, h⟩ := Except.bind_eq_ok.mp h
        have hnext : Choice.Every P ⟨done.cases, some (Body.ofList inside.toList)⟩ := by
          refine ⟨hd.cases, fun b hb => ?_⟩
          obtain rfl := Option.some.inj hb
          exact hinside hin
        exact hrest hnext h

end

/-- What building passes on is true of all nodes that are built. -/
theorem every_buildChildren (hP : Buildable P) {options : Options} {trees : List Tree}
    {nodes : List Node} (h : buildChildren options trees = .ok nodes) : ∀ n ∈ nodes, P n := by
  obtain ⟨siblings, hsiblings, rfl⟩ := Except.map_eq_ok.mp h
  exact (every_buildSiblings hP trees .empty hsiblings).toList hP

-- ================================================================ scopes

theorem mergeTexts?_eq_some {joiner : String} {before after merged : Node}
    (h : mergeTexts? joiner before after = some merged) :
    (∃ content, merged = .text content) ∨ ∃ t, merged = .placeholders t := by
  unfold mergeTexts? at h
  split at h
  · exact Or.inl ⟨_, (Option.some.inj h).symm⟩
  · split at h
    · exact Or.inr ⟨_, (Option.some.inj h).symm⟩
    · cases h
  · cases h

theorem Node.ofText_eq_ok {text : String} {span : Option Span} {n : Node}
    (h : Node.ofText text span = .ok n) :
    (∃ content, n = .text content) ∨ ∃ t, n = .placeholders t := by
  unfold Node.ofText at h
  simp only [] at h
  split at h
  · obtain ⟨pieces, -, h⟩ := Except.bind_eq_ok.mp h
    exact Or.inr ⟨_, (Except.ok.inj h).symm⟩
  · exact Or.inl ⟨_, (Except.ok.inj h).symm⟩

/-- Texts have no branches. -/
theorem Node.ownsBinds_of_text {n : Node}
    (h : (∃ content, n = .text content) ∨ ∃ t, n = .placeholders t) : n.OwnsBinds := by
  intro m hm b hb
  rcases h with ⟨content, rfl⟩ | ⟨t, rfl⟩ <;>
    (rw [Node.within, List.mem_singleton] at hm
     subst hm
     cases hb)

/-- Building decides about the scopes of branches by what is in them. -/
theorem buildable_ownsBinds : Buildable Node.OwnsBinds where
  ofText h := Node.ownsBinds_of_text (Node.ofText_eq_ok h)
  merge _ _ h := Node.ownsBinds_of_text (mergeTexts?_eq_some h)
  bind b m hm body hbody := by
    rw [Node.within, List.mem_singleton] at hm
    subst hm
    cases hbody
  conditional h m hm b hb := by
    rcases Node.mem_within_conditional.mp hm with rfl | ⟨body, hbody, hm⟩
    · exact (h b hb).ownScope
    · rw [Body.within_eq] at hm
      exact (h body hbody).node m hm b hb
  choose span h m hm b hb := by
    rcases Node.mem_within_choose.mp hm with rfl | ⟨body, hbody, hm⟩
    · exact (h b hb).ownScope
    · rw [Body.within_eq] at hm
      exact (h body hbody).node m hm b hb
  foreach head h m hm b hb := by
    rw [Node.within, List.mem_cons] at hm
    rcases hm with rfl | hm
    · cases hb
    · exact h m hm b hb
  sequence h m hm b hb := by
    rw [Node.within, List.mem_cons] at hm
    rcases hm with rfl | hm
    · cases hb
    · obtain ⟨n, hn, hm⟩ := Node.mem_allWithin.mp hm
      exact h n hn m hm b hb

end Template

end DynamicSql
