/-
Which siblings become which nodes.

Siblings that are built fall into runs, and each run makes one node (`Makes`).
An `if` or a `when` makes a run with the `else-if`s and the `else` behind it,
texts of one class make a run, and any other sibling is a run by itself. The
runs follow each other as the siblings do, and each goes on as far as it can:
what begins a run does not continue the one before it (`Apart`).

# The last run

Siblings are built from left to right, so a run only ever grows at its end,
and only the last one does. Its node is the last one built, if the chain that
is still open is counted as a node. So there are two things that a sibling can
do to the nodes so far, be the first of a new one or grow the last one
(`Grows`), and both keep the runs in step with the nodes. Runs are kept with
the last one first here, as the nodes are (`Grown`).
-/
import DynamicSql.Proofs.Template.Contribution
import Mathlib.Data.List.Chain

namespace DynamicSql.Template

variable {o : Options}

-- ========================================================= texts as one

theorem flatMap_marks_pushPiece (pieces : List Piece) (piece : Piece) :
    (pushPiece pieces piece).flatMap Piece.marks = pieces.flatMap Piece.marks ++ piece.marks := by
  unfold pushPiece
  split
  · next before after hlast =>
    obtain ⟨rest, rfl⟩ := List.getLast?_eq_some_iff.mp hlast
    simp [Piece.marks]
  · simp

theorem flatMap_marks_foldl_pushPiece (pieces more : List Piece) :
    (more.foldl pushPiece pieces).flatMap Piece.marks
      = pieces.flatMap Piece.marks ++ more.flatMap Piece.marks := by
  induction more generalizing pieces with
  | nil => simp
  | cons piece more ih => simp [ih, flatMap_marks_pushPiece]

/-- Whether a text has a placeholder of some sort is seen from its marks. -/
theorem any_eq_any_marks {f : Piece → Bool} (hf : ∀ text, f (.literal text) = false)
    (pieces : List Piece) :
    pieces.any f = (pieces.flatMap Piece.marks).any (Sum.elim (fun _ => false) f) := by
  induction pieces with
  | nil => rfl
  | cons piece rest ih =>
    rw [List.any_cons, List.flatMap_cons, List.any_append, ih]
    cases piece <;> simp [Piece.marks, hf]

theorem any_isInterpolation_eq (pieces : List Piece) :
    pieces.any Piece.isInterpolation
      = (pieces.flatMap Piece.marks).any (Sum.elim (fun _ => false) Piece.isInterpolation) :=
  any_eq_any_marks (fun _ => rfl) pieces

/-- Texts that are merged are of one class, which is that of the result, and
the joiner is all that is added. -/
theorem mergeTexts?_marks {j : String} {before after merged : Node}
    (h : mergeTexts? j before after = some merged) :
    merged.marks = before.marks ++ (j.toList.map .inl ++ after.marks)
      ∧ before.textClass? = merged.textClass? ∧ after.textClass? = merged.textClass?
      ∧ merged.textClass?.isSome = true := by
  unfold mergeTexts? at h
  split at h
  · obtain rfl := Option.some.inj h
    simp [Node.marks, Node.textClass?]
  · next before after =>
    split at h
    · next hclass =>
      obtain rfl := Option.some.inj h
      have hmarks := flatMap_marks_foldl_pushPiece before.pieces (.literal j :: after.pieces)
      have hinterpolated : PlaceholderText.isInterpolated
          ⟨(.literal j :: after.pieces).foldl pushPiece before.pieces,
            joinSpans before.span after.span⟩ = before.isInterpolated := by
        unfold PlaceholderText.isInterpolated at hclass ⊢
        rw [any_isInterpolation_eq, hmarks, List.any_append, ← any_isInterpolation_eq,
          ← any_isInterpolation_eq, List.any_cons, ← hclass]
        simp [Piece.isInterpolation]
      refine ⟨?_, ?_, ?_, rfl⟩
      · simpa [Node.marks, Piece.marks] using hmarks
      · simp only [Node.textClass?, hinterpolated]
      · simp only [Node.textClass?, hinterpolated, hclass]
    · cases h
  · cases h

/-- Texts of one class are merged. -/
theorem mergeTexts?_of_textClass? {before after : Node} {k : TextClass} (j : String)
    (hbefore : before.textClass? = some k) (hafter : after.textClass? = some k) :
    ∃ merged, mergeTexts? j before after = some merged := by
  have hne : ∀ t : PlaceholderText, (Node.placeholders t).textClass? ≠ some .literal := by
    intro t
    cases h : t.isInterpolated <;> simp [Node.textClass?, h]
  cases before with
  | text _ =>
    obtain rfl := Option.some.inj hbefore
    cases after with
    | text _ => exact ⟨_, rfl⟩
    | placeholders t => exact absurd hafter (hne t)
    | bind | conditional | choose | foreach | sequence => cases hafter
  | placeholders t =>
    cases after with
    | text _ =>
      obtain rfl := Option.some.inj hafter
      exact absurd hbefore (hne t)
    | placeholders u =>
      have hclass : t.isInterpolated = u.isInterpolated := by
        rw [← hafter] at hbefore
        cases h : t.isInterpolated <;> cases h' : u.isInterpolated <;>
          simp [Node.textClass?, h, h'] at hbefore ⊢
      exact ⟨_, if_pos hclass⟩
    | bind | conditional | choose | foreach | sequence => cases hafter
  | bind | conditional | choose | foreach | sequence => cases hbefore

/-- A text and further ones as one text. -/
structure Joined (j : String) (n : Node) (more : List Node) (merged : Node) : Prop where
  merge : more.foldlM (mergeTexts? j) n = some merged
  /-- The marks of the texts in order, with nothing but the joiner between
  two texts. -/
  marks : merged.marks = n.marks ++ more.flatMap fun m => j.toList.map .inl ++ m.marks
  isText : merged.textClass?.isSome = true
  oneClass : ∀ m ∈ n :: more, m.textClass? = merged.textClass?

theorem Joined.single {j : String} {n : Node} (h : n.textClass?.isSome = true) :
    Joined j n [] n where
  merge := rfl
  marks := by simp
  isText := h
  oneClass := by simp

theorem Joined.concat {j : String} {n merged next result : Node} {more : List Node}
    (h : Joined j n more merged) (hnext : mergeTexts? j merged next = some result) :
    Joined j n (more ++ [next]) result := by
  obtain ⟨hmarks, hmerged, hclass, hsome⟩ := mergeTexts?_marks hnext
  refine ⟨?_, ?_, hsome, fun m hm => ?_⟩
  · simp [List.foldlM_append, h.merge, hnext]
  · simp [hmarks, h.marks]
  · rw [← List.cons_append, List.mem_append, List.mem_singleton] at hm
    rcases hm with hm | rfl
    · rw [h.oneClass m hm, hmerged]
    · exact hclass

-- ================================================================= runs

/-- A run of siblings becomes one node. -/
inductive Makes (o : Options) : List Tree → Node → Prop where
  | whole {t : Tree} {n : Node} : Contribution.read o t = .ok (.whole n) → Makes o [t] n
  /-- An `if` or a `when`, any number of `else-if`s, perhaps an `else`: its
  branches are theirs, in order. -/
  | chain {first : Tree} {further : List Tree} {last : Option Tree} {branch : Branch}
      {others : List Branch} {otherwise : Option Body} :
      Contribution.read o first = .ok (.opening branch) →
      List.Forall₂ (fun t b => Contribution.read o t = .ok (.further b)) further others →
      List.Forall₂ (fun t b => Contribution.read o t = .ok (.last b)) last.toList
        otherwise.toList →
      Makes o (first :: (further ++ last.toList)) (.conditional branch others otherwise)
  | texts {first : Tree} {more : List Tree} {n merged : Node} {ns : List Node} :
      List.Forall₂ (fun t m => Contribution.read o t = .ok (.text m)) (first :: more) (n :: ns) →
      Joined (joiner o) n ns merged → Makes o (first :: more) merged

/-- The second of two neighbours goes on with what the first belongs to: with its
chain, or with its text. -/
def GoesOn (o : Options) (t next : Tree) : Prop :=
  (t.leavesOpen = true ∧ next.isElse = true) ∨ ∃ k, t.IsText o k ∧ next.IsText o k

/-- A run is not gone on with by the next one. -/
def Apart (o : Options) (run next : List Tree) : Prop :=
  ∀ t ∈ run.getLast?, ∀ u ∈ next.head?, ¬GoesOn o t u

/-- The nodes are what the siblings become: these fall into runs that are as
long as they can be, and each run makes one node. -/
def Assembled (o : Options) (siblings : List Tree) (nodes : List Node) : Prop :=
  ∃ runs : List (List Tree), runs.flatten = siblings ∧ List.Forall₂ (Makes o) runs nodes
    ∧ runs.IsChain (Apart o)

variable {run : List Tree} {t : Tree} {n : Node}

theorem Makes.ne_nil (h : Makes o run n) : run ≠ [] := by
  cases h <;> simp

/-- All siblings of a run are texts of one class if its node is a text, and else
elements. -/
theorem Makes.siblings (h : Makes o run n) :
    (∃ k, n.IsText k ∧ ∀ t ∈ run, ∀ k', t.IsText o k' ↔ k' = k)
      ∨ n.textClass? = none ∧ ∀ t ∈ run, t.isElement = true := by
  cases h with
  | whole hread =>
    cases Contribution.of_read hread with
    | whole _ _ _ hclass =>
      refine .inr ⟨hclass, fun t ht => ?_⟩
      obtain rfl := List.mem_singleton.mp ht
      exact Contribution.isElement_of_read hread nofun nofun
  | @chain first further last branch others otherwise hfirst hfurther hlast =>
    refine .inr ⟨rfl, fun t ht => ?_⟩
    rw [List.mem_cons, List.mem_append] at ht
    rcases ht with rfl | ht | ht
    · exact Contribution.isElement_of_read hfirst nofun nofun
    · obtain ⟨b, -, hb⟩ := exists_of_forall₂ hfurther ht
      exact Contribution.isElement_of_read hb nofun nofun
    · obtain ⟨b, -, hb⟩ := exists_of_forall₂ hlast ht
      exact Contribution.isElement_of_read hb nofun nofun
  | texts hread hjoined =>
    obtain ⟨k, hk⟩ := Option.isSome_iff_exists.mp hjoined.isText
    refine .inl ⟨k, Node.isText_iff.mpr hk, fun t ht k' => ?_⟩
    obtain ⟨m, hm, hb⟩ := exists_of_forall₂ hread ht
    rw [Contribution.isText_of_read hb, Node.isText_iff, hjoined.oneClass m hm, hk,
      Option.some.injEq, eq_comm]

/-- A sibling of a run is of the class that the node is of. -/
theorem Makes.isText_iff (h : Makes o run n) (ht : t ∈ run) (k : TextClass) :
    t.IsText o k ↔ n.IsText k := by
  rcases h.siblings with ⟨k', hk', hall⟩ | ⟨hnone, helements⟩
  · rw [Node.isText_iff] at hk' ⊢
    rw [hall t ht, hk', Option.some.injEq, eq_comm]
  · rw [Node.isText_iff, hnone]
    exact iff_of_false (Tree.not_isText (helements t ht) k) nofun

/-- A chain without an `else` was made of an `if` and `else-if`s. -/
theorem Makes.chain_cases {first : Branch} {others : List Branch}
    (h : Makes o run (.conditional first others none)) :
    ∃ t further, run = t :: further ∧ Contribution.read o t = .ok (.opening first)
      ∧ List.Forall₂ (fun t b => Contribution.read o t = .ok (.further b)) further others := by
  generalize hn : Node.conditional first others none = n at h
  cases h with
  | whole hread =>
    cases Contribution.of_read hread with
    | whole _ _ _ _ hne => exact absurd hn.symm (hne _ _ _)
  | @chain first further last branch others otherwise hfirst hfurther hlast =>
    cases hn
    cases last with
    | none => exact ⟨_, _, by simp, hfirst, hfurther⟩
    | some u => cases hlast
  | texts _ hjoined =>
    subst hn
    exact absurd hjoined.isText (by simp [Node.textClass?])

theorem Makes.further {first next : Branch} {others : List Branch}
    (h : Makes o run (.conditional first others none))
    (ht : Contribution.read o t = .ok (.further next)) :
    Makes o (run ++ [t]) (.conditional first (others ++ [next]) none) := by
  obtain ⟨u, further, rfl, hu, hfurther⟩ := h.chain_cases
  have hall := List.rel_append hfurther (.cons ht .nil)
  simpa using @Makes.chain o _ _ none _ _ none hu hall .nil

theorem Makes.last {first : Branch} {others : List Branch} {body : Body}
    (h : Makes o run (.conditional first others none))
    (ht : Contribution.read o t = .ok (.last body)) :
    Makes o (run ++ [t]) (.conditional first others (some body)) := by
  obtain ⟨u, further, rfl, hu, hfurther⟩ := h.chain_cases
  exact @Makes.chain o _ _ (some t) _ _ (some body) hu hfurther (.cons ht .nil)

theorem Makes.text {next merged : Node} (h : Makes o run n)
    (ht : Contribution.read o t = .ok (.text next))
    (hmerge : mergeTexts? (joiner o) n next = some merged) : Makes o (run ++ [t]) merged := by
  obtain ⟨-, hclass, -, hsome⟩ := mergeTexts?_marks hmerge
  rw [← hclass] at hsome
  cases h with
  | whole hread =>
    cases Contribution.of_read hread with
    | whole _ _ _ hnone => simp [hnone] at hsome
  | chain => cases hsome
  | texts hread hjoined =>
    exact .texts (List.rel_append hread (.cons ht .nil)) (hjoined.concat hmerge)

-- ============================================================== growing

/-- What a contribution does to the nodes, the last one first: it is a node
behind them, or the last one grows by it. -/
inductive Grows (j : String) : Contribution → List Node → List Node → Prop where
  | nothing (nodes : List Node) : Grows j .nothing nodes nodes
  | text {n : Node} {nodes : List Node} :
      (∀ last ∈ nodes.head?, mergeTexts? j last n = none) → Grows j (.text n) nodes (n :: nodes)
  | joined {n last merged : Node} {nodes : List Node} : mergeTexts? j last n = some merged →
      Grows j (.text n) (last :: nodes) (merged :: nodes)
  | whole (n : Node) (nodes : List Node) : Grows j (.whole n) nodes (n :: nodes)
  | opening (branch : Branch) (nodes : List Node) :
      Grows j (.opening branch) nodes (.conditional branch [] none :: nodes)
  | further (next first : Branch) (others : List Branch) (nodes : List Node) :
      Grows j (.further next) (.conditional first others none :: nodes)
        (.conditional first (others ++ [next]) none :: nodes)
  | last (body : Body) (first : Branch) (others : List Branch) (nodes : List Node) :
      Grows j (.last body) (.conditional first others none :: nodes)
        (.conditional first others (some body) :: nodes)

/-- Adding a contribution does this to what has been built, with the open chain
as a node. -/
theorem Siblings.grows_of_add {s next : Siblings} {span : Option Span} {c : Contribution}
    (h : s.add o span c = .ok next) : Grows (joiner o) c s.flush.built next.flush.built := by
  have hchain : ∀ {chain : Chain}, s.extensible? = some chain →
      s.flush.built = .conditional chain.first chain.others none :: s.built := by
    intro chain hopen
    obtain ⟨hs, hnone⟩ := Siblings.Every.chain_of_extensible? hopen
    simp only [flush, hs, Chain.toNode, hnone]
  cases c with
  | nothing =>
    obtain rfl := Except.ok.inj h
    exact .nothing _
  | text node =>
    obtain rfl := Except.ok.inj h
    rw [pushText]
    split
    · next hnil =>
      rw [hnil]
      simp only [push, flush] at hnil ⊢
      rw [hnil]
      exact .text (by simp)
    · next last rest hcons =>
      rw [hcons]
      split
      · next merged hmerged => exact .joined hmerged
      · next hnone =>
        simp only [push, flush] at hcons ⊢
        rw [hcons]
        exact .text (by simpa using hnone)
  | whole node =>
    obtain rfl := Except.ok.inj h
    exact .whole node _
  | opening branch =>
    obtain rfl := Except.ok.inj h
    exact .opening branch _
  | further branch =>
    rw [add, extendChain] at h
    split at h
    · next chain hopen =>
      obtain ⟨-, hnone⟩ := Siblings.Every.chain_of_extensible? hopen
      obtain rfl := Except.ok.inj h
      rw [hchain hopen]
      simp only [flush, Chain.toNode, hnone]
      exact .further ..
    · cases h
  | last body =>
    rw [add, endChain] at h
    split at h
    · next chain hopen =>
      obtain rfl := Except.ok.inj h
      rw [hchain hopen]
      exact .last ..
    · cases h

/-- The runs of the siblings so far, and the nodes that they make, both with
the last one first. -/
structure Grown (o : Options) (siblings : List Tree) (runs : List (List Tree))
    (nodes : List Node) : Prop where
  flatten : runs.reverse.flatten = siblings
  makes : List.Forall₂ (Makes o) runs nodes
  apart : runs.IsChain fun next run => Apart o run next

namespace Grown

variable {siblings : List Tree} {runs : List (List Tree)} {nodes : List Node}

/-- A sibling begins a run. -/
theorem begun (h : Grown o siblings runs nodes) (ht : Makes o [t] n)
    (hapart : ∀ run ∈ runs.head?, Apart o run [t]) :
    Grown o (siblings ++ [t]) ([t] :: runs) (n :: nodes) where
  flatten := by simp [← h.flatten]
  makes := .cons ht h.makes
  apart := List.isChain_cons.mpr ⟨hapart, h.apart⟩

/-- A sibling goes on with the last run. -/
theorem goneOn {n' : Node} (h : Grown o siblings (run :: runs) (n :: nodes))
    (ht : Makes o run n → Makes o (run ++ [t]) n') :
    Grown o (siblings ++ [t]) ((run ++ [t]) :: runs) (n' :: nodes) := by
  obtain ⟨hrun, hruns⟩ := List.forall₂_cons.mp h.makes
  obtain ⟨hhead, htail⟩ := List.isChain_cons.mp h.apart
  refine ⟨by simp [← h.flatten], .cons (ht hrun) hruns, List.isChain_cons.mpr ⟨?_, htail⟩⟩
  intro before hbefore u hu v hv
  rw [List.head?_append_of_ne_nil _ hrun.ne_nil] at hv
  exact hhead before hbefore u hu v hv

/-- Each sibling that is added keeps the runs in step with the nodes. -/
theorem step {c : Contribution} {nodes' : List Node} (h : Grown o siblings runs nodes)
    (hc : Contribution.read o t = .ok c) (hblank : t.isBlank = false)
    (hgrows : Grows (joiner o) c nodes nodes') :
    ∃ runs', Grown o (siblings ++ [t]) runs' nodes' := by
  have hof := Contribution.of_read hc
  -- An element that needs no chain goes on with nothing.
  have hnew : t.isElse = false → t.isElement = true → ∀ run ∈ runs.head?, Apart o run [t] := by
    intro helse helement run _ u _ v hv hgoes
    obtain rfl := Option.some.inj hv
    rcases hgoes with ⟨-, hv⟩ | ⟨k, -, hk⟩
    · simp [helse] at hv
    · exact Tree.not_isText helement k hk
  cases hgrows with
  | nothing =>
    cases hof with
    | nothing hb _ => simp [hblank] at hb
  | @text n _ hnone =>
    obtain ⟨helse, hsome⟩ : t.isElse = false ∧ n.textClass?.isSome = true := by
      cases hof with
      | text _ helse _ hsome => exact ⟨helse, hsome⟩
    have hmakes : Makes o [t] n := .texts (.cons hc .nil) (.single hsome)
    refine ⟨_, h.begun hmakes fun run hrun u hu v hv hgoes => ?_⟩
    obtain rfl := Option.some.inj hv
    rcases hgoes with ⟨-, hv⟩ | ⟨k, huk, htk⟩
    · simp [helse] at hv
    · rw [Contribution.isText_of_read hc, Node.isText_iff] at htk
      cases h.makes with
      | nil => cases hrun
      | @cons run' last _ _ hlast _ =>
        obtain rfl := Option.some.inj hrun
        rw [hlast.isText_iff (List.mem_of_mem_getLast? hu), Node.isText_iff] at huk
        obtain ⟨merged, hmerged⟩ := mergeTexts?_of_textClass? (joiner o) huk htk
        simp [hnone last rfl] at hmerged
  | joined hmerged =>
    cases h.makes with
    | cons => exact ⟨_, h.goneOn fun hrun => hrun.text hc hmerged⟩
  | whole n =>
    cases hof with
    | whole _ helse =>
      have helement := Contribution.isElement_of_read hc nofun nofun
      exact ⟨_, h.begun (.whole hc) (hnew helse helement)⟩
  | opening b =>
    cases hof with
    | opening _ helse =>
      have hmakes : Makes o [t] (.conditional b [] none) :=
        @Makes.chain o _ [] none _ _ none hc .nil .nil
      have helement := Contribution.isElement_of_read hc nofun nofun
      exact ⟨_, h.begun hmakes (hnew helse helement)⟩
  | further =>
    cases h.makes with
    | cons => exact ⟨_, h.goneOn fun hrun => hrun.further hc⟩
  | last =>
    cases h.makes with
    | cons => exact ⟨_, h.goneOn fun hrun => hrun.last hc⟩

end Grown

-- =========================================================== whole lists

theorem buildSiblings_grown {siblings : List Tree} {s : Siblings}
    (hread : ∀ t ∈ siblings, t.isBlank = false ∧ ∃ c, Contribution.read o t = .ok c)
    (h : buildSiblings o .empty siblings = .ok s) :
    ∃ runs, Grown o siblings runs s.flush.built := by
  induction siblings using List.reverseRecOn generalizing s with
  | nil =>
    rw [buildSiblings] at h
    obtain rfl := Except.ok.inj h
    exact ⟨[], rfl, .nil, .nil⟩
  | append_singleton siblings t ih =>
    obtain ⟨hblank, c, hc⟩ := hread t (List.mem_append_right _ (List.mem_singleton_self t))
    have hsplit := h
    rw [buildSiblings_append] at hsplit
    obtain ⟨before, hbefore, -⟩ := Except.bind_eq_ok.mp hsplit
    obtain ⟨runs, hgrown⟩ := ih (fun u hu => hread u (List.mem_append_left _ hu)) hbefore
    rw [buildSiblings_concat hbefore hc] at h
    exact hgrown.step hc hblank (Siblings.grows_of_add h)

end DynamicSql.Template
