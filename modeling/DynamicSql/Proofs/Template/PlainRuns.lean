/-
Text that is kept as it is written, and what is kept of it.

Characters that follow each other may be cut into runs: a CDATA section or a
comment between them is enough. Runs without placeholders become one text, and
where white space is preserved nothing comes between them. So one would expect
the text to be what is written, however it is cut. It is that if no run is
blank (`buildChildren_plainRuns`). A blank run is dropped, whether white space
is preserved or not, because it is looked at before the options are, and the
characters of it are lost between its neighbours
(`buildChildren_drops_blank_run`).

# Around the runs

What is built of other siblings is not touched by the runs between them, as
long as nothing of it is literal text that the runs could become one with.
What is built behind other nodes is then what is built by itself, behind them
(`buildSiblings_behind`). A chain that is open when the runs begin is closed by
them, and an `else` behind them dangles as it would with nothing before it.
-/
import DynamicSql.Proofs.Placeholder.Squeezed
import DynamicSql.Proofs.Template.Assembled

namespace DynamicSql

-- ================================================== text without tokens

namespace Segment

/-- Blanks open no placeholder. -/
theorem leadingLiteral_of_blank {cs : List Char} (h : cs.all Text.isBlank = true) :
    leadingLiteral cs = (cs, []) := by
  induction cs with
  | nil => exact leadingLiteral_nil
  | cons c rest ih =>
    rw [List.all_cons, Bool.and_eq_true] at h
    have hescape : c = '\\' → opening? rest = none := by
      rintro rfl
      exact absurd h.1 (by decide)
    rw [leadingLiteral_plain (opening?_cons_of_isBlank h.1 rest) hescape, ih h.2]

/-- The text has no placeholder and no escape. -/
def AsWritten (text : String) : Prop := split text = consLiteral text.toList []

theorem asWritten_of_allBlank {text : String} (h : Text.allBlank text = true) :
    AsWritten text := by
  unfold AsWritten split
  rw [leadingLiteral_of_blank h]

end Segment

namespace Template

variable {o : Options} {s : Siblings}

/-- Text without placeholders. -/
def Tree.isPlainText : Tree → Bool
  | .text raw _ => !(Segment.split raw).any isPlaceholder
  | .element _ _ _ _ => false

theorem any_isPlaceholder_of_asWritten {text : String} (h : Segment.AsWritten text) :
    (Segment.split text).any isPlaceholder = false := by
  rw [h]
  unfold Segment.consLiteral
  split <;> rfl

/-- Text as it is written is a node as it is. -/
theorem Node.ofText_of_asWritten {text : String} (h : Segment.AsWritten text)
    (span : Option Span) : Node.ofText text span = .ok (.text text) := by
  unfold Segment.AsWritten Segment.consLiteral at h
  split at h
  · next hempty =>
    obtain rfl : text = "" := String.toList_injective (List.isEmpty_iff.mp hempty)
    rw [Node.ofText, h]
    rfl
  · rw [String.ofList_toList] at h
    exact Node.ofText_of_literal h

/-- Siblings that are no plain text are no literal text when they are read. -/
theorem Contribution.read_of_not_plain {t : Tree} {c : Contribution}
    (ho : o.preserveWhitespace = true) (ht : t.isPlainText = false) (h : read o t = .ok c) :
    c ≠ .nothing ∧ ∀ n, c = .text n → n.textClass? ≠ some .literal := by
  cases t with
  | text raw span =>
    have hany : (Segment.split raw).any isPlaceholder = true := by
      simpa [Tree.isPlainText] using ht
    have hblank : Text.allBlank raw = false := by
      cases hb : Text.allBlank raw with
      | false => rfl
      | true =>
        rw [any_isPlaceholder_of_asWritten (Segment.asWritten_of_allBlank hb)] at hany
        cases hany
    have hused : usedText o raw = raw := if_pos ho
    rw [read, hblank, hused, Node.ofText, if_pos hany] at h
    obtain ⟨n, hn, rfl⟩ := Except.map_eq_ok.mp h
    obtain ⟨pieces, -, hn⟩ := Except.bind_eq_ok.mp hn
    obtain rfl := Except.ok.inj hn
    refine ⟨by simp, fun m hm => ?_⟩
    obtain rfl := Contribution.text.inj hm
    simp only [Node.textClass?]
    split <;> simp
  | element name attributes children span =>
    cases of_read h with
    | nothing hblank => cases hblank
    | text _ _ _ _ htext => cases htext
    | whole | opening | further | last => exact ⟨by simp, by simp⟩

-- ============================================================ behind nodes

/-- The siblings, but behind other nodes, of which the last one comes first. -/
def Siblings.behind (base : List Node) (s : Siblings) : Siblings := ⟨s.built ++ base, s.chain⟩

@[simp] theorem Siblings.flush_behind (base : List Node) (s : Siblings) :
    (s.behind base).flush = s.flush.behind base := by
  obtain ⟨built, chain⟩ := s
  cases chain <;> rfl

@[simp] theorem Siblings.toList_behind (base : List Node) (s : Siblings) :
    (s.behind base).toList = base.reverse ++ s.toList := by
  rw [toList, flush_behind]
  exact List.reverse_append

/-- A contribution is added behind other nodes as by itself, if it is no text
that the last of them could become one with. -/
theorem Siblings.add_behind {base : List Node} (span : Option Span) {c : Contribution}
    (h : s.flush.built ≠ []
      ∨ ∀ n, c = .text n → ∀ last ∈ base.head?, mergeTexts? (joiner o) last n = none) :
    (s.behind base).add o span c = (s.add o span c).map (Siblings.behind base) := by
  cases c with
  | nothing => rfl
  | text n =>
    show Except.ok _ = Except.ok _
    congr 1
    have hbuilt : (s.behind base).flush.built = s.flush.built ++ base := by
      rw [flush_behind]
      rfl
    rw [pushText, pushText, hbuilt]
    cases hs : s.flush.built with
    | nil =>
      have hnone : ∀ last ∈ base.head?, mergeTexts? (joiner o) last n = none := by
        rcases h with hne | hnone
        · exact absurd hs hne
        · exact hnone n rfl
      cases base with
      | nil =>
        simp only [push, flush_behind]
        rfl
      | cons last rest =>
        simp only [List.nil_append, hnone last rfl, push, flush_behind]
        rfl
    | cons last rest =>
      simp only [List.cons_append]
      cases mergeTexts? (joiner o) last n with
      | none =>
        simp only [push, flush_behind]
        rfl
      | some merged => rfl
  | whole n =>
    show Except.ok _ = Except.ok _
    simp only [push, flush_behind]
    rfl
  | opening branch =>
    show Except.ok _ = Except.ok _
    simp only [openChain, flush_behind]
    rfl
  | further branch =>
    have hopen : (s.behind base).extensible? = s.extensible? := rfl
    rw [add, add, extendChain, extendChain, hopen]
    cases s.extensible? <;> rfl
  | last body =>
    have hopen : (s.behind base).extensible? = s.extensible? := rfl
    rw [add, add, endChain, endChain, hopen]
    cases s.extensible? <;> rfl

theorem Grows.ne_nil {j : String} {c : Contribution} {nodes nodes' : List Node}
    (h : Grows j c nodes nodes') (hne : c ≠ .nothing ∨ nodes ≠ []) : nodes' ≠ [] := by
  cases h with
  | nothing =>
    rcases hne with hne | hne
    · exact absurd rfl hne
    · exact hne
  | _ => simp

/-- Where something has been built, the nodes before it make no difference. -/
theorem buildSiblings_behind {base : List Node} (trees : List Tree) (h : s.flush.built ≠ []) :
    buildSiblings o (s.behind base) trees
      = (buildSiblings o s trees).map (Siblings.behind base) := by
  induction trees generalizing s with
  | nil =>
    rw [buildSiblings, buildSiblings]
    rfl
  | cons t rest ih =>
    rw [buildSiblings_cons, buildSiblings_cons]
    cases hc : Contribution.read o t with
    | error e => rfl
    | ok c =>
      show ((s.behind base).add o t.span c >>= fun next => buildSiblings o next rest)
        = (s.add o t.span c >>= fun next => buildSiblings o next rest).map _
      rw [Siblings.add_behind t.span (.inl h)]
      cases hnext : s.add o t.span c with
      | error e => rfl
      | ok next => exact ih ((Siblings.grows_of_add hnext).ne_nil (.inr h))

/-- Nor do they where the first sibling could not become one with the last of
them. -/
theorem buildSiblings_behind_text {trees : List Tree} {kept : String} {base : List Node}
    (ho : o.preserveWhitespace = true) (h : ∀ t ∈ trees.head?, t.isPlainText = false) :
    buildSiblings o ⟨.text kept :: base, none⟩ trees
      = (buildSiblings o .empty trees).map (Siblings.behind (.text kept :: base)) := by
  show buildSiblings o (Siblings.behind (.text kept :: base) .empty) trees = _
  cases trees with
  | nil =>
    rw [buildSiblings, buildSiblings]
    rfl
  | cons t rest =>
    rw [buildSiblings_cons, buildSiblings_cons]
    cases hc : Contribution.read o t with
    | error e => rfl
    | ok c =>
      obtain ⟨hsomething, hclass⟩ := Contribution.read_of_not_plain ho (h t rfl) hc
      have hapart : ∀ n, c = .text n → ∀ last ∈ (Node.text kept :: base).head?,
          mergeTexts? (joiner o) last n = none := by
        rintro n hn last hlast
        obtain rfl := Option.some.inj hlast
        cases hmerged : mergeTexts? (joiner o) (.text kept) n with
        | none => rfl
        | some merged =>
          obtain ⟨-, hkept, hn', -⟩ := mergeTexts?_marks hmerged
          exact absurd (hn'.trans hkept.symm) (hclass n hn)
      show ((Siblings.empty.behind _).add o t.span c >>= fun next => buildSiblings o next rest)
        = (Siblings.empty.add o t.span c >>= fun next => buildSiblings o next rest).map _
      rw [Siblings.add_behind t.span (.inr hapart)]
      cases hnext : Siblings.empty.add o t.span c with
      | error e => rfl
      | ok next =>
        exact buildSiblings_behind rest ((Siblings.grows_of_add hnext).ne_nil (.inl hsomething))

-- ================================================================= runs

/-- What is kept of runs of characters. -/
def keptText (runs : List String) : String :=
  String.join (runs.filter fun raw => !Text.allBlank raw)

theorem keptText_cons_blank {raw : String} (h : Text.allBlank raw = true) (rest : List String) :
    keptText (raw :: rest) = keptText rest := by
  simp [keptText, h]

theorem keptText_cons {raw : String} (h : Text.allBlank raw = false) (rest : List String) :
    keptText (raw :: rest) = raw ++ keptText rest := by
  simp [keptText, h, String.join_cons]

theorem length_keptText_le (runs : List String) :
    (keptText runs).length ≤ (String.join runs).length := by
  induction runs with
  | nil => simp [keptText]
  | cons raw rest ih =>
    rw [String.join_cons, String.length_append]
    cases h : Text.allBlank raw with
    | true =>
      rw [keptText_cons_blank h]
      omega
    | false =>
      rw [keptText_cons h, String.length_append]
      omega

/-- All is kept just if no blank run has characters. -/
theorem keptText_eq_join_iff {runs : List String} :
    keptText runs = String.join runs ↔ ∀ raw ∈ runs, Text.allBlank raw = true → raw = "" := by
  induction runs with
  | nil => simp [keptText]
  | cons raw rest ih =>
    rw [String.join_cons, List.forall_mem_cons, ← ih]
    cases h : Text.allBlank raw with
    | true =>
      rw [keptText_cons_blank h]
      constructor
      · intro heq
        have hlength := congrArg String.length heq
        have hle := length_keptText_le rest
        rw [String.length_append] at hlength
        have hempty : raw = "" := by
          rw [← String.length_eq_zero_iff]
          omega
        rw [hempty, String.empty_append] at heq
        exact ⟨fun _ => hempty, heq⟩
      · rintro ⟨hempty, heq⟩
        rw [hempty rfl, String.empty_append, heq]
    | false =>
      rw [keptText_cons h, String.append_right_inj]
      simp

theorem Contribution.read_plainRun {raw : String} {span : Option Span}
    (ho : o.preserveWhitespace = true) (hplain : Segment.AsWritten raw)
    (hblank : Text.allBlank raw = false) :
    read o (.text raw span) = .ok (.text (.text raw)) := by
  have hused : usedText o raw = raw := if_pos ho
  rw [read, hblank, hused, Node.ofText_of_asWritten hplain]
  rfl

/-- Runs behind literal text are appended to it. -/
theorem buildSiblings_runs_text {runs : List (String × Option Span)}
    (ho : o.preserveWhitespace = true) (h : ∀ run ∈ runs, Segment.AsWritten run.1)
    (text : String) (base : List Node) :
    buildSiblings o ⟨.text text :: base, none⟩ (runs.map fun run => .text run.1 run.2)
      = .ok ⟨.text (text ++ keptText (runs.map Prod.fst)) :: base, none⟩ := by
  have hjoiner : joiner o = "" := if_pos ho
  induction runs generalizing text with
  | nil =>
    rw [List.map_nil, buildSiblings]
    simp [keptText]
  | cons run rest ih =>
    obtain ⟨raw, span⟩ := run
    have hrest := fun text => ih (fun run hrun => h run (List.mem_cons_of_mem _ hrun)) text
    rw [List.map_cons, List.map_cons, buildSiblings_cons]
    cases hblank : Text.allBlank raw with
    | true =>
      have hread : Contribution.read o (.text raw span) = .ok .nothing := if_pos hblank
      rw [hread, keptText_cons_blank hblank]
      exact hrest text
    | false =>
      rw [Contribution.read_plainRun ho (h _ List.mem_cons_self) hblank, keptText_cons hblank,
        ← String.append_assoc, ← hrest (text ++ raw)]
      show buildSiblings o (Siblings.pushText _ (joiner o) (.text raw)) _ = _
      rw [Siblings.pushText, hjoiner]
      simp only [Siblings.flush, mergeTexts?, String.append_empty]

/-- Runs that are not all blank become one text, behind nodes of which the last
one is no literal text. -/
theorem buildSiblings_runs {runs : List (String × Option Span)}
    (ho : o.preserveWhitespace = true) (h : ∀ run ∈ runs, Segment.AsWritten run.1)
    (hhead : ∀ n ∈ s.flush.built.head?, n.textClass? ≠ some .literal)
    (hsome : Text.allBlank (String.join (runs.map Prod.fst)) = false) :
    buildSiblings o s (runs.map fun run => .text run.1 run.2)
      = .ok ⟨.text (keptText (runs.map Prod.fst)) :: s.flush.built, none⟩ := by
  induction runs with
  | nil => cases hsome
  | cons run rest ih =>
    obtain ⟨raw, span⟩ := run
    have hrest : ∀ run ∈ rest, Segment.AsWritten run.1 :=
      fun run hrun => h run (List.mem_cons_of_mem _ hrun)
    rw [List.map_cons, List.map_cons, buildSiblings_cons]
    cases hblank : Text.allBlank raw with
    | true =>
      have hread : Contribution.read o (.text raw span) = .ok .nothing := if_pos hblank
      have hchars : raw.toList.all Text.isBlank = true := hblank
      rw [hread, keptText_cons_blank hblank]
      refine ih hrest ?_
      rw [List.map_cons, String.join_cons, Text.allBlank, String.toList_append, List.all_append,
        hchars, Bool.true_and] at hsome
      exact hsome
    | false =>
      rw [Contribution.read_plainRun ho (h _ List.mem_cons_self) hblank, keptText_cons hblank,
        ← buildSiblings_runs_text ho hrest]
      have hpush : s.pushText (joiner o) (.text raw) = s.push (.text raw) := by
        rw [Siblings.pushText]
        split
        · rfl
        · next last others hbuilt =>
          rw [hbuilt] at hhead
          cases hmerged : mergeTexts? (joiner o) last (.text raw) with
          | none => rfl
          | some merged =>
            obtain ⟨-, hlast, hraw, -⟩ := mergeTexts?_marks hmerged
            exact absurd (hlast.trans hraw.symm) (hhead last rfl)
      show buildSiblings o (s.pushText (joiner o) (.text raw)) _ = _
      rw [hpush]
      rfl

/-- What is built last of siblings that do not end with plain text is no
literal text. -/
theorem head?_built_of_not_plain {before : List Tree} (ho : o.preserveWhitespace = true)
    (h : ∀ t ∈ before.getLast?, t.isPlainText = false)
    (hs : buildSiblings o .empty before = .ok s) :
    ∀ n ∈ s.flush.built.head?, n.textClass? ≠ some .literal := by
  rcases List.eq_nil_or_concat before with rfl | ⟨init, t, rfl⟩
  · rw [buildSiblings] at hs
    obtain rfl := Except.ok.inj hs
    intro n hn
    cases hn
  · rw [List.concat_eq_append] at h hs
    have hsplit := hs
    rw [buildSiblings_append] at hsplit
    obtain ⟨first, hfirst, hlast⟩ := Except.bind_eq_ok.mp hsplit
    rw [buildSiblings_cons] at hlast
    obtain ⟨c, hc, -⟩ := Except.bind_eq_ok.mp hlast
    rw [buildSiblings_concat hfirst hc] at hs
    have ht : t.isPlainText = false := h t (by rw [List.getLast?_concat]; rfl)
    obtain ⟨hsomething, hclass⟩ := Contribution.read_of_not_plain ho ht hc
    have hgrows := Siblings.grows_of_add hs
    generalize first.flush.built = nodes at hgrows
    generalize s.flush.built = nodes' at hgrows ⊢
    intro n hn
    cases hgrows with
    | nothing => exact absurd rfl hsomething
    | text _ =>
      obtain rfl := Option.some.inj hn
      exact hclass _ rfl
    | joined hmerged =>
      obtain rfl := Option.some.inj hn
      obtain ⟨-, -, hnext, -⟩ := mergeTexts?_marks hmerged
      rw [← hnext]
      exact hclass _ rfl
    | whole m =>
      obtain rfl := Option.some.inj hn
      cases Contribution.of_read hc with
      | whole _ _ _ hnone => simp [hnone]
    | opening | further | last =>
      obtain rfl := Option.some.inj hn
      simp [Node.textClass?]

/-- Where white space is preserved, runs without placeholders and escapes, cut
off from other such text, become one text, unless they are all blank. It is
what is written if no character stands in a blank run, and else it is not: what
stands in blank runs is lost. -/
theorem buildChildren_plainRuns (before after : List Tree) (runs : List (String × Option Span))
    (ho : o.preserveWhitespace = true) (h : ∀ run ∈ runs, Segment.AsWritten run.1)
    (hbefore : ∀ t ∈ before.getLast?, t.isPlainText = false)
    (hafter : ∀ t ∈ after.head?, t.isPlainText = false)
    (hsome : Text.allBlank (String.join (runs.map Prod.fst)) = false) :
    buildChildren o (before ++ (runs.map fun run => .text run.1 run.2) ++ after) = (do
        let first ← buildChildren o before
        let last ← buildChildren o after
        return first ++ .text (keptText (runs.map Prod.fst)) :: last)
      ∧ (keptText (runs.map Prod.fst) = String.join (runs.map Prod.fst)
        ↔ ∀ run ∈ runs, Text.allBlank run.1 = true → run.1 = "") := by
  refine ⟨?_, by rw [keptText_eq_join_iff, List.forall_mem_map]⟩
  unfold buildChildren
  rw [buildSiblings_append, buildSiblings_append]
  cases hs : buildSiblings o .empty before with
  | error e => rfl
  | ok s =>
    show ((buildSiblings o s _ >>= fun next => buildSiblings o next after).map Siblings.toList) = _
    rw [buildSiblings_runs ho h (head?_built_of_not_plain ho hbefore hs) hsome]
    show (buildSiblings o ⟨_, none⟩ after).map Siblings.toList = _
    rw [buildSiblings_behind_text ho hafter]
    cases buildSiblings o .empty after with
    | error e => rfl
    | ok last =>
      show Except.ok _ = Except.ok _
      rw [Siblings.toList_behind, List.reverse_cons, List.append_assoc]
      rfl

/-- White space is preserved. -/
def preservingOptions : Options := { Options.standard with preserveWhitespace := true }

/-- Two runs that are as written. -/
def wordRuns : List (String × Option Span) := [("a", none), ("b \tc", none)]

theorem buildChildren_plainRuns_of_words :
    buildChildren preservingOptions (wordRuns.map fun run => .text run.1 run.2)
      = .ok [.text "ab \tc"] := by
  have hplain : ∀ run ∈ wordRuns, Segment.AsWritten run.1 := by
    unfold Segment.AsWritten
    decide +kernel
  have hpreserving : preservingOptions.preserveWhitespace = true := rfl
  obtain ⟨hbuild, -⟩ := buildChildren_plainRuns [] [] wordRuns hpreserving hplain (by simp)
    (by simp) (by decide)
  have hnone : buildChildren preservingOptions [] = .ok [] := by
    rw [buildChildren, buildSiblings]
    rfl
  have hkept : keptText (wordRuns.map Prod.fst) = "ab \tc" := by decide +kernel
  rw [hnone, hkept, List.nil_append, List.append_nil] at hbuild
  exact hbuild

/-- Three runs, the second of them blank. -/
def blankBetween : List (String × Option Span) := [("a", none), (" ", none), ("b", none)]

/-- The blank between the two words is lost. -/
theorem buildChildren_drops_blank_run :
    (∀ run ∈ blankBetween, Segment.AsWritten run.1)
      ∧ Text.allBlank (String.join (blankBetween.map Prod.fst)) = false
      ∧ String.join (blankBetween.map Prod.fst) = "a b"
      ∧ buildChildren preservingOptions (blankBetween.map fun run => .text run.1 run.2)
        = .ok [.text "ab"] := by
  have hplain : ∀ run ∈ blankBetween, Segment.AsWritten run.1 := by
    unfold Segment.AsWritten
    decide +kernel
  have hsome : Text.allBlank (String.join (blankBetween.map Prod.fst)) = false := by decide
  refine ⟨hplain, hsome, by decide, ?_⟩
  have hkept : keptText (blankBetween.map Prod.fst) = "ab" := by decide +kernel
  rw [buildChildren, buildSiblings_runs rfl hplain (by simp [Siblings.empty, Siblings.flush]) hsome,
    hkept]
  rfl

end Template

end DynamicSql
