/-
Which of the loops around gives its name to a parameter.

A property is held against the loops from the inside out. The innermost one that
has a variable at its beginning puts the name of the iteration in its place, and
all further ones are asked about what came of it (`Context.renamed_of_takesFirst`).
That text begins as the names of single iterations do, and whatever a loop does to it
makes it longer (`Context.renamed_eq_self_iff`). So the name of the innermost
iteration is the one recorded exactly if no loop further out is asked in vain.

# When a loop further out takes it too

Only if it has a variable that is itself called like a single iteration
(`LoopVariable.Begins.begins_marker`). Names for loop variables are not kept from that,
and then the parameter is recorded under a name of the wrong loop, with the value
of the wrong variable (`Script.renderWith_takes_outer`).
-/
import DynamicSql.Proofs.LoopVariable
import DynamicSql.Proofs.Script
import DynamicSql.Proofs.Template.Build

namespace DynamicSql

-- ================================================================== names

namespace LoopVariable

/-- The property begins with the name, blanks before it passed over, and goes on
with something that may follow a name. -/
structure Begins (property name rest : String) : Prop where
  text : property.toList.dropWhile Text.isBlank = name.toList ++ rest.toList
  ends : endsName rest.toList = true

variable {property name rest : String}

theorem stripName?_eq_some_iff :
    stripName? property name = some rest ↔ Begins property name rest := by
  unfold stripName?
  simp only []
  constructor
  · intro h
    split at h
    · next hprefix =>
      obtain ⟨after, hafter⟩ := List.isPrefixOf_iff_prefix.mp hprefix
      rw [← hafter, ← String.length_toList, List.drop_left] at h
      split at h
      · next hends =>
        obtain rfl := Option.some.inj h
        exact ⟨by rw [← hafter, String.toList_ofList], by rw [String.toList_ofList]; exact hends⟩
      · cases h
    · cases h
  · rintro ⟨htext, hends⟩
    have hprefix : name.toList.isPrefixOf (property.toList.dropWhile Text.isBlank) = true :=
      List.isPrefixOf_iff_prefix.mpr ⟨rest.toList, htext.symm⟩
    rw [if_pos hprefix, htext, ← String.length_toList, List.drop_left, if_pos hends,
      String.ofList_toList]

theorem stripName?_eq_none_iff :
    stripName? property name = none ↔ ∀ rest, ¬Begins property name rest := by
  rw [Option.eq_none_iff_forall_ne_some]
  exact forall_congr' fun rest => not_congr stripName?_eq_some_iff

/-- No blanks stand before the name of an iteration. -/
theorem dropWhile_uniqueName (name rest : String) (n : Nat) :
    (uniqueName name n ++ rest).toList.dropWhile Text.isBlank
      = (uniqueName name n ++ rest).toList := by
  rw [String.toList_append, toList_uniqueName]
  exact List.dropWhile_cons_of_neg (by decide)

/-- A name that a text with the name of an iteration begins with is itself like
one. -/
theorem Begins.begins_marker {other : String} {n : Nat}
    (h : Begins (uniqueName name n ++ rest) property other) :
    marker.toList <+: property.toList := by
  obtain ⟨htext, hends⟩ := h
  rw [dropWhile_uniqueName, String.toList_append, toList_uniqueName, List.append_assoc] at htext
  rcases List.prefix_or_prefix_of_prefix (List.prefix_append marker.toList _)
    ⟨other.toList, htext.symm⟩ with hprefix | ⟨more, hmore⟩
  · exact hprefix
  · -- A shorter name would be followed by a character of the marker.
    cases more with
    | nil => exact ⟨[], by rw [← hmore, List.append_nil, List.append_nil]⟩
    | cons c more =>
      exfalso
      rw [← hmore, List.append_assoc] at htext
      rw [← List.append_cancel_left htext] at hends
      have hchar := isWordChar_of_endsName hends
      rw [isWordChar_of_mem_marker (by rw [← hmore]; simp)] at hchar
      cases hchar

end LoopVariable

open LoopVariable (Begins endsName marker stripName? uniqueName)

-- ================================================================== loops

namespace LoopFrame

variable {f : LoopFrame} {property name rest : String}

/-- The iteration gives its name to the property, which begins with this variable
of it: with its item, or else with its index. -/
structure Takes (f : LoopFrame) (property name rest : String) : Prop where
  begins : Begins property name rest
  chosen : f.item = some name
    ∨ f.index = some name ∧ ∀ item ∈ f.item, ∀ rest, ¬Begins property item rest

/-- It is the innermost of the iterations that gives its name to the property;
these are those further out. -/
structure TakesFirst (frames : List LoopFrame) (f : LoopFrame) (outer : List LoopFrame)
    (property name rest : String) : Prop where
  takes : f.Takes property name rest
  innermost : ∃ inner, frames = inner ++ f :: outer
    ∧ ∀ g ∈ inner, ∀ name rest, ¬g.Takes property name rest

theorem rename?_eq_some_iff {renamed : String} :
    f.rename? property = some renamed
      ↔ ∃ name rest, f.Takes property name rest ∧ renamed = uniqueName name f.unique ++ rest := by
  have hstrip : ∀ name, (∀ rest, ¬Begins property name rest) →
      stripName? property name = none := fun name => LoopVariable.stripName?_eq_none_iff.mpr
  obtain ⟨separator, applied, item, index, unique⟩ := f
  unfold rename? names
  rw [List.findSome?_append]
  constructor
  · intro h
    rcases Option.or_eq_some_iff.mp h with hitem | ⟨hnone, hindex⟩
    · obtain ⟨name, hname, hfound⟩ := List.exists_of_findSome?_eq_some hitem
      obtain ⟨rest, hrest, rfl⟩ := Option.map_eq_some_iff.mp hfound
      exact ⟨name, rest, ⟨LoopVariable.stripName?_eq_some_iff.mp hrest,
        .inl (Option.mem_toList.mp hname)⟩, rfl⟩
    · obtain ⟨name, hname, hfound⟩ := List.exists_of_findSome?_eq_some hindex
      obtain ⟨rest, hrest, rfl⟩ := Option.map_eq_some_iff.mp hfound
      refine ⟨name, rest, ⟨LoopVariable.stripName?_eq_some_iff.mp hrest,
        .inr ⟨Option.mem_toList.mp hname, fun item hitem => ?_⟩⟩, rfl⟩
      exact LoopVariable.stripName?_eq_none_iff.mp (Option.map_eq_none_iff.mp
        (List.findSome?_eq_none_iff.mp hnone item (Option.mem_toList.mpr hitem)))
  · rintro ⟨name, rest, ⟨hbegins, hchosen⟩, rfl⟩
    have hfound := LoopVariable.stripName?_eq_some_iff.mpr hbegins
    rcases hchosen with hitem | ⟨hindex, hnone⟩
    · obtain rfl : item = some name := hitem
      simp [hfound]
    · obtain rfl : index = some name := hindex
      cases item with
      | none => simp [hfound]
      | some item => simp [hfound, hstrip item (hnone item rfl)]

theorem rename?_eq_none_iff :
    f.rename? property = none ↔ ∀ name rest, ¬f.Takes property name rest := by
  constructor
  · intro h name rest htakes
    rw [rename?_eq_some_iff.mpr ⟨name, rest, htakes, rfl⟩] at h
    cases h
  · intro h
    cases hf : f.rename? property with
    | none => rfl
    | some renamed =>
      obtain ⟨name, rest, htakes, -⟩ := rename?_eq_some_iff.mp hf
      exact absurd htakes (h name rest)

/-- The variable is one of the iteration's. -/
theorem Takes.mem_names (h : f.Takes property name rest) : name ∈ f.names := by
  rw [names, List.mem_append, Option.mem_toList, Option.mem_toList]
  exact h.chosen.imp id And.left

/-- Of the iterations that give their name to a property, one is the innermost. -/
theorem exists_takesFirst {frames : List LoopFrame}
    (h : ∃ f ∈ frames, ∃ name rest, f.Takes property name rest) :
    ∃ f outer name rest, TakesFirst frames f outer property name rest := by
  induction frames with
  | nil =>
    obtain ⟨f, hf, -⟩ := h
    cases hf
  | cons g frames ih =>
    by_cases hg : ∃ name rest, g.Takes property name rest
    · obtain ⟨name, rest, htakes⟩ := hg
      exact ⟨g, frames, name, rest, htakes, [], rfl, nofun⟩
    · obtain ⟨f, hf, hsome⟩ := h
      have hf : f ∈ frames := (List.mem_cons.mp hf).resolve_left fun heq => hg (heq ▸ hsome)
      obtain ⟨f, outer, name, rest, htakes, inner, rfl, hinner⟩ := ih ⟨f, hf, hsome⟩
      refine ⟨f, outer, name, rest, htakes, g :: inner, rfl, fun g' hg' name rest htakes => ?_⟩
      rcases List.mem_cons.mp hg' with rfl | hg'
      · exact hg ⟨name, rest, htakes⟩
      · exact hinner g' hg' name rest htakes

end LoopFrame

-- =============================================================== renaming

namespace Context

variable {frames outer : List LoopFrame} {f : LoopFrame} {property name rest : String}

theorem renamed_cons (f : LoopFrame) (frames : List LoopFrame) (property : String) :
    renamed (f :: frames) property = renamed frames ((f.rename? property).getD property) := rfl

theorem renamed_append (inner outer : List LoopFrame) (property : String) :
    renamed (inner ++ outer) property = renamed outer (renamed inner property) :=
  List.foldl_append

theorem renamed_of_none (h : ∀ f ∈ frames, ∀ name rest, ¬f.Takes property name rest) :
    renamed frames property = property := by
  induction frames with
  | nil => rfl
  | cons f frames ih =>
    rw [renamed_cons, LoopFrame.rename?_eq_none_iff.mpr (h f List.mem_cons_self), Option.getD_none]
    exact ih fun g hg => h g (List.mem_cons_of_mem _ hg)

/-- A loop makes a text longer that has no blanks before it. -/
theorem length_lt_of_takes (hproperty : property.toList.dropWhile Text.isBlank = property.toList)
    (h : f.Takes property name rest) :
    property.toList.length < (uniqueName name f.unique ++ rest).toList.length := by
  rw [← hproperty, h.begins.text, String.toList_append, LoopVariable.toList_uniqueName]
  simp only [List.length_append, List.length_cons]
  omega

/-- All loops together do not make it shorter. -/
theorem length_le_renamed (hproperty : property.toList.dropWhile Text.isBlank = property.toList) :
    property.toList.length ≤ (renamed frames property).toList.length := by
  induction frames generalizing property with
  | nil => exact Nat.le_refl _
  | cons f frames ih =>
    rw [renamed_cons]
    cases hf : f.rename? property with
    | none => exact ih hproperty
    | some next =>
      obtain ⟨name, rest, htakes, rfl⟩ := LoopFrame.rename?_eq_some_iff.mp hf
      exact Nat.le_trans (Nat.le_of_lt (length_lt_of_takes hproperty htakes))
        (ih (LoopVariable.dropWhile_uniqueName name rest f.unique))

theorem renamed_eq_self_iff (hproperty : property.toList.dropWhile Text.isBlank = property.toList) :
    renamed frames property = property
      ↔ ∀ f ∈ frames, ∀ name rest, ¬f.Takes property name rest := by
  refine ⟨fun h => ?_, renamed_of_none⟩
  induction frames with
  | nil => exact nofun
  | cons f frames ih =>
    rw [renamed_cons] at h
    cases hf : f.rename? property with
    | none =>
      rw [hf, Option.getD_none] at h
      exact List.forall_mem_cons.mpr ⟨LoopFrame.rename?_eq_none_iff.mp hf, ih h⟩
    | some next =>
      obtain ⟨name, rest, htakes, rfl⟩ := LoopFrame.rename?_eq_some_iff.mp hf
      rw [hf, Option.getD_some] at h
      have hlonger := length_lt_of_takes hproperty htakes
      have hlonger' : (uniqueName name f.unique ++ rest).toList.length
          ≤ (renamed frames (uniqueName name f.unique ++ rest)).toList.length :=
        length_le_renamed (LoopVariable.dropWhile_uniqueName name rest f.unique)
      rw [h] at hlonger'
      omega

/-- The loops further out are asked about the name that the innermost one gave. -/
theorem renamed_of_takesFirst (h : LoopFrame.TakesFirst frames f outer property name rest) :
    renamed frames property = renamed outer (uniqueName name f.unique ++ rest) := by
  obtain ⟨htakes, inner, rfl, hinner⟩ := h
  rw [renamed_append, renamed_of_none hinner, renamed_cons,
    LoopFrame.rename?_eq_some_iff.mpr ⟨name, rest, htakes, rfl⟩, Option.getD_some]

/-- What becomes of a parameter inside of loops, whatever their variables are
called. Its type and options are kept, and so is all of it if none of the loops
takes the property. Else one of those that do is the innermost, and its name is
asked about further out: it is the name recorded exactly if no loop further out
takes it in turn. None does if its variables are not called like iterations. -/
theorem uniquify_innermost (frames : List LoopFrame) (mapping : Parameter.Mapping) :
    (uniquify frames mapping).jdbcType = mapping.jdbcType
      ∧ (uniquify frames mapping).options = mapping.options
      ∧ (mapping.property? = none → uniquify frames mapping = mapping)
      ∧ ∀ property, mapping.property? = some property →
        ((∀ f ∈ frames, ∀ name rest, ¬f.Takes property name rest) →
            uniquify frames mapping = mapping)
          ∧ ((∃ f ∈ frames, ∃ name rest, f.Takes property name rest) →
            ∃ f outer name rest, LoopFrame.TakesFirst frames f outer property name rest)
          ∧ ∀ f outer name rest, LoopFrame.TakesFirst frames f outer property name rest →
            (uniquify frames mapping).property?
                = some (renamed outer (uniqueName name f.unique ++ rest))
              ∧ ((uniquify frames mapping).property? = some (uniqueName name f.unique ++ rest)
                ↔ ∀ g ∈ outer, ∀ name' rest',
                  ¬g.Takes (uniqueName name f.unique ++ rest) name' rest')
              ∧ ((∀ g ∈ outer, ∀ name' ∈ g.names, ¬marker.toList <+: name'.toList) →
                (uniquify frames mapping).property?
                  = some (uniqueName name f.unique ++ rest)) := by
  obtain ⟨source, jdbcType, options⟩ := mapping
  cases source with
  | expression text => exact ⟨rfl, rfl, fun _ => rfl, nofun⟩
  | property path =>
    refine ⟨rfl, rfl, nofun, fun property hproperty => ?_⟩
    obtain rfl : path = property := Option.some.inj hproperty
    refine ⟨fun hnone => ?_, LoopFrame.exists_takesFirst, fun f outer name rest hfirst => ?_⟩
    · show Parameter.Mapping.mk (.property (renamed frames path)) jdbcType options = _
      rw [renamed_of_none hnone]
    · have hrenamed : (uniquify frames ⟨.property path, jdbcType, options⟩).property?
          = some (renamed outer (uniqueName name f.unique ++ rest)) :=
        congrArg some (renamed_of_takesFirst hfirst)
      have hiff : renamed outer (uniqueName name f.unique ++ rest)
          = uniqueName name f.unique ++ rest ↔ _ :=
        renamed_eq_self_iff (LoopVariable.dropWhile_uniqueName name rest f.unique)
      rw [hrenamed]
      refine ⟨rfl, Option.some_inj.trans hiff, fun hplain => congrArg some (hiff.mpr ?_)⟩
      intro g hg name' rest' htakes
      exact hplain g hg name' htakes.mem_names htakes.begins.begins_marker

/-- A loop with another variable, one with an index of the name, and one whose item
has the name as well. -/
def threeFrames : List LoopFrame :=
  [⟨some ",", false, some "y", none, 2⟩, ⟨none, true, some "row", some "x", 1⟩,
    ⟨none, true, some "x", some "i", 0⟩]

theorem uniquify_innermost_of_index :
    LoopFrame.TakesFirst threeFrames ⟨none, true, some "row", some "x", 1⟩
        [⟨none, true, some "x", some "i", 0⟩] " x.a" "x" ".a"
      ∧ (uniquify threeFrames ⟨.property " x.a", some "INTEGER", []⟩).property?
        = some "__frch_x_1.a" := by
  have hinner : ∀ name rest,
      ¬LoopFrame.Takes ⟨some ",", false, some "y", none, 2⟩ " x.a" name rest :=
    LoopFrame.rename?_eq_none_iff.mp (by decide)
  have hitem : ∀ rest, ¬Begins " x.a" "row" rest :=
    LoopVariable.stripName?_eq_none_iff.mp (by decide)
  have hfirst : LoopFrame.TakesFirst threeFrames ⟨none, true, some "row", some "x", 1⟩
      [⟨none, true, some "x", some "i", 0⟩] " x.a" "x" ".a" := by
    refine ⟨⟨⟨by decide, by decide⟩, .inr ⟨rfl, fun item h => ?_⟩⟩, [_], rfl, fun g hg => ?_⟩
    · obtain rfl := Option.some.inj h
      exact hitem
    · rw [List.mem_singleton.mp hg]
      exact hinner
  obtain ⟨-, -, -, hproperty⟩ :=
    uniquify_innermost threeFrames ⟨.property " x.a", some "INTEGER", []⟩
  obtain ⟨-, -, hrecorded⟩ := hproperty " x.a" rfl
  obtain ⟨-, -, hplain⟩ := hrecorded _ _ _ _ hfirst
  refine ⟨hfirst, hplain fun g hg name' hname => ?_⟩
  rw [List.mem_singleton.mp hg] at hname
  simp only [LoopFrame.names, Option.toList_some, List.singleton_append, List.mem_cons,
    List.not_mem_nil, or_false] at hname
  rcases hname with rfl | rfl <;> decide

end Context

-- ========================================== a variable called like an iteration

namespace Script

/-- Two loops. The item of the outer one is called as the item of the inner one is
called in its first iteration. -/
def captureContent : List Template.Tree :=
  [.element "foreach" [("collection", "xs"), ("item", "__frch_x_1")]
    [.element "foreach" [("collection", "ys"), ("item", "x")] [.text "#\x7bx\x7d" none] none] none]

/-- The script that is built of it. -/
def captureScript : Script :=
  ⟨.sequence [.foreach ⟨"xs", none, some "__frch_x_1", none, none, none, none, none⟩
      (.foreach ⟨"ys", none, some "x", none, none, none, none, none⟩
        (.placeholders ⟨[.parameter ⟨.property "x", none, []⟩], none⟩))],
    Options.standard, none, Evaluator.standard, none⟩

theorem build_captureContent : build Options.standard captureContent = .ok captureScript := by
  have hsplit : Segment.split (Template.usedText Options.standard "#\x7bx\x7d")
      = [.placeholder .parameter "x"] := by decide +kernel
  have htext := Template.Node.ofText_parameter hsplit rfl none
  have hinner := Template.buildSiblings_foreach (o := Options.standard)
    (show Template.LoopHead.read "foreach" [("collection", "ys"), ("item", "x")] none = .ok _
      from rfl) (Template.buildSiblings_text (by decide) htext)
  have hnodes := Template.buildChildren_foreach (o := Options.standard)
    (show Template.LoopHead.read "foreach" [("collection", "xs"), ("item", "__frch_x_1")] none
      = .ok _ from rfl) hinner
  exact build_eq_ok.mpr ⟨rfl, rfl, rfl, ⟨_, hnodes, rfl⟩, rfl⟩

/-- The innermost loop that takes the parameter is the inner one, in the iteration
of number 1, but the outer one takes what came of it: it is recorded under a name
of the outer iteration, and its value is the item of the outer loop. -/
theorem renderWith_takes_outer :
    LoopFrame.TakesFirst
        [⟨none, false, some "x", none, 1⟩, ⟨none, false, some "__frch_x_1", none, 0⟩]
        ⟨none, false, some "x", none, 1⟩ [⟨none, false, some "__frch_x_1", none, 0⟩] "x" "x" ""
      ∧ (Context.uniquify
          [⟨none, false, some "x", none, 1⟩, ⟨none, false, some "__frch_x_1", none, 0⟩]
          ⟨.property "x", none, []⟩).property? ≠ some (uniqueName "x" 1 ++ "")
      ∧ build Options.standard captureContent = .ok captureScript
      ∧ (captureScript.renderWith Evaluator.standard
          [("xs", .list [.string "outer"]), ("ys", .list [.string "inner"])]).toOption.map
            (fun b => b.bound.map fun p => (p.mapping.property?, p.value.string?))
        = some [(some "__frch___frch_x_1_0", some "outer")] :=
  ⟨⟨⟨⟨by decide, by decide⟩, .inl rfl⟩, [], rfl, nofun⟩, by decide, build_captureContent,
    by decide +kernel⟩

end Script

end DynamicSql
