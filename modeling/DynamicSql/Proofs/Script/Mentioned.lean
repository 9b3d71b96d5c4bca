/-
The arguments that a script can see.

A script mentions names in the texts that it has evaluated: in tests, in
bindings, in the collections of loops, in substituted expressions and in
parameters. A render is decided by what the arguments bind these names to. No
other argument can change its text, its parameters or its failure, not even
one that is called like a variable of a single iteration.

# Where this rests

The language of expressions reads only the variables that a text mentions
(`Expr.evalText_congr`), and a render hands it no texts but those of the
script, under the names that loops give to them (`Render.blind_apply`). What
was worked out for a static script beforehand makes no exception: it is what
applying the root to the arguments gives (`BuiltFrom.parts_eq_interpreted`).
-/
import DynamicSql.Proofs.Render.Blind
import DynamicSql.Proofs.Script.Static

namespace DynamicSql.Script

open Template (Part)

variable {s : Script} {options : Options} {content : List Template.Tree} {E : Evaluator}
  {arguments arguments' : Arguments}

/-- The names that the texts of a script mention. -/
def mentioned (s : Script) : List String :=
  s.root.parts.flatMap fun part => Token.mentioned part.text

/-- The variables of the script's loops have names. -/
def NamesLoops (s : Script) : Prop :=
  ∀ head, Part.loop head ∈ s.root.parts → ∀ name ∈ head.names, Token.isName name = true

theorem NamesLoops.covered (h : s.NamesLoops) :
    ∀ part ∈ s.root.parts, Render.Covered s.mentioned part := by
  intro part hpart
  refine ⟨fun name hname => List.mem_flatMap.mpr ⟨part, hpart, hname⟩, ?_⟩
  rintro head rfl
  exact h head hpart

/-- A render applies the root, and that sees only what the texts mention. -/
theorem BuiltFrom.parts_congr (hs : s.BuiltFrom options content) (hnames : s.NamesLoops)
    (hE : E.ReadsMentioned)
    (h : ∀ name ∈ s.mentioned, Bindings.find? arguments name = Bindings.find? arguments' name) :
    s.parts E arguments = s.parts E arguments' := by
  have hsetting : (setting s.options s.filter E true).evaluator.ReadsMentioned := hE
  obtain ⟨hresult, hbare⟩ := Render.outcome_apply_eq hsetting hnames.covered h
  rw [hs.parts_eq_interpreted, hs.parts_eq_interpreted, interpreted, interpreted]
  rcases hc : Render.outcome (s.root.apply (setting s.options s.filter E true))
    (Context.start arguments) with ⟨r, c⟩
  rcases hd : Render.outcome (s.root.apply (setting s.options s.filter E true))
    (Context.start arguments') with ⟨r', d⟩
  rw [hc, hd] at hresult hbare
  obtain rfl : r = r' := hresult
  cases r with
  | error e => rfl
  | ok handled =>
    have hparts : (⟨c.bare.sql, c.bare.mappings⟩, c.bare.values)
        = ((⟨d.bare.sql, d.bare.mappings⟩, d.bare.values) : StaticSql × List Value) := by
      rw [hbare]
    exact congrArg Except.ok hparts

/-- Renders of a script with arguments that agree on all names mentioned in it
are the same, text, parameters or failure. So neither the order of the
arguments matters nor any argument besides. -/
theorem build_renderWith_mentioned (hbuild : build options content = .ok s)
    (hnames : s.NamesLoops) :
    (∀ arguments arguments' : Arguments,
        (∀ name ∈ s.mentioned,
          Bindings.find? arguments name = Bindings.find? arguments' name) →
        s.renderWith Evaluator.standard arguments = s.renderWith Evaluator.standard arguments')
      ∧ (∀ arguments arguments' : Arguments, Bindings.DistinctNames arguments →
        arguments.Perm arguments' →
        s.renderWith Evaluator.standard arguments = s.renderWith Evaluator.standard arguments')
      ∧ ∀ (arguments : Arguments) (name : String) (value : Value), name ∉ s.mentioned →
        s.renderWith Evaluator.standard (Bindings.insert arguments name value)
          = s.renderWith Evaluator.standard arguments := by
  have hs : s.BuiltFrom options content := build_eq_ok.mp hbuild
  have hagree : ∀ arguments arguments' : Arguments,
      (∀ name ∈ s.mentioned, Bindings.find? arguments name = Bindings.find? arguments' name) →
      s.renderWith Evaluator.standard arguments = s.renderWith Evaluator.standard arguments' := by
    intro arguments arguments' h
    rw [renderWith_eq_map, renderWith_eq_map,
      hs.parts_congr hnames Evaluator.readsMentioned_standard h]
  refine ⟨hagree, fun arguments arguments' hdistinct hperm => ?_,
    fun arguments name value hname => ?_⟩
  · exact hagree _ _ fun name _ => Bindings.find?_of_perm hperm hdistinct name
  · refine hagree _ _ fun other hother => ?_
    have hne : name ≠ other := fun heq => hname (heq ▸ hother)
    rw [Bindings.find?_insert, if_neg hne]

/-- An argument that is called like the variable of the first iteration is not
seen by it. -/
theorem renderWith_mentioned_of_loopName :
    "__frch_x_0" ∉ listScript.mentioned
      ∧ listScript.renderWith Evaluator.standard
          (Bindings.insert [("xs", .list [.bool true])] "__frch_x_0" .null)
        = listScript.renderWith Evaluator.standard [("xs", .list [.bool true])] := by
  have hnames : listScript.NamesLoops := by
    intro head hhead name hname
    have hall : listScript.root.parts.all (fun
        | .loop head => head.names.all Token.isName
        | _ => true) = true := by decide +kernel
    have hloop : head.names.all Token.isName = true := List.all_eq_true.mp hall _ hhead
    exact List.all_eq_true.mp hloop name hname
  have hunseen : "__frch_x_0" ∉ listScript.mentioned := by decide +kernel
  exact ⟨hunseen, (build_renderWith_mentioned build_listContent hnames).2.2 _ _ _ hunseen⟩

end DynamicSql.Script
