/-
The parts of a built template: everything in it that reaches an evaluator or
binds a variable, and the loops around each of them.

Most of what is said about a render does not depend on how a template is
nested, only on what stands in it: which texts it has evaluated, which names
it binds, whether it has parameters at all. So the nodes are flattened once,
here, and such conditions are read off the list of places.

# What is left out

Literal text is no part: it is written as it stands, whatever the arguments
are. Neither are spans.
-/
import DynamicSql.Template.Node

namespace DynamicSql.Template

/-- The names of the loop's variables. -/
def LoopHead.names (head : LoopHead) : List String := head.item.toList ++ head.index.toList

/-- Something in a template that concerns the evaluator or the variables. -/
inductive Part where
  /-- The text of a substituted expression. -/
  | interpolation (expression : String)
  | parameter (mapping : Parameter.Mapping)
  | bind (bind : Bind)
  /-- The test of a branch or of a case. -/
  | test (text : String)
  /-- What a loop says about itself. -/
  | loop (head : LoopHead)
deriving DecidableEq, Repr, Inhabited

/-- A part of a template and the loops around it, the innermost first. -/
structure Place where
  around : List LoopHead
  part : Part
deriving DecidableEq, Repr, Inhabited

/-- The part that a piece of text is, unless it is literal. -/
def Piece.part? : Piece → Option Part
  | .literal _ => none
  | .interpolation expression => some (.interpolation expression)
  | .parameter mapping => some (.parameter mapping)

/-- The places of pieces of text. -/
def Piece.places (around : List LoopHead) (pieces : List Piece) : List Place :=
  (pieces.filterMap Piece.part?).map (⟨around, ·⟩)

mutual

/-- The places of a node within loops, in the order of the template. -/
def Node.places (around : List LoopHead) : Node → List Place
  | .text _ => []
  | .placeholders t => Piece.places around t.pieces
  | .bind b => [⟨around, .bind b⟩]
  | .conditional first others otherwise =>
    first.places around ++ (Branch.allPlaces around others ++
      (match otherwise with
        | some body => body.places around
        | none => []))
  | .choose cases otherwise _ =>
    Case.allPlaces around cases ++
      (match otherwise with
        | some body => body.places around
        | none => [])
  | .foreach head body => ⟨around, .loop head⟩ :: body.places (head :: around)
  | .sequence children => Node.allPlaces around children

def Node.allPlaces (around : List LoopHead) : List Node → List Place
  | [] => []
  | node :: rest => node.places around ++ Node.allPlaces around rest

def Body.places (around : List LoopHead) : Body → List Place
  | ⟨_, node⟩ => node.places around

def Branch.places (around : List LoopHead) : Branch → List Place
  | ⟨_, test, body, _⟩ => ⟨around, .test test⟩ :: body.places around

def Branch.allPlaces (around : List LoopHead) : List Branch → List Place
  | [] => []
  | branch :: rest => branch.places around ++ Branch.allPlaces around rest

def Case.allPlaces (around : List LoopHead) : List Case → List Place
  | [] => []
  | ⟨test, _, body, _⟩ :: rest =>
    ⟨around, .test test⟩ :: (body.places around ++ Case.allPlaces around rest)

end

/-- The parts of a node. -/
def Node.parts (node : Node) : List Part := (node.places []).map Place.part

/-- The text that is evaluated to decide what to do or what to write. Those
of parameters do neither. -/
def Part.asked? : Part → Option String
  | .interpolation expression => some expression
  | .parameter _ => none
  | .bind b => some b.value
  | .test text => some text
  | .loop head => some head.collection

/-- The texts that a node evaluates, other than those of its parameters. -/
def Node.askedTexts (node : Node) : List String := node.parts.filterMap Part.asked?

/-- The text of a part that is evaluated, be it for a parameter. -/
def Part.text : Part → String
  | .interpolation expression => expression
  | .parameter mapping => mapping.source.text
  | .bind b => b.value
  | .test text => text
  | .loop head => head.collection

-- =========================================================== parameters

/-- True of a parameter placeholder. -/
def Part.isParameter : Part → Bool
  | .parameter _ => true
  | _ => false

theorem Piece.any_isParameter (around : List LoopHead) (pieces : List Piece) :
    (Piece.places around pieces).any (·.part.isParameter)
      = pieces.any Piece.isParameter := by
  induction pieces with
  | nil => rfl
  | cons p rest ih =>
    rw [List.any_cons, ← ih]
    cases p <;> rfl

mutual

/-- A node collects parameters exactly if one of its parts is a parameter
placeholder. -/
theorem Node.any_isParameter (around : List LoopHead) :
    (node : Node) → (node.places around).any (·.part.isParameter) = node.hasParameters
  | .text _ => rfl
  | .placeholders t => Piece.any_isParameter around t.pieces
  | .bind _ => rfl
  | .conditional first others none => by
    show (first.places around ++ (Branch.allPlaces around others ++ [])).any _
      = (first.hasParameters || Branch.anyHasParameters others || false)
    rw [List.any_append, List.append_nil, Branch.any_isParameter around first,
      Branch.allPlaces_any_isParameter around others, Bool.or_false]
  | .conditional first others (some body) => by
    show (first.places around ++ (Branch.allPlaces around others ++ body.places around)).any _
      = (first.hasParameters || Branch.anyHasParameters others || body.hasParameters)
    rw [List.any_append, List.any_append, Branch.any_isParameter around first,
      Branch.allPlaces_any_isParameter around others, Body.any_isParameter around body,
      Bool.or_assoc]
  | .choose cases none _ => by
    show (Case.allPlaces around cases ++ []).any _ = (Case.anyHasParameters cases || false)
    rw [List.append_nil, Case.any_isParameter around cases, Bool.or_false]
  | .choose cases (some body) _ => by
    show (Case.allPlaces around cases ++ body.places around).any _
      = (Case.anyHasParameters cases || body.hasParameters)
    rw [List.any_append, Case.any_isParameter around cases, Body.any_isParameter around body]
  | .foreach head body => Node.any_isParameter (head :: around) body
  | .sequence children => Node.allPlaces_any_isParameter around children

theorem Node.allPlaces_any_isParameter (around : List LoopHead) :
    (nodes : List Node) →
      (Node.allPlaces around nodes).any (·.part.isParameter) = Node.anyHasParameters nodes
  | [] => rfl
  | node :: rest => by
    show (node.places around ++ Node.allPlaces around rest).any _
      = (node.hasParameters || Node.anyHasParameters rest)
    rw [List.any_append, Node.any_isParameter around node,
      Node.allPlaces_any_isParameter around rest]

theorem Body.any_isParameter (around : List LoopHead) :
    (body : Body) → (body.places around).any (·.part.isParameter) = body.hasParameters
  | ⟨_, node⟩ => Node.any_isParameter around node

theorem Branch.any_isParameter (around : List LoopHead) :
    (branch : Branch) →
      (branch.places around).any (·.part.isParameter) = branch.hasParameters
  | ⟨_, _, body, _⟩ => Body.any_isParameter around body

theorem Branch.allPlaces_any_isParameter (around : List LoopHead) :
    (branches : List Branch) →
      (Branch.allPlaces around branches).any (·.part.isParameter)
        = Branch.anyHasParameters branches
  | [] => rfl
  | branch :: rest => by
    show (branch.places around ++ Branch.allPlaces around rest).any _
      = (branch.hasParameters || Branch.anyHasParameters rest)
    rw [List.any_append, Branch.any_isParameter around branch,
      Branch.allPlaces_any_isParameter around rest]

theorem Case.any_isParameter (around : List LoopHead) :
    (cases : List Case) →
      (Case.allPlaces around cases).any (·.part.isParameter) = Case.anyHasParameters cases
  | [] => rfl
  | ⟨_, _, body, _⟩ :: rest => by
    show (body.places around ++ Case.allPlaces around rest).any _
      = (body.hasParameters || Case.anyHasParameters rest)
    rw [List.any_append, Body.any_isParameter around body, Case.any_isParameter around rest]

end

-- ============================================================= bindings

/-- True of everything but a binding. -/
def Part.NoBind (part : Part) : Prop := ∀ b, part ≠ .bind b

mutual

/-- A node that contains no binding has none among its places. -/
theorem Node.noBind_of_mem_places {around : List LoopHead} {p : Place} :
    (node : Node) → node.containsBind = false → p ∈ node.places around → p.part.NoBind
  | .text _, _, hp => nomatch hp
  | .placeholders t, _, hp => by
    intro b hb
    obtain ⟨part, hpart, rfl⟩ := List.mem_map.mp hp
    obtain ⟨piece, -, hpiece⟩ := List.mem_filterMap.mp hpart
    cases piece with
    | literal text => cases hpiece
    | interpolation text =>
      obtain rfl := Option.some.inj hpiece
      cases hb
    | parameter m =>
      obtain rfl := Option.some.inj hpiece
      cases hb
  | .bind _, h, _ => nomatch h
  | .conditional first others none, h, hp => by
    simp only [Node.containsBind, Bool.or_false, Bool.or_eq_false_iff] at h
    simp only [Node.places, List.append_nil, List.mem_append] at hp
    rcases hp with hp | hp
    · exact Branch.noBind_of_mem_places first h.1 hp
    · exact Branch.noBind_of_mem_allPlaces others h.2 hp
  | .conditional first others (some body), h, hp => by
    simp only [Node.containsBind, Bool.or_eq_false_iff] at h
    simp only [Node.places, List.mem_append] at hp
    rcases hp with hp | hp | hp
    · exact Branch.noBind_of_mem_places first h.1.1 hp
    · exact Branch.noBind_of_mem_allPlaces others h.1.2 hp
    · exact Body.noBind_of_mem_places body h.2 hp
  | .choose cases none _, h, hp => by
    simp only [Node.containsBind, Bool.or_false] at h
    simp only [Node.places, List.append_nil] at hp
    exact Case.noBind_of_mem_allPlaces cases h hp
  | .choose cases (some body) _, h, hp => by
    simp only [Node.containsBind, Bool.or_eq_false_iff] at h
    simp only [Node.places, List.mem_append] at hp
    rcases hp with hp | hp
    · exact Case.noBind_of_mem_allPlaces cases h.1 hp
    · exact Body.noBind_of_mem_places body h.2 hp
  | .foreach head body, h, hp => by
    rcases List.mem_cons.mp hp with rfl | hp
    · intro b hb
      cases hb
    · exact Node.noBind_of_mem_places body h hp
  | .sequence children, h, hp => Node.noBind_of_mem_allPlaces children h hp

theorem Node.noBind_of_mem_allPlaces {around : List LoopHead} {p : Place} :
    (nodes : List Node) → Node.anyContainsBind nodes = false →
      p ∈ Node.allPlaces around nodes → p.part.NoBind
  | [], _, hp => nomatch hp
  | node :: rest, h, hp => by
    simp only [Node.anyContainsBind, Bool.or_eq_false_iff] at h
    rcases List.mem_append.mp hp with hp | hp
    · exact Node.noBind_of_mem_places node h.1 hp
    · exact Node.noBind_of_mem_allPlaces rest h.2 hp

theorem Body.noBind_of_mem_places {around : List LoopHead} {p : Place} :
    (body : Body) → body.containsBind = false → p ∈ body.places around → p.part.NoBind
  | ⟨_, node⟩, h, hp => Node.noBind_of_mem_places node h hp

theorem Branch.noBind_of_mem_places {around : List LoopHead} {p : Place} :
    (branch : Branch) → branch.containsBind = false → p ∈ branch.places around → p.part.NoBind
  | ⟨_, test, body, _⟩, h, hp => by
    rcases List.mem_cons.mp hp with rfl | hp
    · intro b hb
      cases hb
    · exact Body.noBind_of_mem_places body h hp

theorem Branch.noBind_of_mem_allPlaces {around : List LoopHead} {p : Place} :
    (branches : List Branch) → Branch.anyContainsBind branches = false →
      p ∈ Branch.allPlaces around branches → p.part.NoBind
  | [], _, hp => nomatch hp
  | branch :: rest, h, hp => by
    simp only [Branch.anyContainsBind, Bool.or_eq_false_iff] at h
    rcases List.mem_append.mp hp with hp | hp
    · exact Branch.noBind_of_mem_places branch h.1 hp
    · exact Branch.noBind_of_mem_allPlaces rest h.2 hp

theorem Case.noBind_of_mem_allPlaces {around : List LoopHead} {p : Place} :
    (cases : List Case) → Case.anyContainsBind cases = false →
      p ∈ Case.allPlaces around cases → p.part.NoBind
  | [], _, hp => nomatch hp
  | ⟨_, test, body, _⟩ :: rest, h, hp => by
    simp only [Case.anyContainsBind, Bool.or_eq_false_iff] at h
    rcases List.mem_cons.mp hp with rfl | hp
    · intro b hb
      cases hb
    · rcases List.mem_append.mp hp with hp | hp
      · exact Body.noBind_of_mem_places body h.1 hp
      · exact Case.noBind_of_mem_allPlaces rest h.2 hp

end

end DynamicSql.Template
