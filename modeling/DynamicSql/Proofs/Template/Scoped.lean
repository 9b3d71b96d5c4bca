/-
Templates in which every branch has a scope of its own, whether it binds
variables or not.

Nothing else about a template changes when its branches are given scopes: what
reaches the evaluator or binds a variable stays in its place
(`Node.places_scopedEverywhere`), and with it everything that is read off the
places.
-/
import DynamicSql.Proofs.Template.Parts

namespace DynamicSql.Template

mutual

/-- The node with a scope for the body of every branch inside it. -/
def Node.scopedEverywhere : Node → Node
  | .text content => .text content
  | .placeholders t => .placeholders t
  | .bind b => .bind b
  | .conditional first others otherwise =>
    .conditional first.scopedEverywhere (Branch.allScopedEverywhere others)
      (match otherwise with
        | some body => some body.scopedEverywhere
        | none => none)
  | .choose cases otherwise span =>
    .choose (Case.allScopedEverywhere cases)
      (match otherwise with
        | some body => some body.scopedEverywhere
        | none => none) span
  | .foreach head body => .foreach head body.scopedEverywhere
  | .sequence children => .sequence (Node.allScopedEverywhere children)

def Node.allScopedEverywhere : List Node → List Node
  | [] => []
  | node :: rest => node.scopedEverywhere :: Node.allScopedEverywhere rest

def Body.scopedEverywhere : Body → Body
  | ⟨_, node⟩ => ⟨true, node.scopedEverywhere⟩

def Branch.scopedEverywhere : Branch → Branch
  | ⟨tag, test, body, span⟩ => ⟨tag, test, body.scopedEverywhere, span⟩

def Branch.allScopedEverywhere : List Branch → List Branch
  | [] => []
  | branch :: rest => branch.scopedEverywhere :: Branch.allScopedEverywhere rest

def Case.allScopedEverywhere : List Case → List Case
  | [] => []
  | ⟨test, breaks, body, span⟩ :: rest =>
    ⟨test, breaks, body.scopedEverywhere, span⟩ :: Case.allScopedEverywhere rest

end

mutual

theorem Node.places_scopedEverywhere (around : List LoopHead) :
    (n : Node) → n.scopedEverywhere.places around = n.places around
  | .text _ => rfl
  | .placeholders _ => rfl
  | .bind _ => rfl
  | .conditional first others none => by
    show first.scopedEverywhere.places around
        ++ (Branch.allPlaces around (Branch.allScopedEverywhere others) ++ []) = _
    rw [Branch.places_scopedEverywhere around first,
      Branch.allPlaces_scopedEverywhere around others]
    rfl
  | .conditional first others (some body) => by
    show first.scopedEverywhere.places around
        ++ (Branch.allPlaces around (Branch.allScopedEverywhere others)
          ++ body.scopedEverywhere.places around) = _
    rw [Branch.places_scopedEverywhere around first,
      Branch.allPlaces_scopedEverywhere around others, Body.places_scopedEverywhere around body]
    rfl
  | .choose cases none _ =>
    congrArg (· ++ []) (Case.allPlaces_scopedEverywhere around cases)
  | .choose cases (some body) _ => by
    show Case.allPlaces around (Case.allScopedEverywhere cases)
      ++ body.scopedEverywhere.places around = _
    rw [Case.allPlaces_scopedEverywhere around cases, Body.places_scopedEverywhere around body]
    rfl
  | .foreach head body =>
    congrArg (Place.mk around (.loop head) :: ·)
      (Node.places_scopedEverywhere (head :: around) body)
  | .sequence children => Node.allPlaces_scopedEverywhere around children

theorem Node.allPlaces_scopedEverywhere (around : List LoopHead) :
    (nodes : List Node) →
      Node.allPlaces around (Node.allScopedEverywhere nodes) = Node.allPlaces around nodes
  | [] => rfl
  | node :: rest => by
    show node.scopedEverywhere.places around
      ++ Node.allPlaces around (Node.allScopedEverywhere rest) = _
    rw [Node.places_scopedEverywhere around node, Node.allPlaces_scopedEverywhere around rest]
    rfl

theorem Body.places_scopedEverywhere (around : List LoopHead) :
    (body : Body) → body.scopedEverywhere.places around = body.places around
  | ⟨_, node⟩ => Node.places_scopedEverywhere around node

theorem Branch.places_scopedEverywhere (around : List LoopHead) :
    (branch : Branch) → branch.scopedEverywhere.places around = branch.places around
  | ⟨_, test, body, _⟩ =>
    congrArg (Place.mk around (.test test) :: ·) (Body.places_scopedEverywhere around body)

theorem Branch.allPlaces_scopedEverywhere (around : List LoopHead) :
    (branches : List Branch) →
      Branch.allPlaces around (Branch.allScopedEverywhere branches)
        = Branch.allPlaces around branches
  | [] => rfl
  | branch :: rest => by
    show branch.scopedEverywhere.places around
      ++ Branch.allPlaces around (Branch.allScopedEverywhere rest) = _
    rw [Branch.places_scopedEverywhere around branch,
      Branch.allPlaces_scopedEverywhere around rest]
    rfl

theorem Case.allPlaces_scopedEverywhere (around : List LoopHead) :
    (cases : List Case) →
      Case.allPlaces around (Case.allScopedEverywhere cases) = Case.allPlaces around cases
  | [] => rfl
  | ⟨test, _, body, _⟩ :: rest => by
    show Place.mk around (.test test) :: (body.scopedEverywhere.places around
      ++ Case.allPlaces around (Case.allScopedEverywhere rest)) = _
    rw [Body.places_scopedEverywhere around body, Case.allPlaces_scopedEverywhere around rest]
    rfl

end

theorem Node.hasParameters_scopedEverywhere (n : Node) :
    n.scopedEverywhere.hasParameters = n.hasParameters := by
  rw [← Node.any_isParameter [], ← Node.any_isParameter [], Node.places_scopedEverywhere]

mutual

theorem Node.isDynamic_scopedEverywhere :
    (n : Node) → n.scopedEverywhere.isDynamic = n.isDynamic
  | .text _ => rfl
  | .placeholders _ => rfl
  | .bind _ => rfl
  | .conditional _ _ _ => rfl
  | .choose _ _ _ => rfl
  | .foreach _ _ => rfl
  | .sequence children => Node.anyIsDynamic_scopedEverywhere children

theorem Node.anyIsDynamic_scopedEverywhere :
    (nodes : List Node) →
      Node.anyIsDynamic (Node.allScopedEverywhere nodes) = Node.anyIsDynamic nodes
  | [] => rfl
  | node :: rest => by
    show (node.scopedEverywhere.isDynamic || Node.anyIsDynamic (Node.allScopedEverywhere rest)) = _
    rw [Node.isDynamic_scopedEverywhere node, Node.anyIsDynamic_scopedEverywhere rest]
    rfl

end

end DynamicSql.Template
