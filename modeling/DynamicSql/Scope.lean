/-
Scopes of variables, each inside another one.

A name is looked up in a scope, then in the scope around it, and so on to
the outermost. Writing concerns the addressed scope alone, so a name bound
inside hides the same name outside for as long as the inner scope lives.

# The store of scopes

Loops and branches enter and leave scopes all the time. A scope that is left
is emptied, taken off its parent and put aside; the next one entered is the
one put aside last, and only when there is none does the store grow. A scope
is addressed by its place in the store, which never changes.

# Walking outward

A walk along parents visits as many scopes as the store holds, at the most.
The bound is there because the store permits to leave a scope before those
inside it, and then a parent link may lead to a scope that has since been
entered anew.
-/
import DynamicSql.Value.Basic

namespace DynamicSql

/-- The place of a scope in its store. -/
abbrev ScopeId := Nat

/-- The variables of a scope, and the scope around it. The outermost scope
has none around it, and neither has one that was put aside. -/
structure Scope where
  vars : Bindings Value
  parent : Option ScopeId

/-- A store of scopes. The first one is the root, which is never left. -/
structure ScopeTree where
  scopes : List Scope
  /-- The scopes put aside, the last one first. -/
  pool : List ScopeId

namespace ScopeTree

def root : ScopeId := 0

/-- The store of a root scope with variables in it. -/
def withArguments (arguments : Arguments) : ScopeTree :=
  ⟨[⟨arguments, none⟩], []⟩

/-- The store of an empty root scope. -/
def empty : ScopeTree := withArguments []

-- ============================================================== reading

/-- The scope around a scope. -/
def parent (tree : ScopeTree) (id : ScopeId) : Option ScopeId :=
  tree.scopes[id]?.bind Scope.parent

/-- The variables of one scope. -/
def localVars (tree : ScopeTree) (id : ScopeId) : Bindings Value :=
  (tree.scopes[id]?.map Scope.vars).getD []

/-- True if the name is bound in the scope itself. -/
def containsLocal (tree : ScopeTree) (id : ScopeId) (name : String) : Bool :=
  Bindings.contains (tree.localVars id) name

/-- The nearest scope that binds a name, on a walk outward of so many
steps. -/
def ownerWithin (tree : ScopeTree) (name : String) : (steps : Nat) → ScopeId → Option ScopeId
  | 0, _ => none
  | steps + 1, id =>
    if tree.containsLocal id name then some id
    else (tree.parent id).bind (ownerWithin tree name steps)

/-- The nearest scope that binds a name, from a scope outward. -/
def owner? (tree : ScopeTree) (id : ScopeId) (name : String) : Option ScopeId :=
  tree.ownerWithin name tree.scopes.length id

/-- What a name is bound to, as seen from a scope. -/
def get? (tree : ScopeTree) (id : ScopeId) (name : String) : Option Value :=
  (tree.owner? id name).bind fun owner => Bindings.find? (tree.localVars owner) name

/-- The variables as seen from a scope. -/
def view (tree : ScopeTree) (id : ScopeId) : Variables :=
  fun name => tree.get? id name

-- ============================================================== writing

/-- Exchanges the variables of one scope. -/
def setVars (tree : ScopeTree) (id : ScopeId) (vars : Bindings Value) : ScopeTree :=
  { tree with scopes := tree.scopes.modify id fun scope => { scope with vars := vars } }

/-- Binds a name in a scope. Given back is what the scope itself bound it to
before. -/
def put (tree : ScopeTree) (id : ScopeId) (name : String) (value : Value) :
    Option Value × ScopeTree :=
  let vars := tree.localVars id
  (vars.find? name, tree.setVars id (vars.insert name value))

/-- Removes a name from a scope itself. -/
def removeLocal (tree : ScopeTree) (id : ScopeId) (name : String) : Option Value × ScopeTree :=
  let vars := tree.localVars id
  (vars.find? name, tree.setVars id (vars.erase name))

/-- Removes a name from the nearest scope that binds it. -/
def remove (tree : ScopeTree) (id : ScopeId) (name : String) : Option Value × ScopeTree :=
  match tree.owner? id name with
  | some owner => tree.removeLocal owner name
  | none => (none, tree)

/-- Binds a name anew in the nearest scope that binds it, or in the scope
itself if none does. -/
def rebind (tree : ScopeTree) (id : ScopeId) (name : String) (value : Value) :
    Option Value × ScopeTree :=
  match tree.owner? id name with
  | some owner => tree.put owner name value
  | none => (none, (tree.put id name value).2)

-- ==================================================== entering, leaving

/-- Enters a scope inside a scope. -/
def acquire (tree : ScopeTree) (parent : ScopeId) : ScopeId × ScopeTree :=
  match tree.pool with
  | id :: pool =>
    (id, ⟨tree.scopes.modify id fun scope => { scope with parent := some parent }, pool⟩)
  | [] => (tree.scopes.length, ⟨tree.scopes ++ [⟨[], some parent⟩], []⟩)

/-- Leaves a scope and gives back the one around it. A scope without one
around it is not left. -/
def release (tree : ScopeTree) (id : ScopeId) : Option ScopeId × ScopeTree :=
  match tree.parent id with
  | some parent => (some parent, ⟨tree.scopes.modify id fun _ => ⟨[], none⟩, id :: tree.pool⟩)
  | none => (none, tree)

/-- The number of scopes put aside. -/
def pooled (tree : ScopeTree) : Nat := tree.pool.length

end ScopeTree

end DynamicSql
