/-
The room that a machine takes.

To match a pattern byte by byte one would lay out a machine: states, and
links from state to state. Here no machine is built, but a pattern is refused
if its machine would take too much room, so the states are counted as if they
were laid out one after the other. The number of a state is the number of
states before it.

A state takes the same room whatever it does. What it adds for its links
depends on their kind: a link that bytes lead along takes the room of two
links that are free to go.
-/
namespace DynamicSql.Pattern

/-- The machine is laid out to read a text forward or backward. -/
inductive Direction where
  | forward
  | backward
deriving DecidableEq, Repr, Inhabited

/-- How much has been laid out. -/
structure Room where
  states : Nat
  bytes : Nat
deriving DecidableEq, Repr, Inhabited

namespace Room

def none : Room := ⟨0, 0⟩

/-- The most that a machine may take: ten times two to the power of
twenty. -/
def greatest : Nat := 10485760

def fits (r : Room) : Bool := r.bytes ≤ greatest

/-- Adds states. -/
def addStates (r : Room) (n : Nat) : Room := ⟨r.states + n, r.bytes + 32 * n⟩

/-- Adds links that are free to go. -/
def addLinks (r : Room) (n : Nat) : Room := ⟨r.states, r.bytes + 4 * n⟩

/-- Adds links that bytes lead along. -/
def addByteLinks (r : Room) (n : Nat) : Room := ⟨r.states, r.bytes + 8 * n⟩

end Room

/-- A part of a machine after it has been laid out. -/
structure Laid where
  room : Room
  /-- The last state branches: to join it to what follows takes a link
  more. -/
  branches : Bool
deriving DecidableEq, Repr, Inhabited

/-- The room when a part has been joined to what follows. -/
def Laid.joined (l : Laid) : Room := if l.branches then l.room.addLinks 1 else l.room

end DynamicSql.Pattern
