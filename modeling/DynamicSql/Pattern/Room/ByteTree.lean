/-
One character of a set, byte by byte.

The characters of ASCII are single bytes: one state takes any of them. Others
are ranges of bytes at up to four places, and states are shared between
them. Forward, what is to be read is a tree whose nodes are laid out from
below, and a node that has been laid out before is used again. Backward, a
chain of states leads to the first byte of each piece, and a step of a chain
that has been laid out before is used again.

In either direction only so much is remembered: a table has a number of
slots, what is remembered has its slot by its content, and takes the place
of what was there.
-/
import DynamicSql.Pattern.CharSet
import DynamicSql.Pattern.Room.Basic
import DynamicSql.Text.Utf8
import Std.Data.HashMap

namespace DynamicSql.Pattern

-- ================================================================ memory

/-- Numbers mixed to one: each is put to what came before by exclusive or,
and the result is multiplied. -/
def mix (ns : List Nat) : UInt64 :=
  ns.foldl (fun h n => (h ^^^ n.toUInt64) * 1099511628211) 14695981039346656037

def slot (slots : UInt64) (ns : List Nat) : Nat := (mix ns % slots).toNat

/-- What has been laid out, and the numbers of the states that are remembered
by what they are. -/
structure Layout where
  room : Room
  memory : Std.HashMap Nat (List Nat × Nat)

namespace Layout

/-- Begins with nothing remembered. -/
def start (r : Room) : Layout := ⟨r, ∅⟩

/-- Lays out a state, and remembers it in a slot. -/
def fresh (place : Nat) (described : List Nat) (byteLinks : Nat) : Layout → Nat × Layout
  | ⟨room, memory⟩ =>
    (room.states,
      ⟨(room.addStates 1).addByteLinks byteLinks, memory.insert place (described, room.states)⟩)

/-- The number of the state that is described by numbers. If it is not
remembered, it is laid out. -/
def state (slots : UInt64) (described : List Nat) (byteLinks : Nat) (l : Layout) : Nat × Layout :=
  let place := slot slots described
  match l.memory[place]? with
  | none => l.fresh place described byteLinks
  | some (known, n) => if known = described then (n, l) else l.fresh place described byteLinks

end Layout

-- =============================================================== forward

/-- The range of bytes that a piece begins with. -/
def leading (piece : List (Nat × Nat)) : Option (Nat × Nat) := piece.head?

/-- Lays out a node for what is left of some pieces, and gives its number. A
character has been read when nothing is left. -/
def layNode (read : Nat) : (depth : Nat) → List (List (Nat × Nat)) → Layout → Nat × Layout
  | 0, _, l => (read, l)
  | depth + 1, pieces, l =>
    let groups := pieces.splitBy fun a b => leading a == leading b
    let (links, l) := groups.foldl
      (fun (links, l) group =>
        match group.head?.bind leading with
        | none => (links, l)
        | some (first, last) =>
          let (next, l) := layNode read depth (group.map List.tail) l
          ([next, last, first] ++ links, l))
      ([], l)
    if links.isEmpty then (read, l) else l.state 10000 links.reverse (links.length / 3)

-- ============================================================== backward

/-- Lays out the chain of a piece, from the state that it leads to. -/
def layChain (next : Nat) : List (Nat × Nat) → Layout → Layout
  | [], l => { l with room := l.room.addLinks 1 }
  | (first, last) :: rest, l =>
    let (n, l) := l.state 1000 [next, first, last] 0
    layChain n rest l

-- =================================================================== set

/-- Lays out one character of a set. -/
def laySet (d : Direction) (set : CharSet) (r : Room) : Laid :=
  let room :=
    if set.isAscii then (r.addStates 2).addByteLinks set.ranges.length
    else
      let pieces := set.ranges.flatMap fun range => Text.charRanges range.1 range.2
      match d with
      | .forward => (layNode r.states 4 pieces (.start (r.addStates 1))).2.room
      | .backward =>
        (pieces.foldl (fun l piece => layChain (r.states + 1) piece l)
          (.start (r.addStates 2))).room
  ⟨room, false⟩

end DynamicSql.Pattern
