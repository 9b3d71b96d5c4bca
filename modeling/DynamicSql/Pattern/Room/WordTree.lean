/-
Alternatives that are all words.

Words that begin with the same bytes share the states for them, so the words
make a tree. But the order of alternatives counts: what comes after the end
of a word is tried after it, and is not joined to what came before. So a node
is a list of branches, cut where a word ends.
-/
import DynamicSql.Pattern.Room.Basic

namespace DynamicSql.Pattern

/-- The list of a node. -/
inductive WordTree where
  | done
  /-- A word ends here. -/
  | stop (rest : WordTree)
  /-- Words go on with a byte, to the node below. -/
  | branch (byte : Nat) (below rest : WordTree)
deriving DecidableEq, Repr, Inhabited

namespace WordTree

/-- True of a node at which nothing goes on. -/
def isLeaf : WordTree → Bool
  | .done => true
  | .stop rest => rest.isLeaf
  | .branch _ _ _ => false

/-- True if a word ends at some place of the list. -/
def hasStop : WordTree → Bool
  | .done => false
  | .stop _ => true
  | .branch _ _ rest => rest.hasStop

/-- Puts an end at the end of the list. -/
def appendStop : WordTree → WordTree
  | .done => .stop .done
  | .stop rest => .stop rest.appendStop
  | .branch byte below rest => .branch byte below rest.appendStop

/-- The tree of one word. -/
def ofWord : List Nat → WordTree
  | [] => .stop .done
  | byte :: word => .branch byte (ofWord word) .done

/-- Adds a word. It goes along a branch only if no word has ended since. A
second end of a leaf is no end of its own. -/
def add (word : List Nat) : WordTree → WordTree
  | .done => ofWord word
  | .stop rest =>
    match word, rest with
    | [], .done => .stop .done
    | [], rest => .stop rest.appendStop
    | word, rest => .stop (rest.add word)
  | .branch byte below rest =>
    match word with
    | [] => .branch byte below rest.appendStop
    | next :: word =>
      if next = byte ∧ !rest.hasStop then .branch byte (below.add word) rest
      else .branch byte below (rest.add (next :: word))

def ofWords (words : List (List Nat)) : WordTree := words.foldl (fun t w => t.add w) .done

-- ================================================================= room

/-- Lays out the branches between two ends: none, or one state. Its links
take room unless there is only one. -/
def layBranches (branches : Nat) (r : Room) : Room :=
  match branches with
  | 0 => r
  | 1 => r.addStates 1
  | n => (r.addStates 1).addByteLinks n

/-- Lays out a node from some place of its list on. The branches since the
last end are still to be laid out, and the links of the node's own state so
far are counted. -/
def lay (branches links : Nat) (r : Room) : WordTree → Room
  | .done => ((layBranches branches r).addStates 1).addLinks (links + min branches 1)
  | .stop rest => rest.lay 0 (links + min branches 1 + 1) (layBranches branches r)
  | .branch _ below rest =>
    rest.lay (branches + 1) links (if below.isLeaf then r else below.lay 0 0 r)

end WordTree

/-- Lays out words, with the state in which all of them end. -/
def layWords (words : List (List Nat)) (r : Room) : Laid :=
  ⟨(WordTree.ofWords words).lay 0 0 (r.addStates 1), false⟩

end DynamicSql.Pattern
