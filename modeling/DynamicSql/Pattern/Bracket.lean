/-
Classes in brackets.

A class lists characters, ranges, named classes and classes in brackets of
their own. Two lists may be put together by an operator, which binds less
than the list: all that was before it is its left side. A bracket or a dash
at the very beginning of a class stands for itself.

With case ignored, a class has the other cases of its characters before it
is negated or meets another one at an operator.

# Height

A class counts how deep it is: brackets, operators and lists of more than one
member are a level each above what they are made of.
-/
import DynamicSql.Pattern.Escape

namespace DynamicSql.Pattern

inductive SetOp where
  | inter
  | diff
  | symmDiff
deriving DecidableEq, Repr, Inhabited

def SetOp.apply : SetOp → CharSet → CharSet → CharSet
  | .inter => .inter
  | .diff => .diff
  | .symmDiff => .symmDiff

/-- A set as it was written, and how many levels that has. -/
structure Member where
  set : CharSet
  height : Nat
deriving DecidableEq, Repr, Inhabited

/-- A class that is not closed. -/
structure OpenSet where
  negated : Bool
  /-- The left side of an operator. -/
  left : Option (Member × SetOp)
  /-- The list so far, the latest member first. -/
  listed : List Member

namespace OpenSet

/-- Adds to the list. -/
def add (o : OpenSet) (m : Member) : OpenSet := { o with listed := m :: o.listed }

/-- The list as one member. -/
def list (o : OpenSet) : Member :=
  match o.listed with
  | [m] => m
  | ms =>
    ⟨.ofRanges (ms.flatMap fun m => m.set.ranges),
      if ms.isEmpty then 0 else (ms.map Member.height).foldl max 0 + 1⟩

/-- What has been described, save that it may be negated. -/
def described (o : OpenSet) (f : Flags) : Member :=
  match o.left with
  | none => o.list
  | some (left, op) =>
    ⟨op.apply (f.fold left.set) (f.fold o.list.set), max left.height o.list.height + 1⟩

/-- Goes on after an operator. -/
def afterOp (o : OpenSet) (f : Flags) (op : SetOp) : OpenSet :=
  { o with left := some (o.described f, op), listed := [] }

/-- The class when it is closed. -/
def close? (o : OpenSet) (f : Flags) : Option Member :=
  let m := o.described f
  (f.negate? o.negated (f.fold m.set)).map fun set => ⟨set, m.height + 1⟩

end OpenSet

/-- The set of one character. Without Unicode there are those of ASCII
only. -/
def Flags.charSet? (f : Flags) (c : Char) : Option CharSet :=
  if f.unicode || c.toNat < 128 then some (.single c) else none

/-- Reads the beginning of a class after its bracket. -/
def Flags.openSet (f : Flags) (cs : List Char) : OpenSet × List Char :=
  let (negated, cs) := match f.skip cs with
    | '^' :: rest => (true, rest)
    | other => (false, other)
  let (dashes, cs) := f.run (· == '-') cs
  match dashes, cs with
  | [], ']' :: rest => (⟨negated, none, [⟨.single ']', 0⟩]⟩, rest)
  | _, _ => (⟨negated, none, dashes.map fun c => ⟨.single c, 0⟩⟩, cs)

/-- Reads the name of a class of ASCII after the inner bracket: whether it
is negated, the class, and the rest. -/
def readNamed : List Char → Option (Bool × CharSet × List Char)
  | ':' :: rest => do
    let (negated, rest) := match rest with
      | '^' :: rest => (true, rest)
      | other => (false, other)
    let set ← CharSet.asciiNamed? (String.ofList (rest.takeWhile (· != ':')))
    match rest.dropWhile (· != ':') with
    | ':' :: ']' :: rest => some (negated, set, rest)
    | _ => none
  | _ => none

/-- Reads a character or an escape within a class. -/
def Flags.readMember (f : Flags) : List Char → Option (Escape × List Char)
  | [] => none
  | '\\' :: rest => f.readEscape rest
  | c :: rest => some (.char c, rest)

/-- The set that stands alone in a class. -/
def Flags.escapedSet? (f : Flags) : Escape → Option CharSet
  | .char c => f.charSet? c
  | .set s => some s
  | .assertion _ => none

/-- Reads a member of a class or a range of them. A dash before the end of
the class or before another dash is not the dash of a range. -/
def Flags.readRange (f : Flags) (cs : List Char) : Option (CharSet × List Char) := do
  let (first, rest) ← f.readMember cs
  let alone := (f.escapedSet? first).map fun s => (s, f.skip rest)
  match f.skip rest with
  | '-' :: more =>
    if f.peek more = some ']' ∨ f.peek more = some '-' then alone
    else
      let (last, rest) ← f.readMember (f.skip more)
      match first, last with
      | .char a, .char b => do
        let _ ← f.charSet? a
        let _ ← f.charSet? b
        if a ≤ b then some (.range a.toNat b.toNat, rest) else none
      | _, _ => none
  | _ => alone

/-- Reads a class whose bracket and, if there are, those around it are open,
the innermost first. Every step takes a character. -/
def Flags.readSet (f : Flags) : Nat → OpenSet → List OpenSet → List Char →
    Option (Member × List Char)
  | 0, _, _, _ => none
  | steps + 1, top, outer, cs =>
    match f.skip cs with
    | [] => none
    | '[' :: rest =>
      match readNamed rest with
      | some (negated, set, rest) =>
        match f.negate? negated (f.fold set) with
        | some set => f.readSet steps (top.add ⟨set, 0⟩) outer rest
        | none => none
      | none =>
        let (inner, rest) := f.openSet rest
        f.readSet steps inner (top :: outer) rest
    | ']' :: rest =>
      match top.close? f, outer with
      | none, _ => none
      | some m, [] => some (m, rest)
      | some m, next :: others => f.readSet steps (next.add m) others rest
    | '&' :: '&' :: rest => f.readSet steps (top.afterOp f .inter) outer rest
    | '-' :: '-' :: rest => f.readSet steps (top.afterOp f .diff) outer rest
    | '~' :: '~' :: rest => f.readSet steps (top.afterOp f .symmDiff) outer rest
    | other =>
      match f.readRange other with
      | some (set, rest) => f.readSet steps (top.add ⟨set, 0⟩) outer rest
      | none => none

end DynamicSql.Pattern
