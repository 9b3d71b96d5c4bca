/-
From the text of a pattern to the pattern.

A pattern is read from left to right in one pass. Groups that are open wait
on a stack, the innermost first. The last item of an alternative is at hand,
because a repetition after it takes that item alone.

Not every text is a pattern: brackets of all kinds must be closed, a
repetition needs something to repeat, and a pattern cannot look around or
refer back to what a group matched. Nor may it be too deep: groups,
repetitions, alternatives, items in a row and classes are a level each above
what they are made of.
-/
import DynamicSql.Pattern.Bracket
import DynamicSql.Pattern.Normal
import DynamicSql.Pattern.Room.Machine
import DynamicSql.Text.Letter

namespace DynamicSql.Pattern

-- ================================================================ height

/-- A pattern as it was written, and how many levels that has. -/
structure Written where
  pattern : Pattern
  height : Nat
deriving DecidableEq, Repr, Inhabited

/-- Patterns may have so many levels. -/
def greatestHeight : Nat := 250

namespace Written

/-- The height of what is made of parts, one level above them if they are
more than one. -/
def heightOf (parts : List Written) : Nat :=
  match parts with
  | [] => 0
  | [p] => p.height
  | parts => (parts.map height).foldl max 0 + 1

/-- Items in a row. -/
def inRow (items : List Written) : Written := ⟨sequence (items.map pattern), heightOf items⟩

/-- One of some alternatives. -/
def oneOf (choices : List Written) : Written :=
  match choices with
  | [p] => p
  | choices => ⟨Pattern.oneOf (choices.map pattern), heightOf choices⟩

def repeated (p : Written) (least : Nat) (most : Option Nat) (eager : Bool) : Written :=
  ⟨p.pattern.times least most eager, p.height + 1⟩

/-- What stands in parentheses, as a group if it has a number. -/
def inGroup (number : Option Nat) (p : Written) : Written :=
  match number with
  | none => ⟨p.pattern, p.height + 1⟩
  | some n => ⟨.group n p.pattern, p.height + 1⟩

end Written

-- =============================================================== groups

/-- An item of an alternative. Flags are one, although they match nothing and
cannot be repeated. -/
inductive Item where
  | flags
  | pattern (p : Written)

def Item.written : Item → Written
  | .flags => ⟨.empty, 0⟩
  | .pattern p => p

/-- What stands in parentheses that are not closed; the whole pattern is the
outermost one. -/
structure Level where
  /-- The number of a group that is counted. -/
  number : Option Nat
  /-- The alternatives before the current one, the latest first. -/
  alternatives : List Written
  /-- The items of the current alternative, the latest first. -/
  items : List Item
  flags : Flags

namespace Level

def start (number : Option Nat) (f : Flags) : Level := ⟨number, [], [], f⟩

/-- The current alternative. -/
def alternative (l : Level) : Written := .inRow (l.items.reverse.map Item.written)

/-- All that has been read. -/
def written (l : Level) : Written := .oneOf (l.alternative :: l.alternatives).reverse

/-- Appends an item. -/
def push (l : Level) (p : Written) : Level := { l with items := .pattern p :: l.items }

/-- Appends an item of one level. -/
def pushFlat (l : Level) (p : Pattern) : Level := l.push ⟨p, 0⟩

/-- Goes on with other flags. -/
def withFlags (l : Level) (f : Flags) : Level :=
  { l with items := .flags :: l.items, flags := f }

/-- Goes on with the next alternative. -/
def bar (l : Level) : Level :=
  { l with alternatives := l.alternative :: l.alternatives, items := [] }

/-- Repeats the last item. With a mark, it goes on or stops against the
flags. -/
def repeatLast (l : Level) (least : Nat) (most : Option Nat) (marked : Bool) : Option Level :=
  match l.items with
  | .pattern p :: items =>
    let eager := l.flags.stopsSoon == marked
    some { l with items := .pattern (p.repeated least most eager) :: items }
  | _ => none

end Level

-- ========================================================== repetitions

/-- Reads the mark after a repetition, if there is one. It changes whether
many or few repetitions are tried first. -/
def readMark : List Char → Bool × List Char
  | '?' :: rest => (true, rest)
  | other => (false, other)

/-- Reads a number, with blanks around it. -/
def Flags.readNumber (f : Flags) (cs : List Char) : Option (Nat × List Char) :=
  let cs := cs.dropWhile Text.isBlank
  match cs with
  | [] => none
  | c :: _ =>
    if c.isDigit then
      let (digits, rest) := f.run Char.isDigit cs
      let n := digitsValue digits
      if n < 4294967296 then some (n, f.skip (rest.dropWhile Text.isBlank)) else none
    else none

/-- The closing brace of a repetition. -/
def closeBounds (least : Nat) (most : Option Nat) :
    List Char → Option (Nat × Option Nat × List Char)
  | '\x7d' :: rest => some (least, most, rest)
  | _ => none

/-- Reads how often something is repeated, after the brace. -/
def Flags.readBounds (f : Flags) (cs : List Char) : Option (Nat × Option Nat × List Char) := do
  let (least, rest) ← f.readNumber (f.skip cs)
  match rest with
  | ',' :: rest =>
    match f.skip rest with
    | '\x7d' :: rest => closeBounds least none ('\x7d' :: rest)
    | other =>
      let (most, rest) ← f.readNumber other
      if least ≤ most then closeBounds least (some most) rest else none
  | other => closeBounds least (some least) other

-- ===================================================== beginnings of groups

/-- What stands in parentheses, by its beginning. -/
inductive GroupStart where
  /-- Flags for the rest of what is around. -/
  | flags (f : Flags)
  /-- A part with flags of its own, which is not counted. -/
  | inert (f : Flags)
  /-- A group that is counted, and perhaps has a name. -/
  | counted (name : Option (List Char))

/-- True of the characters that a name may begin with. -/
def isNameStart (c : Char) : Bool := c == '_' || Text.isAlphabetic c

def isNameChar (c : Char) : Bool :=
  isNameStart c || Text.isNumber c || c == '.' || c == '[' || c == ']'

/-- Reads the name of a group. No two groups have the same. -/
def readName (names : List (List Char)) (cs : List Char) : Option (List Char × List Char) :=
  let name := cs.takeWhile (· != '>')
  match cs.dropWhile (· != '>'), name with
  | _ :: rest, c :: others =>
    if isNameStart c && others.all isNameChar && !names.contains name then some (name, rest)
    else none
  | _, _ => none

/-- Reads flags, alone or for a group. -/
def Flags.readFlags (f : Flags) (cs : List Char) : Option (GroupStart × List Char) :=
  let items := cs.takeWhile fun c => c != ':' && c != ')'
  if Flags.wellWritten items then
    match cs.dropWhile fun c => c != ':' && c != ')' with
    | [] => none
    | c :: rest =>
      if c = ':' then some (.inert (f.setAll true items), rest)
      else if items.isEmpty then none
      else some (.flags (f.setAll true items), rest)
  else none

/-- Reads the beginning of a group after its parenthesis. -/
def Flags.openGroup (f : Flags) (names : List (List Char)) (cs : List Char) :
    Option (GroupStart × List Char) :=
  let named := fun rest =>
    (readName names rest).map fun (name, rest) => (GroupStart.counted (some name), rest)
  match f.skip cs with
  | '?' :: '=' :: _ => none
  | '?' :: '!' :: _ => none
  | '?' :: '<' :: '=' :: _ => none
  | '?' :: '<' :: '!' :: _ => none
  | '?' :: 'P' :: '<' :: rest => named rest
  | '?' :: '<' :: rest => named rest
  | '?' :: rest => f.readFlags rest
  | other => some (.counted none, other)

-- ================================================================ items

/-- One character; in all cases that it has, if case is ignored. -/
def Flags.literal (f : Flags) (c : Char) : Pattern :=
  if f.unicode || c.toNat < 128 then ofSet (!f.unicode) (f.fold (.single c)) else .literal [c]

/-- The characters that the dot stands for. Without Unicode it would stand
for bytes that are no characters. -/
def Flags.dot? (f : Flags) : Option Pattern :=
  if !f.unicode then none
  else if f.dotIsAll then some (.one false .all)
  else if f.carriageReturns then some (.one false (.complement (.ofList ['\n', '\r'])))
  else some (.one false (.complement (.single '\n')))

def Flags.caret (f : Flags) : Assertion :=
  if f.perLine then if f.carriageReturns then .breakStart else .lineStart else .textStart

def Flags.dollar (f : Flags) : Assertion :=
  if f.perLine then if f.carriageReturns then .breakEnd else .lineEnd else .textEnd

/-- What an escape matches. -/
def Flags.escaped (f : Flags) : Escape → Pattern
  | .char c => f.literal c
  | .set s => ofSet (!f.unicode) s
  | .assertion a => .assertion a

/-- Reads an item that is neither a group nor a class in brackets. -/
def Flags.readItem (f : Flags) : List Char → Option (Pattern × List Char)
  | [] => none
  | '\\' :: rest => (f.readEscape rest).map fun (escape, rest) => (f.escaped escape, rest)
  | '.' :: rest => f.dot?.map fun p => (p, rest)
  | '^' :: rest => some (.assertion f.caret, rest)
  | '$' :: rest => some (.assertion f.dollar, rest)
  | c :: rest => some (f.literal c, rest)

-- ============================================================== reading

/-- Reads on from the innermost group. Every step takes a character. The
groups before are counted, and their names kept. -/
def readFrom : (steps : Nat) → (groups : Nat) → (names : List (List Char)) → Level → List Level →
    List Char → Option Written
  | 0, _, _, _, _, _ => none
  | steps + 1, groups, names, top, outer, cs =>
    let f := top.flags
    let repeated := fun (least : Nat) (most : Option Nat) (rest : List Char) =>
      let (marked, rest) := readMark rest
      match top.repeatLast least most marked with
      | some top => readFrom steps groups names top outer rest
      | none => none
    match f.skip cs with
    | [] => if outer.isEmpty then some top.written else none
    | '(' :: rest =>
      match f.openGroup names rest with
      | none => none
      | some (.flags g, rest) => readFrom steps groups names (top.withFlags g) outer rest
      | some (.inert g, rest) =>
        readFrom steps groups names (.start none g) (top :: outer) rest
      | some (.counted name, rest) =>
        readFrom steps (groups + 1) (name.toList ++ names) (.start (some (groups + 1)) f)
          (top :: outer) rest
    | ')' :: rest =>
      match outer with
      | [] => none
      | next :: others =>
        readFrom steps groups names (next.push (top.written.inGroup top.number)) others rest
    | '|' :: rest => readFrom steps groups names top.bar outer rest
    | '[' :: rest =>
      let (opened, rest) := f.openSet rest
      match f.readSet steps opened [] rest with
      | none => none
      | some (m, rest) =>
        let item := ⟨ofSet (!f.unicode) m.set, m.height⟩
        readFrom steps groups names (top.push item) outer rest
    | '?' :: rest => repeated 0 (some 1) rest
    | '*' :: rest => repeated 0 none rest
    | '+' :: rest => repeated 1 none rest
    | '\x7b' :: rest =>
      match f.readBounds rest with
      | none => none
      | some (least, most, rest) => repeated least most (f.skip rest)
    | other =>
      match f.readItem other with
      | none => none
      | some (item, rest) => readFrom steps groups names (top.pushFlat item) outer rest

/-- The pattern that a text describes, if it does, is not too deep and takes
not too much room. -/
def read? (text : String) : Option Pattern :=
  let cs := text.toList
  match readFrom (cs.length + 1) 0 [] (Level.start none Flags.standard) [] cs with
  | none => none
  | some p => if p.height ≤ greatestHeight ∧ p.pattern.fits then some p.pattern else none

end DynamicSql.Pattern
