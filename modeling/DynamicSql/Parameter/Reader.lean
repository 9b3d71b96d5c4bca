/-
Reading the content of a parameter placeholder.

The content is a property path or an expression in parentheses, then
perhaps a colon and a type, then perhaps options, each after a comma and
each a name, an equals sign and a value. Whatever is at most a space in
code point counts as space, and stands between any two parts.

# What ends a part

A property ends at the first comma or colon, a type at the first comma, an
option's name at the first equals sign and its value at the first comma.
An expression ends where its parenthesis closes; nothing is known here of
the strings inside it, so a parenthesis counts wherever it stands.

# Positions

A fault is reported at a byte offset of the content. Reading goes by
characters and only adds up their sizes, so an offset never falls inside a
character.
-/
import DynamicSql.Parameter.Mapping
import DynamicSql.Text.Blank
import DynamicSql.Text.Span

namespace DynamicSql.Parameter

-- ============================================================== faults

/-- What can be wrong with a placeholder's content. -/
inductive Fault where
  | emptyParameter
  | missingProperty
  | unbalancedParentheses
  | emptyExpression
  | missingType
  | expectedColonOrComma
  | expectedEquals
  | missingOptionName
deriving DecidableEq, Repr, Inhabited

def Fault.description : Fault → String
  | .emptyParameter => "empty parameter"
  | .missingProperty => "missing property name"
  | .unbalancedParentheses => "unbalanced parentheses"
  | .emptyExpression => "empty expression"
  | .missingType => "missing jdbc type"
  | .expectedColonOrComma => "expected ':' or ','"
  | .expectedEquals => "expected '=' in option"
  | .missingOptionName => "missing option name"

/-- A fault and the byte offset at which it was seen. -/
structure Error where
  fault : Fault
  position : Nat
deriving DecidableEq, Repr, Inhabited

def Error.message (e : Error) : String :=
  e.fault.description ++ " at position " ++ toString e.position

-- ============================================================== cursor

/-- What is left to read, and the byte offset at which it begins. -/
structure Cursor where
  offset : Nat
  rest : List Char
deriving DecidableEq, Repr, Inhabited

namespace Cursor

/-- Past the first characters, as far as they are of a class. -/
def skip (p : Char → Bool) (c : Cursor) : Cursor :=
  ⟨c.offset + byteLength (c.rest.takeWhile p), c.rest.dropWhile p⟩

def skipSpace (c : Cursor) : Cursor := c.skip Text.isSpaceOrControl

/-- Past one character. -/
def advance (c : Cursor) : Cursor :=
  match c.rest with
  | [] => c
  | x :: xs => ⟨c.offset + x.utf8Size, xs⟩

def fail {α : Type} (c : Cursor) (fault : Fault) : Except Error α :=
  .error ⟨fault, c.offset⟩

end Cursor

/-- The text of a part, without the space around it. -/
def partText (cs : List Char) : String :=
  String.ofList (Text.trimBy Text.isSpaceOrControl cs)

-- =============================================================== source

/-- What stands before the parenthesis that closes the outermost of `depth`
open ones, and what follows it. -/
def closing? : (depth : Nat) → List Char → Option (List Char × List Char)
  | _, [] => none
  | depth, c :: cs =>
    if c = ')' ∧ depth ≤ 1 then some ([], cs)
    else
      let depth := if c = ')' then depth - 1 else if c = '(' then depth + 1 else depth
      (closing? depth cs).map fun (inside, after) => (c :: inside, after)

/-- Reads the source of the value. -/
def readSource (start : Cursor) : Except Error (Source × Cursor) :=
  match start.rest with
  | [] => start.fail .emptyParameter
  | c :: cs =>
    if c = '(' then
      let inner := start.advance
      match closing? 1 cs with
      | none => start.fail .unbalancedParentheses
      | some (inside, after) =>
        let text := partText inside
        if text.isEmpty then inner.fail .emptyExpression
        else .ok (.expression text, ⟨inner.offset + byteLength inside + 1, after⟩)
    else
      let isInside := fun x => x != ',' && x != ':'
      let path := partText (start.rest.takeWhile isInside)
      if path.isEmpty then start.fail .missingProperty
      else .ok (.property path, start.skip isInside)

-- ============================================================== options

/-- An option as it was written. -/
structure Assignment where
  name : String
  value : String
deriving DecidableEq, Repr, Inhabited

/-- Passing over characters of a class leaves no more than there was. -/
theorem Cursor.length_skip (p : Char → Bool) (c : Cursor) :
    (c.skip p).rest.length ≤ c.rest.length :=
  (List.dropWhile_suffix p).length_le

/-- Passing over one character leaves fewer, if there was one. -/
theorem Cursor.length_advance {c : Cursor} (h : c.rest ≠ []) :
    c.advance.rest.length < c.rest.length := by
  unfold advance
  split
  · next he => exact absurd he h
  · next x xs he => simp [he]

/-- Reads options up to the end of the content, each followed by a comma or
by the end. Space at the end is no option. -/
def readOptions (c : Cursor) : Except Error (List Assignment) :=
  let left := c.skipSpace
  if left.rest.isEmpty then .ok []
  else
    let atEquals := left.skip (· != '=')
    if _he : atEquals.rest = [] then left.fail .expectedEquals
    else
      let name := partText (left.rest.takeWhile (· != '='))
      let afterEquals := atEquals.advance
      let value := partText (afterEquals.rest.takeWhile (· != ','))
      if name.isEmpty then left.fail .missingOptionName
      else
        (readOptions (afterEquals.skip (· != ',')).advance).map (⟨name, value⟩ :: ·)
termination_by c.rest.length
decreasing_by
  have h₁ : atEquals.rest.length ≤ c.rest.length :=
    Nat.le_trans (left.length_skip _) (c.length_skip _)
  have h₂ : afterEquals.rest.length < atEquals.rest.length :=
    Cursor.length_advance _he
  have h₃ := afterEquals.length_skip (· != ',')
  have h₄ : (afterEquals.skip (· != ',')).advance.rest.length
      ≤ (afterEquals.skip (· != ',')).rest.length := by
    unfold Cursor.advance
    split <;> simp_all
  show (afterEquals.skip (· != ',')).advance.rest.length < c.rest.length
  omega

/-- Gives an option its meaning: one name is the type's, all others are
kept. -/
def Mapping.assign (m : Mapping) (a : Assignment) : Mapping :=
  if a.name = "jdbcType" then { m with jdbcType := some a.value }
  else { m with options := m.options ++ [(a.name, a.value)] }

-- ============================================================== content

/-- Reads what follows the source. -/
def readDetails (source : Source) (after : Cursor) : Except Error Mapping := do
  let c := after.skipSpace
  match c.rest with
  | [] => return ⟨source, none, []⟩
  | x :: _ =>
    if x = ':' then
      let left := c.advance.skipSpace
      let name := partText (left.rest.takeWhile (· != ','))
      if name.isEmpty then c.advance.fail .missingType
      else
        let assignments ← readOptions (left.skip (· != ',')).advance
        return assignments.foldl Mapping.assign ⟨source, some name, []⟩
    else if x = ',' then
      let assignments ← readOptions c.advance
      return assignments.foldl Mapping.assign ⟨source, none, []⟩
    else c.fail .expectedColonOrComma

/-- Reads the content of a parameter placeholder. -/
def Mapping.read (content : String) : Except Error Mapping := do
  let (source, after) ← readSource (Cursor.skipSpace ⟨0, content.toList⟩)
  readDetails source after

end DynamicSql.Parameter
