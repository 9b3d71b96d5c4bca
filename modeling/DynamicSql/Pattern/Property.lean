/-
Sets of characters by the names of properties.

A set is named by a property that characters have or have not, by a general
category or by a script; or by the property and the value that is asked for.
Names are compared loosely, so that none of them needs to be written in one
way only.

The surrogates are a category of codes that are no characters, so it is not
known here.
-/
import DynamicSql.Pattern.CharSet
import DynamicSql.Text.Category
import DynamicSql.Text.Letter
import DynamicSql.Text.Script

namespace DynamicSql.Pattern

-- ================================================================ names

/-- A name of a property as names are compared: without the word `is`
before it, without blanks, dashes and whatever is not ASCII, and in lower
case. The name `isc` is that of another property, however it is
written. -/
def looseName (name : List Char) : String :=
  let loose := fun cs : List Char =>
    (cs.filter fun c => c.toNat < 128 && c != ' ' && c != '_' && c != '-').map Char.toLower
  match name with
  | i :: s :: rest =>
    if i.toLower = 'i' ∧ s.toLower = 's' then
      match loose rest with
      | ['c'] => "isc"
      | bare => String.ofList bare
    else String.ofList (loose name)
  | _ => String.ofList (loose name)

-- ================================================================= sets

/-- The set of the characters within any of some lists of bounds. -/
def CharSet.ofAllBounds (bounds : List (List Nat)) : CharSet :=
  .ofRanges (bounds.flatMap CharSet.boundedRanges)

/-- All characters that are assigned. -/
def CharSet.assigned : CharSet := .ofAllBounds Text.Category.assigned

def CharSet.lowercase : CharSet :=
  .ofAllBounds [Text.Category.lowerLetter, Text.Category.otherLower]

def CharSet.uppercase : CharSet :=
  .ofAllBounds [Text.Category.upperLetter, Text.Category.otherUpper]

/-- A property of characters by its name. -/
def propertySet? : String → Option CharSet
  | "alphabetic" | "alpha" => some (.inter (.ofBounds Text.alphabeticBounds) .assigned)
  | "lowercase" | "lower" => some .lowercase
  | "uppercase" | "upper" => some .uppercase
  | "cased" =>
    some (.union .lowercase (.union .uppercase (.ofBounds Text.Category.titleLetter)))
  | "caseignorable" | "ci" => some (.inter (.ofBounds Text.caseIgnorableBounds) .assigned)
  | "whitespace" | "wspace" | "space" => some .space
  | _ => none

/-- A general category by its name. -/
def categorySet? (name : String) : Option CharSet :=
  match name with
  | "any" => some .all
  | "ascii" => some .ascii
  | _ =>
    match Text.Category.named? name, Text.Category.besidesUnassigned? name with
    | some bounds, _ => some (.ofAllBounds bounds)
    | none, some others => some (.union CharSet.assigned.complement (.ofAllBounds others))
    | none, none => none

/-- The characters of a script by its name. -/
def scriptSet? (name : String) : Option CharSet :=
  (Text.Script.named? name).map fun s => .ofBounds s.bounds

/-- The characters that are used in a script. -/
def usedSet? (name : String) : Option CharSet :=
  (Text.Script.named? name).map fun s =>
    let (own, others) := s.usages
    .union (.diff (.ofBounds s.bounds) (.ofRanges others)) (.ofRanges own)

-- ============================================================ descriptions

/-- A set by the name of a property, category or script. -/
def namedSet? (name : List Char) : Option CharSet :=
  let name := looseName name
  propertySet? name <|> categorySet? name <|> scriptSet? name

/-- A set by the name of a property that has values, and a value. -/
def valueSet? (name value : List Char) : Option CharSet :=
  let value := looseName value
  match looseName name with
  | "generalcategory" | "gc" => categorySet? value
  | "script" | "sc" => scriptSet? value
  | "scriptextensions" | "scx" => usedSet? value
  | _ => none

/-- Cuts at the first place where a test holds of what follows. -/
def cutAt (test : List Char → Bool) : List Char → Option (List Char × List Char)
  | [] => none
  | c :: cs =>
    if test (c :: cs) then some ([], c :: cs)
    else (cutAt test cs).map fun (before, after) => (c :: before, after)

/-- A set as it is described between braces, and whether its complement is
meant. -/
def describedSet? (description : List Char) : Option (Bool × CharSet) :=
  match cutAt (fun cs => ['!', '='].isPrefixOf cs) description with
  | some (name, rest) => (valueSet? name (rest.drop 2)).map (true, ·)
  | none =>
    match cutAt (fun cs => [':'].isPrefixOf cs) description with
    | some (name, rest) => (valueSet? name (rest.drop 1)).map (false, ·)
    | none =>
      match cutAt (fun cs => ['='].isPrefixOf cs) description with
      | some (name, rest) => (valueSet? name (rest.drop 1)).map (false, ·)
      | none => (namedSet? description).map (false, ·)

end DynamicSql.Pattern
