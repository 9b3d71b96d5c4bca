/-
The general categories by their names.

A category has a short and a long name; a few have a third. Names are in
lower case and without anything between their words. The first letter of the
short names is the name of all categories that share it.
-/
import DynamicSql.Text.CategoryTable

namespace DynamicSql.Text.Category

def letters : List (List Nat) :=
  [upperLetter, lowerLetter, titleLetter, modifierLetter, otherLetter]

/-- The letters that have a case. -/
def casedLetters : List (List Nat) := [upperLetter, lowerLetter, titleLetter]

def marks : List (List Nat) := [nonspacingMark, spacingMark, enclosingMark]

def numbers : List (List Nat) := [decimalNumber, letterNumber, otherNumber]

def punctuation : List (List Nat) :=
  [connectorPunctuation, dashPunctuation, openPunctuation, closePunctuation, initialPunctuation,
    finalPunctuation, otherPunctuation]

def symbols : List (List Nat) := [mathSymbol, currencySymbol, modifierSymbol, otherSymbol]

def separators : List (List Nat) := [spaceSeparator, lineSeparator, paragraphSeparator]

/-- What is assigned but neither seen nor space. -/
def others : List (List Nat) := [control, format, privateUse]

/-- All characters that are assigned. -/
def assigned : List (List Nat) :=
  letters ++ marks ++ numbers ++ punctuation ++ symbols ++ separators ++ others

/-- The bounds of what a name means, as long as all of it is assigned. -/
def named? : String → Option (List (List Nat))
  | "lu" | "uppercaseletter" => some [upperLetter]
  | "ll" | "lowercaseletter" => some [lowerLetter]
  | "lt" | "titlecaseletter" => some [titleLetter]
  | "lm" | "modifierletter" => some [modifierLetter]
  | "lo" | "otherletter" => some [otherLetter]
  | "lc" | "casedletter" => some casedLetters
  | "l" | "letter" => some letters
  | "mn" | "nonspacingmark" => some [nonspacingMark]
  | "mc" | "spacingmark" => some [spacingMark]
  | "me" | "enclosingmark" => some [enclosingMark]
  | "m" | "mark" | "combiningmark" => some marks
  | "nd" | "decimalnumber" | "digit" => some [decimalNumber]
  | "nl" | "letternumber" => some [letterNumber]
  | "no" | "othernumber" => some [otherNumber]
  | "n" | "number" => some numbers
  | "pc" | "connectorpunctuation" => some [connectorPunctuation]
  | "pd" | "dashpunctuation" => some [dashPunctuation]
  | "ps" | "openpunctuation" => some [openPunctuation]
  | "pe" | "closepunctuation" => some [closePunctuation]
  | "pi" | "initialpunctuation" => some [initialPunctuation]
  | "pf" | "finalpunctuation" => some [finalPunctuation]
  | "po" | "otherpunctuation" => some [otherPunctuation]
  | "p" | "punctuation" | "punct" => some punctuation
  | "sm" | "mathsymbol" => some [mathSymbol]
  | "sc" | "currencysymbol" => some [currencySymbol]
  | "sk" | "modifiersymbol" => some [modifierSymbol]
  | "so" | "othersymbol" => some [otherSymbol]
  | "s" | "symbol" => some symbols
  | "zs" | "spaceseparator" => some [spaceSeparator]
  | "zl" | "lineseparator" => some [lineSeparator]
  | "zp" | "paragraphseparator" => some [paragraphSeparator]
  | "z" | "separator" => some separators
  | "cc" | "control" | "cntrl" => some [control]
  | "cf" | "format" => some [format]
  | "co" | "privateuse" => some [privateUse]
  | "assigned" => some assigned
  | _ => none

/-- What a name means besides all characters that are not assigned, for the
names that mean these. -/
def besidesUnassigned? : String → Option (List (List Nat))
  | "cn" | "unassigned" => some []
  | "c" | "other" => some others
  | _ => none

end DynamicSql.Text.Category
