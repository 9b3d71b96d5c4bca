/-
Letters and numbers of all scripts.
-/
import DynamicSql.Text.Case
import DynamicSql.Text.LetterTable

namespace DynamicSql.Text

/-- True of the characters with the property Alphabetic. -/
def isAlphabetic (c : Char) : Bool := withinBounds false alphabeticBounds c.toNat

/-- True of digits, letters that are numbers, and other numbers. -/
def isNumber (c : Char) : Bool := withinBounds false numberBounds c.toNat

end DynamicSql.Text
