/-
Injection filters.

A filter is the text of a pattern that substituted values must match as a
whole. The text is put between the two ends before it is read, so what it
leaves open is closed there, and an alternative that it leaves on the
outside is held to one end only.
-/
import DynamicSql.Pattern.Match
import DynamicSql.Pattern.Reader

namespace DynamicSql

/-- A filter that can be asked. -/
structure InjectionFilter where
  /-- The filter as it was given. -/
  pattern : String
  accepts : String → Bool

namespace InjectionFilter

/-- The text of the pattern that a filter stands for. -/
def anchored (filter : String) : String := "^(?:" ++ filter ++ ")$"

/-- The filter, if it is a pattern. -/
def read? (filter : String) : Option InjectionFilter :=
  (Pattern.read? (anchored filter)).map fun p => ⟨filter, p.isMatch⟩

end InjectionFilter

end DynamicSql
