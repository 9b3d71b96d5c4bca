/-
The scripts by their names.

Names are in lower case and without anything between their words.
-/
import DynamicSql.Text.ScriptTable

namespace DynamicSql.Text.Script

/-- The script that has a name. -/
def named? (name : String) : Option Script := all.find? fun s => s.names.contains name

/-- The runs of characters that have a list of scripts of their own, by
whether the script is in it. -/
def usages (s : Script) : List (Nat × Nat) × List (Nat × Nat) :=
  let (own, others) := Usage.all.partition fun u => s.names.head?.any u.scripts.contains
  (own.map fun u => (u.first, u.last), others.map fun u => (u.first, u.last))

end DynamicSql.Text.Script
