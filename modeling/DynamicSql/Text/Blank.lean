/-
Blank characters, and what is done with them.

Three classes are in use, and each reader of a text has its own. A
template's text is prose to which any blank of Unicode may have found its
way, so runs, words and trimmed texts go by the property White_Space.
Expressions and patterns are code, and know the blanks of ASCII only. A
placeholder's content is a list of options in which every control
character counts as space.
-/
namespace DynamicSql.Text

-- ============================================================== classes

/-- The characters with the Unicode property White_Space. -/
def isBlank (c : Char) : Bool :=
  let n := c.toNat
  (0x09 ≤ n && n ≤ 0x0D) || n == 0x20 || n == 0x85 || n == 0xA0 || n == 0x1680 ||
  (0x2000 ≤ n && n ≤ 0x200A) || n == 0x2028 || n == 0x2029 || n == 0x202F ||
  n == 0x205F || n == 0x3000

/-- Space, tab, line feed, form feed and carriage return: the characters
that separate the tokens of an expression. -/
def isAsciiBlank (c : Char) : Bool :=
  c == ' ' || c == '\t' || c == '\n' || c == '\x0c' || c == '\r'

/-- Space and every control character below it. -/
def isSpaceOrControl (c : Char) : Bool :=
  c ≤ ' '

-- ============================================================= trimming

/-- The characters without those of a class at either end. -/
def trimBy (p : Char → Bool) (cs : List Char) : List Char :=
  ((cs.dropWhile p).reverse.dropWhile p).reverse

/-- The text without the blanks at either end. -/
def trim (s : String) : String :=
  String.ofList (trimBy isBlank s.toList)

/-- True of a text that holds blanks only. -/
def allBlank (s : String) : Bool :=
  s.toList.all isBlank

-- ================================================================ words

/-- Puts a finished word before the others; between two blanks there is
no word. -/
def consWord (word : List Char) (rest : List (List Char)) : List (List Char) :=
  if word.isEmpty then rest else word :: rest

/-- The word that the characters begin with, empty if they begin with a
blank or not at all, and the words after it. -/
def leadingWord : List Char → List Char × List (List Char)
  | [] => ([], [])
  | c :: cs =>
    let (word, rest) := leadingWord cs
    if isBlank c then ([], consWord word rest) else (c :: word, rest)

/-- The maximal runs of characters that are not blank, in order. -/
def words (cs : List Char) : List (List Char) :=
  let (word, rest) := leadingWord cs
  consWord word rest

/-- The words of a text with one space between each two of them. -/
def collapse (s : String) : String :=
  " ".intercalate ((words s.toList).map String.ofList)

end DynamicSql.Text
