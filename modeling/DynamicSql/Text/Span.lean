/-
Positions in a text, counted in bytes of its UTF-8 form.

A span is a half-open byte range. It is all a template node keeps of
where it came from, so the text itself need not be kept: a span is read
against a text only when someone asks for the piece it covers or for a
line and a column.

# Offsets that fall inside a character

A span may be older than the text it is read against, or may have been
made up by a caller, so an offset need not stand at a character's start
nor lie inside the text. The two readers differ on purpose. A location
is for people and is always given: an offset inside a character stands
for the character's start, one past the end for the end. A slice is for
programs and is given only where both ends are exact.
-/
namespace DynamicSql

/-- A half-open range of bytes. Nothing is asked of the two ends: a
range that runs backwards is empty and covers no text. -/
structure Span where
  start : Nat
  stop : Nat
deriving DecidableEq, Repr, Inhabited

/-- Lines and columns count from one; a column counts characters. -/
structure Location where
  line : Nat
  column : Nat
deriving DecidableEq, Repr, Inhabited

/-- The number of bytes that the characters take in UTF-8. -/
def byteLength : List Char → Nat
  | [] => 0
  | c :: cs => c.utf8Size + byteLength cs

@[simp] theorem byteLength_nil : byteLength [] = 0 := rfl

@[simp] theorem byteLength_cons (c : Char) (cs : List Char) :
    byteLength (c :: cs) = c.utf8Size + byteLength cs := rfl

@[simp] theorem byteLength_append (as bs : List Char) :
    byteLength (as ++ bs) = byteLength as + byteLength bs := by
  induction as with
  | nil => simp
  | cons c cs ih => simp [ih, Nat.add_assoc]

-- ============================================================ locations

namespace Location

/-- Where a text begins. -/
def first : Location := ⟨1, 1⟩

/-- The location after a character that stands at this one: a line feed
ends its line, any other character takes one column. -/
def next (at_ : Location) (c : Char) : Location :=
  if c = '\n' then ⟨at_.line + 1, 1⟩ else ⟨at_.line, at_.column + 1⟩

/-- The characters that end at or before a byte offset. A character that
the offset cuts is left out, and so is all that follows it. -/
def charsBefore : List Char → Nat → List Char
  | [], _ => []
  | c :: cs, offset =>
    if c.utf8Size ≤ offset then c :: charsBefore cs (offset - c.utf8Size) else []

/-- The location of a byte offset: that of the character it falls in, or
of the end when the text is shorter. -/
def ofOffset (source : String) (offset : Nat) : Location :=
  (charsBefore source.toList offset).foldl next first

/-- Written as `line:column`. -/
def text (l : Location) : String :=
  toString l.line ++ ":" ++ toString l.column

end Location

-- =============================================================== spans

namespace Span

/-- The number of bytes covered. -/
def size (s : Span) : Nat := s.stop - s.start

def isEmpty (s : Span) : Bool := s.size == 0

/-- Written as `start..stop`. -/
def text (s : Span) : String :=
  toString s.start ++ ".." ++ toString s.stop

/-- The location of a span is that of its first byte. -/
def location (s : Span) (source : String) : Location :=
  Location.ofOffset source s.start

/-- Cuts the characters at a byte offset, which must stand between two of
them. -/
def cut? : List Char → Nat → Option (List Char × List Char)
  | cs, 0 => some ([], cs)
  | [], _ + 1 => none
  | c :: cs, offset + 1 =>
    if c.utf8Size ≤ offset + 1 then
      (cut? cs (offset + 1 - c.utf8Size)).map fun (before, after) => (c :: before, after)
    else none

/-- The text that a span covers, if both its ends stand between characters
of the source and in this order. -/
def slice? (s : Span) (source : String) : Option String :=
  if s.start ≤ s.stop then do
    let (_, after) ← cut? source.toList s.start
    let (inside, _) ← cut? after s.size
    return String.ofList inside
  else none

end Span

end DynamicSql
