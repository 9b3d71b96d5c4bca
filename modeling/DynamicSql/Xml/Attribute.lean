/-
The inside of a start tag: a name, then attributes.

The name runs to the first space. An attribute is a key, an equals sign and
a value in quotes, with space allowed around the sign; between attributes
space may be missing. A key takes at least one character, whichever it is,
and then runs to the first space or equals sign.

# The order of complaints

Attributes are read one after the other, so what is wrong with one is
reported before anything about the next. Within one, a missing equals sign
comes first, then a key that was given before, then the value's quotes, and
last the references inside the value.

# Where an attribute stands

Reading gives an attribute's key and value, not the places of the two. They
are looked for in the tag's content: the key where it next occurs after the
attribute before it, the value behind the equals sign that follows. The
search knows nothing of the reading, and takes any blank for space.

# What is assumed

Reading is done by the tokenizer that cuts the document. It is assumed to go
through a tag as `RawAttribute.read` does, to complain in this order and with
these positions, which count from the tag's first byte, and to read no further
behind a complaint. The value is given as written, and its references are then
replaced as those of text are. The search for the two places is this library's
own, and nothing is assumed of it.
-/
import DynamicSql.Text.Blank
import DynamicSql.Xml.Entity
import DynamicSql.Xml.Markup
import DynamicSql.Xml.Tree

namespace DynamicSql.Xml

/-- An attribute as it is written. Positions count from the first byte of
the tag's content. -/
structure RawAttribute where
  key : List Char
  keyPosition : Nat
  /-- What stands between the quotes. -/
  value : List Char
deriving DecidableEq, Repr, Inhabited

namespace RawAttribute

-- ========================================================= one attribute

/-- What is left of a tag's content, and its position. -/
structure Place where
  position : Nat
  rest : List Char
deriving DecidableEq, Repr, Inhabited

namespace Place

/-- Past the characters that a class holds of. -/
def skip (p : Char → Bool) (at_ : Place) : Place :=
  ⟨at_.position + byteLength (at_.rest.takeWhile p), at_.rest.dropWhile p⟩

def skipSpace (at_ : Place) : Place := at_.skip Markup.isSpace

/-- Past one character. -/
def advance (at_ : Place) : Place :=
  match at_.rest with
  | [] => at_
  | c :: cs => ⟨at_.position + c.utf8Size, cs⟩

theorem length_skip (p : Char → Bool) (at_ : Place) :
    (at_.skip p).rest.length ≤ at_.rest.length :=
  (List.dropWhile_suffix p).length_le

theorem length_advance_le (at_ : Place) : at_.advance.rest.length ≤ at_.rest.length := by
  unfold advance
  split <;> simp_all

end Place

/-- True of the characters that go on with a key. -/
def isKeyChar (c : Char) : Bool := !Markup.isSpace c && c != '='

/-- Reads the value after an equals sign. -/
def readValue (key : List Char) (keyPosition : Nat) (afterEquals : Place) :
    Except (AttributeFault × Nat) (RawAttribute × Place) :=
  let opening := afterEquals.skipSpace
  match opening.rest with
  | [] => .error (.expectedValue, opening.position)
  | quote :: cs =>
    if quote = '"' ∨ quote = '\'' then
      let closing := opening.advance.skip (· != quote)
      if closing.rest.isEmpty then .error (.unclosedValue quote, closing.position)
      else
        .ok (⟨key, keyPosition, cs.takeWhile (· != quote)⟩, closing.advance)
    else .error (.unquotedValue, opening.position)

/-- The position of the first attribute with a key. -/
def positionOf? (seen : List RawAttribute) (key : List Char) : Option Nat :=
  (seen.find? fun a => a.key == key).map RawAttribute.keyPosition

/-- Reads the attribute that begins here, after those in `seen`. -/
def read (seen : List RawAttribute) (start : Place) :
    Except (AttributeFault × Nat) (RawAttribute × Place) :=
  let keyEnd := start.advance.skip isKeyChar
  let key := start.rest.take 1 ++ (start.rest.drop 1).takeWhile isKeyChar
  let sign := keyEnd.skipSpace
  if sign.rest.head? = some '=' then
    match positionOf? seen key with
    | some previous => .error (.duplicate previous, start.position)
    | none => readValue key start.position sign.advance
  else .error (.expectedEquals, sign.position)

/-- Reading a value leaves no more than there was. -/
theorem length_readValue {key : List Char} {keyPosition : Nat} {start after : Place}
    {a : RawAttribute} (h : readValue key keyPosition start = .ok (a, after)) :
    after.rest.length ≤ start.rest.length := by
  simp only [readValue] at h
  split at h
  · simp at h
  · next quote cs hr =>
    split at h
    · split at h
      · simp at h
      · simp only [Except.ok.injEq, Prod.mk.injEq] at h
        obtain ⟨-, rfl⟩ := h
        have h₁ := (start.skipSpace.advance.skip (· != quote)).length_advance_le
        have h₂ := start.skipSpace.advance.length_skip (· != quote)
        have h₃ := start.skipSpace.length_advance_le
        have h₄ := start.length_skip Markup.isSpace
        exact Nat.le_trans h₁ (Nat.le_trans h₂ (Nat.le_trans h₃ h₄))
    · simp at h

/-- An attribute takes at least one character, if there is one. -/
theorem length_read {seen : List RawAttribute} {start after : Place} {a : RawAttribute}
    (hs : start.rest ≠ []) (h : read seen start = .ok (a, after)) :
    after.rest.length < start.rest.length := by
  have hadv : start.advance.rest.length < start.rest.length := by
    unfold Place.advance
    split <;> simp_all
  simp only [read] at h
  split at h
  · split at h
    · simp at h
    · have h₁ := length_readValue h
      have h₂ := ((start.advance.skip isKeyChar).skipSpace).length_advance_le
      have h₃ := (start.advance.skip isKeyChar).length_skip Markup.isSpace
      have h₄ := start.advance.length_skip isKeyChar
      have h₅ : (start.advance.skip isKeyChar).skipSpace.rest.length
          ≤ (start.advance.skip isKeyChar).rest.length := h₃
      omega
  · simp at h

-- ==================================================== places of attributes

/-- Past an equals sign, if there is one. -/
def Place.skipEquals (at_ : Place) : Place :=
  if at_.rest.head? = some '=' then at_.advance else at_

/-- Past a value: one in quotes ends with the quote, or behind the first
quote if there is no other; any other ends before a blank or a slash. -/
def Place.skipValue (at_ : Place) : Place :=
  match at_.rest with
  | [] => at_
  | quote :: _ =>
    if quote = '"' ∨ quote = '\'' then
      let closing := at_.advance.skip (· != quote)
      if closing.rest.isEmpty then at_.advance else closing.advance
    else at_.skip fun c => !Text.isBlank c && c != '/'

/-- Finds a key and its value in what is left of a tag's content, which
begins at the byte offset `base`. Gives where the two stand and where the
search for the next attribute begins. -/
def locate (base : Nat) (key : List Char) (at_ : Place) : Span × Span × Place :=
  match Markup.splitAtMark? key at_.rest with
  | none => (⟨base, base + 1⟩, ⟨base, base + 1⟩, at_)
  | some (before, after) =>
    let nameStart := at_.position + byteLength before
    let nameEnd : Place := ⟨nameStart + byteLength key, after⟩
    let value := ((nameEnd.skip Text.isBlank).skipEquals).skip Text.isBlank
    let valueEnd := value.skipValue
    (⟨base + nameStart, base + nameEnd.position⟩,
      ⟨base + value.position, base + valueEnd.position⟩, valueEnd)

-- ======================================================== all attributes

/-- The attribute of a tag whose content begins at the byte offset `base`,
its references replaced, and where the search for the next one begins. -/
def resolve (base : Nat) (search : Place) (a : RawAttribute) :
    Except Error (Attribute × Place) :=
  match unescape a.value with
  | .error fault => .error (.attributeValue fault (base - 1))
  | .ok value =>
    let (nameSpan, valueSpan, next) := locate base a.key search
    .ok (⟨Name.ofChars a.key, value, nameSpan, valueSpan⟩, next)

/-- Reads the attributes that are left of a tag's content, after those in
`seen`. They are looked for from `search` on. -/
def readAll (base : Nat) (seen : List RawAttribute) (search start : Place) :
    Except Error (List Attribute) :=
  let next := start.skipSpace
  if _hn : next.rest = [] then .ok []
  else
    match _h : read seen next with
    | .error (fault, position) => .error (.attribute fault position)
    | .ok (a, after) => do
      let (first, resume) ← a.resolve base search
      let others ← readAll base (seen ++ [a]) resume after
      return first :: others
termination_by start.rest.length
decreasing_by
  have h₁ := length_read _hn _h
  have h₂ := start.length_skip Markup.isSpace
  exact Nat.lt_of_lt_of_le h₁ h₂

end RawAttribute

/-- Reads the content of a start tag, which begins at a byte offset. -/
def Tag.read (base : Nat) (content : List Char) : Except Error Tag := do
  let isNameChar := fun c => !Markup.isSpace c
  let name := content.takeWhile isNameChar
  let start : RawAttribute.Place := ⟨byteLength name, content.dropWhile isNameChar⟩
  let attributes ← RawAttribute.readAll base [] start start
  return ⟨Name.ofChars name, ⟨base, base + byteLength name⟩, attributes⟩

end DynamicSql.Xml
