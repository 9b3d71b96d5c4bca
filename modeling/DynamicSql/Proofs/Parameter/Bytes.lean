/-
Contents of placeholders, read by their bytes.

The reader of this library goes by characters and only counts their bytes. Here
is one that goes by bytes: it holds an offset, looks at the byte there, passes
over what it has seen by adding to the offset, and cuts a part out of the text
by the offsets of its ends. So three things may happen to it that the other one
knows nothing of. It may look for a byte behind the end, it may cut where no
text can be cut, and it may go round a loop without an end. Each of these is a
trap (`Trap`), and every loop is given a number of rounds to find the last.

None of them happens. Both readers give the same for any content, as soon as the
rounds are more than its bytes (`readBytes_eq`). Where the one by bytes looks for
a class of them, all bytes of a character are on one side of it, so it stands
where the other does. The exception is the place behind the last separator: its
offset is one more than there are bytes if there was no separator to pass over,
and nothing is looked for there (`StandsFor`).
-/
import DynamicSql.Proofs.Parameter.Grammar
import DynamicSql.Proofs.Text.Bytes

namespace DynamicSql.Parameter

open Text (SameClass encode isSpaceOrControl)

-- ================================================================ reader

/-- What must not happen to one who reads bytes: a byte is looked for where
there is none, a text is cut at offsets at which it cannot be cut, or a loop has
no round left. -/
inductive Trap where
  | index (i : Nat)
  | slice (start stop : Nat)
  | endless
deriving DecidableEq, Repr

/-- Reading by bytes may end in a trap, or as all reading does. -/
abbrev Reading (α : Type) := ExceptT Error (Except Trap) α

namespace Reading

def trap {α : Type} (t : Trap) : Reading α := ExceptT.mk (.error t)

def done {α : Type} (result : Except Error α) : Reading α := ExceptT.mk (.ok result)

def fail {α : Type} (position : Nat) (fault : Fault) : Reading α :=
  done (.error ⟨fault, position⟩)

end Reading

open Reading

section

variable (content : String) (limit : Nat)

def bytes : List UInt8 := content.toUTF8.data.toList

/-- The byte at an offset, which has to be one of the content's. -/
def byteAt (i : Nat) : Reading UInt8 :=
  match (bytes content)[i]? with
  | some b => return b
  | none => trap (.index i)

/-- The bytes from an offset on, which has to be no larger than there are
bytes. -/
def bytesFrom (start : Nat) : Reading (List UInt8) :=
  if start ≤ (bytes content).length then return (bytes content).drop start
  else trap (.slice start (bytes content).length)

/-- The text of the part between two offsets, which have to stand between
characters and in this order. -/
def trimmed (start stop : Nat) : Reading String :=
  match Span.slice? ⟨start, stop⟩ content with
  | some part => return partText part.toList
  | none => trap (.slice start stop)

/-- There is no byte to look at just behind the end. -/
theorem byteAt_eq_trap_iff {i : Nat} :
    byteAt content i = trap (.index i) ↔ (bytes content).length ≤ i := by
  rw [byteAt, ← List.getElem?_eq_none_iff]
  cases (bytes content)[i]? with
  | none => exact iff_of_true rfl rfl
  | some b => exact iff_of_false nofun nofun

/-- No part is cut out just where an end of it is not in its place. -/
theorem trimmed_eq_trap_iff {start stop : Nat} :
    trimmed content start stop = trap (.slice start stop)
      ↔ ¬(start ≤ stop ∧ String.Pos.Raw.IsValid content ⟨start⟩
        ∧ String.Pos.Raw.IsValid content ⟨stop⟩) := by
  rw [trimmed, ← Span.isSome_slice?_iff ⟨start, stop⟩ content]
  cases Span.slice? ⟨start, stop⟩ content with
  | none => exact iff_of_true rfl nofun
  | some part => exact iff_of_false nofun fun h => h rfl

def isSpaceByte (b : UInt8) : Bool := b ≤ ' '.toUInt8

def skipSpaceBytes : (rounds p : Nat) → Reading Nat
  | 0, _ => trap .endless
  | rounds + 1, p =>
    if p < (bytes content).length then do
      if isSpaceByte (← byteAt content p) then skipSpaceBytes rounds (p + 1) else return p
    else return p

/-- The offset of the first of the bytes that stop, or else of the end. -/
def skipUntil (p : Nat) (stops : List UInt8) : Reading Nat := do
  let rest ← bytesFrom content p
  match rest.findIdx? (stops.contains ·) with
  | some passed => return p + passed
  | none => return (bytes content).length

/-- The offset behind the parenthesis that closes the outermost of `depth` open
ones. -/
def closeBytes (left : Nat) : (rounds depth right : Nat) → Reading Nat
  | 0, _, _ => trap .endless
  | rounds + 1, depth, right =>
    if 0 < depth then
      match (bytes content)[right]? with
      | none => fail (left - 1) .unbalancedParentheses
      | some b =>
        closeBytes left rounds
          (if b = ')'.toUInt8 then depth - 1 else if b = '('.toUInt8 then depth + 1 else depth)
          (right + 1)
    else return right

def expressionBytes (left : Nat) : Reading (Source × Nat) := do
  let right ← closeBytes content left limit 1 left
  let text ← trimmed content left (right - 1)
  if text.isEmpty then fail left .emptyExpression else return (.expression text, right)

/-- Reads the source of the value. -/
def sourceBytes (p : Nat) : Reading (Source × Nat) := do
  if (← byteAt content p) = '('.toUInt8 then expressionBytes content limit (p + 1)
  else
    let stop ← skipUntil content p [','.toUInt8, ':'.toUInt8]
    let path ← trimmed content p stop
    if path.isEmpty then fail p .missingProperty else return (.property path, stop)

/-- Reads options and assigns each as it is read. -/
def optionBytes : (rounds p : Nat) → Mapping → Reading Mapping
  | 0, _, _ => trap .endless
  | rounds + 1, p, m =>
    if p < (bytes content).length then do
      let left ← skipSpaceBytes content limit p
      if (bytes content).length ≤ left then return m
      else
        let sign ← skipUntil content left ['='.toUInt8]
        if (bytes content).length ≤ sign then fail left .expectedEquals
        else
          let name ← trimmed content left sign
          let stop ← skipUntil content (sign + 1) [','.toUInt8]
          let value ← trimmed content (sign + 1) stop
          if name.isEmpty then fail left .missingOptionName
          else optionBytes rounds (stop + 1) (m.assign ⟨name, value⟩)
    else return m

/-- Reads what follows the source. -/
def detailBytes (source : Source) (after : Nat) : Reading Mapping := do
  let p ← skipSpaceBytes content limit after
  if p < (bytes content).length then
    let b ← byteAt content p
    if b = ':'.toUInt8 then
      let left ← skipSpaceBytes content limit (p + 1)
      let right ← skipUntil content left [','.toUInt8]
      let type ← trimmed content left right
      if type.isEmpty then fail (p + 1) .missingType
      else optionBytes content limit limit (right + 1) ⟨source, some type, []⟩
    else if b = ','.toUInt8 then optionBytes content limit limit (p + 1) ⟨source, none, []⟩
    else fail p .expectedColonOrComma
  else return ⟨source, none, []⟩

/-- Reads the content of a parameter placeholder by its bytes, with so many
rounds for each loop. -/
def readBytes : Reading Mapping := do
  let p ← skipSpaceBytes content limit 0
  if (bytes content).length ≤ p then fail p .emptyParameter
  else
    let (source, after) ← sourceBytes content limit p
    detailBytes content limit source after

end

-- =============================================================== cursors

variable {content : String} {limit : Nat}

/-- The cursor stands in the content and has all that follows left to read. -/
def Cursor.In (content : String) (c : Cursor) : Prop :=
  ∃ before, content.toList = before ++ c.rest ∧ byteLength before = c.offset

namespace Cursor.In

variable {c : Cursor} {x : Char} {xs : List Char}

theorem start (content : String) : In content ⟨0, content.toList⟩ := ⟨[], rfl, rfl⟩

theorem skip (h : In content c) (p : Char → Bool) : In content (c.skip p) := by
  obtain ⟨before, htext, hoffset⟩ := h
  refine ⟨before ++ c.rest.takeWhile p, ?_, ?_⟩
  · rw [htext, List.append_assoc]
    exact congrArg (before ++ ·) List.takeWhile_append_dropWhile.symm
  · rw [byteLength_append, hoffset]
    rfl

theorem advance (h : In content c) : In content c.advance := by
  obtain ⟨before, htext, hoffset⟩ := h
  obtain ⟨offset, _ | ⟨x, xs⟩⟩ := c
  · exact ⟨before, htext, hoffset⟩
  · refine ⟨before ++ [x], by rw [htext, List.append_assoc]; rfl, ?_⟩
    rw [byteLength_append, hoffset]
    rfl

/-- It stands between two characters. -/
theorem isValid (h : In content c) : String.Pos.Raw.IsValid content ⟨c.offset⟩ :=
  Span.isValid_iff.mpr <| h.imp fun _ hbefore => ⟨c.rest, hbefore⟩

/-- The bytes behind it are those of what is left to read. -/
theorem drop_bytes (h : In content c) : (bytes content).drop c.offset = encode c.rest := by
  obtain ⟨before, htext, hoffset⟩ := h
  rw [bytes, Text.toList_toUTF8, htext, Text.encode_append, ← hoffset, ← Text.length_encode,
    List.drop_left]

theorem length_bytes (h : In content c) :
    (bytes content).length = c.offset + byteLength c.rest := by
  obtain ⟨before, htext, hoffset⟩ := h
  rw [bytes, Text.toList_toUTF8, Text.length_encode, htext, byteLength_append, hoffset]

theorem lt_length_iff (h : In content c) : c.offset < (bytes content).length ↔ c.rest ≠ [] := by
  rw [h.length_bytes, Ne, ← byteLength_eq_zero_iff]
  omega

theorem length_le_iff (h : In content c) : (bytes content).length ≤ c.offset ↔ c.rest = [] := by
  rw [← Nat.not_lt, h.lt_length_iff, not_not]

/-- The byte that it looks at is the first one of a character. -/
theorem getElem?_bytes (h : In content c) (hrest : c.rest = x :: xs) :
    ∃ b, (bytes content)[c.offset]? = some b ∧ b ∈ String.utf8EncodeChar x := by
  cases hbytes : String.utf8EncodeChar x with
  | nil => exact absurd hbytes String.utf8EncodeChar_ne_nil
  | cons b bs =>
    refine ⟨b, ?_, List.mem_cons_self⟩
    rw [← List.head?_drop, h.drop_bytes, hrest, Text.encode_cons, hbytes]
    rfl

theorem byteAt (h : In content c) (hrest : c.rest = x :: xs) :
    ∃ b, Parameter.byteAt content c.offset = pure b ∧ b ∈ String.utf8EncodeChar x := by
  obtain ⟨b, hget, hb⟩ := h.getElem?_bytes hrest
  exact ⟨b, by rw [Parameter.byteAt, hget], hb⟩

/-- A part that follows is cut out. -/
theorem trimmed (h : In content c) {inside after : List Char} (hrest : c.rest = inside ++ after) :
    Parameter.trimmed content c.offset (c.offset + byteLength inside) = pure (partText inside) := by
  obtain ⟨before, htext, hoffset⟩ := h
  have hinside : StandsAt content.toList c.offset inside :=
    ⟨before, after, by rw [htext, hrest], hoffset⟩
  have hslice := hinside.slice?
  rw [Parameter.trimmed, hslice]
  simp only [String.toList_ofList]

theorem trimmed_skip (h : In content c) (p : Char → Bool) :
    Parameter.trimmed content c.offset (c.skip p).offset
      = pure (partText (c.rest.takeWhile p)) :=
  h.trimmed List.takeWhile_append_dropWhile.symm

theorem skipSpace (h : In content c) : In content c.skipSpace := h.skip _

theorem atEquals (h : In content c) : In content c.atEquals := h.skipSpace.skip _

end Cursor.In

/-- The character that was looked for takes one byte. -/
theorem offset_advance_skip {c : Cursor} {d : Char} (hd : d.utf8Size = 1)
    (h : (c.skip (· != d)).rest ≠ []) :
    (c.skip (· != d)).advance.offset = (c.skip (· != d)).offset + 1 := by
  obtain ⟨x, xs, hrest⟩ := List.exists_cons_of_ne_nil h
  have hx : (x != d) = false := Text.eq_false_of_dropWhile (p := (· != d)) hrest
  obtain rfl : x = d := by simpa using hx
  rw [Cursor.advance, hrest]
  exact congrArg ((c.skip (· != x)).offset + ·) hd

/-- A character of ASCII is told by any byte of it. -/
theorem byte_eq_iff {x d : Char} (hd : d.toNat < 128) {b : UInt8}
    (hb : b ∈ String.utf8EncodeChar x) : b = d.toUInt8 ↔ x = d := by
  have hsame : (b == d.toUInt8) = (x == d) := Text.sameClass_beq hd x b hb
  rw [← beq_iff_eq, hsame, beq_iff_eq]

-- ================================================================= space

theorem sameClass_isSpaceByte : SameClass isSpaceByte isSpaceOrControl := by
  refine Text.sameClass_of_ascii false (fun c hc => ?_) (fun b hb => ?_) (fun c hc => ?_)
  · refine decide_eq_decide.mpr ?_
    rw [UInt8.le_iff_toNat_le, Text.toNat_toUInt8 hc, Char.le_def, UInt32.le_iff_toNat_le]
    rfl
  · refine decide_eq_false fun hle => ?_
    have hle := UInt8.le_iff_toNat_le.mp hle
    exact absurd (Nat.le_trans hb hle) (by decide)
  · refine decide_eq_false fun hle => ?_
    have hle := UInt32.le_iff_toNat_le.mp hle
    exact absurd (Nat.le_trans hc hle) (by decide)

/-- Space is passed over. -/
theorem skipSpaceBytes_takeWhile {rounds p : Nat} (hp : p ≤ (bytes content).length)
    (hrounds : (bytes content).length < rounds + p) :
    skipSpaceBytes content rounds p
      = pure (p + (((bytes content).drop p).takeWhile isSpaceByte).length) := by
  induction rounds generalizing p with
  | zero => omega
  | succ rounds ih =>
    unfold skipSpaceBytes
    by_cases hlt : p < (bytes content).length
    · have hbyte : byteAt content p = pure (bytes content)[p] := by
        rw [byteAt, List.getElem?_eq_getElem hlt]
      rw [if_pos hlt, hbyte, pure_bind, List.drop_eq_getElem_cons hlt, List.takeWhile_cons]
      split
      · rw [ih hlt (by omega), List.length_cons, Nat.succ_add_eq_add_succ]
      · rfl
    · rw [if_neg hlt, List.drop_eq_nil_of_le (Nat.le_of_not_lt hlt)]
      rfl

theorem skipSpaceBytes_eq {c : Cursor} (h : c.In content)
    (hlimit : (bytes content).length < limit) :
    skipSpaceBytes content limit c.offset = pure c.skipSpace.offset := by
  rw [skipSpaceBytes_takeWhile (h.length_bytes ▸ Nat.le_add_right ..) (Nat.lt_add_right _ hlimit),
    h.drop_bytes, sameClass_isSpaceByte.takeWhile_encode, Text.length_encode]
  rfl

/-- What comes before the bytes that stop is passed over. -/
theorem skipUntil_eq {c : Cursor} (h : c.In content) {stops : List UInt8}
    {p : Char → Bool} (hstops : SameClass (fun b => !stops.contains b) p) :
    skipUntil content c.offset stops = pure (c.skip p).offset := by
  have hfrom : bytesFrom content c.offset = pure (encode c.rest) := by
    rw [bytesFrom, if_pos (h.length_bytes ▸ Nat.le_add_right ..), h.drop_bytes]
  have hpassed : (c.skip p).offset
      = c.offset + ((encode c.rest).takeWhile fun b => !stops.contains b).length := by
    rw [hstops.takeWhile_encode, Text.length_encode]
    rfl
  rw [skipUntil, hfrom, pure_bind, hpassed]
  cases hfind : (encode c.rest).findIdx? (stops.contains ·) with
  | none =>
    have hall := List.findIdx?_eq_none_iff.mp hfind
    rw [List.takeWhile_eq_self_iff.mpr fun b hb => by rw [hall b hb]; rfl, h.length_bytes,
      Text.length_encode]
  | some passed =>
    obtain ⟨hlt, hfound⟩ := List.findIdx?_eq_some_iff_findIdx_eq.mp hfind
    rw [List.takeWhile_eq_take_findIdx_not]
    simp only [Bool.not_not]
    rw [hfound, List.length_take_of_le (Nat.le_of_lt hlt)]

-- ================================================================ source

section

variable (left rounds depth : Nat) {right : Nat}

/-- One byte is looked at. -/
theorem closeBytes_succ {b : UInt8} (hget : (bytes content)[right]? = some b) :
    closeBytes content left (rounds + 1) (depth + 1) right
      = closeBytes content left rounds
          (if b = ')'.toUInt8 then depth else if b = '('.toUInt8 then depth + 2 else depth + 1)
          (right + 1) := by
  rw [closeBytes, if_pos (Nat.succ_pos depth), hget]
  rfl

/-- Bytes that are no parentheses change nothing. -/
theorem closeBytes_append {bs rest : List UInt8}
    (hbytes : ∀ b ∈ bs, b ≠ ')'.toUInt8 ∧ b ≠ '('.toUInt8)
    (hdrop : (bytes content).drop right = bs ++ rest) :
    closeBytes content left (rounds + bs.length) (depth + 1) right
      = closeBytes content left rounds (depth + 1) (right + bs.length) := by
  induction bs generalizing right with
  | nil => rfl
  | cons b bs ih =>
    obtain ⟨hclose, hopen⟩ := hbytes b List.mem_cons_self
    have hget : (bytes content)[right]? = some b := by
      rw [← List.head?_drop, hdrop]
      rfl
    have hnext : (bytes content).drop (right + 1) = bs ++ rest := by
      rw [← List.drop_drop, hdrop]
      rfl
    rw [List.length_cons, ← Nat.add_assoc, closeBytes_succ _ _ _ hget, if_neg hclose, if_neg hopen,
      ih (fun d hd => hbytes d (List.mem_cons_of_mem b hd)) hnext, Nat.add_assoc, Nat.add_comm 1]

end

/-- The offset behind the parenthesis that closes what begins at an offset. -/
def behind (left offset : Nat) : Option (List Char × List Char) → Reading Nat
  | none => fail (left - 1) .unbalancedParentheses
  | some (inside, _) => pure (offset + byteLength inside + 1)

theorem behind_map_cons (left offset : Nat) (x : Char) (closed : Option (List Char × List Char)) :
    behind left offset (closed.map fun (inside, after) => (x :: inside, after))
      = behind left (offset + x.utf8Size) closed := by
  cases closed with
  | none => rfl
  | some parts =>
    show pure (offset + byteLength (x :: parts.1) + 1) = pure _
    rw [byteLength_cons, ← Nat.add_assoc]

/-- The same parenthesis is found. -/
theorem closeBytes_eq {c : Cursor} (h : c.In content) {left depth rounds : Nat}
    (hrounds : byteLength c.rest < rounds) :
    closeBytes content left rounds (depth + 1) c.offset
      = behind left c.offset (closing? (depth + 1) c.rest) := by
  obtain ⟨offset, cs⟩ := c
  induction cs generalizing offset depth rounds with
  | nil =>
    obtain ⟨rounds, rfl⟩ := Nat.exists_eq_add_one.mpr (Nat.zero_lt_of_lt hrounds)
    have hnone : (bytes content)[offset]? = none :=
      List.getElem?_eq_none_iff.mpr (Nat.le_of_eq h.length_bytes)
    rw [closeBytes, if_pos (Nat.succ_pos depth), hnone]
    rfl
  | cons x xs ih =>
    change x.utf8Size + byteLength xs < rounds at hrounds
    have hnext : Cursor.In content ⟨offset + x.utf8Size, xs⟩ := h.advance
    have hrest : rounds - x.utf8Size + x.utf8Size = rounds := by omega
    have ih : ∀ {depth : Nat}, closeBytes content left (rounds - x.utf8Size) (depth + 1)
        (offset + x.utf8Size) = behind left (offset + x.utf8Size) (closing? (depth + 1) xs) :=
      ih _ hnext (by show byteLength xs < _; omega)
    obtain ⟨b, hget, hb⟩ := h.getElem?_bytes rfl
    rw [← hrest]
    show _ = behind left offset (closing? (depth + 1) (x :: xs))
    by_cases hopen : x = '('
    · subst hopen
      have hbyte : b = '('.toUInt8 := (byte_eq_iff (by decide) hb).mpr rfl
      rw [closing?_open, behind_map_cons, ← ih]
      exact (closeBytes_succ _ _ _ hget).trans (by rw [hbyte]; rfl)
    · by_cases hclose : x = ')'
      · subst hclose
        have hbyte : b = ')'.toUInt8 := (byte_eq_iff (by decide) hb).mpr rfl
        have hsucc := closeBytes_succ left (rounds - Char.utf8Size ')') depth hget
        rw [if_pos hbyte] at hsucc
        refine hsucc.trans ?_
        cases depth with
        | zero =>
          obtain ⟨rounds', hrounds'⟩ := Nat.exists_eq_add_one.mpr
            (show 0 < rounds - Char.utf8Size ')' by omega)
          rw [hrounds', closeBytes, if_neg (Nat.lt_irrefl 0)]
          rfl
        | succ outer =>
          rw [closing?_close, behind_map_cons, ← ih]
          rfl
      · rw [closing?_plain hopen hclose, behind_map_cons, ← ih, ← String.length_utf8EncodeChar x]
        refine closeBytes_append _ _ _ (fun d hd => ?_) (h.drop_bytes.trans (Text.encode_cons x xs))
        rw [Ne, byte_eq_iff (by decide) hd, Ne, byte_eq_iff (by decide) hd]
        exact ⟨hclose, hopen⟩

/-- So the same expression is read. -/
theorem expressionBytes_eq {c : Cursor} (h : c.In content)
    (hlimit : (bytes content).length < limit) :
    expressionBytes content limit c.offset
      = match closing? 1 c.rest with
        | none => fail (c.offset - 1) .unbalancedParentheses
        | some (inside, _) =>
          if (partText inside).isEmpty then fail c.offset .emptyExpression
          else pure (.expression (partText inside), c.offset + byteLength inside + 1) := by
  have hlength := h.length_bytes
  rw [expressionBytes, closeBytes_eq h (by omega)]
  cases hclosing : closing? 1 c.rest with
  | none => rfl
  | some parts =>
    obtain ⟨inside, after⟩ := parts
    have htrimmed := h.trimmed (eq_of_closing? hclosing)
    rw [behind, pure_bind, Nat.add_sub_cancel, htrimmed, pure_bind]

/-- All other bytes are passed over before one of ASCII. -/
theorem sameClass_bne {d : Char} (hd : d.toNat < 128) :
    SameClass (fun b => !([d.toUInt8].contains b)) (· != d) := fun c b hb => by
  have hsame : (b == d.toUInt8) = (c == d) := Text.sameClass_beq hd c b hb
  simp only [List.contains_cons, List.contains_nil, Bool.or_false]
  rw [hsame]
  rfl

theorem sameClass_isInside :
    SameClass (fun b => !([','.toUInt8, ':'.toUInt8].contains b)) isInside := fun c b hb => by
  have hcomma : (b == ','.toUInt8) = (c == ',') := Text.sameClass_beq (by decide) c b hb
  have hcolon : (b == ':'.toUInt8) = (c == ':') := Text.sameClass_beq (by decide) c b hb
  simp only [List.contains_cons, List.contains_nil, Bool.or_false]
  rw [hcomma, hcolon, Bool.not_or]
  rfl

/-- The same source is read. -/
theorem sourceBytes_eq {c : Cursor} (h : c.In content) (hrest : c.rest ≠ [])
    (hlimit : (bytes content).length < limit) :
    sourceBytes content limit c.offset
      = done ((readSource c).map fun (source, after) => (source, after.offset)) := by
  obtain ⟨x, xs, hcons⟩ := List.exists_cons_of_ne_nil hrest
  obtain ⟨b, hbyte, hb⟩ := h.byteAt hcons
  have hiff : b = '('.toUInt8 ↔ x = '(' := byte_eq_iff (by decide) hb
  rw [sourceBytes, hbyte, pure_bind, readSource, hcons]
  simp only [hiff]
  split
  · next hopen =>
    have hinner : c.advance = ⟨c.offset + 1, xs⟩ := by
      rw [Cursor.advance, hcons, hopen]
      rfl
    have hread := expressionBytes_eq h.advance hlimit
    rw [hinner] at hread ⊢
    rw [hread]
    cases closing? 1 xs with
    | none => rfl
    | some parts =>
      simp only []
      split <;> rfl
  · rw [skipUntil_eq h sameClass_isInside, pure_bind, h.trimmed_skip, pure_bind, hcons,
      show (fun x => x != ',' && x != ':') = isInside from rfl]
    split <;> rfl

/-- What is left to read behind a source follows it in the content. -/
theorem Cursor.In.readSource {c after : Cursor} {source : Source} (h : c.In content)
    (hread : Parameter.readSource c = .ok (source, after)) : after.In content := by
  unfold Parameter.readSource at hread
  split at hread
  · cases hread
  · next x xs hrest =>
    split at hread
    · split at hread
      · cases hread
      · next inside rest hclosing =>
        simp only [] at hread
        split at hread
        · cases hread
        · obtain ⟨-, rfl⟩ := Prod.mk.inj (Except.ok.inj hread)
          obtain ⟨before, htext, hoffset⟩ := h.advance
          rw [Cursor.rest_advance, hrest, List.tail_cons, eq_of_closing? hclosing] at htext
          refine ⟨before ++ (inside ++ [')']), ?_, ?_⟩
          · simp only [htext, List.append_assoc, List.cons_append, List.nil_append]
          · rw [byteLength_append, byteLength_append, hoffset, ← Nat.add_assoc]
            rfl
    · simp only [] at hread
      split at hread
      · cases hread
      · obtain ⟨-, rfl⟩ := Prod.mk.inj (Except.ok.inj hread)
        exact h.skip _

-- =============================================================== options

/-- The offset is the cursor's, or it lies behind that and nothing is left to
read. -/
def StandsFor (content : String) (p : Nat) (c : Cursor) : Prop :=
  c.In content ∧ (p = c.offset ∨ c.rest = [] ∧ c.offset ≤ p)

/-- Behind a separator, or the end if it was missing. -/
theorem standsFor_behind {c : Cursor} (h : c.In content) {d : Char} (hd : d.utf8Size = 1) :
    StandsFor content ((c.skip (· != d)).offset + 1) (c.skip (· != d)).advance := by
  refine ⟨(h.skip _).advance, ?_⟩
  by_cases hrest : (c.skip (· != d)).rest = []
  · have hsame : (c.skip (· != d)).advance = c.skip (· != d) := by rw [Cursor.advance, hrest]
    rw [hsame]
    exact .inr ⟨hrest, Nat.le_succ _⟩
  · exact .inl (offset_advance_skip hd hrest).symm

section

variable {c : Cursor} {rounds : Nat} {m : Mapping}

/-- One option is read in a round. -/
theorem optionBytes_succ (h : c.In content) (hrest : c.rest ≠ [])
    (hlimit : (bytes content).length < limit) :
    optionBytes content limit (rounds + 1) c.offset m
      = if c.skipSpace.rest = [] then pure m
        else if c.atEquals.rest = [] then fail c.skipSpace.offset .expectedEquals
        else if c.optionName.isEmpty then fail c.skipSpace.offset .missingOptionName
        else optionBytes content limit rounds ((c.atEquals.advance.skip (· != ',')).offset + 1)
          (m.assign ⟨c.optionName, c.optionValue⟩) := by
  have hleft := h.skipSpace
  have hsign := h.atEquals
  rw [optionBytes, if_pos (h.lt_length_iff.mpr hrest), skipSpaceBytes_eq h hlimit, pure_bind]
  simp only [hleft.length_le_iff]
  split
  · rfl
  · rw [skipUntil_eq hleft (sameClass_bne (by decide)), pure_bind,
      show c.skipSpace.skip (· != '=') = c.atEquals from rfl]
    simp only [hsign.length_le_iff]
    split
    · rfl
    · next hne =>
      have hafter : c.atEquals.advance.offset = c.atEquals.offset + 1 :=
        offset_advance_skip rfl hne
      have hname : trimmed content c.skipSpace.offset c.atEquals.offset = pure c.optionName :=
        hleft.trimmed_skip _
      have hvalue := hsign.advance.trimmed_skip (· != ',')
      rw [hname, pure_bind, ← hafter, skipUntil_eq hsign.advance (sameClass_bne (by decide)),
        pure_bind, hvalue, pure_bind]
      rfl

/-- The options are read, and assigned in their order. -/
theorem optionBytes_eq {p : Nat} (h : StandsFor content p c) (hrounds : c.rest.length < rounds)
    (hlimit : (bytes content).length < limit) :
    optionBytes content limit rounds p m
      = done ((readOptions c).map (·.foldl Mapping.assign m)) := by
  induction rounds generalizing p c m with
  | zero => exact absurd hrounds (Nat.not_lt_zero _)
  | succ rounds ih =>
    obtain ⟨hin, hp⟩ := h
    rw [readOptions_eq]
    by_cases hrest : c.rest = []
    · have hle : (bytes content).length ≤ p :=
        Nat.le_trans (hin.length_le_iff.mpr hrest) (hp.elim (fun heq => heq.ge) And.right)
      have hskip : c.skipSpace.rest = [] := by
        rw [Cursor.skipSpace, Cursor.skip, hrest]
        rfl
      rw [optionBytes, if_neg (Nat.not_lt_of_le hle), if_pos hskip]
      rfl
    · obtain rfl : p = c.offset := hp.resolve_right fun hnil => hrest hnil.1
      rw [optionBytes_succ hin hrest hlimit]
      split
      · rfl
      · split
        · rfl
        · next hsign =>
          split
          · rfl
          · have hlength := Cursor.length_nextOption hsign
            have hnext : StandsFor content _ c.nextOption :=
              standsFor_behind hin.atEquals.advance rfl
            rw [ih hnext (by omega)]
            cases readOptions c.nextOption <;> rfl

end

-- =============================================================== content

theorem Cursor.In.length_rest_lt {c : Cursor} (h : c.In content)
    (hlimit : (bytes content).length < limit) : c.rest.length < limit := by
  have hlength := h.length_bytes
  have hle := length_le_byteLength c.rest
  omega

/-- The details are read. -/
theorem detailBytes_eq {c : Cursor} (h : c.In content) (source : Source)
    (hlimit : (bytes content).length < limit) :
    detailBytes content limit source c.offset = done (readDetails source c) := by
  have hin := h.skipSpace
  have hoptions : ∀ {next : Cursor} {p : Nat} {m : Mapping}, StandsFor content p next →
      optionBytes content limit limit p m
        = done ((readOptions next).map (·.foldl Mapping.assign m)) := fun hnext =>
    optionBytes_eq hnext (hnext.1.length_rest_lt hlimit) hlimit
  rw [detailBytes, skipSpaceBytes_eq h hlimit, pure_bind, readDetails]
  simp only [hin.lt_length_iff]
  cases hrest : c.skipSpace.rest with
  | nil => rfl
  | cons x xs =>
    obtain ⟨b, hbyte, hb⟩ := hin.byteAt hrest
    have hcolon : b = ':'.toUInt8 ↔ x = ':' := byte_eq_iff (by decide) hb
    have hcomma : b = ','.toUInt8 ↔ x = ',' := byte_eq_iff (by decide) hb
    have hnext : x.utf8Size = 1 → c.skipSpace.advance.offset = c.skipSpace.offset + 1 := by
      intro hx
      rw [Cursor.advance, hrest]
      exact congrArg (c.skipSpace.offset + ·) hx
    rw [if_pos (List.cons_ne_nil x xs), hbyte, pure_bind]
    simp only [hcolon, hcomma]
    split
    · next hx =>
      have hleft := hin.advance.skipSpace
      rw [← hnext (hx ▸ rfl), skipSpaceBytes_eq hin.advance hlimit, pure_bind,
        skipUntil_eq hleft (sameClass_bne (by decide)), pure_bind, hleft.trimmed_skip, pure_bind]
      split
      · rfl
      · rw [hoptions (standsFor_behind hleft rfl)]
        cases readOptions (c.skipSpace.advance.skipSpace.skip (· != ',')).advance <;> rfl
    · split
      · next hx =>
        rw [← hnext (hx ▸ rfl), hoptions ⟨hin.advance, .inl rfl⟩]
        cases readOptions c.skipSpace.advance <;> rfl
      · rfl

/-- The content is read. -/
theorem readBytes_eq (hlimit : (bytes content).length < limit) :
    readBytes content limit = done (Mapping.read content) := by
  have hin := (Cursor.In.start content).skipSpace
  have hspace := skipSpaceBytes_eq (Cursor.In.start content) hlimit
  rw [readBytes, hspace, pure_bind, Mapping.read]
  simp only [hin.length_le_iff]
  split
  · next hrest =>
    rw [readSource, hrest]
    rfl
  · next hrest =>
    rw [sourceBytes_eq hin hrest hlimit]
    cases hsource : readSource (Cursor.skipSpace ⟨0, content.toList⟩) with
    | error e => rfl
    | ok found => exact detailBytes_eq (hin.readSource hsource) found.1 hlimit

-- ============================================================= positions

/-- A fault is seen where a cursor stands. -/
def FaultsIn {α : Type} (content : String) (result : Except Error α) : Prop :=
  ∀ e, result = .error e → String.Pos.Raw.IsValid content ⟨e.position⟩

theorem FaultsIn.ok {α : Type} (a : α) : FaultsIn content (.ok a) := fun _ he => by cases he

theorem FaultsIn.bind {α β : Type} {result : Except Error α} {f : α → Except Error β}
    (h : FaultsIn content result) (hf : ∀ a, result = .ok a → FaultsIn content (f a)) :
    FaultsIn content (result >>= f) := by
  cases result with
  | error e => exact fun _ he => Except.error.inj he ▸ h e rfl
  | ok a => exact hf a rfl

theorem FaultsIn.map {α β : Type} {result : Except Error α} (h : FaultsIn content result)
    (f : α → β) : FaultsIn content (result.map f) := by
  cases result with
  | error e => exact fun _ he => Except.error.inj he ▸ h e rfl
  | ok a => exact .ok (f a)

theorem Cursor.In.fail {α : Type} {c : Cursor} (h : c.In content) (fault : Fault) :
    FaultsIn content (c.fail fault : Except Error α) := fun _ he =>
  Except.error.inj he ▸ h.isValid

theorem faultsIn_readOptions {c : Cursor} (h : c.In content) :
    FaultsIn content (readOptions c) := by
  rw [readOptions_eq]
  split
  · exact .ok _
  · split
    · exact h.skipSpace.fail _
    · next hsign =>
      split
      · exact h.skipSpace.fail _
      · have hlength := Cursor.length_nextOption hsign
        exact (faultsIn_readOptions (h.atEquals.advance.skip _).advance).map _
termination_by c.rest.length

theorem faultsIn_readSource {c : Cursor} (h : c.In content) : FaultsIn content (readSource c) := by
  unfold readSource
  split
  · exact h.fail _
  · split
    · split
      · exact h.fail _
      · simp only []
        split
        · exact h.advance.fail _
        · exact .ok _
    · simp only []
      split
      · exact h.fail _
      · exact .ok _

theorem faultsIn_readDetails {c : Cursor} (h : c.In content) (source : Source) :
    FaultsIn content (readDetails source c) := by
  have hin := h.skipSpace
  rw [readDetails]
  simp only []
  split
  · exact .ok _
  · split
    · split
      · exact hin.advance.fail _
      · exact (faultsIn_readOptions (hin.advance.skipSpace.skip _).advance).bind fun _ _ => .ok _
    · split
      · exact (faultsIn_readOptions hin.advance).bind fun _ _ => .ok _
      · exact hin.fail _

theorem faultsIn_read (content : String) : FaultsIn content (Mapping.read content) := by
  have hin := (Cursor.In.start content).skipSpace
  exact (faultsIn_readSource hin).bind fun found hfound =>
    faultsIn_readDetails (hin.readSource hfound) found.1

/-- Reading by bytes meets no trap, whatever the content is, and gives what
reading by characters gives. A fault is seen within the content and between two
characters. -/
theorem readBytes_eq_done_read {content : String} {limit : Nat}
    (h : content.utf8ByteSize < limit) :
    readBytes content limit = done (Mapping.read content)
      ∧ ∀ e, Mapping.read content = .error e →
        e.position ≤ content.utf8ByteSize ∧ String.Pos.Raw.IsValid content ⟨e.position⟩ :=
  ⟨readBytes_eq h, fun e he =>
    have hvalid := faultsIn_read content e he
    ⟨hvalid.le_rawEndPos, hvalid⟩⟩

/-- A type that ends the content, where reading goes on one byte behind the end,
and an option whose sign is missing behind characters of two bytes. -/
theorem readBytes_of_two_byte_characters :
    readBytes "é:ü" 6 = done (.ok ⟨.property "é", some "ü", []⟩)
      ∧ readBytes "ü:x, é" 9 = done (.error ⟨.expectedEquals, 6⟩)
      ∧ 6 ≤ "ü:x, é".utf8ByteSize ∧ String.Pos.Raw.IsValid "ü:x, é" ⟨6⟩ := by
  have hread : Mapping.read "é:ü" = .ok ⟨.property "é", some "ü", []⟩ := by decide +kernel
  have hfault : Mapping.read "ü:x, é" = .error ⟨.expectedEquals, 6⟩ := by decide +kernel
  obtain ⟨hbytes, -⟩ := readBytes_eq_done_read (show "é:ü".utf8ByteSize < 6 by decide)
  obtain ⟨hbytes', hposition⟩ := readBytes_eq_done_read (show "ü:x, é".utf8ByteSize < 9 by decide)
  exact ⟨hbytes.trans (congrArg done hread), hbytes'.trans (congrArg done hfault),
    hposition _ hfault⟩

end DynamicSql.Parameter
