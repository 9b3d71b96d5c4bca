/-
Lines and columns tell offsets.

Each character moves the location on, to the next column or to the next line
(`Location.lt_next`). So of two places between characters the later one has the
later location, and no two have the same.

# Going back

A reader of `line:column` counts line feeds and then characters, and comes to
the place that was meant (`Location.remaining_foldl_next`). The invariant is that
behind as many line feeds as were passed there is what was passed of the current
line, which holds no line feed, and then what was not passed.

# Other offsets

What counts are the characters that end at or before an offset. So an offset
inside a character is taken for the start of that character, and one behind the
text for its end.

# Searched for

A location can be searched for from behind as well: the offset is brought into the
text and then back to the nearest boundary, and the line feeds before it are
counted, and the characters behind the last of them (`Location.ofOffset_eq`). That
is the same location as the one that is reached character by character.
-/
import DynamicSql.Proofs.Text.Bytes
import Mathlib.Data.List.Induction

namespace DynamicSql

namespace Location

/-- The earlier line comes first, and in one line the earlier column. -/
instance : LT Location where
  lt l l' := l.line < l'.line ∨ l.line = l'.line ∧ l.column < l'.column

theorem lt_iff {l l' : Location} :
    l < l' ↔ l.line < l'.line ∨ l.line = l'.line ∧ l.column < l'.column := Iff.rfl

theorem lt_trans {l l' l'' : Location} (h : l < l') (h' : l' < l'') : l < l'' := by
  rw [lt_iff] at h h' ⊢
  omega

/-- What is left of the characters behind a number of line feeds. -/
def behindLines : Nat → List Char → List Char
  | 0, cs => cs
  | _ + 1, [] => []
  | n + 1, c :: cs => behindLines (if c = '\n' then n else n + 1) cs

/-- What is left behind the lines before a location and behind the columns before
it in its own line. -/
def remaining (l : Location) (cs : List Char) : List Char :=
  (behindLines (l.line - 1) cs).drop (l.column - 1)

/-- The offset at which a location is found by counting. -/
def offsetIn (l : Location) (source : String) : Nat :=
  source.utf8ByteSize - byteLength (l.remaining source.toList)

-- =============================================================== one way

/-- A character moves the location on. -/
theorem lt_next (l : Location) (c : Char) : l < l.next c := by
  rw [lt_iff, next]
  split
  · exact Or.inl (Nat.lt_succ_self _)
  · exact Or.inr ⟨rfl, Nat.lt_succ_self _⟩

/-- So do any characters, if there are some. -/
theorem lt_foldl_next {cs : List Char} (h : cs ≠ []) (l : Location) : l < cs.foldl next l := by
  induction cs generalizing l with
  | nil => exact absurd rfl h
  | cons c cs ih =>
    rw [List.foldl_cons]
    by_cases hcs : cs = []
    · rw [hcs]
      exact lt_next l c
    · exact lt_trans (lt_next l c) (ih hcs (l.next c))

/-- Characters that end at or before an offset are followed by those that do so
behind them. -/
theorem charsBefore_append (before after : List Char) (ahead : Nat) :
    charsBefore (before ++ after) (byteLength before + ahead)
      = before ++ charsBefore after ahead := by
  induction before with
  | nil => rw [byteLength_nil, Nat.zero_add, List.nil_append, List.nil_append]
  | cons c before ih =>
    have hrest : c.utf8Size + byteLength before + ahead - c.utf8Size
        = byteLength before + ahead := by omega
    rw [List.cons_append, byteLength_cons, charsBefore, if_pos (by omega), hrest, ih,
      List.cons_append]

/-- Offsets count as that of the first character that does not end before
them. -/
theorem ofOffset_of_cut {source : String} {before after : List Char} {offset : Nat}
    (htext : source.toList = before ++ after) (hle : byteLength before ≤ offset)
    (hend : ∀ c ∈ after.head?, offset < byteLength before + c.utf8Size) :
    ofOffset source offset = before.foldl next first := by
  obtain ⟨ahead, rfl⟩ := Nat.exists_eq_add_of_le hle
  have hnone : charsBefore after ahead = [] := by
    cases after with
    | nil => rfl
    | cons c after =>
      have hsize := hend c rfl
      rw [charsBefore, if_neg (by omega)]
  rw [ofOffset, htext, charsBefore_append, hnone, List.append_nil]

theorem ofOffset_boundary {source : String} {before after : List Char}
    (htext : source.toList = before ++ after) :
    ofOffset source (byteLength before) = before.foldl next first :=
  ofOffset_of_cut htext (Nat.le_refl _) fun c _ => by
    have hsize := c.utf8Size_pos
    omega

/-- The later of two boundaries has the later location. -/
theorem ofOffset_lt {source : String} {a b : Nat} (ha : String.Pos.Raw.IsValid source ⟨a⟩)
    (hb : String.Pos.Raw.IsValid source ⟨b⟩) (hlt : a < b) :
    ofOffset source a < ofOffset source b := by
  obtain ⟨before, after, htext, rfl⟩ := Span.isValid_iff.mp ha
  obtain ⟨others, rest, htext', rfl⟩ := Span.isValid_iff.mp hb
  obtain ⟨middle, rfl⟩ : before <+: others :=
    Span.isPrefix_of_byteLength_le ⟨after, htext.symm⟩ ⟨rest, htext'.symm⟩ (Nat.le_of_lt hlt)
  have hmiddle : middle ≠ [] := by
    rintro rfl
    rw [List.append_nil] at hlt
    exact Nat.lt_irrefl _ hlt
  rw [ofOffset_boundary htext, ofOffset_boundary htext', List.foldl_append]
  exact lt_foldl_next hmiddle _

-- ========================================================= searched for

/-- The nearest boundary at or before an offset. -/
def backToBoundary (source : String) : Nat → Nat
  | 0 => 0
  | offset + 1 =>
    if String.Pos.Raw.IsValid source ⟨offset + 1⟩ then offset + 1
    else backToBoundary source offset

theorem backToBoundary_le (source : String) (offset : Nat) :
    backToBoundary source offset ≤ offset := by
  induction offset with
  | zero => exact Nat.le_refl 0
  | succ offset ih =>
    rw [backToBoundary]
    split
    · exact Nat.le_refl _
    · exact Nat.le_succ_of_le ih

theorem isValid_backToBoundary (source : String) (offset : Nat) :
    String.Pos.Raw.IsValid source ⟨backToBoundary source offset⟩ := by
  induction offset with
  | zero => exact Span.isValid_iff.mpr ⟨[], source.toList, rfl, rfl⟩
  | succ offset ih =>
    rw [backToBoundary]
    split
    · next hvalid => exact hvalid
    · exact ih

/-- No boundary stands between it and the offset. -/
theorem le_backToBoundary {source : String} {a offset : Nat}
    (ha : String.Pos.Raw.IsValid source ⟨a⟩) (hle : a ≤ offset) :
    a ≤ backToBoundary source offset := by
  induction offset with
  | zero => exact hle
  | succ offset ih =>
    rw [backToBoundary]
    split
    · exact hle
    · next hnot =>
      refine ih (Nat.le_of_lt_succ (Nat.lt_of_le_of_ne hle ?_))
      rintro rfl
      exact hnot ha

/-- Behind some characters, the line is told by the line feeds among them and the
column by what stands behind the last one. -/
theorem foldl_next_first (before : List Char) :
    before.foldl next first
      = ⟨before.count '\n' + 1, (before.reverse.takeWhile (· ≠ '\n')).length + 1⟩ := by
  induction before using List.reverseRecOn with
  | nil => rfl
  | append_singleton before c ih =>
    rw [List.foldl_append, List.foldl_cons, List.foldl_nil, ih, next, List.count_append,
      List.reverse_concat]
    by_cases hc : c = '\n'
    · subst hc
      simp
    · simp [hc]

/-- A location is that of the nearest boundary within the text, with the line feeds
before it and the characters behind the last of them counted. -/
theorem ofOffset_eq (source : String) (offset : Nat) :
    ∃ before after, source.toList = before ++ after
      ∧ byteLength before = backToBoundary source (min offset source.utf8ByteSize)
      ∧ ofOffset source offset
        = ⟨before.count '\n' + 1, (before.reverse.takeWhile (· ≠ '\n')).length + 1⟩ := by
  obtain ⟨before, after, htext, hbefore⟩ :=
    Span.isValid_iff.mp (isValid_backToBoundary source (min offset source.utf8ByteSize))
  have hle := backToBoundary_le source (min offset source.utf8ByteSize)
  refine ⟨before, after, htext, hbefore, ?_⟩
  rw [ofOffset_of_cut htext (by omega), foldl_next_first]
  intro c hc
  by_contra hlt
  -- Then the character behind ends at a boundary that is nearer.
  obtain ⟨rest, rfl⟩ := List.head?_eq_some_iff.mp hc
  have hvalid : String.Pos.Raw.IsValid source ⟨byteLength (before ++ [c])⟩ :=
    Span.isValid_iff.mpr ⟨before ++ [c], rest, by rw [htext, List.append_assoc]; rfl, rfl⟩
  have hsize : source.utf8ByteSize = byteLength before + (c.utf8Size + byteLength rest) := by
    rw [Text.utf8ByteSize_eq, htext, byteLength_append, byteLength_cons]
  have hend : byteLength (before ++ [c]) = byteLength before + c.utf8Size := by
    rw [byteLength_append, byteLength_cons, byteLength_nil, Nat.add_zero]
  have hnearer := le_backToBoundary hvalid
    (show byteLength (before ++ [c]) ≤ min offset source.utf8ByteSize by omega)
  have hpos := c.utf8Size_pos
  omega

-- ================================================================ and back

@[simp] theorem behindLines_zero (cs : List Char) : behindLines 0 cs = cs := by
  cases cs <;> rfl

theorem behindLines_succ (n : Nat) (cs : List Char) :
    behindLines (n + 1) cs = behindLines 1 (behindLines n cs) := by
  induction cs generalizing n with
  | nil => cases n <;> rfl
  | cons c cs ih =>
    cases n with
    | zero => rfl
    | succ n =>
      rw [behindLines, behindLines]
      split
      · exact ih n
      · exact ih (n + 1)

/-- The next line begins behind the first line feed. -/
theorem behindLines_one {line : List Char} (h : '\n' ∉ line) (after : List Char) :
    behindLines 1 (line ++ '\n' :: after) = after := by
  induction line with
  | nil => rw [List.nil_append, behindLines, if_pos rfl, behindLines_zero]
  | cons c line ih =>
    rw [List.mem_cons, not_or] at h
    rw [List.cons_append, behindLines, if_neg fun hc => h.1 hc.symm]
    exact ih h.2

/-- Behind the lines that were passed stands what was passed of the current one,
and then what follows. -/
theorem exists_line (before after : List Char) :
    ∃ line, '\n' ∉ line ∧ (before.foldl next first).column = line.length + 1
      ∧ behindLines ((before.foldl next first).line - 1) (before ++ after) = line ++ after
      ∧ 1 ≤ (before.foldl next first).line := by
  induction before using List.reverseRecOn generalizing after with
  | nil => exact ⟨[], List.not_mem_nil, rfl, behindLines_zero after, Nat.le_refl 1⟩
  | append_singleton before c ih =>
    obtain ⟨line, hline, hcolumn, hbehind, hpos⟩ := ih (c :: after)
    rw [List.foldl_append, List.foldl_cons, List.foldl_nil, List.append_assoc,
      List.singleton_append]
    generalize before.foldl next first = l at hcolumn hbehind hpos ⊢
    by_cases hc : c = '\n'
    · subst hc
      obtain ⟨n, hn⟩ := Nat.exists_eq_add_of_le' hpos
      refine ⟨[], List.not_mem_nil, rfl, ?_, Nat.le_add_left 1 _⟩
      rw [hn, Nat.add_sub_cancel] at hbehind
      show behindLines (l.line + 1 - 1) _ = after
      rw [Nat.add_sub_cancel, hn, behindLines_succ, hbehind, behindLines_one hline]
    · rw [next, if_neg hc]
      refine ⟨line ++ [c], ?_, ?_, ?_, hpos⟩
      · rw [List.mem_append, List.mem_singleton, not_or]
        exact ⟨hline, fun heq => hc heq.symm⟩
      · rw [hcolumn, List.length_append]
        rfl
      · rw [hbehind, List.append_assoc]
        rfl

/-- What is left is found by counting. -/
theorem remaining_foldl_next (before after : List Char) :
    (before.foldl next first).remaining (before ++ after) = after := by
  obtain ⟨line, -, hcolumn, hbehind, -⟩ := exists_line before after
  rw [remaining, hcolumn, hbehind, Nat.add_sub_cancel, List.drop_left]

theorem offsetIn_ofOffset {source : String} {a : Nat}
    (ha : String.Pos.Raw.IsValid source ⟨a⟩) : (ofOffset source a).offsetIn source = a := by
  obtain ⟨before, after, htext, rfl⟩ := Span.isValid_iff.mp ha
  rw [ofOffset_boundary htext, offsetIn, htext, remaining_foldl_next, Text.utf8ByteSize_eq, htext,
    byteLength_append, Nat.add_sub_cancel]

end Location

/-- The location of a span is faithful to where the span begins. Of two that begin
between characters the later one has the later location, so from the location
the offset is known: it is found by counting lines and then characters. A span
that begins inside a character has the location of that character, and one that
begins behind the text that of its end. -/
theorem Span.location_faithful (source : String) :
    (∀ s t : Span, String.Pos.Raw.IsValid source ⟨s.start⟩ →
        String.Pos.Raw.IsValid source ⟨t.start⟩ → s.start < t.start →
          s.location source < t.location source)
      ∧ (∀ s t : Span, String.Pos.Raw.IsValid source ⟨s.start⟩ →
        String.Pos.Raw.IsValid source ⟨t.start⟩ → s.location source = t.location source →
          s.start = t.start)
      ∧ (∀ s : Span, String.Pos.Raw.IsValid source ⟨s.start⟩ →
        (s.location source).offsetIn source = s.start)
      ∧ (∀ (s t : Span) (before after : List Char) (c : Char),
        source.toList = before ++ c :: after → t.start = byteLength before →
          t.start ≤ s.start → s.start < t.start + c.utf8Size →
            s.location source = t.location source)
      ∧ ∀ s t : Span, t.start = source.utf8ByteSize → t.start ≤ s.start →
        s.location source = t.location source := by
  refine ⟨fun s t => Location.ofOffset_lt, ?_, fun s => Location.offsetIn_ofOffset, ?_, ?_⟩
  · intro s t hs ht heq
    have hback := Location.offsetIn_ofOffset hs
    rw [show Location.ofOffset source s.start = Location.ofOffset source t.start from heq,
      Location.offsetIn_ofOffset ht] at hback
    exact hback.symm
  · intro s t before after c htext ht hle hlt
    rw [ht] at hle hlt
    rw [location, location, ht, Location.ofOffset_boundary htext]
    exact Location.ofOffset_of_cut htext hle fun d hd => Option.some.inj hd ▸ hlt
  · intro s t ht hle
    have htext : source.toList = source.toList ++ [] := (List.append_nil _).symm
    rw [Text.utf8ByteSize_eq] at ht
    rw [ht] at hle
    rw [location, location, ht, Location.ofOffset_boundary htext]
    exact Location.ofOffset_of_cut htext hle nofun

/-- The end of a first line with a character of two bytes, a place in the second
line, a place inside the character, and one behind the text. -/
theorem Span.location_faithful_of_two_lines :
    location ⟨2, 2⟩ "é\nab" < location ⟨4, 5⟩ "é\nab"
      ∧ location ⟨4, 5⟩ "é\nab" = ⟨2, 2⟩
      ∧ (location ⟨4, 5⟩ "é\nab").offsetIn "é\nab" = 4
      ∧ location ⟨1, 1⟩ "é\nab" = location ⟨0, 2⟩ "é\nab"
      ∧ location ⟨9, 9⟩ "é\nab" = location ⟨5, 5⟩ "é\nab" := by
  obtain ⟨hlt, -, hback, hinside, hbeyond⟩ := location_faithful "é\nab"
  have hend : String.Pos.Raw.IsValid "é\nab" ⟨2⟩ :=
    isValid_iff.mpr ⟨['é'], ['\n', 'a', 'b'], by decide, rfl⟩
  have hnext : String.Pos.Raw.IsValid "é\nab" ⟨4⟩ :=
    isValid_iff.mpr ⟨['é', '\n', 'a'], ['b'], by decide, rfl⟩
  exact ⟨hlt ⟨2, 2⟩ ⟨4, 5⟩ hend hnext (by decide), by decide, hback ⟨4, 5⟩ hnext,
    hinside ⟨1, 1⟩ ⟨0, 2⟩ [] ['\n', 'a', 'b'] 'é' (by decide) rfl (by decide) (by decide),
    hbeyond ⟨9, 9⟩ ⟨5, 5⟩ (by decide) (by decide)⟩

end DynamicSql
