/-
Characters that stand at a byte offset, and spans that follow each other.

Whoever reads a text from its beginning knows of every place which
characters lie before it. Their size is the place's offset, so a span that
goes from there over the characters read next covers exactly these, however
many bytes each of them takes.
-/
import DynamicSql.Text.Span

namespace DynamicSql

-- ==================================================== places in a text

/-- The characters stand at a byte offset of a text. -/
def StandsAt (text : List Char) (offset : Nat) (cs : List Char) : Prop :=
  ∃ before after, text = before ++ (cs ++ after) ∧ byteLength before = offset

namespace StandsAt

variable {text as bs : List Char} {offset : Nat}

/-- What comes first stands at the same offset. -/
theorem left (h : StandsAt text offset (as ++ bs)) : StandsAt text offset as := by
  obtain ⟨before, after, rfl, hoffset⟩ := h
  exact ⟨before, bs ++ after, by rw [List.append_assoc], hoffset⟩

/-- What comes second stands behind the first. -/
theorem right (h : StandsAt text offset (as ++ bs)) :
    StandsAt text (offset + byteLength as) bs := by
  obtain ⟨before, after, rfl, rfl⟩ := h
  exact ⟨before ++ as, after, by simp only [List.append_assoc], byteLength_append before as⟩

end StandsAt

/-- A text is cut after the characters that it begins with. -/
theorem Span.cut?_append (as bs : List Char) :
    cut? (as ++ bs) (byteLength as) = some (as, bs) := by
  induction as with
  | nil => cases bs <;> rfl
  | cons c cs ih =>
    obtain ⟨n, hn⟩ : ∃ n, byteLength (c :: cs) = n + 1 :=
      Nat.exists_eq_add_one.mpr (Nat.add_pos_left c.utf8Size_pos _)
    have hrest : n + 1 - c.utf8Size = byteLength cs := by
      rw [← hn, byteLength_cons, Nat.add_sub_cancel_left]
    have hfits : c.utf8Size ≤ n + 1 := hn ▸ Nat.le_add_right _ _
    rw [hn, List.cons_append, cut?, if_pos hfits, hrest, ih]
    rfl

/-- The span over characters that stand at an offset covers them. -/
theorem StandsAt.slice? {source : String} {offset : Nat} {cs : List Char}
    (h : StandsAt source.toList offset cs) :
    Span.slice? ⟨offset, offset + byteLength cs⟩ source = some (String.ofList cs) := by
  obtain ⟨before, after, htext, rfl⟩ := h
  have hinside : Span.size ⟨byteLength before, byteLength before + byteLength cs⟩
      = byteLength cs := Nat.add_sub_cancel_left ..
  rw [Span.slice?, if_pos (Nat.le_add_right ..), htext, Span.cut?_append]
  simp only [Option.bind_eq_bind, Option.bind_some, hinside, Span.cut?_append,
    Option.pure_def]

-- ========================================================= spans in order

namespace Span

/-- The spans lie between two offsets, each behind the one before it. -/
def Ordered (first last : Nat) : List Span → Prop
  | [] => first ≤ last
  | s :: rest => first ≤ s.start ∧ s.start ≤ s.stop ∧ Ordered s.stop last rest

namespace Ordered

variable {first middle last : Nat} {spans others : List Span}

theorem le (h : Ordered first last spans) : first ≤ last := by
  induction spans generalizing first with
  | nil => exact h
  | cons s rest ih => exact Nat.le_trans h.1 (Nat.le_trans h.2.1 (ih h.2.2))

/-- The first offset may be any that is not behind it. -/
theorem of_le (hle : first ≤ middle) (h : Ordered middle last spans) :
    Ordered first last spans := by
  cases spans with
  | nil => exact Nat.le_trans hle h
  | cons s rest => exact ⟨Nat.le_trans hle h.1, h.2⟩

theorem append (hspans : Ordered first middle spans) (hothers : Ordered middle last others) :
    Ordered first last (spans ++ others) := by
  induction spans generalizing first with
  | nil => exact of_le hspans hothers
  | cons s rest ih => exact ⟨hspans.1, hspans.2.1, ih hspans.2.2⟩

/-- The last offset may be any that is not before it. -/
theorem widen (h : Ordered first middle spans) (hle : middle ≤ last) :
    Ordered first last spans := by
  have := h.append (show Ordered middle last [] from hle)
  rwa [List.append_nil] at this

/-- One more span at the end takes the last offset to where it ends. -/
theorem concat {s : Span} (h : Ordered first middle spans) (hstart : middle ≤ s.start)
    (hstop : s.start ≤ s.stop) : Ordered first s.stop (spans ++ [s]) :=
  h.append ⟨hstart, hstop, Nat.le_refl _⟩

end Ordered

end Span

end DynamicSql
