/-
How characters are written in bytes.

A character takes one to four bytes. The characters from one to another are
written by one range of bytes at each place only if the ranges do not depend
on each other: that is so if the two have the same number of bytes, and if,
wherever they part, all that may follow does follow. Any other range is cut
until every piece is of that kind.
-/
namespace DynamicSql.Text

/-- The bytes of a character, by its code. -/
def utf8 (n : Nat) : List Nat :=
  if n < 0x80 then [n]
  else if n < 0x800 then [0xC0 + n / 64, 0x80 + n % 64]
  else if n < 0x10000 then [0xE0 + n / 4096, 0x80 + n / 64 % 64, 0x80 + n % 64]
  else [0xF0 + n / 262144, 0x80 + n / 4096 % 64, 0x80 + n / 64 % 64, 0x80 + n % 64]

def utf8Text (cs : List Char) : List Nat := cs.flatMap fun c => utf8 c.toNat

-- ================================================================= cuts

/-- Where codes begin that take a byte more than those before. -/
def widths : List Nat := [0x80, 0x800, 0x10000]

/-- How many codes share all bytes but the last one, two or three. -/
def blocks : List Nat := [64, 4096, 262144]

/-- Where a range has to be cut because it begins or ends within a block that
it leaves. -/
def cutAtBlock? (first last block : Nat) : Option Nat :=
  if first / block = last / block then none
  else if first % block ≠ 0 then some ((first / block + 1) * block)
  else if last % block ≠ block - 1 then some (last / block * block)
  else none

/-- The code before which a range is cut first, if it has to be cut. -/
def cut? (first last : Nat) : Option Nat :=
  match widths.find? fun k => first < k && k ≤ last with
  | some k => some k
  | none => if last < 0x80 then none else blocks.findSome? (cutAtBlock? first last)

theorem cutAtBlock?_bounds {first last block k : Nat} (hle : first ≤ last)
    (h : cutAtBlock? first last block = some k) : first < k ∧ k ≤ last := by
  unfold cutAtBlock? at h
  split at h
  · cases h
  · rename_i hne
    rcases Nat.eq_zero_or_pos block with rfl | hpos
    · simp at hne
    · have hlt : first / block + 1 ≤ last / block :=
        Nat.lt_of_le_of_ne (Nat.div_le_div_right hle) hne
      have hend : last / block * block ≤ last := Nat.div_mul_le_self last block
      have hcut : (first / block + 1) * block ≤ last / block * block :=
        Nat.mul_le_mul_right block hlt
      have hfirst : first < (first / block + 1) * block := by
        rw [Nat.mul_comm]
        exact Nat.lt_mul_div_succ first hpos
      split at h
      · cases h
        exact ⟨hfirst, Nat.le_trans hcut hend⟩
      · split at h
        · cases h
          exact ⟨Nat.lt_of_lt_of_le hfirst hcut, hend⟩
        · cases h

theorem cut?_bounds {first last k : Nat} (hle : first ≤ last) (h : cut? first last = some k) :
    first < k ∧ k ≤ last := by
  unfold cut? at h
  split at h
  · rename_i hw
    cases h
    have := List.find?_some hw
    simpa using this
  · split at h
    · cases h
    · obtain ⟨block, -, hb⟩ := List.exists_of_findSome?_eq_some h
      exact cutAtBlock?_bounds hle hb

-- =============================================================== pieces

/-- The characters from one to another as ranges of bytes, piece by piece. -/
def byteRanges (first last : Nat) : List (List (Nat × Nat)) :=
  if hle : first ≤ last then
    match h : cut? first last with
    | none => [(utf8 first).zip (utf8 last)]
    | some k =>
      have := cut?_bounds hle h
      byteRanges first (k - 1) ++ byteRanges k last
  else []
termination_by last + 1 - first

/-- The same for a range that may reach across the codes of no characters,
which are not written at all. -/
def charRanges (first last : Nat) : List (List (Nat × Nat)) :=
  byteRanges first (min last 0xD7FF) ++ byteRanges (max first 0xE000) last

end DynamicSql.Text
