/-
Texts as the bytes of their characters.

A character of ASCII is written as one byte below 128, and every byte of any
other character is at least 128. So a class of bytes that has all of these on
one side says the same of each byte of a character (`SameClass`). A run of such
bytes is written by a run of characters, and who passes over it comes to stand
between two of them. A slice of the text may begin and end there, and only there
(`isSome_slice?_iff`).
-/
import DynamicSql.Proofs.Text.Slice

namespace DynamicSql

theorem byteLength_eq_zero_iff {cs : List Char} : byteLength cs = 0 ↔ cs = [] := by
  cases cs with
  | nil => exact iff_of_true rfl rfl
  | cons c cs =>
    have hsize := c.utf8Size_pos
    rw [byteLength_cons]
    exact iff_of_false (by omega) (List.cons_ne_nil c cs)

theorem length_le_byteLength (cs : List Char) : cs.length ≤ byteLength cs := by
  induction cs with
  | nil => exact Nat.le_refl 0
  | cons c cs ih =>
    have hsize := c.utf8Size_pos
    rw [List.length_cons, byteLength_cons]
    omega

namespace Text

variable {p : UInt8 → Bool} {r : Char → Bool} {c d : Char}

/-- The bytes of characters. -/
def encode (cs : List Char) : List UInt8 := cs.flatMap String.utf8EncodeChar

/-- They are the bytes of the text. -/
theorem toList_toUTF8 (text : String) : text.toUTF8.data.toList = encode text.toList := by
  rw [String.toUTF8_eq_toByteArray, ← String.utf8Encode_toList, List.utf8Encode,
    List.toList_data_toByteArray, encode]

theorem encode_cons (c : Char) (cs : List Char) :
    encode (c :: cs) = String.utf8EncodeChar c ++ encode cs := List.flatMap_cons

theorem encode_append (as bs : List Char) : encode (as ++ bs) = encode as ++ encode bs :=
  List.flatMap_append

theorem length_encode (cs : List Char) : (encode cs).length = byteLength cs := by
  induction cs with
  | nil => rfl
  | cons c cs ih => rw [encode_cons, List.length_append, String.length_utf8EncodeChar, ih,
      byteLength_cons]

theorem utf8ByteSize_eq (text : String) : text.utf8ByteSize = byteLength text.toList := by
  rw [← length_encode, ← toList_toUTF8, String.toUTF8_eq_toByteArray]
  rfl

-- =============================================================== classes

theorem toNat_toUInt8 (h : c.toNat < 128) : c.toUInt8.toNat = c.toNat :=
  Nat.mod_eq_of_lt (Nat.lt_trans h (by decide))

theorem utf8EncodeChar_of_lt (h : c.toNat < 128) : String.utf8EncodeChar c = [c.toUInt8] :=
  String.utf8EncodeChar_eq_singleton
    (Char.utf8Size_eq_one_iff.mpr (UInt32.le_iff_toNat_le.mpr (Nat.le_of_lt_succ h)))

/-- The bytes of a character beyond ASCII. -/
theorem le_of_mem_utf8EncodeChar (h : 128 ≤ c.toNat) {b : UInt8}
    (hb : b ∈ String.utf8EncodeChar c) : 128 ≤ b.toNat := by
  have hval : c.val.toNat = c.toNat := rfl
  revert hb
  fun_cases String.utf8EncodeChar c with
  | case1 v hv => exact absurd hv (by omega)
  | case2 =>
    simp only [List.mem_cons, List.not_mem_nil, or_false]
    rintro (rfl | rfl) <;> rw [UInt8.toNat_ofNat'] <;> omega
  | case3 =>
    simp only [List.mem_cons, List.not_mem_nil, or_false]
    rintro (rfl | rfl | rfl) <;> rw [UInt8.toNat_ofNat'] <;> omega
  | case4 =>
    simp only [List.mem_cons, List.not_mem_nil, or_false]
    rintro (rfl | rfl | rfl | rfl) <;> rw [UInt8.toNat_ofNat'] <;> omega

/-- The bytes of each character are in the class just if the character is in
the other. -/
def SameClass (p : UInt8 → Bool) (r : Char → Bool) : Prop :=
  ∀ c, ∀ b ∈ String.utf8EncodeChar c, p b = r c

/-- It is enough to look at ASCII if all else is on one side. -/
theorem sameClass_of_ascii (side : Bool) (hascii : ∀ c, c.toNat < 128 → p c.toUInt8 = r c)
    (hbytes : ∀ b : UInt8, 128 ≤ b.toNat → p b = side)
    (hchars : ∀ c : Char, 128 ≤ c.toNat → r c = side) : SameClass p r := by
  intro c b hb
  by_cases hc : c.toNat < 128
  · rw [utf8EncodeChar_of_lt hc, List.mem_singleton] at hb
    rw [hb, hascii c hc]
  · have hc := Nat.le_of_not_lt hc
    rw [hbytes b (le_of_mem_utf8EncodeChar hc hb), hchars c hc]

/-- A character of ASCII is told by its byte. -/
theorem sameClass_beq (hd : d.toNat < 128) : SameClass (· == d.toUInt8) (· == d) := by
  refine sameClass_of_ascii false (fun c hc => ?_) (fun b hb => ?_) (fun c hc => ?_)
  · rw [Bool.eq_iff_iff, beq_iff_eq, beq_iff_eq, ← UInt8.toNat_inj, toNat_toUInt8 hc,
      toNat_toUInt8 hd, Char.toNat_inj]
  · refine beq_eq_false_iff_ne.mpr ?_
    rintro rfl
    rw [toNat_toUInt8 hd] at hb
    omega
  · refine beq_eq_false_iff_ne.mpr ?_
    rintro rfl
    omega

/-- The bytes of a run are a run of bytes. -/
theorem SameClass.takeWhile_encode (h : SameClass p r) (cs : List Char) :
    (encode cs).takeWhile p = encode (cs.takeWhile r) := by
  induction cs with
  | nil => rfl
  | cons c cs ih =>
    rw [encode_cons]
    cases hc : r c with
    | true =>
      rw [List.takeWhile_cons_of_pos hc, encode_cons, List.takeWhile_append_of_pos, ih]
      exact fun b hb => (h c b hb).trans hc
    | false =>
      rw [List.takeWhile_cons_of_neg (by rw [hc]; exact Bool.false_ne_true)]
      cases hbytes : String.utf8EncodeChar c with
      | nil => exact absurd hbytes String.utf8EncodeChar_ne_nil
      | cons b bs =>
        have hb : p b = false := (h c b (hbytes ▸ List.mem_cons_self)).trans hc
        rw [List.cons_append, List.takeWhile_cons_of_neg (by rw [hb]; exact Bool.false_ne_true)]
        rfl

end Text

-- ============================================================ boundaries

namespace Span

variable {cs before after : List Char} {offset : Nat}

/-- Characters are cut at the size of what comes first. -/
theorem cut?_eq_some_iff :
    cut? cs offset = some (before, after) ↔ cs = before ++ after ∧ byteLength before = offset := by
  constructor
  · intro h
    fun_induction cut? cs offset generalizing before with
    | case1 =>
      obtain ⟨rfl, rfl⟩ := Prod.mk.inj (Option.some.inj h)
      exact ⟨rfl, rfl⟩
    | case2 => cases h
    | case3 c cs offset hle ih =>
      obtain ⟨⟨inside, rest⟩, hcut, heq⟩ := Option.map_eq_some_iff.mp h
      obtain ⟨rfl, rfl⟩ := Prod.mk.inj heq
      obtain ⟨rfl, hoffset⟩ := ih hcut
      exact ⟨rfl, by rw [byteLength_cons, hoffset, Nat.add_sub_cancel' hle]⟩
    | case4 => cases h
  · rintro ⟨rfl, rfl⟩
    exact cut?_append before after

/-- The offset stands between two characters of the text, or at one of its
ends. -/
theorem isValid_iff {text : String} :
    String.Pos.Raw.IsValid text ⟨offset⟩
      ↔ ∃ before after, text.toList = before ++ after ∧ byteLength before = offset := by
  rw [String.Pos.Raw.isValid_iff_exists_append]
  constructor
  · rintro ⟨before, after, rfl, hoffset⟩
    refine ⟨before.toList, after.toList, String.toList_append, ?_⟩
    rw [← Text.utf8ByteSize_eq]
    exact (congrArg String.Pos.Raw.byteIdx hoffset).symm
  · rintro ⟨before, after, htext, rfl⟩
    refine ⟨String.ofList before, String.ofList after, ?_, ?_⟩
    · rw [← String.ofList_append, ← htext, String.ofList_toList]
    · refine String.Pos.Raw.ext ?_
      show byteLength before = (String.ofList before).utf8ByteSize
      rw [Text.utf8ByteSize_eq, String.toList_ofList]

/-- Of two beginnings of a text the one that takes fewer bytes begins the other. -/
theorem isPrefix_of_byteLength_le {others : List Char} (hbefore : before <+: cs)
    (hothers : others <+: cs) (hle : byteLength before ≤ byteLength others) :
    before <+: others := by
  obtain hprefix | ⟨rest, rfl⟩ := List.prefix_or_prefix_of_prefix hbefore hothers
  · exact hprefix
  · rw [byteLength_append] at hle
    obtain rfl := byteLength_eq_zero_iff.mp (show byteLength rest = 0 by omega)
    exact ⟨[], by rw [List.append_nil, List.append_nil]⟩

/-- A slice is given just where it does not run backwards and both its ends
stand on boundaries. -/
theorem isSome_slice?_iff (span : Span) (text : String) :
    (span.slice? text).isSome = true
      ↔ span.start ≤ span.stop ∧ String.Pos.Raw.IsValid text ⟨span.start⟩
        ∧ String.Pos.Raw.IsValid text ⟨span.stop⟩ := by
  rw [isValid_iff, isValid_iff]
  constructor
  · intro h
    obtain ⟨inside, hinside⟩ := Option.isSome_iff_exists.mp h
    unfold slice? at hinside
    split at hinside
    · next hle =>
      obtain ⟨⟨before, after⟩, hstart, hinside⟩ := Option.bind_eq_some_iff.mp hinside
      obtain ⟨⟨middle, rest⟩, hstop, -⟩ := Option.bind_eq_some_iff.mp hinside
      obtain ⟨htext, hbefore⟩ := cut?_eq_some_iff.mp hstart
      obtain ⟨rfl, hmiddle⟩ := cut?_eq_some_iff.mp hstop
      refine ⟨hle, ⟨before, _, htext, hbefore⟩, before ++ middle, rest, ?_, ?_⟩
      · rw [htext, List.append_assoc]
      · rw [byteLength_append, hbefore, hmiddle]
        exact Nat.add_sub_cancel' hle
    · cases hinside
  · rintro ⟨hle, ⟨before, after, htext, hbefore⟩, others, rest, htext', hothers⟩
    obtain ⟨middle, rfl⟩ : before <+: others :=
      isPrefix_of_byteLength_le ⟨after, htext.symm⟩ ⟨rest, htext'.symm⟩ (by omega)
    have hmiddle : StandsAt text.toList (byteLength before) middle :=
      ⟨before, rest, by rw [htext', List.append_assoc], rfl⟩
    have hslice := hmiddle.slice?
    rw [← byteLength_append, hothers, hbefore] at hslice
    rw [hslice]
    rfl

end Span

end DynamicSql
