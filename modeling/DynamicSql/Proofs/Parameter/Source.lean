/-
What the source of a parameter looks like once it was read.

A property has no space around it: what counts as space before it was passed
over, and what follows it before the comma or colon was cut off. The details
that follow the source do not change it.
-/
import DynamicSql.Parameter.Reader
import DynamicSql.Proofs.Text.Runs

namespace DynamicSql

/-- Among the ASCII characters, all blanks are trimmed. -/
theorem Text.isSpaceOrControl_of_isBlank {c : Char} (h : isBlank c = true)
    (hc : c.toNat < 128) : isSpaceOrControl c = true := by
  simp only [isBlank, Bool.or_eq_true, Bool.and_eq_true, decide_eq_true_eq, beq_iff_eq] at h
  refine decide_eq_true (Char.le_def.mpr (UInt32.le_iff_toNat_le.mpr ?_))
  change c.toNat ≤ 32
  omega

namespace Parameter

theorem Mapping.source_foldl_assign (m : Mapping) (assignments : List Assignment) :
    (assignments.foldl Mapping.assign m).source = m.source := by
  induction assignments generalizing m with
  | nil => rfl
  | cons a rest ih =>
    show (rest.foldl Mapping.assign (m.assign a)).source = m.source
    rw [ih, Mapping.assign]
    split <;> rfl

/-- The details keep the source. -/
theorem source_readDetails {source : Source} {after : Cursor} {m : Mapping}
    (h : readDetails source after = .ok m) : m.source = source := by
  unfold readDetails at h
  simp only [] at h
  split at h
  · obtain rfl := Except.ok.inj h
    rfl
  · split at h
    · split at h
      · cases h
      · cases ho : readOptions ((after.skipSpace.advance.skipSpace.skip (· != ',')).advance) with
        | error e => rw [ho] at h; cases h
        | ok assignments =>
          rw [ho] at h
          obtain rfl := Except.ok.inj h
          exact Mapping.source_foldl_assign _ _
    · split at h
      · cases ho : readOptions after.skipSpace.advance with
        | error e => rw [ho] at h; cases h
        | ok assignments =>
          rw [ho] at h
          obtain rfl := Except.ok.inj h
          exact Mapping.source_foldl_assign _ _
      · cases h

/-- A property that was read does not begin with space. -/
theorem Mapping.head?_property {content property : String} {m : Mapping}
    (h : Mapping.read content = .ok m) (hp : m.property? = some property) {c : Char}
    (hc : property.toList.head? = some c) : Text.isSpaceOrControl c = false := by
  unfold Mapping.read at h
  cases hs : readSource (Cursor.skipSpace ⟨0, content.toList⟩) with
  | error e =>
    rw [hs] at h
    cases h
  | ok found =>
    obtain ⟨source, after⟩ := found
    rw [hs] at h
    have hsource := source_readDetails h
    unfold Mapping.property? at hp
    rw [hsource] at hp
    cases source with
    | expression text => cases hp
    | property path =>
      obtain rfl := Option.some.inj hp
      unfold readSource at hs
      split at hs
      · cases hs
      · split at hs
        · split at hs
          · cases hs
          · simp only [] at hs
            split at hs
            · cases hs
            · cases hs
        · simp only [] at hs
          split at hs
          · cases hs
          · have hpath := congrArg Prod.fst (Except.ok.inj hs)
            obtain rfl := Source.property.inj hpath
            rw [partText, String.toList_ofList] at hc
            exact Text.head?_trimBy hc

end Parameter

end DynamicSql
