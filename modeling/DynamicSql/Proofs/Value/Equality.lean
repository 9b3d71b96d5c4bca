/-
Values without floats are equal exactly if one becomes the other when entries of
maps change places.

Two maps are compared by the number of their entries, and by what the second one
has under each key of the first. That is one-sided, so nothing in it tells that
it does not matter which of the two comes first. But keys are distinct. As many
entries, all of whose keys are found, are all there is
(`Value.reordered_of_same`): the second map is the first one in another order,
with values in place of equal ones.

So there is a second description of equality, by changes at one place each
(`Value.Reordered`), which can be undone and done one after the other. That
equality is an equivalence is read off it.

# What is left out

A float that is not a number does not equal itself, and an integer equals each
float that it converts to, so with floats equality is neither reflexive nor
transitive.
-/
import DynamicSql.Expr.Eval
import Mathlib.Data.List.Forall2
import Mathlib.Data.List.Nodup
import Mathlib.Data.List.Perm.Subperm

namespace DynamicSql

namespace Value

/-- A value in which there is no float, and in whose maps each key stands
once. -/
inductive Plain : Value → Prop where
  | null : Plain .null
  | bool (b : Bool) : Plain (.bool b)
  | int (i : Int64) : Plain (.int i)
  | string (s : String) : Plain (.string s)
  | list {items : List Value} : (∀ v ∈ items, Plain v) → Plain (.list items)
  | map {entries : List (String × Value)} :
      Bindings.DistinctNames entries → (∀ e ∈ entries, Plain e.2) → Plain (.map entries)

theorem Plain.of_list {items : List Value} (h : Plain (.list items)) : ∀ v ∈ items, v.Plain := by
  cases h with
  | list hitems => exact hitems

theorem Plain.of_map {entries : List (String × Value)} (h : Plain (.map entries)) :
    Bindings.DistinctNames entries ∧ ∀ e ∈ entries, e.2.Plain := by
  cases h with
  | map hdistinct hentries => exact ⟨hdistinct, hentries⟩

/-- The second value is the first one with the entries of maps in another order,
be it at the top or inside of lists and maps. -/
inductive Reordered : Value → Value → Prop where
  | refl (v : Value) : Reordered v v
  | entries {es es' : List (String × Value)} : es.Perm es' → Reordered (.map es) (.map es')
  | item {a b : Value} (before after : List Value) : Reordered a b →
      Reordered (.list (before ++ a :: after)) (.list (before ++ b :: after))
  | entry {a b : Value} (before after : List (String × Value)) (key : String) : Reordered a b →
      Reordered (.map (before ++ (key, a) :: after)) (.map (before ++ (key, b) :: after))
  | trans {a b c : Value} : Reordered a b → Reordered b c → Reordered a c

-- ==================================================== equality, part by part

theorem sameItems_iff {as bs : List Value} :
    sameItems as bs = true ↔ List.Forall₂ (fun a b => a.same b = true) as bs := by
  induction as generalizing bs with
  | nil => cases bs <;> simp [sameItems]
  | cons a as ih =>
    cases bs with
    | nil => simp [sameItems]
    | cons b bs => simp [sameItems, ih]

theorem sameEntries_iff {as : List (String × Value)} {bs : Bindings Value} :
    sameEntries as bs = true
      ↔ ∀ e ∈ as, ∃ b, bs.find? e.1 = some b ∧ e.2.same b = true := by
  induction as with
  | nil => simp [sameEntries]
  | cons e as ih =>
    obtain ⟨key, a⟩ := e
    rw [sameEntries, Bool.and_eq_true, ih, List.forall_mem_cons]
    refine and_congr_left fun _ => ?_
    cases bs.find? key with
    | none => simp
    | some b => simp

theorem same_list {as bs : List Value} :
    same (.list as) (.list bs) = true ↔ List.Forall₂ (fun a b => a.same b = true) as bs := by
  rw [same, sameItems_iff]

theorem same_map {as bs : List (String × Value)} :
    same (.map as) (.map bs) = true ↔ as.length = bs.length
      ∧ ∀ e ∈ as, ∃ b, Bindings.find? bs e.1 = some b ∧ e.2.same b = true := by
  rw [same, Bool.and_eq_true, beq_iff_eq, sameEntries_iff]

/-- The rule for an integer beside a float has no part in this. -/
theorem Plain.equals_eq {a b : Value} (ha : a.Plain) (hb : b.Plain) :
    a.equals b = a.same b := by
  cases ha <;> cases hb <;> rfl

theorem same_refl {a : Value} (ha : a.Plain) : a.same a = true := by
  induction ha with
  | null => rfl
  | bool b => simp [same]
  | int i => simp [same]
  | string s => simp [same]
  | list _ ih => exact same_list.mpr (List.forall₂_same.mpr ih)
  | map hdistinct _ ih =>
    exact same_map.mpr ⟨rfl, fun e he => ⟨e.2, (Bindings.find?_eq_some hdistinct).mpr he, ih e he⟩⟩

/-- Items that are equal to items that are equal to others are equal to those, if
this holds of each. -/
theorem forall₂_trans_of_mem {α : Type} {R : α → α → Prop} {as bs cs : List α}
    (htrans : ∀ a ∈ as, ∀ b ∈ bs, ∀ c, R a b → R b c → R a c) (h : List.Forall₂ R as bs)
    (h' : List.Forall₂ R bs cs) : List.Forall₂ R as cs := by
  induction h generalizing cs with
  | nil => exact h'
  | cons hab _ ih =>
    cases h' with
    | cons hbc hrest =>
      exact .cons (htrans _ List.mem_cons_self _ List.mem_cons_self _ hab hbc)
        (ih (fun a ha b hb => htrans a (List.mem_cons_of_mem _ ha) b (List.mem_cons_of_mem _ hb))
          hrest)

theorem same_trans {a b c : Value} (ha : a.Plain) (hb : b.Plain) (hab : a.same b = true)
    (hbc : b.same c = true) : a.same c = true := by
  induction ha generalizing b c with
  | list _ ih =>
    cases hb with
    | list hbs =>
      cases c with
      | list cs =>
        exact same_list.mpr (forall₂_trans_of_mem
          (fun a ha b hb c => ih a ha (hbs b hb)) (same_list.mp hab) (same_list.mp hbc))
      | _ => simp [same] at hbc
    | _ => simp [same] at hab
  | map _ _ ih =>
    cases hb with
    | map hdistinct hbs =>
      cases c with
      | map cs =>
        obtain ⟨hlength, hfound⟩ := same_map.mp hab
        obtain ⟨hlength', hfound'⟩ := same_map.mp hbc
        refine same_map.mpr ⟨hlength.trans hlength', fun e he => ?_⟩
        obtain ⟨b, hb, hsame⟩ := hfound e he
        have hmem := (Bindings.find?_eq_some hdistinct).mp hb
        obtain ⟨c, hc, hsame'⟩ := hfound' _ hmem
        exact ⟨c, hc, ih e he (hbs _ hmem) hsame hsame'⟩
      | _ => simp [same] at hbc
    | _ => simp [same] at hab
  | _ => cases hb <;> cases c <;> simp_all [same]

-- ============================================================= other orders

theorem Reordered.symm {a b : Value} (h : a.Reordered b) : b.Reordered a := by
  induction h with
  | refl v => exact .refl v
  | entries hperm => exact .entries hperm.symm
  | item before after _ ih => exact .item before after ih
  | entry before after key _ ih => exact .entry before after key ih
  | trans _ _ ih ih' => exact .trans ih' ih

/-- Entries in another order have the same keys. -/
theorem Reordered.plain {a b : Value} (h : a.Reordered b) (ha : a.Plain) : b.Plain := by
  induction h with
  | refl v => exact ha
  | entries hperm =>
    obtain ⟨hdistinct, hes⟩ := ha.of_map
    exact .map ((hperm.map Prod.fst).nodup hdistinct) fun e he => hes e (hperm.mem_iff.mpr he)
  | item before after _ ih =>
    have hitems := ha.of_list
    simp only [List.forall_mem_append, List.forall_mem_cons] at hitems
    refine .list ?_
    simp only [List.forall_mem_append, List.forall_mem_cons]
    exact ⟨hitems.1, ih hitems.2.1, hitems.2.2⟩
  | entry before after key _ ih =>
    obtain ⟨hdistinct, hes⟩ := ha.of_map
    simp only [List.forall_mem_append, List.forall_mem_cons] at hes
    refine .map ?_ ?_
    · simpa [Bindings.DistinctNames] using hdistinct
    · simp only [List.forall_mem_append, List.forall_mem_cons]
      exact ⟨hes.1, ih hes.2.1, hes.2.2⟩
  | trans _ _ ih ih' => exact ih' (ih ha)

/-- Items may be exchanged one after the other. -/
theorem reordered_list {as bs : List Value} (h : List.Forall₂ Reordered as bs)
    (before : List Value) :
    Reordered (.list (before ++ as)) (.list (before ++ bs)) := by
  induction h generalizing before with
  | nil => exact .refl _
  | @cons a b as bs hab _ ih =>
    have hrest := ih (before ++ [b])
    rw [List.append_assoc, List.append_assoc] at hrest
    exact .trans (.item before as hab) hrest

/-- So may the values of entries. -/
theorem reordered_map {es es' : List (String × Value)}
    (h : List.Forall₂ (fun e e' => e.1 = e'.1 ∧ e.2.Reordered e'.2) es es')
    (before : List (String × Value)) :
    Reordered (.map (before ++ es)) (.map (before ++ es')) := by
  induction h generalizing before with
  | nil => exact .refl _
  | @cons e e' es es' he _ ih =>
    obtain ⟨key, a⟩ := e
    obtain ⟨key', b⟩ := e'
    obtain ⟨rfl, hab⟩ := he
    have hrest := ih (before ++ [(key, b)])
    rw [List.append_assoc, List.append_assoc] at hrest
    exact .trans (.entry before es key hab) hrest

/-- The order of entries makes no difference. -/
theorem same_of_reordered {a b : Value} (h : a.Reordered b) (ha : a.Plain) :
    a.same b = true := by
  induction h with
  | refl v => exact same_refl ha
  | entries hperm =>
    obtain ⟨hdistinct, hes⟩ := ha.of_map
    refine same_map.mpr ⟨hperm.length_eq, fun e he => ⟨e.2, ?_, same_refl (hes e he)⟩⟩
    rw [← Bindings.find?_of_perm hperm hdistinct]
    exact (Bindings.find?_eq_some hdistinct).mpr he
  | item before after _ ih =>
    have hitems := ha.of_list
    simp only [List.forall_mem_append, List.forall_mem_cons] at hitems
    obtain ⟨hbefore, hitem, hafter⟩ := hitems
    refine same_list.mpr (List.rel_append ?_ (.cons (ih hitem) ?_))
    · exact List.forall₂_same.mpr fun v hv => same_refl (hbefore v hv)
    · exact List.forall₂_same.mpr fun v hv => same_refl (hafter v hv)
  | @entry a b before after key _ ih =>
    obtain ⟨hdistinct, hes⟩ := ha.of_map
    have hdistinct' : Bindings.DistinctNames (before ++ (key, b) :: after) := by
      simpa [Bindings.DistinctNames] using hdistinct
    have hkept : ∀ e ∈ before ++ (key, b) :: after, e.2.Plain →
        ∃ v, Bindings.find? (before ++ (key, b) :: after) e.1 = some v ∧ e.2.same v = true :=
      fun e he hplain => ⟨e.2, (Bindings.find?_eq_some hdistinct').mpr he, same_refl hplain⟩
    refine same_map.mpr ⟨by simp, fun e he => ?_⟩
    rcases List.mem_append.mp he with hbefore | hrest
    · exact hkept e (List.mem_append_left _ hbefore) (hes e he)
    · rcases List.mem_cons.mp hrest with rfl | hafter
      · exact ⟨b, (Bindings.find?_eq_some hdistinct').mpr (by simp), ih (hes _ he)⟩
      · exact hkept e (by simp [hafter]) (hes e he)
  | trans hab _ ih ih' => exact same_trans ha (hab.plain ha) (ih ha) (ih' (hab.plain ha))

/-- Where equal values are found under all keys of a map, and in as many entries,
they are the other map in the order of this one. -/
theorem perm_of_found {es es' : List (String × Value)} (hdistinct : Bindings.DistinctNames es)
    (hdistinct' : Bindings.DistinctNames es') (hlength : es.length = es'.length)
    (hfound : ∀ e ∈ es, ∃ b, Bindings.find? es' e.1 = some b) :
    (es.map fun e => (e.1, Value.ofOption (Bindings.find? es' e.1))).Perm es' := by
  refine List.Subperm.perm_of_length_le (List.subperm_of_subset ?_ ?_) (by simp [hlength])
  · refine List.Nodup.of_map Prod.fst ?_
    rw [List.map_map]
    exact hdistinct
  · intro e' he'
    obtain ⟨e, he, rfl⟩ := List.mem_map.mp he'
    obtain ⟨b, hb⟩ := hfound e he
    rw [hb]
    exact (Bindings.find?_eq_some hdistinct').mp hb

theorem reordered_of_same {a b : Value} (ha : a.Plain) (hb : b.Plain) (h : a.same b = true) :
    a.Reordered b := by
  induction ha generalizing b with
  | list _ ih =>
    cases hb with
    | list hbs =>
      obtain ⟨hlength, hsame⟩ := List.forall₂_iff_zip.mp (same_list.mp h)
      refine reordered_list (List.forall₂_iff_zip.mpr ⟨hlength, fun hmem => ?_⟩) []
      obtain ⟨hv, hv'⟩ := List.of_mem_zip hmem
      exact ih _ hv (hbs _ hv') (hsame hmem)
    | _ => simp [same] at h
  | @map es hdistinct _ ih =>
    cases hb with
    | @map es' hdistinct' hes' =>
      obtain ⟨hlength, hfound⟩ := same_map.mp h
      refine .trans (reordered_map ?_ []) (.entries (perm_of_found hdistinct hdistinct' hlength
        fun e he => (hfound e he).imp fun _ => And.left))
      refine List.forall₂_map_right_iff.mpr (List.forall₂_same.mpr fun e he => ⟨rfl, ?_⟩)
      obtain ⟨b, hb, hsame⟩ := hfound e he
      rw [hb]
      exact ih e he (hes' _ ((Bindings.find?_eq_some hdistinct').mp hb)) hsame
    | _ => simp [same] at h
  | _ => cases hb <;> simp_all [same, Reordered.refl]

theorem Plain.equals_iff {a b : Value} (ha : a.Plain) (hb : b.Plain) :
    a.equals b = true ↔ a.Reordered b := by
  rw [ha.equals_eq hb]
  exact ⟨reordered_of_same ha hb, fun h => same_of_reordered h ha⟩

end Value

-- ============================================================== expressions

/-- On values without floats the operator `==`, which is also what the items of a
list are searched with, is an equivalence. It is the one that takes no notice of
the order of entries at any depth, and of nothing else. The operator `!=` is its
negation on all values. -/
theorem Value.equals_equivalence :
    Equivalence (fun a b : {v : Value // v.Plain} => a.val.equals b.val = true)
      ∧ (∀ a b : Value, a.Plain → b.Plain → (a.equals b = true ↔ a.Reordered b))
      ∧ (∀ a b : Value, Expr.applyBinary .eq a b = .ok (.bool (a.equals b))
        ∧ Expr.applyBinary .ne a b = .ok (.bool (!a.equals b)))
      ∧ ∀ (items : List Value) (v : Value), Method.call (.list items) "contains" [v]
          = .ok (.bool (items.any fun item => item.equals v)) := by
  refine ⟨⟨?_, ?_, ?_⟩, fun a b ha hb => ha.equals_iff hb, fun a b => ⟨rfl, rfl⟩,
    fun items v => rfl⟩
  · rintro ⟨a, ha⟩
    exact (ha.equals_iff ha).mpr (.refl a)
  · rintro ⟨a, ha⟩ ⟨b, hb⟩ h
    exact (hb.equals_iff ha).mpr ((ha.equals_iff hb).mp h).symm
  · rintro ⟨a, ha⟩ ⟨b, hb⟩ ⟨c, hc⟩ h h'
    exact (ha.equals_iff hc).mpr (((ha.equals_iff hb).mp h).trans ((hb.equals_iff hc).mp h'))

namespace Value

/-- A map whose entries change places, and those of a map in a list in it. -/
def shuffled : Value × Value :=
  (.map [("a", .list [.int 1, .map [("x", .null), ("y", .bool true)]]), ("b", .string "s")],
    .map [("b", .string "s"), ("a", .list [.int 1, .map [("y", .bool true), ("x", .null)]])])

theorem shuffled_plain : shuffled.1.Plain ∧ shuffled.2.Plain := by
  have hinner : Plain (.list [.int 1, .map [("x", .null), ("y", .bool true)]])
      ∧ Plain (.list [.int 1, .map [("y", .bool true), ("x", .null)]]) := by
    constructor <;> refine .list ?_ <;> simp only [List.forall_mem_cons]
    · exact ⟨.int 1, .map (by unfold Bindings.DistinctNames; decide)
        (by simp [Plain.null, Plain.bool]), by simp⟩
    · exact ⟨.int 1, .map (by unfold Bindings.DistinctNames; decide)
        (by simp [Plain.null, Plain.bool]), by simp⟩
  constructor
  · exact .map (by unfold Bindings.DistinctNames; decide) (by simp [hinner.1, Plain.string])
  · exact .map (by unfold Bindings.DistinctNames; decide) (by simp [hinner.2, Plain.string])

theorem equals_equivalence_of_shuffled :
    shuffled.1.Plain ∧ shuffled.2.Plain ∧ shuffled.1.Reordered shuffled.2
      ∧ shuffled.2.equals shuffled.1 = true := by
  obtain ⟨hplain, hplain'⟩ := shuffled_plain
  have hequals : shuffled.1.equals shuffled.2 = true := by decide +kernel
  obtain ⟨hequivalence, hreordered, -, -⟩ := equals_equivalence
  exact ⟨hplain, hplain', (hreordered _ _ hplain hplain').mp hequals,
    hequivalence.symm (x := ⟨_, hplain⟩) (y := ⟨_, hplain'⟩) hequals⟩

end Value

end DynamicSql
