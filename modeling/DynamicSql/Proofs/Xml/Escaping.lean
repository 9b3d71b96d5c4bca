/-
Characters that are written as references come back when references are
replaced.

Text may hold no `&` and no `<` as they are, a value in double quotes no double
quote either, and `>` is written as a reference wherever it stands. Each of the
four has a name, and replacing references by what their names stand for undoes
the writing, wherever the text stands and whatever is around it.
-/
import DynamicSql.Xml.Entity

namespace DynamicSql.Xml

variable {quoted : Bool}

-- =============================================================== writing

/-- The name of the reference that is written for a character; in values in
double quotes a double quote has one. -/
def referenceName? (quoted : Bool) (c : Char) : Option (List Char) :=
  if c = '&' then some ['a', 'm', 'p']
  else if c = '<' then some ['l', 't']
  else if c = '>' then some ['g', 't']
  else if quoted ∧ c = '"' then some ['q', 'u', 'o', 't']
  else none

/-- A character as it is written. -/
def escapeChar (quoted : Bool) (c : Char) : List Char :=
  match referenceName? quoted c with
  | some name => '&' :: (name ++ [';'])
  | none => [c]

/-- Characters as they are written. -/
def escape (quoted : Bool) (cs : List Char) : List Char := cs.flatMap (escapeChar quoted)

theorem escape_cons (c : Char) (cs : List Char) :
    escape quoted (c :: cs) = escapeChar quoted c ++ escape quoted cs := List.flatMap_cons

theorem escapeChar_ne_nil (c : Char) : escapeChar quoted c ≠ [] := by
  unfold escapeChar
  split <;> simp

theorem escape_ne_nil {cs : List Char} (h : cs ≠ []) : escape quoted cs ≠ [] := by
  cases cs with
  | nil => exact absurd rfl h
  | cons c rest => simp [escape_cons, escapeChar_ne_nil]

/-- The characters that have a reference, and the names of these. -/
theorem referenceName?_eq_some {c : Char} {name : List Char}
    (h : referenceName? quoted c = some name) :
    (c = '&' ∧ name = ['a', 'm', 'p']) ∨ (c = '<' ∧ name = ['l', 't'])
      ∨ (c = '>' ∧ name = ['g', 't']) ∨ (c = '"' ∧ name = ['q', 'u', 'o', 't']) := by
  unfold referenceName? at h
  split at h
  · next hc => exact .inl ⟨hc, (Option.some.inj h).symm⟩
  · split at h
    · next hc => exact .inr (.inl ⟨hc, (Option.some.inj h).symm⟩)
    · split at h
      · next hc => exact .inr (.inr (.inl ⟨hc, (Option.some.inj h).symm⟩))
      · split at h
        · next hc => exact .inr (.inr (.inr ⟨hc.2, (Option.some.inj h).symm⟩))
        · cases h

/-- The characters that references are written with. -/
def referenceChars : List Char := ['&', ';', 'a', 'm', 'p', 'l', 't', 'g', 'q', 'u', 'o']

/-- A character that is itself written as a reference, and that none is written
with, is in nothing that is written. -/
theorem not_mem_escape {d : Char} (hd : (referenceName? quoted d).isSome = true)
    (hother : d ∉ referenceChars) (cs : List Char) : d ∉ escape quoted cs := by
  intro hmem
  obtain ⟨c, -, hc⟩ := List.mem_flatMap.mp hmem
  unfold escapeChar at hc
  split at hc
  · next name hname =>
    have hchars : ∀ x ∈ '&' :: (name ++ [';']), x ∈ referenceChars := by
      rcases referenceName?_eq_some hname with ⟨-, rfl⟩ | ⟨-, rfl⟩ | ⟨-, rfl⟩ | ⟨-, rfl⟩ <;>
        simp [referenceChars]
    exact hother (hchars d hc)
  · next hname =>
    obtain rfl := List.mem_singleton.mp hc
    rw [hname] at hd
    cases hd

theorem bracket_not_mem_escape (cs : List Char) : '<' ∉ escape quoted cs :=
  not_mem_escape (by cases quoted <;> rfl) (by decide) cs

theorem quote_not_mem_escape (cs : List Char) : '"' ∉ escape true cs :=
  not_mem_escape rfl (by decide) cs

-- =============================================================== reading

/-- A name ends at the semicolon behind it. -/
theorem referenceEnd?_append {name : List Char} (h : ∀ c ∈ name, c ≠ ';' ∧ c ≠ '&')
    (rest : List Char) : referenceEnd? (name ++ ';' :: rest) = some (name, rest) := by
  induction name with
  | nil => rfl
  | cons c name ih =>
    obtain ⟨hsemicolon, hampersand⟩ := h c List.mem_cons_self
    rw [List.cons_append, referenceEnd?, if_neg hsemicolon, if_neg hampersand,
      ih fun d hd => h d (List.mem_cons_of_mem _ hd)]
    rfl

theorem unescapeFrom_plain {c : Char} (h : c ≠ '&') (stop offset : Nat) (cs : List Char) :
    unescapeFrom stop offset (c :: cs)
      = (unescapeFrom stop (offset + c.utf8Size) cs).map (c :: ·) := by
  rw [unescapeFrom, if_neg h]

/-- A reference is replaced by the character that its name stands for. -/
theorem unescapeFrom_reference {name : List Char} {c : Char} {stop offset : Nat}
    (hname : ∀ d ∈ name, d ≠ ';' ∧ d ≠ '&') (hresolve : resolve (offset + 1) name = .ok c)
    (rest : List Char) :
    unescapeFrom stop offset ('&' :: (name ++ ';' :: rest))
      = (unescapeFrom stop (offset + 1 + byteLength name + 1) rest).map (c :: ·) := by
  rw [unescapeFrom, if_pos rfl]
  split
  · next hend =>
    rw [referenceEnd?_append hname] at hend
    cases hend
  · next found after hend =>
    rw [referenceEnd?_append hname] at hend
    obtain ⟨rfl, rfl⟩ := Prod.mk.inj (Option.some.inj hend)
    rw [hresolve]
    cases unescapeFrom stop (offset + 1 + byteLength name + 1) rest <;> rfl

/-- A character that was written comes back. -/
theorem unescapeFrom_escapeChar (c : Char) (stop offset : Nat) (rest : List Char) :
    ∃ next, unescapeFrom stop offset (escapeChar quoted c ++ rest)
      = (unescapeFrom stop next rest).map (c :: ·) := by
  unfold escapeChar
  split
  · next name hname =>
    rw [List.cons_append, List.append_assoc]
    have hresolve : (∀ d ∈ name, d ≠ ';' ∧ d ≠ '&') ∧ resolve (offset + 1) name = .ok c := by
      rcases referenceName?_eq_some hname with ⟨rfl, rfl⟩ | ⟨rfl, rfl⟩ | ⟨rfl, rfl⟩ | ⟨rfl, rfl⟩ <;>
        exact ⟨by simp, rfl⟩
    exact ⟨_, unescapeFrom_reference hresolve.1 hresolve.2 rest⟩
  · next hname =>
    have hc : c ≠ '&' := by
      rintro rfl
      cases hname
    exact ⟨_, unescapeFrom_plain hc stop offset rest⟩

theorem unescapeFrom_escape (cs : List Char) (stop offset : Nat) :
    unescapeFrom stop offset (escape quoted cs) = .ok cs := by
  induction cs generalizing offset with
  | nil =>
    show unescapeFrom stop offset [] = _
    rw [unescapeFrom]
  | cons c rest ih =>
    obtain ⟨next, hnext⟩ := @unescapeFrom_escapeChar quoted c stop offset
      (escape quoted rest)
    rw [escape_cons, hnext, ih]
    rfl

/-- What was written is read again. -/
theorem unescape_escape (text : String) : unescape (escape quoted text.toList) = .ok text := by
  rw [unescape, unescapeFrom_escape]
  exact congrArg Except.ok (String.ofList_toList)

end DynamicSql.Xml
