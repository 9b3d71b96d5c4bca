/-
Texts in which the markers of parameters are left open.

What a script renders to depends on the marker that stands for a parameter,
but only in that the marker is copied into the text. A sketch is a text as it
is before the markers are chosen: pieces of text, and between them the numbers
of the parameters whose markers go there. Filling a sketch gives the text.

# Markers that can be seen

Blank text pays no separators, and empty text is not written at all. So
whether a text is blank must not depend on the markers chosen, and it does
not as long as none of them is blank: a text with a marker in it never is.

# Reading a sketch

A sketch whose numbers are `0, 1, …, n - 1` in this order is the same thing
as `n + 1` texts, those between the markers (`fill_eq_weave`). With one marker
for all parameters they are put together by `String.intercalate`
(`weave_const`).
-/
import DynamicSql.Text.Blank

namespace DynamicSql

/-- A piece of a text: characters, or the place of a parameter's marker. -/
inductive Ink where
  | text (s : String)
  | marker (number : Nat)
deriving DecidableEq, Repr, Inhabited

abbrev Sketch := List Ink

/-- A marker for each parameter, none of them blank. -/
abbrev Labels := { label : Nat → String // ∀ n, Text.allBlank (label n) = false }

/-- The same marker for all parameters. -/
def Labels.const (m : String) (h : Text.allBlank m = false) : Labels := ⟨fun _ => m, fun _ => h⟩

-- ============================================================== blankness

theorem Text.allBlank_append (a b : String) :
    Text.allBlank (a ++ b) = (Text.allBlank a && Text.allBlank b) := by
  simp only [Text.allBlank, String.toList_append, List.all_append]

theorem Text.isEmpty_append (a b : String) :
    (a ++ b).isEmpty = (a.isEmpty && b.isEmpty) := by
  rw [Bool.eq_iff_iff]
  simp

/-- Empty text is blank. -/
theorem Text.isEmpty_eq_false {s : String} (h : Text.allBlank s = false) :
    s.isEmpty = false := by
  cases he : s.isEmpty with
  | false => rfl
  | true =>
    rw [String.isEmpty_iff] at he
    subst he
    cases h

namespace Sketch

/-- The text of a sketch with the markers put in. -/
def fill (label : Nat → String) : Sketch → String
  | [] => ""
  | .text s :: rest => s ++ fill label rest
  | .marker n :: rest => label n ++ fill label rest

/-- The numbers of the parameters, in the order of their markers. -/
def numbers : Sketch → List Nat
  | [] => []
  | .text _ :: rest => numbers rest
  | .marker n :: rest => n :: numbers rest

/-- True of a sketch without markers that is blank. -/
def isBlank : Sketch → Bool
  | [] => true
  | .text s :: rest => Text.allBlank s && isBlank rest
  | .marker _ :: _ => false

/-- True of a sketch without markers that is empty. -/
def isVoid : Sketch → Bool
  | [] => true
  | .text s :: rest => s.isEmpty && isVoid rest
  | .marker _ :: _ => false

@[simp] theorem fill_text (label : Nat → String) (s : String) : fill label [.text s] = s :=
  String.append_empty

@[simp] theorem fill_append (label : Nat → String) (t u : Sketch) :
    fill label (t ++ u) = fill label t ++ fill label u := by
  induction t with
  | nil => exact String.empty_append.symm
  | cons i rest ih =>
    cases i with
    | text s =>
      show s ++ fill label (rest ++ u) = s ++ fill label rest ++ fill label u
      rw [ih, String.append_assoc]
    | marker n =>
      show label n ++ fill label (rest ++ u) = label n ++ fill label rest ++ fill label u
      rw [ih, String.append_assoc]

@[simp] theorem numbers_append (t u : Sketch) :
    numbers (t ++ u) = numbers t ++ numbers u := by
  induction t with
  | nil => rfl
  | cons i rest ih =>
    cases i with
    | text s => exact ih
    | marker n => exact congrArg (n :: ·) ih

/-- Whether a filled sketch is blank does not depend on the markers. -/
theorem allBlank_fill (label : Labels) (t : Sketch) :
    Text.allBlank (fill label.1 t) = isBlank t := by
  induction t with
  | nil => rfl
  | cons i rest ih =>
    cases i with
    | text s => rw [fill, isBlank, Text.allBlank_append, ih]
    | marker n => rw [fill, isBlank, Text.allBlank_append, label.2 n, Bool.false_and]

/-- Whether a filled sketch is empty does not depend on the markers. -/
theorem isEmpty_fill (label : Labels) (t : Sketch) : (fill label.1 t).isEmpty = isVoid t := by
  induction t with
  | nil => rfl
  | cons i rest ih =>
    cases i with
    | text s => rw [fill, isVoid, Text.isEmpty_append, ih]
    | marker n =>
      rw [fill, isVoid, Text.isEmpty_append, Text.isEmpty_eq_false (label.2 n), Bool.false_and]

/-- What is empty is blank. -/
theorem isBlank_of_isVoid {t : Sketch} (h : isVoid t = true) : isBlank t = true := by
  induction t with
  | nil => rfl
  | cons i rest ih =>
    cases i with
    | text s =>
      obtain ⟨hs, hrest⟩ := Bool.and_eq_true_iff.mp h
      rw [String.isEmpty_iff] at hs
      subst hs
      exact ih hrest
    | marker n => cases h

/-- No marker is lost with a sketch that is not written. -/
theorem numbers_of_isVoid {t : Sketch} (h : isVoid t = true) : numbers t = [] := by
  induction t with
  | nil => rfl
  | cons i rest ih =>
    cases i with
    | text s => exact ih (Bool.and_eq_true_iff.mp h).2
    | marker n => cases h

-- ============================================================== joining

/-- Sketches one after the other with a text between each two. -/
def join (between : String) : List Sketch → Sketch
  | [] => []
  | [t] => t
  | t :: u :: rest => t ++ .text between :: join between (u :: rest)

theorem fill_join (label : Nat → String) (between : String) (ts : List Sketch) :
    fill label (join between ts) = between.intercalate (ts.map (fill label)) := by
  induction ts with
  | nil => rfl
  | cons t rest ih =>
    cases rest with
    | nil => exact String.intercalate_singleton.symm
    | cons u rest =>
      show fill label (t ++ .text between :: join between (u :: rest)) = _
      rw [fill_append, fill, ih, List.map_cons, List.map_cons, List.map_cons,
        String.intercalate_cons_cons, String.append_assoc]

theorem numbers_join (between : String) (ts : List Sketch) :
    numbers (join between ts) = ts.flatMap numbers := by
  induction ts with
  | nil => rfl
  | cons t rest ih =>
    cases rest with
    | nil => exact (List.append_nil _).symm
    | cons u rest =>
      show numbers (t ++ .text between :: join between (u :: rest)) = _
      rw [numbers_append, numbers, ih]
      rfl

-- ============================================================== reading

/-- The texts between the markers: one more than there are markers. -/
def texts : Sketch → List String
  | [] => [""]
  | .text s :: rest =>
    match texts rest with
    | [] => [s]
    | c :: cs => (s ++ c) :: cs
  | .marker _ :: rest => "" :: texts rest

theorem length_texts (t : Sketch) : (texts t).length = (numbers t).length + 1 := by
  induction t with
  | nil => rfl
  | cons i rest ih =>
    cases i with
    | text s =>
      rw [texts, numbers, ← ih]
      cases h : texts rest with
      | nil =>
        rw [h] at ih
        cases ih
      | cons c cs => rfl
    | marker n => exact congrArg (· + 1) ih

end Sketch

/-- Texts with the markers of parameters between them, which are numbered
from `first` on. -/
def weave (label : Nat → String) (first : Nat) : List String → String
  | [] => ""
  | [c] => c
  | c :: c' :: cs => c ++ (label first ++ weave label (first + 1) (c' :: cs))

/-- With one marker for all, it stands between each two of the texts. -/
theorem weave_const (m : String) (first : Nat) (cs : List String) :
    weave (fun _ => m) first cs = m.intercalate cs := by
  induction cs generalizing first with
  | nil => rfl
  | cons c rest ih =>
    cases rest with
    | nil => exact String.intercalate_singleton.symm
    | cons c' cs =>
      rw [weave, ih, String.intercalate_cons_cons, String.append_assoc]

theorem weave_append_head (label : Nat → String) (first : Nat) (s c : String)
    (cs : List String) : weave label first ((s ++ c) :: cs) = s ++ weave label first (c :: cs) := by
  cases cs with
  | nil => rfl
  | cons c' cs => rw [weave, weave, String.append_assoc]

/-- A sketch whose parameters are numbered in order is filled by putting their
markers between its texts. -/
theorem Sketch.fill_eq_weave (label : Nat → String) (first n : Nat) (t : Sketch)
    (h : numbers t = List.range' first n) : fill label t = weave label first (texts t) := by
  induction t generalizing first n with
  | nil => rfl
  | cons i rest ih =>
    have hlen := length_texts rest
    cases i with
    | text s =>
      rw [fill, texts, ih first n h]
      cases hr : texts rest with
      | nil =>
        rw [hr] at hlen
        cases hlen
      | cons c cs => exact (weave_append_head label first s c cs).symm
    | marker k =>
      cases n with
      | zero => cases h
      | succ n =>
        rw [numbers, List.range'_succ, List.cons.injEq] at h
        obtain ⟨rfl, h⟩ := h
        rw [fill, texts, ih (k + 1) n h]
        cases hr : texts rest with
        | nil =>
          rw [hr] at hlen
          cases hlen
        | cons c cs => exact String.empty_append.symm

end DynamicSql
