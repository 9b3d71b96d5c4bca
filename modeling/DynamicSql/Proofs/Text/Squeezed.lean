/-
Each run of blanks as one space.

Collapsing a text does this and drops the blanks at both ends
(`toList_collapse`). Squeezing alone goes from left to right and remembers
one thing, whether a blank was there just before: so what it makes of the
characters after a place depends on those before it only if a run goes on
across that place. Behind a character that is not blank, and before one, a
text may be cut and squeezed in parts.
-/
import DynamicSql.Text.Blank

namespace DynamicSql.Text

variable {blank : Bool} {c : Char} {as bs cs : List Char}

/-- The characters with each run of blanks as one space. If `blank` is true
they stand behind a blank, and the run that they begin with is gone. -/
def squeezeFrom (blank : Bool) : List Char → List Char
  | [] => []
  | c :: cs =>
    if isBlank c then
      if blank then squeezeFrom true cs else ' ' :: squeezeFrom true cs
    else c :: squeezeFrom false cs

/-- The text with each run of blanks as one space. -/
def squeeze (s : String) : String := String.ofList (squeezeFrom false s.toList)

theorem ne_of_isBlank {d : Char} (hc : isBlank c = true) (hd : isBlank d = false) : c ≠ d := by
  rintro rfl
  rw [hc] at hd
  cases hd

-- ================================================================= steps

theorem squeezeFrom_cons (h : isBlank c = false) (cs : List Char) :
    squeezeFrom blank (c :: cs) = c :: squeezeFrom false cs := by
  rw [squeezeFrom, h]
  rfl

theorem squeezeFrom_false_blank (h : isBlank c = true) (cs : List Char) :
    squeezeFrom false (c :: cs) = ' ' :: squeezeFrom true cs := by
  rw [squeezeFrom, if_pos h]
  rfl

theorem squeezeFrom_true_blank (h : isBlank c = true) (cs : List Char) :
    squeezeFrom true (c :: cs) = squeezeFrom true cs := by
  rw [squeezeFrom, if_pos h, if_pos rfl]

/-- Characters that begin with no blank are squeezed alike wherever they
stand. -/
theorem squeezeFrom_eq_false (h : ∀ c ∈ cs.head?, isBlank c = false) :
    squeezeFrom blank cs = squeezeFrom false cs := by
  cases cs with
  | nil => rfl
  | cons c cs => rw [squeezeFrom_cons (h c rfl), squeezeFrom_cons (h c rfl)]

/-- A part that ends in no blank is squeezed by itself. -/
theorem squeezeFrom_append (h : isBlank c = false) (as bs : List Char) :
    squeezeFrom blank (as ++ c :: bs) = squeezeFrom blank as ++ c :: squeezeFrom false bs := by
  induction as generalizing blank with
  | nil => exact squeezeFrom_cons h bs
  | cons a as ih =>
    cases ha : isBlank a with
    | false =>
      rw [List.cons_append, squeezeFrom_cons ha, squeezeFrom_cons ha, ih]
      rfl
    | true =>
      cases blank with
      | false =>
        rw [List.cons_append, squeezeFrom_false_blank ha, squeezeFrom_false_blank ha, ih]
        rfl
      | true => rw [List.cons_append, squeezeFrom_true_blank ha, squeezeFrom_true_blank ha, ih]

/-- Two parts are squeezed by themselves if the second begins with no
blank. -/
theorem squeezeFrom_append_of_head (h : ∀ c ∈ bs.head?, isBlank c = false) (as : List Char) :
    squeezeFrom blank (as ++ bs) = squeezeFrom blank as ++ squeezeFrom false bs := by
  cases bs with
  | nil => rw [List.append_nil, squeezeFrom, List.append_nil]
  | cons c bs => rw [squeezeFrom_append (h c rfl), squeezeFrom_cons (h c rfl)]

/-- So they are if the first ends in none. -/
theorem squeezeFrom_concat_append (h : isBlank c = false) (as bs : List Char) :
    squeezeFrom blank (as ++ [c] ++ bs)
      = squeezeFrom blank (as ++ [c]) ++ squeezeFrom false bs := by
  rw [List.append_assoc, List.singleton_append, squeezeFrom_append h, squeezeFrom_append h,
    squeezeFrom, List.append_assoc, List.singleton_append]

/-- Squeezing keeps a first character that is not blank. -/
theorem head?_squeezeFrom_false (cs : List Char) :
    (squeezeFrom false cs).head? = cs.head?.map fun c => if isBlank c then ' ' else c := by
  cases cs with
  | nil => rfl
  | cons c cs =>
    cases h : isBlank c with
    | false => rw [squeezeFrom_cons h]; simp [h]
    | true => rw [squeezeFrom_false_blank h]; simp [h]

/-- Nothing comes of it but what was there, and spaces. -/
theorem mem_squeezeFrom {d : Char} (h : d ∈ squeezeFrom blank cs) : d = ' ' ∨ d ∈ cs := by
  induction cs generalizing blank with
  | nil => cases h
  | cons c cs ih =>
    have htail : ∀ {b}, d ∈ squeezeFrom b cs → d = ' ' ∨ d ∈ c :: cs := fun hd =>
      (ih hd).imp_right (List.mem_cons_of_mem c)
    cases hc : isBlank c with
    | false =>
      rw [squeezeFrom_cons hc] at h
      obtain rfl | h := List.mem_cons.mp h
      · exact .inr List.mem_cons_self
      · exact htail h
    | true =>
      cases blank with
      | false =>
        rw [squeezeFrom_false_blank hc] at h
        obtain rfl | h := List.mem_cons.mp h
        · exact .inl rfl
        · exact htail h
      | true =>
        rw [squeezeFrom_true_blank hc] at h
        exact htail h

/-- So a class that all characters and the space are of is kept. -/
theorem all_squeezeFrom {p : Char → Bool} (hp : p ' ' = true) (h : cs.all p = true) :
    (squeezeFrom blank cs).all p = true :=
  List.all_eq_true.mpr fun _ hd => (mem_squeezeFrom hd).elim (fun heq => heq ▸ hp)
    fun hmem => List.all_eq_true.mp h _ hmem

-- ======================================================= runs of a class

section Runs

variable {p : Char → Bool}

/-- A run that blanks end is not touched. -/
theorem takeWhile_squeezeFrom (hp : ∀ c, isBlank c = true → p c = false) (cs : List Char) :
    (squeezeFrom false cs).takeWhile p = cs.takeWhile p := by
  induction cs with
  | nil => rfl
  | cons c cs ih =>
    cases hc : isBlank c with
    | false => rw [squeezeFrom_cons hc, List.takeWhile_cons, List.takeWhile_cons, ih]
    | true =>
      rw [squeezeFrom_false_blank hc, List.takeWhile_cons, List.takeWhile_cons, hp c hc,
        hp ' ' rfl]
      rfl

/-- What follows it is squeezed. -/
theorem dropWhile_squeezeFrom (hp : ∀ c, isBlank c = true → p c = false) (cs : List Char) :
    (squeezeFrom false cs).dropWhile p = squeezeFrom false (cs.dropWhile p) := by
  induction cs with
  | nil => rfl
  | cons c cs ih =>
    cases hc : isBlank c with
    | false =>
      rw [squeezeFrom_cons hc, List.dropWhile_cons, List.dropWhile_cons]
      split
      · exact ih
      · exact (squeezeFrom_cons hc cs).symm
    | true =>
      rw [squeezeFrom_false_blank hc, List.dropWhile_cons, List.dropWhile_cons, hp c hc,
        hp ' ' rfl]
      exact (squeezeFrom_false_blank hc cs).symm

/-- A run that blanks belong to is squeezed. -/
theorem takeWhile_squeezeFrom_of_blank (hp : ∀ c, isBlank c = true → p c = true)
    (blank : Bool) (cs : List Char) :
    (squeezeFrom blank cs).takeWhile p = squeezeFrom blank (cs.takeWhile p) := by
  induction cs generalizing blank with
  | nil => rfl
  | cons c cs ih =>
    cases hc : isBlank c with
    | false =>
      rw [squeezeFrom_cons hc, List.takeWhile_cons, List.takeWhile_cons]
      split
      · rw [ih, squeezeFrom_cons hc]
      · rfl
    | true =>
      rw [List.takeWhile_cons, if_pos (hp c hc)]
      cases blank with
      | false =>
        rw [squeezeFrom_false_blank hc, squeezeFrom_false_blank hc, List.takeWhile_cons,
          if_pos (hp ' ' rfl), ih]
      | true => rw [squeezeFrom_true_blank hc, squeezeFrom_true_blank hc, ih]

/-- What follows it is squeezed by itself. -/
theorem dropWhile_squeezeFrom_of_blank (hp : ∀ c, isBlank c = true → p c = true)
    (blank : Bool) (cs : List Char) :
    (squeezeFrom blank cs).dropWhile p = squeezeFrom false (cs.dropWhile p) := by
  induction cs generalizing blank with
  | nil => rfl
  | cons c cs ih =>
    cases hc : isBlank c with
    | false =>
      rw [squeezeFrom_cons hc, List.dropWhile_cons, List.dropWhile_cons]
      split
      · exact ih false
      · exact (squeezeFrom_cons hc cs).symm
    | true =>
      rw [List.dropWhile_cons, if_pos (hp c hc)]
      cases blank with
      | false =>
        rw [squeezeFrom_false_blank hc, List.dropWhile_cons, if_pos (hp ' ' rfl)]
        exact ih true
      | true =>
        rw [squeezeFrom_true_blank hc]
        exact ih true

end Runs

theorem squeezeFrom_false_eq_nil (h : squeezeFrom false cs = []) : cs = [] := by
  have hhead := head?_squeezeFrom_false cs
  rw [h] at hhead
  exact List.head?_eq_none_iff.mp (Option.map_eq_none_iff.mp hhead.symm)

/-- Squeezing leaves something of a text that is not empty. -/
theorem isEmpty_squeeze (s : String) : (squeeze s).isEmpty = s.isEmpty := by
  have hiff : (squeeze s).isEmpty = true ↔ s.isEmpty = true := by
    rw [String.isEmpty_iff, String.isEmpty_iff]
    constructor
    · intro h
      have hnil : squeezeFrom false s.toList = [] := by
        rw [squeeze] at h
        rw [← String.toList_ofList (l := squeezeFrom false s.toList), h]
        rfl
      rw [← String.ofList_toList (s := s), squeezeFrom_false_eq_nil hnil]
    · rintro rfl
      rfl
  exact Bool.eq_iff_iff.mpr hiff

/-- A text that has no space when it is squeezed was not changed. -/
theorem eq_of_squeeze_eq {s t : String} (h : squeeze s = t) (ht : ' ' ∉ t.toList) : s = t := by
  have hlist : ∀ cs : List Char, ' ' ∉ squeezeFrom false cs → squeezeFrom false cs = cs := by
    intro cs
    induction cs with
    | nil => exact fun _ => rfl
    | cons c cs ih =>
      intro hcs
      cases hc : isBlank c with
      | true =>
        rw [squeezeFrom_false_blank hc] at hcs
        exact absurd List.mem_cons_self hcs
      | false =>
        rw [squeezeFrom_cons hc] at hcs ⊢
        rw [ih fun hmem => hcs (List.mem_cons_of_mem c hmem)]
  subst h
  rw [squeeze, String.toList_ofList] at ht
  rw [squeeze, hlist s.toList ht, String.ofList_toList]

-- ============================================================ collapsing

/-- Words, each with a space before it. -/
def spacedWords (words : List (List Char)) : List Char := words.flatMap (' ' :: ·)

/-- Words with one space between each two of them. -/
def joinedWords : List (List Char) → List Char
  | [] => []
  | word :: rest => word ++ spacedWords rest

theorem spacedWords_eq {words : List (List Char)} (h : words ≠ []) :
    spacedWords words = ' ' :: joinedWords words := by
  cases words with
  | nil => exact absurd rfl h
  | cons word rest => rfl

/-- Characters are squeezed to their words, and a space for the run of blanks
that they may end with. -/
theorem squeezeFrom_eq_words (cs : List Char) :
    (∃ rest, (rest = [] ∨ rest = [' ']) ∧ squeezeFrom false cs
        = (leadingWord cs).1 ++ (spacedWords (leadingWord cs).2 ++ rest))
      ∧ ∃ rest, (rest = [] ∨ words cs ≠ [] ∧ rest = [' '])
        ∧ squeezeFrom true cs = joinedWords (words cs) ++ rest := by
  induction cs with
  | nil => exact ⟨⟨[], .inl rfl, rfl⟩, [], .inl rfl, rfl⟩
  | cons c cs ih =>
    obtain ⟨⟨rest, hrest, hfalse⟩, rest', hrest', htrue⟩ := ih
    cases hc : isBlank c with
    | false =>
      have hlead : leadingWord (c :: cs) = (c :: (leadingWord cs).1, (leadingWord cs).2) := by
        simp only [leadingWord, hc, Bool.false_eq_true, if_false]
      have hwords : words (c :: cs) = (c :: (leadingWord cs).1) :: (leadingWord cs).2 := by
        simp only [words, hlead, consWord, List.isEmpty_cons, Bool.false_eq_true, if_false]
      rw [squeezeFrom_cons hc, squeezeFrom_cons hc, hfalse, hlead, hwords]
      refine ⟨⟨rest, hrest, rfl⟩, rest, hrest.imp_right fun h => ⟨List.cons_ne_nil _ _, h⟩, ?_⟩
      simp only [joinedWords, List.cons_append, List.append_assoc]
    | true =>
      have hlead : leadingWord (c :: cs) = ([], words cs) := by
        simp only [leadingWord, hc, if_true, words]
      have hwords : words (c :: cs) = words cs := by
        rw [words, hlead]
        rfl
      rw [squeezeFrom_false_blank hc, squeezeFrom_true_blank hc, hlead, hwords]
      refine ⟨?_, rest', hrest', htrue⟩
      by_cases hnil : words cs = []
      · obtain rfl := hrest'.resolve_right fun h => h.1 hnil
        exact ⟨[' '], .inr rfl, by rw [htrue, hnil]; rfl⟩
      · exact ⟨rest', hrest'.imp_right And.right, by rw [htrue, spacedWords_eq hnil]; rfl⟩

theorem toList_collapse_eq_words (s : String) :
    (collapse s).toList = joinedWords (words s.toList) := by
  unfold collapse
  cases words s.toList with
  | nil => rfl
  | cons word rest =>
    induction rest generalizing word with
    | nil => simp [joinedWords, spacedWords]
    | cons next rest ih =>
      have h := ih next
      rw [List.map_cons] at h
      rw [List.map_cons, List.map_cons, String.intercalate_cons_cons, String.toList_append,
        String.toList_append, h, String.toList_ofList]
      simp [joinedWords, spacedWords]

/-- A text that is collapsed is squeezed, without a space at its beginning
and perhaps without one at its end. -/
theorem toList_collapse (s : String) :
    squeezeFrom true s.toList = (collapse s).toList
      ∨ squeezeFrom true s.toList = (collapse s).toList ++ [' '] := by
  obtain ⟨-, rest, hrest, htrue⟩ := squeezeFrom_eq_words s.toList
  rw [toList_collapse_eq_words, htrue]
  obtain rfl | ⟨-, rfl⟩ := hrest
  · exact .inl (List.append_nil _)
  · exact .inr rfl

theorem all_isBlank_squeezeFrom (blank : Bool) (cs : List Char) :
    (squeezeFrom blank cs).all isBlank = cs.all isBlank := by
  induction cs generalizing blank with
  | nil => rfl
  | cons c cs ih =>
    cases hc : isBlank c with
    | false => rw [squeezeFrom_cons hc, List.all_cons, List.all_cons, hc, Bool.false_and,
        Bool.false_and]
    | true =>
      rw [List.all_cons, hc, Bool.true_and]
      cases blank with
      | false =>
        rw [squeezeFrom_false_blank hc, List.all_cons, ih]
        rfl
      | true => rw [squeezeFrom_true_blank hc, ih]

/-- A text that is collapsed is blank just if it was. -/
theorem allBlank_collapse (s : String) : allBlank (collapse s) = allBlank s := by
  have hsqueezed := all_isBlank_squeezeFrom true s.toList
  rw [allBlank, allBlank, ← hsqueezed]
  obtain h | h := toList_collapse s
  · rw [h]
  · rw [h, List.all_append]
    exact (Bool.and_true _).symm

end DynamicSql.Text
