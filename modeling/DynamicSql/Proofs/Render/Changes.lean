/-
What a render does to its context, one thing at a time.

A render is made of a handful of changes: it enters and leaves scopes and
iterations, binds variables, writes text, collects parameters, sets the marks
of choices. A list of them takes a context through others to a last one, and a
property that each change keeps holds of all contexts on the way
(`forall_mem_passed`). These are more than a course tells of, since a course
has only the contexts at its moments.

# Courses are such lists

The moments of a course lie on the way of changes that lead from where it
begins to where it ends (`Along`). Iterations are entered at their moments and
nowhere else. Every render has such changes, also one that fails
(`exists_along`). That is stepwise, since a course is put together of the very
changes, one after the other.
-/
import DynamicSql.Proofs.Render.Course

namespace DynamicSql

namespace Context

/-- A change of a context. -/
inductive Change where
  | ask (text : String)
  | addValue (value : Value)
  | addMapping (mapping : Parameter.Mapping)
  | put (name : String) (value : Value)
  | pushScope
  | popScope
  | append (text : String)
  /-- An iteration begins, with the next number. -/
  | enter (item index separator : Option String)
  /-- The innermost iteration is over. -/
  | leave
  | mark (breaks : Bool)
  /-- The marks of the choice around are put back. -/
  | restore (matched broke : Bool)

def Change.enters : Change → Bool
  | .enter _ _ _ => true
  | _ => false

/-- The context with a change made. An iteration has a scope of its own, which
is another change. -/
def change (c : Context) : Change → Context
  | .ask text => c.ask text
  | .addValue value => c.addValue value
  | .addMapping mapping => c.addMapping mapping
  | .put name value => c.put name value
  | .pushScope => c.pushScope
  | .popScope => c.popScope
  | .append text => c.append text
  | .enter item index separator =>
    { c with
      frames := ⟨separator, false, item, index, c.iterations⟩ :: c.frames
      iterations := c.iterations + 1 }
  | .leave => { c with frames := c.frames.tail }
  | .mark breaks => c.mark breaks
  | .restore matched broke => { c with matched := matched, broke := broke }

/-- The context after some changes. -/
def changed (c : Context) (changes : List Change) : Context := changes.foldl change c

/-- The contexts on the way, from the first to the last one. -/
def passed (c : Context) : List Change → List Context
  | [] => [c]
  | ch :: rest => c :: (c.change ch).passed rest

/-- What each change keeps holds all the way. -/
theorem forall_mem_passed {P : Context → Prop} (hstep : ∀ {c} ch, P c → P (c.change ch))
    {c : Context} (h : P c) (changes : List Change) : ∀ d ∈ c.passed changes, P d := by
  induction changes generalizing c with
  | nil => exact List.forall_mem_singleton.mpr h
  | cons ch rest ih => exact List.forall_mem_cons.mpr ⟨h, ih (hstep ch h)⟩

end Context

namespace Render

open Context (Change)
open Template (Node LoopHead)

/-- The changes lead from one context to the other and pass the moments in
their order, each in its context. An iteration is entered at its moment, and a
scope before it. -/
inductive Along : Context → List Change → List Moment → Context → Prop
  | done (c : Context) : Along c [] [] c
  | change {c d : Context} {changes : List Change} {t : List Moment} (ch : Change)
    (hch : ch.enters = false) (h : Along (c.change ch) changes t d) : Along c (ch :: changes) t d
  | node {c d : Context} {changes : List Change} {t : List Moment} (n : Node)
    (h : Along c changes t d) : Along c changes (.node n c :: t) d
  | parameter {c d : Context} {changes : List Change} {t : List Moment} (m : Parameter.Mapping)
    (h : Along c changes t d) : Along c changes (.parameter m c :: t) d
  | iteration {c d : Context} {changes : List Change} {t : List Moment} (head : LoopHead)
    (separator : Option String)
    (h : Along (c.enterIteration head.item head.index separator) changes t d) :
    Along c (.pushScope :: .enter head.item head.index separator :: changes)
      (.iteration head c :: t) d

namespace Along

variable {c d e : Context} {t t' : List Moment} {changes changes' : List Change}

theorem single (c : Context) (ch : Change) (hch : ch.enters = false) :
    Along c [ch] [] (c.change ch) := .change ch hch (.done _)

theorem append (h : Along c changes t d) (h' : Along d changes' t' e) :
    Along c (changes ++ changes') (t ++ t') e := by
  induction h with
  | done c => exact h'
  | change ch hch _ ih => exact .change ch hch (ih h')
  | node n _ ih => exact .node n (ih h')
  | parameter m _ ih => exact .parameter m (ih h')
  | iteration head separator _ ih => exact .iteration head separator (ih h')

/-- One more change at the end. -/
theorem concat (h : Along c changes t d) (ch : Change) (hch : ch.enters = false) :
    Along c (changes ++ [ch]) t (d.change ch) := by
  have hboth := h.append (single d ch hch)
  rwa [List.append_nil] at hboth

/-- The changes lead to the last context. -/
theorem changed_eq (h : Along c changes t d) : c.changed changes = d := by
  induction h with
  | done c => rfl
  | change _ _ _ ih => exact ih
  | node _ _ ih => exact ih
  | parameter _ _ ih => exact ih
  | iteration _ _ _ ih => exact ih

/-- The contexts of the moments are among those on the way. -/
theorem ctx_mem_passed (h : Along c changes t d) : ∀ m ∈ t, m.ctx ∈ c.passed changes := by
  have hfirst : ∀ (c : Context) (changes : List Change), c ∈ c.passed changes := by
    intro c changes
    cases changes <;> exact List.mem_cons_self ..
  induction h with
  | done c => exact List.forall_mem_nil _
  | change _ _ _ ih => exact fun m hm => List.mem_cons_of_mem _ (ih m hm)
  | node n _ ih => exact List.forall_mem_cons.mpr ⟨hfirst _ _, ih⟩
  | parameter m _ ih => exact List.forall_mem_cons.mpr ⟨hfirst _ _, ih⟩
  | iteration head separator _ ih =>
    refine List.forall_mem_cons.mpr ⟨hfirst _ _, fun m hm => ?_⟩
    exact List.mem_cons_of_mem _ (List.mem_cons_of_mem _ (ih m hm))

/-- A loop variable is bound under two names. -/
theorem putLoopVariable {unique : Nat} {name : Option String} {value : Value}
    (h : Along (c.putLoopVariable unique name value) changes t d) :
    ∃ changes, Along c changes t d := by
  cases name with
  | none => exact ⟨_, h⟩
  | some name =>
    have hown : Along (c.put (LoopVariable.uniqueName name unique) value)
      (.put name value :: changes) t d := .change (.put name value) rfl h
    exact ⟨_, .change (.put (LoopVariable.uniqueName name unique) value) rfl hown⟩

end Along

-- =============================================================== courses

theorem stepwise_along :
    Stepwise (fun _ => True) fun _ c t _ d => ∃ changes, Along c changes t d where
  stay _ := ⟨_, .done _⟩
  trans := fun ⟨_, h⟩ ⟨_, h'⟩ => ⟨_, h.append h'⟩
  ask text _ := ⟨_, .single _ (.ask text) rfl⟩
  addValue value := ⟨_, .single _ (.addValue value) rfl⟩
  collect _ _ := fun ⟨_, h⟩ => ⟨_, .parameter _ (h.concat (.addMapping _) rfl)⟩
  refuse _ := fun ⟨_, h⟩ => ⟨_, .parameter _ h⟩
  append text := ⟨_, .single _ (.append text) rfl⟩
  put value _ := ⟨_, .single _ (.put _ value) rfl⟩
  mark breaks := ⟨_, .single _ (.mark breaks) rfl⟩
  node n := fun ⟨_, h⟩ => ⟨_, .node n h⟩
  choice {_ c _ _ _} := fun ⟨_, h⟩ => ⟨_, h.concat (.restore c.matched c.broke) rfl⟩
  scope := fun ⟨_, h⟩ => ⟨_, .change .pushScope rfl (h.concat .popScope rfl)⟩
  iteration {_ c d t _ head separator _ _} _ := by
    rintro ⟨changes, h⟩
    unfold enterElement at h
    -- from the end backwards: what follows the body, the item, the index, the moment
    have hleft : Along _ (changes ++ [.leave] ++ [.popScope]) t d.leaveIteration :=
      (h.concat .leave rfl).concat .popScope rfl
    obtain ⟨_, hindex⟩ := hleft.putLoopVariable
    obtain ⟨_, hinside⟩ := hindex.putLoopVariable
    exact ⟨_, .iteration head separator hinside⟩

/-- Every render is made of changes, whether it fails or not. -/
theorem exists_along (s : Setting) (n : Node) (c : Context) :
    ∃ changes, Along c changes ((n.traced s).trace c) (outcome (n.apply s) c).2 :=
  stepwise_along.course_node [] n (fun _ _ => trivial) c

end Render

end DynamicSql
