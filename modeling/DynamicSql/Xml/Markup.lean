/-
A document as a sequence of pieces: tags, text, CDATA sections, and what is
passed over.

Cutting a document loses nothing: the pieces, written down again, are the
document. So a piece's place is told by the sizes of those before it, and
each step leaves less to cut.

# Where a piece ends

Text ends before the next `<`. A tag ends at the first `>` outside quotes,
whatever else stands in it. A CDATA section ends at the first `]]>`, a
comment at the first `-->` after its opening, a document type at the `>`
that balances the brackets inside it. Only when the end is found is the
opening looked at in full: a comment that opens wrongly counts as one that
does not close, and so do the others.

# What is assumed

A document is cut by a tokenizer for XML that is no part of this library. Of a
tokenizer that leaves blanks around text as they are, this module is what is
assumed:

- the pieces follow each other without gaps, so that the one after a piece
  begins where it ends;
- a piece ends where is said above, and its content is given as written, with
  no reference replaced;
- where no piece can be cut there is one complaint, with a cause and a position
  (`MarkupFault`), and nothing behind it is cut.

Characters that XML does not allow, names that are none, and what a document
type declares are not looked at. That nothing is lost and that each step leaves
less is not assumed but proved here of the definitions (`Markup.cut_written`,
`Markup.length_cut`).
-/
import DynamicSql.Xml.Error

namespace DynamicSql.Xml

/-- One piece of a document. -/
inductive Markup where
  /-- What stands between `<` and `>`, without the slash of an empty
  element. -/
  | startTag (content : List Char) (selfClosing : Bool)
  /-- What stands between `</` and `>`. -/
  | endTag (content : List Char)
  | text (content : List Char)
  | cdata (content : List Char)
  /-- A comment, a processing instruction or a declaration, as written. -/
  | skipped (written : List Char)
deriving DecidableEq, Repr, Inhabited

namespace Markup

/-- Space, tab, carriage return and line feed: what separates the parts of
a tag. -/
def isSpace (c : Char) : Bool :=
  c == ' ' || c == '\t' || c == '\r' || c == '\n'

/-- The piece as it is written. -/
def written : Markup → List Char
  | .startTag content true => '<' :: (content ++ ['/', '>'])
  | .startTag content false => '<' :: (content ++ ['>'])
  | .endTag content => '<' :: '/' :: (content ++ ['>'])
  | .text content => content
  | .cdata content => '<' :: '!' :: '[' :: ("CDATA[".toList ++ (content ++ "]]>".toList))
  | .skipped content => content

-- ================================================================= ends

/-- What stands before the first occurrence of a mark, and after it. -/
def splitAtMark? (mark : List Char) : List Char → Option (List Char × List Char)
  | [] => none
  | c :: cs =>
    if mark.isPrefixOf (c :: cs) then some ([], (c :: cs).drop mark.length)
    else (splitAtMark? mark cs).map fun (before, after) => (c :: before, after)

theorem eq_append_of_splitAtMark? {mark cs before after : List Char}
    (h : splitAtMark? mark cs = some (before, after)) : cs = before ++ (mark ++ after) := by
  induction cs generalizing before after with
  | nil => simp [splitAtMark?] at h
  | cons c cs ih =>
    unfold splitAtMark? at h
    split at h
    · next hp =>
      obtain ⟨tail, ht⟩ := List.isPrefixOf_iff_prefix.1 hp
      simp only [Option.some.injEq, Prod.mk.injEq] at h
      obtain ⟨rfl, rfl⟩ := h
      simp [← ht]
    · obtain ⟨⟨a, b⟩, hab, he⟩ := Option.map_eq_some_iff.1 h
      simp only [Prod.mk.injEq] at he
      obtain ⟨rfl, rfl⟩ := he
      simp [ih hab]

/-- What stands before the first `>` outside quotes, and after it. Inside
quotes, `quote` is the one that is open. -/
def tagEnd? (quote : Option Char) : List Char → Option (List Char × List Char)
  | [] => none
  | c :: cs =>
    match quote with
    | some q =>
      (tagEnd? (if c = q then none else some q) cs).map fun (inside, after) => (c :: inside, after)
    | none =>
      if c = '>' then some ([], cs)
      else
        (tagEnd? (if c = '"' ∨ c = '\'' then some c else none) cs).map
          fun (inside, after) => (c :: inside, after)

theorem eq_append_of_tagEnd? {quote : Option Char} {cs inside after : List Char}
    (h : tagEnd? quote cs = some (inside, after)) : cs = inside ++ '>' :: after := by
  induction cs generalizing quote inside after with
  | nil => simp [tagEnd?] at h
  | cons c cs ih =>
    unfold tagEnd? at h
    split at h
    · obtain ⟨⟨a, b⟩, hab, he⟩ := Option.map_eq_some_iff.1 h
      simp only [Prod.mk.injEq] at he
      obtain ⟨rfl, rfl⟩ := he
      simp [ih hab]
    · split at h
      · simp_all
      · obtain ⟨⟨a, b⟩, hab, he⟩ := Option.map_eq_some_iff.1 h
        simp only [Prod.mk.injEq] at he
        obtain ⟨rfl, rfl⟩ := he
        simp [ih hab]

/-- What stands before the `>` that closes a declaration, and after it, when
`depth` brackets are open inside it. -/
def declarationEnd? (depth : Nat) : List Char → Option (List Char × List Char)
  | [] => none
  | c :: cs =>
    if c = '>' ∧ depth = 0 then some ([], cs)
    else
      let depth := if c = '<' then depth + 1 else if c = '>' then depth - 1 else depth
      (declarationEnd? depth cs).map fun (inside, after) => (c :: inside, after)

theorem eq_append_of_declarationEnd? {depth : Nat} {cs inside after : List Char}
    (h : declarationEnd? depth cs = some (inside, after)) : cs = inside ++ '>' :: after := by
  induction cs generalizing depth inside after with
  | nil => simp [declarationEnd?] at h
  | cons c cs ih =>
    unfold declarationEnd? at h
    split at h
    · simp_all
    · obtain ⟨⟨a, b⟩, hab, he⟩ := Option.map_eq_some_iff.1 h
      simp only [Prod.mk.injEq] at he
      obtain ⟨rfl, rfl⟩ := he
      simp [ih hab]

-- =============================================================== pieces

/-- A piece and what follows it, or what is wrong and how many bytes after
the beginning of the piece. -/
abbrev Cut := Except (MarkupFault × Nat) (Markup × List Char)

/-- A CDATA section, after `<![`. -/
def cutCData (cs : List Char) : Cut :=
  match splitAtMark? "]]>".toList cs with
  | none => .error (.unclosedCData, 0)
  | some (inside, after) =>
    if "CDATA[".toList.isPrefixOf inside then .ok (.cdata (inside.drop 6), after)
    else .error (.unclosedCData, 0)

/-- A comment, after `<!-`. The two characters of its opening are no part of
its end. -/
def cutComment (cs : List Char) : Cut :=
  match cs with
  | [] => .error (.unclosedComment, 0)
  | second :: body =>
    match splitAtMark? "-->".toList body with
    | none => .error (.unclosedComment, 0)
    | some (inside, after) =>
      if second = '-' then
        .ok (.skipped ('<' :: '!' :: '-' :: '-' :: (inside ++ "-->".toList)), after)
      else .error (.unclosedComment, 0)

/-- A document type, after `<!`. Its keyword is read in any case, and a name
must follow it. -/
def cutDoctype (cs : List Char) : Cut :=
  match declarationEnd? 0 cs with
  | none => .error (.unclosedDoctype, 0)
  | some (inside, after) =>
    if (inside.take 7).map Char.toUpper = "DOCTYPE".toList then
      if (inside.drop 7).all isSpace then .error (.missingDoctypeName, 2 + byteLength inside)
      else .ok (.skipped ('<' :: '!' :: (inside ++ ['>'])), after)
    else .error (.unclosedDoctype, 0)

/-- What begins with `<!`, after these two. -/
def cutDeclaration (cs : List Char) : Cut :=
  match cs with
  | [] => .error (.unknownMarkup, 0)
  | c :: rest =>
    if c = '[' then cutCData rest
    else if c = '-' then cutComment rest
    else if c = 'D' ∨ c = 'd' then cutDoctype cs
    else .error (.unknownMarkup, 0)

/-- A processing instruction, after `<?`. -/
def cutInstruction (cs : List Char) : Cut :=
  if cs.head? = some '>' then .error (.unclosedInstruction, 0)
  else
    match splitAtMark? "?>".toList cs with
    | none => .error (.unclosedInstruction, 0)
    | some (inside, after) => .ok (.skipped ('<' :: '?' :: (inside ++ "?>".toList)), after)

/-- An end tag, after `</`. -/
def cutEndTag (cs : List Char) : Cut :=
  match tagEnd? none cs with
  | none => .error (.unclosedTag, 0)
  | some (inside, after) => .ok (.endTag inside, after)

/-- A start tag or an empty element, after `<`. -/
def cutStartTag (cs : List Char) : Cut :=
  match tagEnd? none cs with
  | none => .error (.unclosedTag, 0)
  | some (inside, after) =>
    if inside.getLast? = some '/' then .ok (.startTag inside.dropLast true, after)
    else .ok (.startTag inside false, after)

/-- What begins with `<`, after it. -/
def cutTag (cs : List Char) : Cut :=
  match cs with
  | [] => .error (.unclosedTag, 0)
  | c :: rest =>
    if c = '!' then cutDeclaration rest
    else if c = '?' then cutInstruction rest
    else if c = '/' then cutEndTag rest
    else cutStartTag cs

/-- The first piece. -/
def cut (c : Char) (cs : List Char) : Cut :=
  if c = '<' then cutTag cs
  else .ok (.text (c :: cs.takeWhile (· != '<')), cs.dropWhile (· != '<'))

-- ======================================================== nothing is lost

/-- The piece begins with `<`, and what it is written with after that makes
up, together with the rest, what stood there. -/
def Accounts (m : Markup) (after cs : List Char) : Prop :=
  ∃ tail, m.written = '<' :: tail ∧ cs = tail ++ after

theorem cutCData_accounts {cs after : List Char} {m : Markup}
    (h : cutCData cs = .ok (m, after)) : Accounts m after ('!' :: '[' :: cs) := by
  unfold cutCData at h
  split at h
  · simp at h
  · next hs =>
    split at h
    · next hp =>
      obtain ⟨tail, ht⟩ := List.isPrefixOf_iff_prefix.1 hp
      simp only [Except.ok.injEq, Prod.mk.injEq] at h
      obtain ⟨rfl, rfl⟩ := h
      refine ⟨_, rfl, ?_⟩
      rw [eq_append_of_splitAtMark? hs, ← ht]
      simp
    · simp at h

theorem cutComment_accounts {cs after : List Char} {m : Markup}
    (h : cutComment cs = .ok (m, after)) : Accounts m after ('!' :: '-' :: cs) := by
  unfold cutComment at h
  split at h
  · simp at h
  · split at h
    · simp at h
    · next hs =>
      split at h
      · subst_vars
        simp only [Except.ok.injEq, Prod.mk.injEq] at h
        obtain ⟨rfl, rfl⟩ := h
        refine ⟨_, rfl, ?_⟩
        rw [eq_append_of_splitAtMark? hs]
        simp
      · simp at h

theorem cutDoctype_accounts {cs after : List Char} {m : Markup}
    (h : cutDoctype cs = .ok (m, after)) : Accounts m after ('!' :: cs) := by
  unfold cutDoctype at h
  split at h
  · simp at h
  · next hs =>
    split at h
    · split at h
      · simp at h
      · simp only [Except.ok.injEq, Prod.mk.injEq] at h
        obtain ⟨rfl, rfl⟩ := h
        refine ⟨_, rfl, ?_⟩
        rw [eq_append_of_declarationEnd? hs]
        simp
    · simp at h

theorem cutDeclaration_accounts {cs after : List Char} {m : Markup}
    (h : cutDeclaration cs = .ok (m, after)) : Accounts m after ('!' :: cs) := by
  unfold cutDeclaration at h
  split at h
  · simp at h
  · split at h
    · subst_vars
      exact cutCData_accounts h
    · split at h
      · subst_vars
        exact cutComment_accounts h
      · split at h
        · exact cutDoctype_accounts h
        · simp at h

theorem cutInstruction_accounts {cs after : List Char} {m : Markup}
    (h : cutInstruction cs = .ok (m, after)) : Accounts m after ('?' :: cs) := by
  unfold cutInstruction at h
  split at h
  · simp at h
  · split at h
    · simp at h
    · next hs =>
      simp only [Except.ok.injEq, Prod.mk.injEq] at h
      obtain ⟨rfl, rfl⟩ := h
      refine ⟨_, rfl, ?_⟩
      rw [eq_append_of_splitAtMark? hs]
      simp

theorem cutEndTag_accounts {cs after : List Char} {m : Markup}
    (h : cutEndTag cs = .ok (m, after)) : Accounts m after ('/' :: cs) := by
  unfold cutEndTag at h
  split at h
  · simp at h
  · next hs =>
    simp only [Except.ok.injEq, Prod.mk.injEq] at h
    obtain ⟨rfl, rfl⟩ := h
    refine ⟨_, rfl, ?_⟩
    rw [eq_append_of_tagEnd? hs]
    simp

theorem cutStartTag_accounts {cs after : List Char} {m : Markup}
    (h : cutStartTag cs = .ok (m, after)) : Accounts m after cs := by
  unfold cutStartTag at h
  split at h
  · simp at h
  · next hs =>
    split at h
    · next hl =>
      simp only [Except.ok.injEq, Prod.mk.injEq] at h
      obtain ⟨rfl, rfl⟩ := h
      obtain ⟨front, rfl⟩ := List.getLast?_eq_some_iff.1 hl
      refine ⟨_, rfl, ?_⟩
      rw [eq_append_of_tagEnd? hs]
      simp
    · simp only [Except.ok.injEq, Prod.mk.injEq] at h
      obtain ⟨rfl, rfl⟩ := h
      refine ⟨_, rfl, ?_⟩
      rw [eq_append_of_tagEnd? hs]
      simp

theorem cutTag_accounts {cs after : List Char} {m : Markup}
    (h : cutTag cs = .ok (m, after)) : Accounts m after cs := by
  unfold cutTag at h
  split at h
  · simp at h
  · split at h
    · subst_vars
      exact cutDeclaration_accounts h
    · split at h
      · subst_vars
        exact cutInstruction_accounts h
      · split at h
        · subst_vars
          exact cutEndTag_accounts h
        · exact cutStartTag_accounts h

/-- A piece and what follows it make up what was cut. -/
theorem cut_written {c : Char} {cs after : List Char} {m : Markup}
    (h : cut c cs = .ok (m, after)) : c :: cs = m.written ++ after := by
  unfold cut at h
  split at h
  · obtain ⟨tail, hw, hcs⟩ := cutTag_accounts h
    simp_all
  · simp only [Except.ok.injEq, Prod.mk.injEq] at h
    obtain ⟨rfl, rfl⟩ := h
    simp [written, List.takeWhile_append_dropWhile]

/-- What follows a piece is shorter than what was cut. -/
theorem length_cut {c : Char} {cs after : List Char} {m : Markup}
    (h : cut c cs = .ok (m, after)) : after.length < (c :: cs).length := by
  unfold cut at h
  split at h
  · obtain ⟨tail, -, rfl⟩ := cutTag_accounts h
    simp only [List.length_cons, List.length_append]
    omega
  · simp only [Except.ok.injEq, Prod.mk.injEq] at h
    obtain ⟨-, rfl⟩ := h
    have := (List.dropWhile_suffix (· != '<') : cs.dropWhile (· != '<') <:+ cs).length_le
    simp only [List.length_cons]
    omega

end Markup

-- ======================================================== whole documents

/-- A piece and the byte offset at which it begins. -/
structure Piece where
  offset : Nat
  markup : Markup
deriving DecidableEq, Repr, Inhabited

namespace Piece

/-- The bytes that a piece takes. -/
def span (p : Piece) : Span :=
  ⟨p.offset, p.offset + byteLength p.markup.written⟩

/-- The pieces of characters that begin at a byte offset, up to the end or
to what cannot be cut. -/
def ofChars (offset : Nat) (cs : List Char) : List Piece × Option Error :=
  match cs with
  | [] => ([], none)
  | c :: cs =>
    match _h : Markup.cut c cs with
    | .error (fault, ahead) => ([], some (.markup fault (offset + ahead)))
    | .ok (markup, after) =>
      let (pieces, error) := ofChars (offset + byteLength markup.written) after
      (⟨offset, markup⟩ :: pieces, error)
termination_by cs.length
decreasing_by exact Markup.length_cut _h

end Piece

end DynamicSql.Xml
