import ReleaseLog.Proofs.Document.Body
import ReleaseLog.Proofs.Document.BodyLines
import ReleaseLog.Proofs.Document.Outline

/-!
# Where the bullet of an entry stands

A release puts its bullet on top of the changes of the body, with an empty line between the heading
and the bullet. All lines of the body are left as they are but one: the first line on which
something is written below the heading loses the white space in front of it. So the body is kept
exactly where that line has none (`mergeBullet_isMerged_iff`).
-/

namespace ReleaseLog

namespace Text

/-- Something is written on the line. -/
def isWritten (line : Text) : Bool := line.any (!isWhite ·)

/-- The lines on which something is written. -/
def writtenLines (rows : List Text) : List Text := rows.filter isWritten

end Text

/-- The lines of a body, cut around the first heading of its changes. -/
structure IsHeadedAt (body : Text) (above : List Text) (heading : Text) (below : List Text) :
    Prop where
  lines : Text.lines body = above ++ heading :: below
  first : ∀ line ∈ above, ¬ IsHeadingOf "Changes".toList line
  isHeading : IsHeadingOf "Changes".toList heading

/-- The bullet has been put on top of the changes of a body: it is a line below an empty line, under
the first heading of changes or, where there is none, under a new one on top of the body. Of the
lines of the body, those above the heading have stayed as they were, and the written ones below it
have become what `kept` makes of them. -/
inductive IsMerged (kept : List Text → List Text) (body bullet merged : Text) : Prop
  | underHeading {above below rest : List Text} {heading : Text}
      (old : IsHeadedAt body above heading below)
      (new : Text.lines merged = above ++ heading :: [] :: bullet :: rest)
      (left : Text.writtenLines rest = kept (Text.writtenLines below))
  | onTop {rest : List Text}
      (headless : ∀ line ∈ Text.lines body, ¬ IsHeadingOf "Changes".toList line)
      (new : Text.lines merged = changesHeading :: [] :: bullet :: rest)
      (left : Text.writtenLines rest = Text.writtenLines (Text.lines body))

/-- The first written line below the first heading of changes begins without white space. -/
def IsFlushBelowHeading (body : Text) : Prop :=
  ∀ above heading below, IsHeadedAt body above heading below →
    ∀ line ∈ (Text.writtenLines below).head?, Text.trimStart line = line

variable {kept other : List Text → List Text} {body bullet merged heading : Text}
  {above below : List Text}

/-! ## Written lines -/

namespace Text

theorem isWritten_cons (c : Char) (line : Text) :
    isWritten (c :: line) = (!isWhite c || isWritten line) := rfl

theorem writtenLines_cons (row : Text) (rows : List Text) :
    writtenLines (row :: rows) =
      if isWritten row then row :: writtenLines rows else writtenLines rows :=
  List.filter_cons

/-- A text without the white space in front has the same written lines, and the first of them
begins where something is written. -/
theorem writtenLines_lines_trimStart (s : Text) :
    writtenLines (lines (trimStart s)) = (writtenLines (lines s)).modifyHead trimStart := by
  induction s with
  | nil => rfl
  | cons c cs ih =>
      by_cases newline : c = '\n'
      · subst newline
        rw [lines_cons, if_pos rfl, writtenLines_cons]
        exact ih
      · have front : lines (c :: cs) = (c :: firstLine cs) :: linesFrom false cs := by
          rw [lines_cons, if_neg newline, lines_eq_cons]
          rfl
        cases white : isWhite c with
        | false =>
            have same : ∀ t, trimStart (c :: t) = c :: t := by
              intro t
              simp [trimStart, white]
            have written : isWritten (c :: firstLine cs) = true := by
              simp [isWritten_cons, white]
            rw [same, front, writtenLines_cons, if_pos written, List.modifyHead_cons, same]
        | true =>
            have shorter : ∀ t, trimStart (c :: t) = trimStart t := by
              intro t
              simp [trimStart, white]
            have written : isWritten (c :: firstLine cs) = isWritten (firstLine cs) := by
              simp [isWritten_cons, white]
            rw [shorter, ih, front, lines_eq_cons cs, writtenLines_cons, writtenLines_cons, written]
            split
            · rw [List.modifyHead_cons, List.modifyHead_cons, shorter]
            · rfl

end Text

/-! ## The first heading of changes -/

theorem IsHeadedAt.of_findLine {cut : Text.LineCut}
    (found : Text.findLine isChangesHeading true body = some cut) :
    IsHeadedAt body (Text.endedLines true cut.before) cut.line
      (Text.linesFrom false cut.after) := by
  refine ⟨Text.lines_of_findLine found, ?_,
    isChangesHeading_iff.1 (Text.line_of_findLine found)⟩
  intro line member
  exact isChangesHeading_eq_false_iff.1 (Text.endedLines_of_findLine found line member)

theorem IsHeadedAt.unique {upper lower : List Text} {title : Text}
    (h : IsHeadedAt body above heading below) (h' : IsHeadedAt body upper title lower) :
    above = upper ∧ heading = title ∧ below = lower := by
  have same := h.lines.symm.trans h'.lines
  refine cutRows_unique (p := isChangesHeading) ?_ (isChangesHeading_iff.2 h.isHeading) ?_
    (isChangesHeading_iff.2 h'.isHeading) same
  · intro line member
    exact isChangesHeading_eq_false_iff.2 (h.first line member)
  · intro line member
    exact isChangesHeading_eq_false_iff.2 (h'.first line member)

/-! ## What a merge keeps -/

/-- Whatever a merge keeps, it keeps it of the lines below the first heading. -/
theorem IsMerged.exists_rest (h : IsMerged kept body bullet merged)
    (old : IsHeadedAt body above heading below) :
    ∃ rest, Text.lines merged = above ++ heading :: [] :: bullet :: rest ∧
      Text.writtenLines rest = kept (Text.writtenLines below) := by
  cases h with
  | underHeading found new left =>
      obtain ⟨rfl, rfl, rfl⟩ := old.unique found
      exact ⟨_, new, left⟩
  | onTop headless _ _ =>
      refine absurd old.isHeading (headless heading ?_)
      rw [old.lines]
      exact List.mem_append_right _ List.mem_cons_self

/-- Two ways to keep the lines of a body make no difference exactly if they agree on the written
lines below the first heading. -/
theorem IsMerged.iff_of_isMerged (h : IsMerged kept body bullet merged) :
    IsMerged other body bullet merged ↔
      ∀ above heading below, IsHeadedAt body above heading below →
        kept (Text.writtenLines below) = other (Text.writtenLines below) := by
  constructor
  · intro h' above heading below old
    obtain ⟨rest, new, left⟩ := h.exists_rest old
    obtain ⟨rest', new', left'⟩ := h'.exists_rest old
    obtain rfl : rest = rest' := by simpa [new] using new'
    exact left.symm.trans left'
  · intro agree
    cases h with
    | underHeading old new left =>
        exact .underHeading old new (left.trans (agree _ _ _ old))
    | onTop headless new left => exact .onTop headless new left

section
variable (inline : '\n' ∉ bullet)
include inline

/-- The first written line below the heading loses the white space in front of it. -/
theorem isMerged_mergeBullet (body : Text) :
    IsMerged (·.modifyHead Text.trimStart) body bullet (mergeBullet body bullet) := by
  by_cases empty : body = []
  · subst empty
    exact .onTop (by decide) (lines_mergeBullet_nil inline) rfl
  · cases found : Text.findLine isChangesHeading true body with
    | none =>
        refine .onTop ?_ (lines_mergeBullet_of_none inline empty found) rfl
        intro line member
        exact isChangesHeading_eq_false_iff.1 (Text.findLine_eq_none_iff.1 found line member)
    | some cut =>
        have ends := (Text.LineCut.IsWhole.of_findLine found).firstLine_after
        refine .underHeading (.of_findLine found) (lines_mergeBullet_of_some inline empty found) ?_
        rw [Text.writtenLines_lines_trimStart, Text.lines_eq_cons, ends]
        rfl

/-- Nothing at all is lost exactly if there is no white space to lose. -/
theorem isMerged_id_iff :
    IsMerged id body bullet (mergeBullet body bullet) ↔ IsFlushBelowHeading body := by
  have flush : ∀ rows : List Text, rows.modifyHead Text.trimStart = rows ↔
      ∀ row ∈ rows.head?, Text.trimStart row = row := by
    intro rows
    cases rows <;> simp
  rw [(isMerged_mergeBullet inline body).iff_of_isMerged]
  simp only [id, flush]
  rfl

/-- A bullet is put on top of the changes, and what was written stays as it was but for the white
space in front of the first written line below their heading. So a body is kept as it was exactly
if that line begins without white space. -/
theorem mergeBullet_isMerged_iff :
    IsMerged (·.modifyHead Text.trimStart) body bullet (mergeBullet body bullet) ∧
      (IsMerged id body bullet (mergeBullet body bullet) ↔ IsFlushBelowHeading body) :=
  ⟨isMerged_mergeBullet inline body, isMerged_id_iff inline⟩

end

theorem mergeBullet_isMerged_iff_fixes :
    let body := "### Changes\n\n* foo".toList
    let bullet := "* bar".toList
    '\n' ∉ bullet ∧
      IsMerged (·.modifyHead Text.trimStart) body bullet (mergeBullet body bullet) ∧
        (IsMerged id body bullet (mergeBullet body bullet) ↔ IsFlushBelowHeading body) :=
  ⟨by decide, mergeBullet_isMerged_iff (by decide)⟩

/-- Code on top of the changes loses its indentation. -/
theorem not_forall_mergeBullet_isMerged :
    ¬ ∀ body bullet : Text, Text.trim body = body → '\n' ∉ bullet →
      IsMerged id body bullet (mergeBullet body bullet) := by
  intro kept
  have inline : '\n' ∉ "* b".toList := by decide
  have merged := kept "### Changes\n\n    code".toList "* b".toList (by decide) inline
  have headed : IsHeadedAt "### Changes\n\n    code".toList [] "### Changes".toList
      [[], "    code".toList] := ⟨rfl, by simp, by decide⟩
  have flush := (isMerged_id_iff inline).1 merged _ _ _ headed
  exact absurd (flush "    code".toList rfl) (by decide)

end ReleaseLog
