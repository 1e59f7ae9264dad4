import ReleaseLog.Document.Body
import ReleaseLog.Proofs.Text.Search
import ReleaseLog.Proofs.Text.Trim

/-!
# Lines of the body of a release

The entry of a release is put between the lines of the unreleased body. All lines stay whole but
two: the first line of the body, and the first one below the heading of its changes, lose the white
space in front of them. Whatever a line says by how it begins, only these two can say something new
(`forall_lines_mergeBullet`).
-/

namespace ReleaseLog

/-- The lines of a body that lose the white space in front of them. -/
def movedLines (body : Text) : List Text :=
  Text.firstLine body ::
    match Text.findLine isChangesHeading true body with
    | some cut => [Text.firstLine (Text.trimStart cut.after)]
    | none => []

variable {p : Text → Bool} {body bullet content link repository : Text}

theorem lines_append_gap (a b : Text) :
    Text.lines (a ++ "\n\n".toList ++ b) = Text.lines a ++ [] :: Text.lines b := by
  have text : a ++ "\n\n".toList ++ b = a ++ '\n' :: ([] ++ '\n' :: b) := by simp
  rw [text, Text.lines_append_newline, Text.lines_append_newline]
  rfl

theorem lines_changesHeading : Text.lines changesHeading = [changesHeading] :=
  Text.lines_of_not_mem (by decide)

/-- The lines of a body whose bullet stands below the heading of its changes. -/
theorem lines_mergeBullet_of_some {cut : Text.LineCut} (inline : '\n' ∉ bullet)
    (nonempty : body ≠ []) (found : Text.findLine isChangesHeading true body = some cut) :
    Text.lines (mergeBullet body bullet) =
      Text.endedLines true cut.before ++
        cut.line :: [] :: bullet :: Text.lines (Text.trimStart cut.after) := by
  have whole := Text.LineCut.IsWhole.of_findLine found
  have below : Text.lines (bullet ++ "\n".toList ++ Text.trimStart cut.after) =
      bullet :: Text.lines (Text.trimStart cut.after) := by
    have text : bullet ++ "\n".toList ++ Text.trimStart cut.after =
        bullet ++ '\n' :: Text.trimStart cut.after := by simp
    rw [text, Text.lines_append_newline, Text.lines_of_not_mem inline]
    rfl
  have text : mergeBullet body bullet = cut.before ++ cut.line ++ "\n\n".toList ++
      (bullet ++ "\n".toList ++ Text.trimStart cut.after) := by
    simp [mergeBullet, nonempty, found]
  rw [text, lines_append_gap, whole.lines_before_append_line, below]
  simp

/-- The lines of a body that had no changes. -/
theorem lines_mergeBullet_of_none (inline : '\n' ∉ bullet) (nonempty : body ≠ [])
    (missing : Text.findLine isChangesHeading true body = none) :
    Text.lines (mergeBullet body bullet) =
      changesHeading :: [] :: bullet :: [] :: Text.lines body := by
  have text : mergeBullet body bullet =
      changesHeading ++ "\n\n".toList ++ (bullet ++ "\n\n".toList ++ body) := by
    simp [mergeBullet, nonempty, missing]
  rw [text, lines_append_gap, lines_append_gap, lines_changesHeading,
    Text.lines_of_not_mem inline]
  rfl

theorem lines_mergeBullet_nil (inline : '\n' ∉ bullet) :
    Text.lines (mergeBullet [] bullet) = [changesHeading, [], bullet] := by
  have text : mergeBullet [] bullet = changesHeading ++ "\n\n".toList ++ bullet := rfl
  rw [text, lines_append_gap, lines_changesHeading, Text.lines_of_not_mem inline]
  rfl

theorem forall_linesFrom_of_suffix {a b : Text} (suffix : a <:+ b)
    (later : ∀ line ∈ Text.linesFrom false b, p line = false) :
    ∀ line ∈ Text.linesFrom false a, p line = false := by
  intro line member
  exact later line ((Text.linesFrom_suffix_of_suffix suffix).subset member)

/-- If no later line of a body has a property and nothing that is added has it, then it is for
the moved lines to have it. -/
theorem forall_lines_mergeBullet (inline : '\n' ∉ bullet) (blank : p [] = false)
    (heading : p changesHeading = false) (added : p bullet = false)
    (later : ∀ line ∈ Text.linesFrom false body, p line = false) :
    (∀ line ∈ Text.lines (mergeBullet body bullet), p line = false) ↔
      ∀ line ∈ movedLines body, p line = false := by
  by_cases empty : body = []
  · subst empty
    rw [lines_mergeBullet_nil inline]
    have moved : movedLines [] = [[]] := by decide
    rw [moved]
    simp [blank, heading, added]
  · cases found : Text.findLine isChangesHeading true body with
    | none =>
        rw [lines_mergeBullet_of_none inline empty found, movedLines, found, Text.lines_eq_cons]
        simp only [List.forall_mem_cons, blank, heading, added, true_and]
        constructor
        · rintro ⟨first, _⟩
          exact ⟨first, by simp⟩
        · rintro ⟨first, _⟩
          exact ⟨first, later⟩
    | some cut =>
        rw [lines_mergeBullet_of_some inline empty found, movedLines, found,
          Text.lines_eq_cons (Text.trimStart cut.after)]
        have first : (∀ line ∈ Text.endedLines true cut.before ++
            cut.line :: Text.linesFrom false cut.after, p line = false) ↔
              p (Text.firstLine body) = false := by
          rw [← Text.lines_of_findLine found, Text.lines_eq_cons, List.forall_mem_cons]
          exact ⟨fun all => all.1, fun front => ⟨front, later⟩⟩
        have suffix : cut.after <:+ body :=
          ⟨cut.before ++ cut.line, Text.toText_of_findLine found⟩
        have rest := forall_linesFrom_of_suffix suffix later
        have below := forall_linesFrom_of_suffix (Text.trimStart_suffix cut.after) rest
        simp only [List.forall_mem_append, List.forall_mem_cons, blank, added, true_and]
          at first ⊢
        rw [← first]
        constructor
        · rintro ⟨above, line, moved, _⟩
          exact ⟨⟨above, line, rest⟩, moved, by simp⟩
        · rintro ⟨⟨above, line, _⟩, moved, _⟩
          exact ⟨above, line, moved, below⟩

/-! ## The link of the entry -/

/-- The text cut around its last line that refers to the repository. -/
def lastReference? (repository content : Text) : Option Text.LineCut :=
  Text.findLastLine (fun line => citedRepository? line == some repository) true content

theorem appendPullLink_of_none (h : lastReference? repository content = none) :
    appendPullLink content link repository = content ++ "\n\n".toList ++ link := by
  unfold lastReference? at h
  rw [appendPullLink, h]

theorem appendPullLink_of_some {cut : Text.LineCut}
    (h : lastReference? repository content = some cut) :
    appendPullLink content link repository =
      cut.before ++ cut.line ++ "\n".toList ++ link ++ cut.after := by
  unfold lastReference? at h
  rw [appendPullLink, h]

/-- The lines of a body with a link below the last reference to the repository. -/
theorem lines_appendPullLink_of_some {cut : Text.LineCut} (inline : '\n' ∉ link)
    (found : lastReference? repository content = some cut) :
    Text.lines (appendPullLink content link repository) =
      Text.endedLines true cut.before ++ cut.line :: link :: Text.linesFrom false cut.after := by
  have whole := Text.LineCut.IsWhole.of_findLastLine found
  have text : cut.before ++ cut.line ++ "\n".toList ++ link ++ cut.after =
      (cut.before ++ cut.line) ++ '\n' :: (link ++ cut.after) := by simp
  rw [appendPullLink_of_some found, text, Text.lines_append_newline,
    whole.lines_before_append_line, Text.lines_append_of_not_mem inline, whole.firstLine_after]
  simp

/-- The lines of a body with a link that starts a paragraph. -/
theorem lines_appendPullLink_of_none (inline : '\n' ∉ link)
    (missing : lastReference? repository content = none) :
    Text.lines (appendPullLink content link repository) = Text.lines content ++ [[], link] := by
  rw [appendPullLink_of_none missing, lines_append_gap, Text.lines_of_not_mem inline]

/-- A link is put in as one more line, with an empty line above it if it starts a paragraph. -/
theorem forall_lines_appendPullLink (inline : '\n' ∉ link) (blank : p [] = false)
    (added : p link = false) :
    (∀ line ∈ Text.lines (appendPullLink content link repository), p line = false) ↔
      ∀ line ∈ Text.lines content, p line = false := by
  cases found : lastReference? repository content with
  | none =>
      rw [lines_appendPullLink_of_none inline found]
      simp [or_imp, forall_and, blank, added]
  | some cut =>
      rw [lines_appendPullLink_of_some inline found, Text.lines_of_findLastLine found]
      simp [added, or_imp, forall_and]

end ReleaseLog
