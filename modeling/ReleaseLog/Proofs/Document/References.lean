import ReleaseLog.Proofs.Document.BodyLines
import ReleaseLog.Proofs.Document.Body
import ReleaseLog.Proofs.Document.Outline

/-!
# Links in one block

Links of the same repository that are put into a text one after the other make up one block of
lines, below the last reference that was there before or at the end of the text
(`appendPullLinks_isExtended`). Each link is the reference that the next one follows.
-/

namespace ReleaseLog

/-- The text with the links of these pull requests put in, one after the other. -/
def appendPullLinks (repository content : Text) (numbers : List Nat) : Text :=
  numbers.foldl
    (fun content number => appendPullLink content (pullLink repository number) repository) content

/-- The rows have been put into a text in one block, directly below its last reference to the
repository or, where there is none, below an empty line at its end. Nothing else has changed. -/
inductive IsExtended (repository : Text) (rows : List Text) (content extended : Text) : Prop
  | belowReference {above below : List Text} {line : Text}
      (old : Text.lines content = above ++ line :: below)
      (isReference : IsReferenceTo repository line)
      (last : ∀ other ∈ below, ¬ IsReferenceTo repository other)
      (new : Text.lines extended = above ++ line :: (rows ++ below))
  | atEnd
      (unreferenced : ∀ line ∈ Text.lines content, ¬ IsReferenceTo repository line)
      (new : extended = content ++ "\n\n".toList ++ Text.ofLines rows)

variable {repository content line : Text} {above below : List Text}

theorem isReference_iff :
    (citedRepository? line == some repository) = true ↔ IsReferenceTo repository line := by
  rw [beq_iff_eq, citedRepository?_eq_some_iff]

theorem isReference_eq_false_iff :
    (citedRepository? line == some repository) = false ↔ ¬ IsReferenceTo repository line := by
  rw [← isReference_iff, Bool.not_eq_true]

/-- The lines of a text, cut around the last reference. -/
theorem lines_of_lastReference? {cut : Text.LineCut}
    (found : lastReference? repository content = some cut) :
    Text.lines content =
        Text.endedLines true cut.before ++ cut.line :: Text.linesFrom false cut.after ∧
      IsReferenceTo repository cut.line ∧
        ∀ other ∈ Text.linesFrom false cut.after, ¬ IsReferenceTo repository other := by
  refine ⟨Text.lines_of_findLastLine found,
    isReference_iff.1 (Text.line_of_findLastLine found), ?_⟩
  intro other member
  exact isReference_eq_false_iff.1 (Text.linesFrom_of_findLastLine found other member)

theorem lastReference?_eq_none_iff :
    lastReference? repository content = none ↔
      ∀ line ∈ Text.lines content, ¬ IsReferenceTo repository line := by
  simp only [lastReference?, Text.findLastLine_eq_none_iff, isReference_eq_false_iff,
    Text.linesFrom_true]

section
variable (nonempty : repository ≠ []) (word : Text.isWord repository)
include word

theorem not_mem_pullLink (number : Nat) : '\n' ∉ pullLink repository number := by
  have inline : Text.isInline (Entry.compose [] number repository).link :=
    Entry.isInline_link word.isInline
  exact inline.not_mem

/-- A link is put directly below the last reference. -/
theorem lines_appendPullLink (number : Nat) (old : Text.lines content = above ++ line :: below)
    (isReference : IsReferenceTo repository line)
    (last : ∀ other ∈ below, ¬ IsReferenceTo repository other) :
    Text.lines (appendPullLink content (pullLink repository number) repository) =
      above ++ line :: pullLink repository number :: below := by
  cases found : lastReference? repository content with
  | none =>
      refine absurd isReference (lastReference?_eq_none_iff.1 found line ?_)
      rw [old]
      exact List.mem_append_right _ List.mem_cons_self
  | some cut =>
      obtain ⟨whole, cited, later⟩ := lines_of_lastReference? found
      simp only [← isReference_iff, Bool.not_eq_true] at isReference last cited later
      obtain ⟨rfl, rfl, rfl⟩ :=
        cutRows_unique_last isReference last cited later (old.symm.trans whole)
      exact lines_appendPullLink_of_some (not_mem_pullLink word number) found

include nonempty

/-- Further links follow the first one in their order: each is the last reference for the next. -/
theorem lines_appendPullLinks (numbers : List Nat)
    (old : Text.lines content = above ++ line :: below)
    (isReference : IsReferenceTo repository line)
    (last : ∀ other ∈ below, ¬ IsReferenceTo repository other) :
    Text.lines (appendPullLinks repository content numbers) =
      above ++ line :: (numbers.map (pullLink repository) ++ below) := by
  induction numbers generalizing content above line with
  | nil => exact old
  | cons number numbers ih =>
      have step := lines_appendPullLink word number old isReference last
      have front : above ++ line :: pullLink repository number :: below =
          (above ++ [line]) ++ pullLink repository number :: below := by simp
      rw [front] at step
      have run := ih step (isReferenceTo_pullLink_iff.2 ⟨nonempty, word⟩)
      simpa [appendPullLinks] using run

/-- Links that are added one after the other stand in one block, and only references to their own
repository decide where. -/
theorem appendPullLinks_isExtended {numbers : List Nat} (added : numbers ≠ []) (content : Text) :
    IsExtended repository (numbers.map (pullLink repository)) content
        (appendPullLinks repository content numbers) ∧
      ∀ other line, IsReferenceTo other line →
        (citedRepository? line = some repository ↔ other = repository) := by
  refine ⟨?_, ?_⟩
  · cases found : lastReference? repository content with
    | some cut =>
        obtain ⟨old, isReference, last⟩ := lines_of_lastReference? found
        exact .belowReference old isReference last
          (lines_appendPullLinks nonempty word numbers old isReference last)
    | none =>
        refine .atEnd (lastReference?_eq_none_iff.1 found) ?_
        obtain ⟨number, numbers, rfl⟩ := List.exists_cons_of_ne_nil added
        have step := lines_appendPullLink_of_none (not_mem_pullLink word number) found
        have front : Text.lines content ++ [[], pullLink repository number] =
            (Text.lines content ++ [[]]) ++ pullLink repository number :: [] := by simp
        rw [front] at step
        have run := lines_appendPullLinks nonempty word numbers step
          (isReferenceTo_pullLink_iff.2 ⟨nonempty, word⟩) (by simp)
        have text := congrArg Text.ofLines run
        rw [Text.ofLines_lines, Text.ofLines_append (List.cons_ne_nil _ _),
          Text.ofEndedLines_append, Text.ofEndedLines_lines] at text
        simpa [Text.ofEndedLines, appendPullLinks] using text
  · intro other line isReference
    rw [citedRepository?_eq_some_iff.2 isReference]
    exact Option.some_inj

end

theorem appendPullLinks_isExtended_two_links :
    let repository := "r".toList
    let content := "[#1]: r/pull/1\n[#9]: r/pull/1/pull/9\nend".toList
    let extended :=
      "[#1]: r/pull/1\n[#2]: r/pull/2\n[#3]: r/pull/3\n[#9]: r/pull/1/pull/9\nend".toList
    (repository ≠ [] ∧ Text.isWord repository ∧ [2, 3] ≠ []) ∧
      IsExtended repository ["[#2]: r/pull/2".toList, "[#3]: r/pull/3".toList] content extended ∧
        ∀ other line, IsReferenceTo other line →
          (citedRepository? line = some repository ↔ other = repository) := by
  intro repository content extended
  have given : repository ≠ [] ∧ Text.isWord repository ∧ [2, 3] ≠ [] := by
    refine ⟨by decide, ?_, by decide⟩
    intro c member
    obtain rfl : c = 'r' := List.mem_singleton.1 member
    decide
  have links := appendPullLinks_isExtended given.1 given.2.1 given.2.2 content
  have text : appendPullLinks repository content [2, 3] = extended := by decide
  rw [text] at links
  exact ⟨given, links⟩

end ReleaseLog
