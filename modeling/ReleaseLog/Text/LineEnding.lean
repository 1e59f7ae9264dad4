import ReleaseLog.Text.Basic

/-!
# Line endings

A text may end its lines with `\r\n`, with a lone `\r` or with `\n`. Documents are read with `\n`
alone: first every pair `\r\n` becomes `\n`, then every `\r` that is left does.
-/

namespace ReleaseLog
namespace Text

/-- Every pair `\r\n` becomes `\n`. -/
def joinPairs : Text → Text
  | [] => []
  | '\r' :: '\n' :: cs => '\n' :: joinPairs cs
  | c :: cs => c :: joinPairs cs

/-- Every `\r` becomes `\n`. -/
def replaceReturns (s : Text) : Text := s.map fun c => if c = '\r' then '\n' else c

/-- The text with `\n` as its only line ending. -/
def normalizeLineEndings (s : Text) : Text := replaceReturns (joinPairs s)

/-- The text already ends its lines with `\n` only. -/
def hasUniformLineEndings (s : Text) : Bool := !s.contains '\r'

theorem not_mem_replaceReturns (s : Text) : '\r' ∉ replaceReturns s := by
  intro h
  obtain ⟨c, _, made⟩ := List.mem_map.1 h
  split at made
  · exact absurd made (by decide)
  · contradiction

/-- No `\r` is left. -/
theorem not_mem_normalizeLineEndings (s : Text) : '\r' ∉ normalizeLineEndings s :=
  not_mem_replaceReturns _

theorem joinPairs_of_not_mem {s : Text} (h : '\r' ∉ s) : joinPairs s = s := by
  fun_induction joinPairs s with
  | case1 => rfl
  | case2 cs _ => simp at h
  | case3 c cs _ ih => rw [ih fun later => h (List.mem_cons_of_mem c later)]

theorem replaceReturns_of_not_mem {s : Text} (h : '\r' ∉ s) : replaceReturns s = s := by
  refine (List.map_congr_left fun c member => ?_).trans (List.map_id s)
  have differs : c ≠ '\r' := fun same => h (same ▸ member)
  simp [differs]

/-- A text without `\r` is left as it is. -/
theorem normalizeLineEndings_of_not_mem {s : Text} (h : '\r' ∉ s) :
    normalizeLineEndings s = s := by
  rw [normalizeLineEndings, joinPairs_of_not_mem h, replaceReturns_of_not_mem h]

theorem hasUniformLineEndings_iff {s : Text} : hasUniformLineEndings s = true ↔ '\r' ∉ s := by
  simp [hasUniformLineEndings]

/-- The texts that need no change are the ones that stay as they are. -/
theorem normalizeLineEndings_eq_self_iff {s : Text} :
    normalizeLineEndings s = s ↔ hasUniformLineEndings s = true := by
  rw [hasUniformLineEndings_iff]
  exact ⟨fun same => same ▸ not_mem_normalizeLineEndings s, normalizeLineEndings_of_not_mem⟩

end Text
end ReleaseLog
