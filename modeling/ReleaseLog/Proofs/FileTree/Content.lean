import ReleaseLog.Proofs.FileTree.Resolve

/-!
# New content of one file

Two trees that differ in the content of one file only have the same paths: each path leads to the
same place in both, or to the same error. So where the content of a file is changed, all paths that
led to it still do.
-/

namespace ReleaseLog

/-- Two results are the same, or the first is `a` and the second is `b`. -/
def SameOr {α : Type} (a b first second : α) : Prop := second = first ∨ first = a ∧ second = b

theorem SameOr.map {α β : Type} {a b first second : α} (h : SameOr a b first second)
    (f : α → β) : SameOr (f a) (f b) (f first) (f second) := by
  rcases h with same | ⟨isFirst, isSecond⟩
  · exact .inl (congrArg f same)
  · exact .inr ⟨congrArg f isFirst, congrArg f isSecond⟩

namespace FileTree

variable {tree other before after : FileTree} {admits : Place → Bool → Bool}
  {directory place : Place} {names : List Text} {links : Nat} {path : Text} {old new : Bytes}

/-- Two trees have the same directories, links and files, and differ in the content of one file at
most. -/
structure OnlyFileChanged (before after : FileTree) (place : Place) (old new : Bytes) : Prop where
  home : after.home = before.home
  places : after.entries.map (·.1) = before.entries.map (·.1)
  old : before.entry? place = some (.file old)
  new : after.entry? place = some (.file new)
  other : ∀ other, other ≠ place → after.entry? other = before.entry? other

theorem places_overwrite (tree : FileTree) (place : Place) (new : Bytes) :
    (tree.overwrite place new).entries.map (·.1) = tree.entries.map (·.1) := by
  rw [overwrite, List.map_map]
  rfl

theorem onlyFileChanged_overwrite (found : tree.entry? place = some (.file old)) (new : Bytes) :
    tree.OnlyFileChanged (tree.overwrite place new) place old new where
  home := rfl
  places := tree.places_overwrite place new
  old := found
  new := by rw [entry?_overwrite found, if_pos rfl]
  other := by
    intro other different
    rw [entry?_overwrite found, if_neg different]

/-! ## Paths in a tree in which one file has other content -/

section
variable {left right : Bytes} (alike : tree.OnlyFileChanged other place left right)
include alike

/-- A walk looks at no content, so it goes the same way up to the file in question. -/
theorem walk_of_onlyFileChanged :
    SameOr (.arrived ⟨place, some (.file left)⟩) (.arrived ⟨place, some (.file right)⟩)
      (tree.walk admits directory names) (other.walk admits directory names) := by
  induction names generalizing directory with
  | nil => exact .inl rfl
  | cons name names ih =>
      by_cases here : name = ['.']
      · simpa only [walk, if_pos here] using ih
      by_cases up : name = ['.', '.']
      · simpa only [walk, if_neg here, if_pos up] using ih
      simp only [walk, if_neg here, if_neg up]
      -- Only at the file itself the entries differ, and there the walk ends.
      by_cases same : directory ++ [name] = place
      · rw [same, alike.old, alike.new]
        by_cases refused :
            (decide (nameLimit < Text.size name) || !admits place (demandDirectory names)) = true
        · simp only [isLink, Bool.not_false, Bool.and_true, if_pos refused]
          exact .inl rfl
        · simp only [isLink, Bool.not_false, Bool.and_true, if_neg refused]
          cases names.isEmpty with
          | true => exact .inr ⟨rfl, rfl⟩
          | false => exact .inl rfl
      · rw [alike.other _ same]
        generalize (decide (nameLimit < Text.size name) ||
          !admits (directory ++ [name])
            (demandDirectory names && !isLink (tree.entry? (directory ++ [name])))) = refused
        cases refused with
        | true => exact .inl rfl
        | false =>
            cases tree.entry? (directory ++ [name]) with
            | none => exact .inl rfl
            | some entry =>
                cases entry with
                | file => exact .inl rfl
                | directory => exact ih
                | link => exact .inl rfl

theorem follow_of_onlyFileChanged :
    SameOr (.ok ⟨place, some (.file left)⟩) (.ok ⟨place, some (.file right)⟩)
      (tree.follow admits links directory names) (other.follow admits links directory names) := by
  induction links generalizing directory names with
  | zero =>
      rw [follow.eq_def, follow.eq_def]
      rcases walk_of_onlyFileChanged alike with same | ⟨here, there⟩
      · rw [same]
        exact .inl rfl
      · rw [here, there]
        exact .inr ⟨rfl, rfl⟩
  | succ links ih =>
      rw [follow.eq_def, follow.eq_def]
      rcases walk_of_onlyFileChanged alike with same | ⟨here, there⟩
      · rw [same]
        cases tree.walk admits directory names with
        | arrived | failed => exact .inl rfl
        | detour start later => exact ih
      · rw [here, there]
        exact .inr ⟨rfl, rfl⟩

theorem canonicalize_of_onlyFileChanged :
    SameOr (.ok (place, .file left)) (.ok (place, .file right))
      (tree.canonicalize path) (other.canonicalize path) := by
  unfold canonicalize
  rw [alike.home]
  split
  · exact .inl rfl
  · split
    · exact .inl rfl
    · exact (follow_of_onlyFileChanged alike).map occupied

theorem resolve_of_onlyFileChanged :
    SameOr (.ok (place, .file left)) (.ok (place, .file right))
      (tree.resolve path) (other.resolve path) := by
  have spots : SameOr (.ok ⟨place, some (.file left)⟩) (.ok ⟨place, some (.file right)⟩)
      (tree.spot path) (other.spot path) := by
    unfold FileTree.spot
    rw [alike.home]
    split
    · exact .inl rfl
    · split
      · exact .inl rfl
      · split
        · exact .inl rfl
        · exact follow_of_onlyFileChanged alike
  exact spots.map occupied

/-- A path that leads to the file in one tree leads to it in the other one. -/
theorem resolve_other (found : tree.resolve path = .ok (place, .file left)) :
    other.resolve path = .ok (place, .file right) := by
  rcases resolve_of_onlyFileChanged alike with same | ⟨_, there⟩
  · rw [found] at same
    have left := entry?_of_resolve same
    rw [alike.new] at left
    cases left
    exact same
  · exact there

/-- The same content makes the trees equal. -/
theorem onlyFileChanged_overwrite_both (new : Bytes) :
    (tree.overwrite place new).OnlyFileChanged (other.overwrite place new) place new
      new where
  home := alike.home
  places := by rw [places_overwrite, places_overwrite, alike.places]
  old := by rw [entry?_overwrite alike.old, if_pos rfl]
  new := by rw [entry?_overwrite alike.new, if_pos rfl]
  other := by
    intro there different
    rw [entry?_overwrite alike.old, entry?_overwrite alike.new, if_neg different,
      if_neg different, alike.other there different]

end

end FileTree
end ReleaseLog
