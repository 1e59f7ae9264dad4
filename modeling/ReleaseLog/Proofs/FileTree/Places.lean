import Mathlib.Data.List.Basic
import ReleaseLog.FileTree.Edit
import ReleaseLog.Proofs.FileTree.Content

/-!
# The table of a tree

A tree is a table, and the laws of its operations are those of a table: a new row is found under its
place and nowhere else, and without it the table is the old one. Rows are added only at places where
nothing stands, so in a tree that is set up from an empty one no place has two rows
(`hasDistinctPlaces_applyAll`).
-/

namespace ReleaseLog
namespace FileTree

variable {tree : FileTree} {place other : Place} {entry : FileEntry} {content : Bytes}

/-! ## One row more or less -/

theorem not_mem_of_free (free : tree.entry? place = none) :
    place ∉ tree.entries.map (·.1) := by
  intro member
  obtain ⟨row, inTree, rfl⟩ := List.mem_map.1 member
  unfold entry? at free
  split at free
  · cases free
  · have different := List.lookup_eq_none_iff.1 free row inTree
    simp at different

theorem ne_of_mem_of_free {row : Place × FileEntry} (free : tree.entry? place = none)
    (member : row ∈ tree.entries) : row.1 ≠ place := by
  rintro rfl
  exact not_mem_of_free free (List.mem_map_of_mem member)

theorem entry?_add (free : tree.entry? place = none) :
    FileTree.entry? (tree.add place entry) other =
      if other = place then some entry else tree.entry? other := by
  unfold entry? at free ⊢
  split at free
  · cases free
  · rename_i outside
    by_cases same : other = place
    · subst same
      simp [add, outside, List.lookup_append, free]
    · have different : (other == place) = false := by simpa using same
      simp [add, same, List.lookup_append, List.lookup_cons, different]

/-- What is added where nothing stands can be taken away again. -/
theorem erase_add (free : tree.entry? place = none) :
    (tree.add place entry).erase place = tree := by
  have rest : tree.entries.filter (·.1 != place) = tree.entries := by
    rw [List.filter_eq_self]
    intro row member
    simpa using ne_of_mem_of_free free member
  rw [add, erase, List.filter_append, rest]
  simp

theorem overwrite_of_free (free : tree.entry? place = none) :
    tree.overwrite place content = tree := by
  have rows : ∀ row ∈ tree.entries,
      (row.1, if row.1 = place then FileEntry.file content else row.2) = id row := by
    intro row member
    rw [if_neg (ne_of_mem_of_free free member)]
    rfl
  rw [overwrite, List.map_congr_left rows, List.map_id]

theorem free_overwrite (free : tree.entry? place = none) :
    FileTree.entry? (tree.overwrite other content) place = none := by
  unfold entry? at free ⊢
  split at free
  · cases free
  · rename_i outside
    have home : (tree.overwrite other content).home = tree.home := rfl
    rw [home, if_neg outside, lookup_overwrite, free]
    rfl

theorem overwrite_add :
    (tree.add place entry).overwrite other content =
      (tree.overwrite other content).add place
        (if place = other then .file content else entry) := by
  simp [add, overwrite]

/-! ## One row for each place -/

/-- No place has two rows. -/
def HasDistinctPlaces (tree : FileTree) : Prop := (tree.entries.map (·.1)).Nodup

instance (tree : FileTree) : Decidable tree.HasDistinctPlaces :=
  inferInstanceAs (Decidable (tree.entries.map (·.1)).Nodup)

theorem hasDistinctPlaces_empty (home : Place) : (empty home).HasDistinctPlaces := List.nodup_nil

theorem HasDistinctPlaces.add (h : tree.HasDistinctPlaces) (free : tree.entry? place = none) :
    (tree.add place entry).HasDistinctPlaces := by
  rw [HasDistinctPlaces, FileTree.add, List.map_append, List.nodup_append]
  refine ⟨h, by simp, ?_⟩
  rintro _ member _ new rfl
  obtain rfl : _ = place := by simpa using new
  exact not_mem_of_free free member

theorem HasDistinctPlaces.overwrite (h : tree.HasDistinctPlaces) :
    (tree.overwrite place content).HasDistinctPlaces := by
  rw [HasDistinctPlaces, places_overwrite]
  exact h

theorem HasDistinctPlaces.erase (h : tree.HasDistinctPlaces) :
    (tree.erase place).HasDistinctPlaces :=
  h.sublist (List.filter_sublist.map _)

theorem entry?_of_spot_none {path : Text} (h : tree.spot path = .ok ⟨place, none⟩) :
    tree.entry? place = none :=
  (entry?_of_follow (isOpen_startOf path isOpen_home) (spot_eq_ok_iff.1 h).2.2.2).1

/-! ## Setting up a tree -/

theorem home_makeDirectory (tree : FileTree) (start : Place) (names : List Text) :
    (tree.makeDirectory start names).home = tree.home := by
  unfold makeDirectory
  split <;> rfl

theorem HasDistinctPlaces.makeDirectory {start : Place} {names : List Text}
    (h : tree.HasDistinctPlaces) (there : tree.IsOpen start) :
    (tree.makeDirectory start names).HasDistinctPlaces := by
  unfold FileTree.makeDirectory
  split
  · rename_i found
    exact h.add (entry?_of_follow there found).1
  · exact h

/-- Directories are made one after the other, all from the same start. -/
theorem HasDistinctPlaces.makeDirectories {names : List Text} (path : Text)
    (h : tree.HasDistinctPlaces) :
    (tree.makeDirectories (startOf path tree.home) names).HasDistinctPlaces := by
  unfold FileTree.makeDirectories
  generalize List.range (names.length + 1) = counts
  induction counts generalizing tree with
  | nil => exact h
  | cons count counts ih =>
      have first : (tree.makeDirectory (startOf path tree.home)
          (names.take count)).HasDistinctPlaces :=
        h.makeDirectory (isOpen_startOf path isOpen_home)
      have later := ih first
      rw [home_makeDirectory] at later
      exact later

theorem HasDistinctPlaces.write {path : Text} (h : tree.HasDistinctPlaces) :
    (tree.write path content).HasDistinctPlaces := by
  have parents : (tree.makeParents path).HasDistinctPlaces := h.makeDirectories path
  unfold FileTree.write
  simp only
  split
  · rename_i found
    exact parents.add (entry?_of_spot_none found)
  · exact parents.overwrite
  · exact parents

theorem HasDistinctPlaces.addLink {target path : Text} (h : tree.HasDistinctPlaces) :
    (tree.addLink target path).HasDistinctPlaces := by
  have parents : (tree.makeParents path).HasDistinctPlaces := h.makeDirectories path
  unfold FileTree.addLink
  simp only
  split
  · split
    · rename_i free
      exact parents.add (Option.isNone_iff_eq_none.1 free)
    · exact parents
  · exact parents

theorem HasDistinctPlaces.remove {path : Text} (h : tree.HasDistinctPlaces) :
    (tree.remove path).HasDistinctPlaces := by
  unfold FileTree.remove
  split
  · exact h.erase
  · exact h

/-- A step in which a tree is set up. -/
inductive Edit
  | write (path : Text) (content : Bytes)
  | makePath (path : Text)
  | addLink (target path : Text)
  | remove (path : Text)

/-- The tree after the step. -/
def Edit.apply (tree : FileTree) : Edit → FileTree
  | write path content => tree.write path content
  | makePath path => tree.makePath path
  | addLink target path => tree.addLink target path
  | remove path => tree.remove path

theorem HasDistinctPlaces.apply (h : tree.HasDistinctPlaces) (edit : Edit) :
    (edit.apply tree).HasDistinctPlaces := by
  cases edit with
  | write path content => exact h.write
  | makePath path => exact h.makeDirectories path
  | addLink target path => exact h.addLink
  | remove path => exact h.remove

/-- However a tree is set up, no place of it has two rows. -/
theorem hasDistinctPlaces_applyAll (home : Place) (edits : List Edit) :
    (edits.foldl Edit.apply (empty home)).HasDistinctPlaces := by
  have start := hasDistinctPlaces_empty home
  generalize empty home = tree at start ⊢
  induction edits generalizing tree with
  | nil => exact start
  | cons edit edits ih => exact ih _ (start.apply edit)

/-! ## Listings -/

/-- Where each place has one row, the rows of a table are what stands at their places. -/
theorem entry?_of_mem (h : tree.HasDistinctPlaces) (member : (place, entry) ∈ tree.entries)
    (outside : ¬ place <+: tree.home) : tree.entry? place = some entry := by
  have found : tree.entries.lookup place = some entry := by
    obtain ⟨front, back, rows⟩ := List.append_of_mem member
    refine List.lookup_eq_some_iff.2 ⟨front, back, rows, ?_⟩
    intro row before
    rw [HasDistinctPlaces, rows, List.map_append, List.nodup_append] at h
    have different := h.2.2 row.1 (List.mem_map_of_mem before) place List.mem_cons_self
    simpa using different.symm
  unfold entry?
  rw [if_neg (mt List.isPrefixOf_iff_prefix.1 outside), found]

/-- A listing shows no content. -/
theorem listing_overwrite (h : tree.HasDistinctPlaces) {old : Bytes}
    (found : tree.entry? place = some (.file old)) :
    (tree.overwrite place content).listing = tree.listing := by
  have outside : ¬ place <+: tree.home := by
    intro inside
    rw [entry?_of_prefix_home inside] at found
    cases found
  unfold listing overwrite
  simp only [List.filterMap_map]
  congr 1
  apply List.filterMap_congr
  rintro ⟨there, entry⟩ member
  by_cases same : there = place
  · subst same
    rw [entry?_of_mem h member outside] at found
    cases found
    simp only [Function.comp_apply, if_true]
    rfl
  · simp only [Function.comp_apply, if_neg same]

end FileTree
end ReleaseLog
