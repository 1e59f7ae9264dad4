import ReleaseLog.FileTree.Resolve

/-!
# Places of files

The place that a path leads to holds what was found there, whichever way the path is followed. New
content of a file changes nothing else in a tree.
-/

namespace ReleaseLog
namespace FileTree

variable {tree : FileTree} {admits : Place → Bool → Bool} {directory place other : Place}
  {names : List Text} {links : Nat} {path : Text} {content new : Bytes}

/-! ## Following a path -/

/-- All directories along the way to a place are there. -/
def IsOpen (tree : FileTree) (place : Place) : Prop :=
  ∀ front, front <+: place → tree.entry? front = some .directory

theorem entry?_of_prefix_home (h : place <+: tree.home) : tree.entry? place = some .directory := by
  unfold entry?
  rw [List.isPrefixOf_iff_prefix.2 h, if_pos rfl]

theorem isOpen_startOf (path : Text) (h : tree.IsOpen directory) :
    tree.IsOpen (startOf path directory) := by
  unfold startOf
  split
  · intro front begins
    obtain rfl := List.prefix_nil.1 begins
    exact h [] List.nil_prefix
  · exact h

theorem isOpen_home : tree.IsOpen tree.home := fun _ => entry?_of_prefix_home

theorem IsOpen.dropLast (h : tree.IsOpen directory) : tree.IsOpen directory.dropLast :=
  fun front begins => h front (begins.trans (List.dropLast_prefix directory))

theorem IsOpen.append {name : Text} (h : tree.IsOpen directory)
    (found : tree.entry? (directory ++ [name]) = some .directory) :
    tree.IsOpen (directory ++ [name]) := by
  intro front begins
  rcases List.prefix_concat_iff.1 begins with rfl | inside
  · exact found
  · exact h front inside

/-- What a walk says of a place is what stands there, and it is no link. -/
theorem entry?_of_walk {spot : Spot} (h : tree.IsOpen directory)
    (arrived : tree.walk admits directory names = .arrived spot) :
    tree.entry? spot.place = spot.entry ∧ isLink spot.entry = false := by
  induction names generalizing directory with
  | nil =>
      cases arrived
      exact ⟨h directory List.prefix_rfl, rfl⟩
  | cons name names ih =>
      simp only [walk] at arrived
      split at arrived
      · exact ih h arrived
      split at arrived
      · exact ih h.dropLast arrived
      split at arrived
      · cases arrived
      split at arrived
      · rename_i found
        split at arrived <;> cases arrived
        exact ⟨found, rfl⟩
      · rename_i found
        exact ih (h.append found) arrived
      · rename_i found
        split at arrived <;> cases arrived
        exact ⟨found, rfl⟩
      · split at arrived <;> cases arrived

/-- A link is followed from a directory. -/
theorem isOpen_of_walk {start : Place} {later : List Text} (h : tree.IsOpen directory)
    (walked : tree.walk admits directory names = .detour start later) : tree.IsOpen start := by
  induction names generalizing directory with
  | nil => cases walked
  | cons name names ih =>
      simp only [walk] at walked
      split at walked
      · exact ih h walked
      split at walked
      · exact ih h.dropLast walked
      split at walked
      · cases walked
      split at walked
      · split at walked <;> cases walked
      · rename_i found
        exact ih (h.append found) walked
      · split at walked <;> cases walked
      · rename_i target _
        split at walked <;> cases walked
        exact isOpen_startOf target h

/-- Names are followed to the end of a walk, or on from the link that the walk ends at. -/
theorem follow_eq_ok_iff {spot : Spot} :
    tree.follow admits links directory names = .ok spot ↔
      tree.walk admits directory names = .arrived spot ∨
        ∃ start later fewer, tree.walk admits directory names = .detour start later ∧
          links = fewer + 1 ∧ tree.follow admits fewer start later = .ok spot := by
  rw [follow.eq_def]
  cases tree.walk admits directory names with
  | arrived found => simp
  | failed error => simp
  | detour start later =>
      cases links with
      | zero => simp
      | succ fewer =>
          constructor
          · intro followed
            exact .inr ⟨start, later, fewer, rfl, rfl, followed⟩
          · rintro (arrived | ⟨_, _, _, detour, more, followed⟩)
            · cases arrived
            · cases detour
              cases more
              exact followed

theorem entry?_of_follow {spot : Spot} (h : tree.IsOpen directory)
    (arrived : tree.follow admits links directory names = .ok spot) :
    tree.entry? spot.place = spot.entry ∧ isLink spot.entry = false := by
  induction links generalizing directory names with
  | zero =>
      rcases follow_eq_ok_iff.1 arrived with walked | ⟨_, _, _, _, more, _⟩
      · exact entry?_of_walk h walked
      · cases more
  | succ links ih =>
      rcases follow_eq_ok_iff.1 arrived with walked | ⟨start, later, fewer, walked, more, followed⟩
      · exact entry?_of_walk h walked
      · obtain rfl := Nat.succ.inj more
        exact ih (isOpen_of_walk h walked) followed

/-- A walk that gets through where few places are admitted goes the same way where all are. -/
theorem walk_anyPlace {answer : Walk} (walked : tree.walk admits directory names = answer)
    (passes : ∀ error, answer ≠ .failed error) :
    tree.walk anyPlace directory names = answer := by
  subst walked
  induction names generalizing directory with
  | nil => rfl
  | cons name names ih =>
      by_cases here : name = ['.']
      · simp only [walk, if_pos here] at passes ⊢
        exact ih passes
      by_cases up : name = ['.', '.']
      · simp only [walk, if_neg here, if_pos up] at passes ⊢
        exact ih passes
      simp only [walk, if_neg here, if_neg up] at passes ⊢
      split at passes
      · exact absurd rfl (passes _)
      · rename_i admitted
        have short : ¬ nameLimit < Text.size name := by
          intro long
          simp [long] at admitted
        rw [if_neg admitted]
        simp only [short, anyPlace, decide_false, Bool.not_true, Bool.or_false, Bool.false_eq_true,
          if_false]
        split
        · rfl
        · rename_i found
          simp only [found] at passes
          exact ih passes
        · rename_i found
          simp only [found] at passes
          split
          · rfl
          · rename_i more
            rw [if_neg more] at passes
            exact absurd rfl (passes _)
        · rfl

theorem follow_anyPlace {spot : Spot}
    (arrived : tree.follow admits links directory names = .ok spot) :
    tree.follow anyPlace links directory names = .ok spot := by
  induction links generalizing directory names with
  | zero =>
      rcases follow_eq_ok_iff.1 arrived with walked | ⟨_, _, _, _, more, _⟩
      · apply follow_eq_ok_iff.2
        exact .inl (walk_anyPlace walked (by simp))
      · cases more
  | succ links ih =>
      rcases follow_eq_ok_iff.1 arrived with walked | ⟨start, later, fewer, walked, more, followed⟩
      · apply follow_eq_ok_iff.2
        exact .inl (walk_anyPlace walked (by simp))
      · obtain rfl := Nat.succ.inj more
        apply follow_eq_ok_iff.2
        exact .inr ⟨start, later, links, walk_anyPlace walked (by simp), rfl, ih followed⟩

/-- Where few places are admitted, a walk goes the way that it goes where all are, or is refused a
place on it. -/
theorem walk_of_anyPlace {answer : Walk} (walked : tree.walk anyPlace directory names = answer)
    (passes : ∀ error, answer ≠ .failed error) :
    tree.walk admits directory names = answer ∨
      tree.walk admits directory names = .failed .nameTooLong := by
  subst walked
  induction names generalizing directory with
  | nil => exact .inl rfl
  | cons name names ih =>
      by_cases here : name = ['.']
      · simp only [walk, if_pos here] at passes ⊢
        exact ih passes
      by_cases up : name = ['.', '.']
      · simp only [walk, if_neg here, if_pos up] at passes ⊢
        exact ih passes
      simp only [walk, if_neg here, if_neg up] at passes ⊢
      by_cases refused : (decide (nameLimit < Text.size name) ||
          !admits (directory ++ [name])
            (demandDirectory names && !isLink (tree.entry? (directory ++ [name])))) = true
      · exact .inr (if_pos refused)
      · have short : ¬ nameLimit < Text.size name := by
          intro long
          simp [long] at refused
        rw [if_neg refused]
        simp only [short, anyPlace, decide_false, Bool.not_true, Bool.or_false, Bool.false_eq_true,
          if_false] at passes ⊢
        cases found : tree.entry? (directory ++ [name]) with
        | none => exact .inl rfl
        | some entry =>
            rw [found] at passes
            cases entry with
            | directory => exact ih passes
            | link => exact .inl rfl
            | file =>
                by_cases last : names.isEmpty = true
                · simp [last]
                · simp only [if_neg last] at passes
                  exact absurd rfl (passes _)

theorem follow_of_walk_failed {error : OsError}
    (failed : tree.walk admits directory names = .failed error) :
    tree.follow admits links directory names = .error error := by
  rw [follow.eq_def, failed]

theorem follow_of_anyPlace {spot : Spot}
    (arrived : tree.follow anyPlace links directory names = .ok spot) :
    tree.follow admits links directory names = .ok spot ∨
      tree.follow admits links directory names = .error .nameTooLong := by
  induction links generalizing directory names with
  | zero =>
      rcases follow_eq_ok_iff.1 arrived with walked | ⟨_, _, _, _, more, _⟩
      · rcases walk_of_anyPlace walked (by simp) with same | refused
        · exact .inl (follow_eq_ok_iff.2 (.inl same))
        · exact .inr (follow_of_walk_failed refused)
      · cases more
  | succ links ih =>
      rcases follow_eq_ok_iff.1 arrived with walked | ⟨start, later, fewer, walked, more, followed⟩
      · rcases walk_of_anyPlace walked (by simp) with same | refused
        · exact .inl (follow_eq_ok_iff.2 (.inl same))
        · exact .inr (follow_of_walk_failed refused)
      · obtain rfl := Nat.succ.inj more
        have ways : tree.walk admits directory names = .detour start later ∨ _ :=
          walk_of_anyPlace walked (by simp)
        rcases ways with same | refused
        · rw [follow.eq_def, same]
          exact ih followed
        · exact .inr (follow_of_walk_failed refused)

theorem occupied_eq_ok_iff {result : Except OsError Spot} {entry : FileEntry} :
    occupied result = .ok (place, entry) ↔ result = .ok ⟨place, some entry⟩ := by
  unfold occupied
  split <;> simp_all

/-! ## Resolving a path -/

theorem resolve_eq_ok_iff {entry : FileEntry} :
    tree.resolve path = .ok (place, entry) ↔ tree.spot path = .ok ⟨place, some entry⟩ :=
  occupied_eq_ok_iff

theorem spot_eq_ok_iff {spot : Spot} :
    tree.spot path = .ok spot ↔
      path.contains '\x00' = false ∧ path.isEmpty = false ∧ Text.size path ≤ pathLimit ∧
        tree.follow anyPlace linkLimit (startOf path tree.home) (pathNames path) = .ok spot := by
  unfold FileTree.spot
  split
  · simp_all
  split
  · simp_all
  split
  · rename_i long
    simp [Nat.not_le.2 long]
  · simp_all

theorem canonicalize_eq_ok_iff {entry : FileEntry} :
    tree.canonicalize path = .ok (place, entry) ↔
      path.contains '\x00' = false ∧ path.isEmpty = false ∧
        tree.follow hasShortPath linkLimit (startOf path tree.home) (pathNames path) =
          .ok ⟨place, some entry⟩ := by
  unfold canonicalize
  split
  · simp_all
  split
  · simp_all
  · simp_all [occupied_eq_ok_iff]

/-- The place of a file holds the file that is found under its path. -/
theorem entry?_of_resolve (h : tree.resolve path = .ok (place, .file content)) :
    tree.entry? place = some (.file content) :=
  (entry?_of_follow (isOpen_startOf path isOpen_home)
    (spot_eq_ok_iff.1 (resolve_eq_ok_iff.1 h)).2.2.2).1

/-- What is found under the path of a place stands there, and it is no link. -/
theorem entry?_of_canonicalize {entry : FileEntry}
    (h : tree.canonicalize path = .ok (place, entry)) :
    tree.entry? place = some entry ∧ isLink (some entry) = false :=
  entry?_of_follow (isOpen_startOf path isOpen_home) (canonicalize_eq_ok_iff.1 h).2.2

theorem size_le_of_resolve {entry : FileEntry} (h : tree.resolve path = .ok (place, entry)) :
    Text.size path ≤ pathLimit :=
  (spot_eq_ok_iff.1 (resolve_eq_ok_iff.1 h)).2.2.1

/-- Both ways to follow a path that is short enough end at the same place. -/
theorem resolve_of_canonicalize {entry : FileEntry} (short : Text.size path ≤ pathLimit)
    (h : tree.canonicalize path = .ok (place, entry)) :
    tree.resolve path = .ok (place, entry) := by
  obtain ⟨whole, named, followed⟩ := canonicalize_eq_ok_iff.1 h
  exact resolve_eq_ok_iff.2 (spot_eq_ok_iff.2 ⟨whole, named, short, follow_anyPlace followed⟩)

/-- A longer path is not followed as a whole. -/
theorem resolve_of_long {entry : FileEntry} (long : pathLimit < Text.size path)
    (h : tree.canonicalize path = .ok (place, entry)) :
    tree.resolve path = .error .nameTooLong := by
  obtain ⟨whole, named, _⟩ := canonicalize_eq_ok_iff.1 h
  rw [resolve, FileTree.spot, whole, named, if_neg (by simp), if_neg (by simp), if_pos long]
  rfl

/-- A file that a path leads to has a place whose path can be built up, or is too deep for that. -/
theorem canonicalize_of_resolve (h : tree.resolve path = .ok (place, .file content)) :
    tree.canonicalize path = .ok (place, .file content) ∨
      tree.canonicalize path = .error .nameTooLong := by
  obtain ⟨whole, named, _, followed⟩ := spot_eq_ok_iff.1 (resolve_eq_ok_iff.1 h)
  have ways : tree.follow hasShortPath linkLimit (startOf path tree.home)
      (pathNames path) = .ok ⟨place, some (.file content)⟩ ∨ _ := follow_of_anyPlace followed
  rcases ways with same | refused
  · exact .inl (canonicalize_eq_ok_iff.2 ⟨whole, named, same⟩)
  · right
    rw [canonicalize, whole, named, refused]
    rfl

theorem read_eq_ok_iff :
    tree.read path = .ok content ↔ ∃ place, tree.resolve path = .ok (place, .file content) := by
  unfold FileTree.read
  split
  · rename_i failed
    simp [failed]
  · rename_i found
    simp [found]
  · rename_i found notFile resolved
    constructor
    · intro read
      cases read
    · rintro ⟨place, file⟩
      rw [resolved] at file
      exact absurd (Except.ok.inj file) (notFile place content)

/-- The root is no file. -/
theorem ne_nil_of_file (h : tree.entry? place = some (.file content)) : place ≠ [] := by
  rintro rfl
  cases h

/-! ## New content -/

theorem lookup_overwrite :
    (tree.overwrite place new).entries.lookup other =
      (tree.entries.lookup other).map fun entry => if other = place then .file new else entry := by
  unfold overwrite
  simp only
  induction tree.entries with
  | nil => rfl
  | cons entry entries ih =>
      obtain ⟨there, entry⟩ := entry
      rw [List.map_cons, List.lookup_cons, List.lookup_cons]
      by_cases same : other = there
      · subst same
        simp
      · have different : (other == there) = false := by simpa using same
        rw [different]
        exact ih

/-- A file with new content is the only thing that is new. -/
theorem entry?_overwrite (h : tree.entry? place = some (.file content)) :
    FileTree.entry? (tree.overwrite place new) other =
      if other = place then some (.file new) else tree.entry? other := by
  unfold entry? at h
  split at h
  · cases h
  · rename_i outside
    have home : (tree.overwrite place new).home = tree.home := rfl
    unfold entry?
    rw [home, lookup_overwrite]
    by_cases same : other = place
    · subst same
      rw [if_neg outside, if_pos rfl, h]
      simp
    · simp only [if_neg same, Option.map_id']

end FileTree
end ReleaseLog
