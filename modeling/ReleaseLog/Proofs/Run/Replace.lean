import ReleaseLog.Proofs.FileTree.Places
import ReleaseLog.Proofs.Run.Basic

/-!
# Replacing a file

A file is replaced at the place that a path leads to through all links. The new text is then found
under every path that leads to this place, and nothing else in the tree is different
(`FileTree.replace_readsBack`). Only a path that is too long to be followed as a whole can lead to a
file that is replaced and is not found under it.

The operating system replaces a file in several steps, and may refuse each of them. A new file is
made beside the old one, gets its text and the rights of the old one, and is moved onto the place of
the old one. If it cannot be made or filled, no new file is left when the replacement fails. If it
cannot be moved, as onto a directory, the failure hands it back: whole, it stands beside the place
until the failure is let go. With that no failure leaves a trace, and what is left of the steps is
the replacement in a single step.
-/

namespace ReleaseLog
namespace FileTree

/-! ## Step by step -/

/-- What the operating system has against the steps of a replacement, if anything: against making a
new file, writing the text into it from some byte on, granting it the rights of the old one, and
moving it onto its place. Nothing is ever held against removing it. -/
structure Obstacles where
  making : Option OsError := none
  writing : Option (OsError × Nat) := none
  granting : Option OsError := none
  moving : Option OsError := none

/-- Why a step stopped, and what the tree was like then. -/
abbrev Stopped := Failure × FileTree

/-- A step that changes the tree, unless there is an obstacle or it cannot be done. -/
def act (obstacle : Option OsError) (reason : OsError → Failure)
    (change : FileTree → Except OsError FileTree) (tree : FileTree) : Except Stopped FileTree :=
  match obstacle with
  | some error => .error (reason error, tree)
  | none => (change tree).mapError fun error => (reason error, tree)

/-- The directory in which the new file is made. The root is in no directory, so it is the working
directory then. -/
def workshop (tree : FileTree) (target : Place) : Place :=
  if target = [] then tree.home else target.dropLast

/-- An empty file of this name is made, if its path is not too long. -/
def makeBeside (tree : FileTree) (target : Place) (name : Text) : Except OsError FileTree :=
  if pathLimit < Text.size (tree.preparedPath target name) then .error .nameTooLong
  else .ok (tree.add (tree.workshop target ++ [name]) (.file []))

/-- The new file gets its text, and then the rights of the old one. Failures name it by its path. -/
def fill (tree : FileTree) (obstacles : Obstacles) (prepared : Place) (path content : Text) :
    Except Stopped FileTree :=
  match obstacles.writing with
  | some (error, count) =>
      .error (.access path error, tree.overwrite prepared ((Text.toUtf8 content).take count))
  | none =>
      act obstacles.granting (.access path) .ok (tree.overwrite prepared (Text.toUtf8 content))

/-- A file is moved onto another place. The root is always in use, and a directory does not give
way to a file. -/
def moveFile (tree : FileTree) (source target : Place) : Except OsError FileTree :=
  match tree.entry? source with
  | some (.file content) =>
      if target = [] then .error .busy
      else
        match tree.entry? target with
        | none => .ok ((tree.add target (.file content)).erase source)
        | some .directory => .error .isDirectory
        | some _ => .ok ((tree.overwrite target content).erase source)
  | _ => .error .notFound

/-- Why a replacement failed, and the place of the new file that it hands back, if any. The file
stays there as long as the failure is held. -/
structure HeldFailure where
  failure : Failure
  newFile : Option Place := none
  deriving DecidableEq

/-- The tree once a failure has been let go, and with it the file that it handed back. -/
def letGo (tree : FileTree) (held : HeldFailure) : FileTree :=
  match held.newFile with
  | none => tree
  | some place => tree.erase place

/-- A file is replaced step by step, with a new file of this name. -/
def replaceBySteps (tree : FileTree) (obstacles : Obstacles) (name path content : Text) :
    Except HeldFailure Text × FileTree :=
  match tree.canonicalize path with
  | .error error => (.error { failure := .access path error }, tree)
  | .ok (target, _) =>
      let prepared := tree.workshop target ++ [name]
      match act obstacles.making (.access target.directoryPath) (·.makeBeside target name) tree with
      | .error (failure, left) => (.error { failure }, left)
      | .ok made =>
          match made.fill obstacles prepared (tree.preparedPath target name) content with
          | .error (failure, left) => (.error { failure }, left.erase prepared)
          | .ok filled =>
              match act obstacles.moving (.replacement target.toText) (·.moveFile prepared target)
                  filled with
              | .error (failure, left) => (.error { failure, newFile := some prepared }, left)
              | .ok after => (.ok target.toText, after)

/-- What is left of a replacement when its failure, if it failed, has been let go. -/
def settle : Except HeldFailure Text × FileTree → Except Failure Text × FileTree
  | (.ok answer, after) => (.ok answer, after)
  | (.error held, after) => (.error held.failure, after.letGo held)

/-- The end of a replacement whose new file cannot be moved onto the place: with the whole text it
stands in the tree, and all else is as it was. -/
def unmoved (tree : FileTree) (name content : Text) (target : Place) (error : OsError) :
    Except HeldFailure Text × FileTree :=
  (.error ⟨.replacement target.toText error, some (tree.workshop target ++ [name])⟩,
    tree.add (tree.workshop target ++ [name]) (.file (Text.toUtf8 content)))

/-- How a replacement by steps can end. -/
inductive StepsEnd (tree : FileTree) (name path content : Text) :
    Except HeldFailure Text × FileTree → Prop
  | replaced {answer : Text} {after : FileTree}
      (whole : tree.replace path content = (.ok answer, after)) :
      StepsEnd tree name path content (.ok answer, after)
  | unfilled (failure : Failure) : StepsEnd tree name path content (.error ⟨failure, none⟩, tree)
  | unmoved {target : Place} {entry : FileEntry} (error : OsError)
      (reached : tree.canonicalize path = .ok (target, entry)) :
      StepsEnd tree name path content (tree.unmoved name content target error)

/-! ## What the steps do -/

variable {tree : FileTree} {target prepared : Place} {path content name : Text}
  {entry : FileEntry} {bytes : Bytes} {obstacles : Obstacles}

/-- A step that fails changes nothing. -/
theorem act_cases (obstacle : Option OsError) (reason : OsError → Failure)
    (change : FileTree → Except OsError FileTree) (tree : FileTree) :
    (∃ error, act obstacle reason change tree = .error (reason error, tree)) ∨
      ∃ after, change tree = .ok after ∧ act obstacle reason change tree = .ok after := by
  unfold act
  cases obstacle with
  | some error => exact .inl ⟨error, rfl⟩
  | none =>
      cases change tree with
      | error error => exact .inl ⟨error, rfl⟩
      | ok after => exact .inr ⟨after, rfl, rfl⟩

theorem overwrite_add_self (free : tree.entry? prepared = none) (bytes : Bytes) :
    (tree.add prepared entry).overwrite prepared bytes = tree.add prepared (.file bytes) := by
  rw [overwrite_add, if_pos rfl, overwrite_of_free free]

/-- The new file gets the whole text, or it is all that a failure leaves behind. -/
theorem fill_cases (free : tree.entry? prepared = none) (obstacles : Obstacles)
    (path content : Text) :
    (∃ failure bytes, (tree.add prepared (.file [])).fill obstacles prepared path content =
        .error (failure, tree.add prepared (.file bytes))) ∨
      (tree.add prepared (.file [])).fill obstacles prepared path content =
        .ok (tree.add prepared (.file (Text.toUtf8 content))) := by
  unfold fill
  simp only [overwrite_add_self free]
  cases obstacles.writing with
  | some stop => exact .inl ⟨_, _, rfl⟩
  | none =>
      rcases act_cases obstacles.granting (.access path) .ok
        (tree.add prepared (.file (Text.toUtf8 content))) with ⟨error, refused⟩ | ⟨_, same, granted⟩
      · exact .inl ⟨_, _, refused⟩
      · cases same
        exact .inr granted

theorem fill_unhindered (free : tree.entry? prepared = none) (path content : Text) :
    (tree.add prepared (.file [])).fill {} prepared path content =
      .ok (tree.add prepared (.file (Text.toUtf8 content))) := by
  simp only [fill, act, Except.mapError, overwrite_add_self free]

/-- What is moved onto a file is its new content. -/
theorem moveFile_add (free : tree.entry? prepared = none)
    (found : tree.entry? target = some entry) (noLink : isLink (some entry) = false) :
    (tree.add prepared (.file bytes)).moveFile prepared target =
      if target = [] then .error .busy
      else if entry = .directory then .error .isDirectory
      else .ok (tree.overwrite target bytes) := by
  have different : target ≠ prepared := by
    rintro rfl
    rw [found] at free
    cases free
  have source : FileTree.entry? (tree.add prepared (.file bytes)) prepared =
      some (.file bytes) := by
    rw [entry?_add free, if_pos rfl]
  have there : FileTree.entry? (tree.add prepared (.file bytes)) target = some entry := by
    rw [entry?_add free, if_neg different, found]
  have moved : ((tree.add prepared (.file bytes)).overwrite target bytes).erase prepared =
      tree.overwrite target bytes := by
    rw [overwrite_add, erase_add (free_overwrite free)]
  unfold moveFile
  simp only [source, there]
  split
  · rfl
  · cases entry with
    | directory => rfl
    | link => cases noLink
    | file => simp [moved]

theorem size_preparedPath (tree : FileTree) (target : Place) (name : Text) :
    Text.size (tree.preparedPath target name) =
      Text.size (tree.preparedPath target []) + Text.size name := by
  unfold preparedPath Place.toText
  generalize (if target = [] then tree.home ++ [['.']] else target.dropLast) = directory
  cases directory with
  | nil => simp [Text.size]
  | cons =>
      simp [Text.size_append, Text.size]
      omega

/-- The new file is made where there is room for the path of any such file. -/
theorem makeBeside_eq (tree : FileTree) (target : Place)
    (size : Text.size name = Text.size preparedName) :
    tree.makeBeside target name =
      if tree.hasRoomBeside target = false then .error .nameTooLong
      else .ok (tree.add (tree.workshop target ++ [name]) (.file [])) := by
  have sameSize : Text.size (tree.preparedPath target name) =
      Text.size (tree.preparedPath target preparedName) := by
    rw [size_preparedPath, size_preparedPath tree target preparedName, size]
  unfold makeBeside hasRoomBeside
  simp only [sameSize, decide_eq_false_iff_not, Nat.not_le]

/-- A name for the new file: it is as long as such names are, and nothing of this name stands beside
the place that a path leads to. -/
structure IsFreshName (tree : FileTree) (path name : Text) : Prop where
  size : Text.size name = Text.size preparedName
  free : ∀ target entry, tree.canonicalize path = .ok (target, entry) →
    tree.entry? (tree.workshop target ++ [name]) = none

theorem IsFreshName.of_canonicalize (reached : tree.canonicalize path = .ok (target, entry))
    (size : Text.size name = Text.size preparedName)
    (free : tree.entry? (tree.workshop target ++ [name]) = none) : tree.IsFreshName path name where
  size := size
  free := by
    intro other there again
    rw [reached] at again
    cases again
    exact free

/-- Whatever stands in the way, a file is replaced in steps as it is in one, or the steps end where
the new file is not filled or not moved. -/
theorem replaceBySteps_ends (fresh : tree.IsFreshName path name) (obstacles : Obstacles)
    (content : Text) :
    tree.StepsEnd name path content (tree.replaceBySteps obstacles name path content) := by
  unfold replaceBySteps
  cases reached : tree.canonicalize path with
  | error error => exact .unfilled _
  | ok answer =>
      obtain ⟨target, entry⟩ := answer
      obtain ⟨found, noLink⟩ := entry?_of_canonicalize reached
      have free := fresh.free target entry reached
      simp only
      rcases act_cases obstacles.making (.access target.directoryPath)
        (·.makeBeside target name) tree with ⟨error, notMade⟩ | ⟨made, making, isMade⟩
      · rw [notMade]
        exact .unfilled _
      rw [makeBeside_eq tree target fresh.size] at making
      split at making
      · cases making
      rename_i room
      obtain rfl := Except.ok.inj making
      rw [isMade]
      simp only
      rcases fill_cases free obstacles (tree.preparedPath target name) content with
        ⟨failure, bytes, notFilled⟩ | filled
      · rw [notFilled]
        simp only [erase_add free]
        exact .unfilled failure
      rw [filled]
      simp only
      rcases act_cases obstacles.moving (.replacement target.toText)
        (·.moveFile (tree.workshop target ++ [name]) target)
        (tree.add (tree.workshop target ++ [name]) (.file (Text.toUtf8 content))) with
        ⟨error, notMoved⟩ | ⟨after, moving, isMoved⟩
      · rw [notMoved]
        exact .unmoved error reached
      rw [moveFile_add free found noLink] at moving
      split at moving
      · cases moving
      split at moving
      · cases moving
      rename_i notRoot notDirectory
      obtain rfl := Except.ok.inj moving
      rw [isMoved]
      refine .replaced ?_
      rw [replace, target_of_canonicalize reached, if_neg room, if_neg notRoot, if_neg notDirectory]

/-- Without obstacles the new file is moved unless the place is the root or a directory. -/
theorem replaceBySteps_unhindered (fresh : tree.IsFreshName path name) (content : Text)
    (reached : tree.canonicalize path = .ok (target, entry))
    (room : tree.hasRoomBeside target = true) :
    tree.replaceBySteps {} name path content =
      if target = [] then tree.unmoved name content target .busy
      else if entry = .directory then tree.unmoved name content target .isDirectory
      else (.ok target.toText, tree.overwrite target (Text.toUtf8 content)) := by
  obtain ⟨found, noLink⟩ := entry?_of_canonicalize reached
  have free := fresh.free target entry reached
  have wide : ¬ tree.hasRoomBeside target = false := by simp [room]
  have moved : FileTree.moveFile (tree.add (tree.workshop target ++ [name])
      (.file (Text.toUtf8 content))) (tree.workshop target ++ [name]) target = _ :=
    moveFile_add free found noLink
  unfold replaceBySteps
  simp only [reached, act, makeBeside_eq tree target fresh.size, if_neg wide, Except.mapError,
    fill_unhindered free, moved]
  by_cases root : target = []
  · simp only [if_pos root]
    rfl
  by_cases directory : entry = .directory
  · simp only [if_neg root, if_pos directory]
    rfl
  · simp only [if_neg root, if_neg directory]

/-- A new file that was not moved is gone when the failure is. -/
theorem settle_unmoved (free : tree.entry? (tree.workshop target ++ [name]) = none)
    (error : OsError) :
    settle (tree.unmoved name content target error) =
      (.error (.replacement target.toText error), tree) :=
  congrArg (Prod.mk _) (erase_add free)

/-- What is left of a replacement that meets no obstacle is the one in a single step. -/
theorem settle_replaceBySteps (fresh : tree.IsFreshName path name) (content : Text) :
    settle (tree.replaceBySteps {} name path content) = tree.replace path content := by
  unfold replace
  cases reached : tree.canonicalize path with
  | error error =>
      rw [target_of_canonicalize_error reached, replaceBySteps, reached]
      rfl
  | ok answer =>
      obtain ⟨target, entry⟩ := answer
      have free := fresh.free target entry reached
      rw [target_of_canonicalize reached]
      by_cases narrow : tree.hasRoomBeside target = false
      · simp only [replaceBySteps, reached, act, makeBeside_eq tree target fresh.size,
          if_pos narrow, Except.mapError]
        rfl
      have room := (Bool.not_eq_false _).mp narrow
      rw [replaceBySteps_unhindered fresh content reached room, if_neg narrow]
      by_cases root : target = []
      · simp only [if_pos root, settle_unmoved free]
      by_cases directory : entry = .directory
      · simp only [if_neg root, if_pos directory, settle_unmoved free]
      · simp only [if_neg root, if_neg directory]
        rfl

/-- A failure that is let go leaves no trace. -/
theorem StepsEnd.letGo {held : HeldFailure} {after : FileTree}
    (ends : tree.StepsEnd name path content (.error held, after))
    (fresh : tree.IsFreshName path name) : after.letGo held = tree := by
  cases ends with
  | unfilled => rfl
  | unmoved error reached => exact erase_add (fresh.free _ _ reached)

/-! ## What has changed -/

/-- The target of the link that a path names. -/
def linkTarget? (tree : FileTree) (path : Text) : Option Text :=
  match tree.ownPlace? path with
  | none => none
  | some place =>
      match tree.entry? place with
      | some (.link target) => some target
      | _ => none

section
variable {after : FileTree} {place : Place} {old new : Bytes}
  (changed : tree.OnlyFileChanged after place old new)
include changed

theorem ownPlace?_of_onlyFileChanged (path : Text) :
    after.ownPlace? path = tree.ownPlace? path := by
  unfold ownPlace?
  rw [changed.home]
  have ways : SameOr _ _ (tree.follow anyPlace linkLimit (startOf path tree.home)
      (pathNames path).dropLast) _ := follow_of_onlyFileChanged changed
  rcases ways with same | ⟨before, now⟩
  · simp only [same]
  · simp only [before, now]

theorem linkTarget?_of_onlyFileChanged (path : Text) :
    after.linkTarget? path = tree.linkTarget? path := by
  unfold linkTarget?
  rw [ownPlace?_of_onlyFileChanged changed]
  cases tree.ownPlace? path with
  | none => rfl
  | some own =>
      by_cases same : own = place
      · subst same
        simp only [changed.old, changed.new]
      · simp only [changed.other own same]

/-- Paths lead to the same places, or to the same errors. -/
theorem place_of_onlyFileChanged (path : Text) :
    (after.resolve path).map (·.1) = (tree.resolve path).map (·.1) := by
  rcases (resolve_of_onlyFileChanged changed).map (Except.map (·.1)) with same | ⟨before, now⟩
  · exact same
  · rw [before, now]
    rfl

end

/-- A file has a new text, under every path that leads to it, and nothing else is different: paths
lead where they led, links and other files are as they were, and so is the listing. -/
structure FileReplaced (before after : FileTree) (place : Place) (old : Bytes) (content : Text) :
    Prop where
  changed : before.OnlyFileChanged after place old (Text.toUtf8 content)
  places : ∀ path, (after.resolve path).map (·.1) = (before.resolve path).map (·.1)
  loaded : ∀ path, before.resolve path = .ok (place, .file old) →
    (load path : StateM FileTree (Except Failure Text)) after = (.ok content, after)
  links : ∀ path, after.linkTarget? path = before.linkTarget? path
  listing : before.HasDistinctPlaces → after.listing = before.listing

theorem load_of_resolve {place : Place}
    (found : tree.resolve path = .ok (place, .file (Text.toUtf8 content))) :
    (load path : StateM FileTree (Except Failure Text)) tree = (.ok content, tree) := by
  rw [load_apply, read_eq_ok_iff.2 ⟨place, found⟩]
  simp only [Text.ofUtf8?_toUtf8]

theorem load_of_error {error : OsError} (failed : tree.resolve path = .error error) :
    (load path : StateM FileTree (Except Failure Text)) tree =
      (.error (.access path error), tree) := by
  have notRead : tree.read path = .error error := by rw [FileTree.read, failed]
  rw [load_apply, notRead]

theorem fileReplaced_overwrite {place : Place} {old : Bytes}
    (found : tree.entry? place = some (.file old)) (content : Text) :
    FileReplaced tree (tree.overwrite place (Text.toUtf8 content)) place old content := by
  have changed := onlyFileChanged_overwrite found (Text.toUtf8 content)
  exact {
    changed
    places := place_of_onlyFileChanged changed
    loaded := fun path reached => load_of_resolve (resolve_other changed reached)
    links := linkTarget?_of_onlyFileChanged changed
    listing := fun distinct => listing_overwrite distinct found }

theorem replace_eq_ok_iff {answer : Text} {after : FileTree} :
    tree.replace path content = (.ok answer, after) ↔
      ∃ place, tree.target path = .ok place ∧ place.toText = answer ∧
        tree.overwrite place (Text.toUtf8 content) = after := by
  unfold replace
  cases tree.target path with
  | error failure => simp
  | ok place => simp

/-- A file is replaced where there is one, with room for a new file beside it. -/
theorem replace_isOk_iff :
    (∃ answer after, tree.replace path content = (.ok answer, after)) ↔
      ∃ place old, tree.canonicalize path = .ok (place, .file old) ∧
        tree.hasRoomBeside place = true := by
  constructor
  · rintro ⟨answer, after, replaced⟩
    obtain ⟨place, isTarget, _⟩ := replace_eq_ok_iff.1 replaced
    obtain ⟨⟨old, reached⟩, room⟩ := target_eq_ok_iff.1 isTarget
    exact ⟨place, old, reached, room⟩
  · rintro ⟨place, old, reached, room⟩
    have isTarget := target_eq_ok_iff.2 ⟨⟨old, reached⟩, room⟩
    exact ⟨_, _, replace_eq_ok_iff.2 ⟨place, isTarget, rfl, rfl⟩⟩

theorem fileReplaced_of_replace {answer : Text} {after : FileTree}
    (replaced : tree.replace path content = (.ok answer, after)) :
    ∃ place old, tree.canonicalize path = .ok (place, .file old) ∧ answer = place.toText ∧
      FileReplaced tree after place old content := by
  obtain ⟨place, isTarget, rfl, rfl⟩ := replace_eq_ok_iff.1 replaced
  obtain ⟨⟨old, reached⟩, _⟩ := target_eq_ok_iff.1 isTarget
  exact ⟨place, old, reached, rfl,
    fileReplaced_overwrite (entry?_of_canonicalize reached).1 content⟩

/-- The path under which a file was replaced leads to it as well, if it can be followed as a
whole. -/
theorem FileReplaced.load_of_canonicalize {after : FileTree} {place : Place} {old : Bytes}
    (written : FileReplaced tree after place old content)
    (reached : tree.canonicalize path = .ok (place, .file old)) :
    (load path : StateM FileTree (Except Failure Text)) after =
      (if Text.size path ≤ pathLimit then .ok content
        else .error (.access path .nameTooLong), after) := by
  split
  · rename_i short
    exact written.loaded path (resolve_of_canonicalize short reached)
  · rename_i long
    have unread := resolve_of_long (Nat.not_le.1 long) reached
    have ways : SameOr _ _ (tree.resolve path) _ := resolve_of_onlyFileChanged written.changed
    rcases ways with same | ⟨file, _⟩
    · exact load_of_error (same.trans unread)
    · rw [unread] at file
      cases file

theorem replace_of_not_target (none : ∀ place, tree.target path ≠ .ok place) :
    ∃ failure, tree.replace path content = (.error failure, tree) := by
  unfold replace
  cases target : tree.target path with
  | error failure => exact ⟨failure, rfl⟩
  | ok place => exact absurd target (none place)

/-- A file that has been replaced is found under every path that led to it, and nothing else is
different; only under a path that is too long to be followed as a whole it is not found. A path is
refused if it leads to no file, or to one that has no room for the path of a new file beside it, and
in the end everything is as it was. So it is where the operating system stops one of the steps. As
long as the failure is held, a new file that could not be moved, as onto the root or a directory,
stands in the tree, and nothing else in it is different. -/
theorem replace_readsBack (tree : FileTree) (path content : Text) :
    (∀ answer after, tree.replace path content = (.ok answer, after) →
      ∃ place old, tree.canonicalize path = .ok (place, .file old) ∧ answer = place.toText ∧
        (Text.size path ≤ pathLimit → tree.resolve path = .ok (place, .file old)) ∧
        FileReplaced tree after place old content ∧
        (load path : StateM FileTree (Except Failure Text)) after =
          (if Text.size path ≤ pathLimit then .ok content
            else .error (.access path .nameTooLong), after)) ∧
    (∀ failure after, tree.replace path content = (.error failure, after) → after = tree) ∧
    ((∃ answer after, tree.replace path content = (.ok answer, after)) ↔
      ∃ place old, tree.canonicalize path = .ok (place, .file old) ∧
        tree.hasRoomBeside place = true) ∧
    (Text.size path ≤ pathLimit → (∀ place old, tree.resolve path ≠ .ok (place, .file old)) →
      ∃ failure, tree.replace path content = (.error failure, tree)) ∧
    (∀ name, tree.IsFreshName path name →
      settle (tree.replaceBySteps {} name path content) = tree.replace path content ∧
      (∀ place, tree.canonicalize path = .ok (place, .directory) →
        tree.hasRoomBeside place = true →
          tree.replaceBySteps {} name path content =
            tree.unmoved name content place (if place = [] then .busy else .isDirectory)) ∧
      ∀ obstacles,
        tree.StepsEnd name path content (tree.replaceBySteps obstacles name path content) ∧
        ∀ held after, tree.replaceBySteps obstacles name path content = (.error held, after) →
          after.letGo held = tree) := by
  refine ⟨?_, ?_, replace_isOk_iff, ?_, ?_⟩
  · intro answer after replaced
    obtain ⟨place, old, reached, rfl, written⟩ := fileReplaced_of_replace replaced
    exact ⟨place, old, reached, rfl, fun short => resolve_of_canonicalize short reached, written,
      written.load_of_canonicalize reached⟩
  · intro failure after failed
    rcases tree.replace_cases path content with ⟨_, same⟩ | ⟨_, _, _, replaced⟩
    · rw [same] at failed
      cases failed
      rfl
    · rw [replaced] at failed
      cases failed
  · intro short noFile
    apply replace_of_not_target
    intro place isTarget
    obtain ⟨⟨old, reached⟩, _⟩ := target_eq_ok_iff.1 isTarget
    exact noFile place old (resolve_of_canonicalize short reached)
  · intro name fresh
    refine ⟨settle_replaceBySteps fresh content, ?_, ?_⟩
    · intro place reached room
      rw [replaceBySteps_unhindered fresh content reached room]
      split
      · rfl
      · rfl
    · intro obstacles
      have ends := replaceBySteps_ends fresh obstacles content
      refine ⟨ends, ?_⟩
      intro held after failed
      rw [failed] at ends
      exact ends.letGo fresh

/-- A changelog is replaced behind two links, and found under the second one as well; the links
stay. A new file that cannot be moved onto the directory is gone when the failure is. -/
theorem replace_readsBack_behind_links :
    let tree : FileTree := ⟨[], [(["d".toList], .directory),
      (["d".toList, "a".toList], .file (Text.toUtf8 "old".toList)),
      ([defaultPath], .link "d/l".toList), (["d".toList, "l".toList], .link "a".toList)]⟩
    let after := (tree.replace defaultPath "new".toList).2
    let refused := tree.replaceBySteps {} ".tmp4fT9aQ".toList "d".toList "new".toList
    (load defaultPath : StateM FileTree (Except Failure Text)) after =
        (.ok "new".toList, after) ∧
      (load "d/l".toList : StateM FileTree (Except Failure Text)) after =
        (.ok "new".toList, after) ∧
      after.linkTarget? defaultPath = some "d/l".toList ∧ after.listing = tree.listing ∧
      settle (tree.replaceBySteps {} ".tmp4fT9aQ".toList defaultPath "new".toList) =
        (.ok "/d/a".toList, after) ∧
      refused = tree.unmoved ".tmp4fT9aQ".toList "new".toList ["d".toList] .isDirectory ∧
      (settle refused).2 = tree := by
  intro tree after refused
  have replaced : tree.replace defaultPath "new".toList = (.ok "/d/a".toList, after) := by
    decide +kernel
  obtain ⟨whole, _, _, _, steps⟩ := replace_readsBack tree defaultPath "new".toList
  obtain ⟨_, _, _, _, refusedSteps⟩ := replace_readsBack tree "d".toList "new".toList
  obtain ⟨place, old, _, _, short, written, loaded⟩ := whole _ _ replaced
  have found := short (by decide)
  have reached : tree.resolve defaultPath = tree.resolve "d/l".toList := by decide +kernel
  have target : tree.linkTarget? defaultPath = some "d/l".toList := by decide +kernel
  have distinct : tree.HasDistinctPlaces := by decide +kernel
  have there : tree.canonicalize defaultPath =
      .ok (["d".toList, "a".toList], .file (Text.toUtf8 "old".toList)) := by decide +kernel
  have directory : tree.canonicalize "d".toList = .ok (["d".toList], .directory) := by
    decide +kernel
  have fresh : tree.IsFreshName defaultPath ".tmp4fT9aQ".toList :=
    .of_canonicalize there (by decide) (by decide +kernel)
  have free : tree.entry? (tree.workshop ["d".toList] ++ [".tmp4fT9aQ".toList]) = none := by
    decide +kernel
  have freshBeside : tree.IsFreshName "d".toList ".tmp4fT9aQ".toList :=
    .of_canonicalize directory (by decide) free
  have unmoved : refused = _ := (refusedSteps _ freshBeside).2.1 _ directory (by decide)
  refine ⟨loaded, written.loaded _ (reached.symm.trans found), ?_, written.listing distinct, ?_,
    unmoved, ?_⟩
  · rw [written.links, target]
  · rw [(steps _ fresh).1, replaced]
  · rw [unmoved]
    exact congrArg Prod.snd (settle_unmoved free _)

/-- A path can be too long to be followed as a whole, and still lead to a file that is replaced. And
where a directory does not give way, the new file stands beside it when the replacement has
failed. -/
theorem not_forall_replace_readsBack :
    (¬ ∀ (tree after : FileTree) (path content answer : Text),
      tree.replace path content = (.ok answer, after) →
        (load path : StateM FileTree (Except Failure Text)) after = (.ok content, after)) ∧
    ¬ ∀ (tree after : FileTree) (name path content : Text) (held : HeldFailure),
      tree.IsFreshName path name →
        tree.replaceBySteps {} name path content = (.error held, after) → after = tree := by
  constructor
  · intro claim
    let tree : FileTree := ⟨[], [(["a".toList], .file (Text.toUtf8 "old".toList))]⟩
    let after : FileTree := ⟨[], [(["a".toList], .file (Text.toUtf8 "new".toList))]⟩
    let path : Text := (List.replicate 2048 "./".toList).flatten ++ "a".toList
    have replaced : tree.replace path "new".toList = (.ok "/a".toList, after) := by decide +kernel
    have unread : after.resolve path = .error .nameTooLong := by decide +kernel
    have loaded := claim tree after path "new".toList _ replaced
    rw [load_of_error unread] at loaded
    cases loaded
  · intro claim
    let tree : FileTree := ⟨[], [(["d".toList], .directory)]⟩
    have reached : tree.canonicalize "d".toList = .ok (["d".toList], .directory) := by
      decide +kernel
    have fresh : tree.IsFreshName "d".toList preparedName :=
      .of_canonicalize reached rfl (by decide +kernel)
    have refused := replaceBySteps_unhindered fresh "new".toList reached (by decide)
    have same := claim tree _ preparedName "d".toList "new".toList _ fresh refused
    exact absurd same (by decide +kernel)

end FileTree
end ReleaseLog
