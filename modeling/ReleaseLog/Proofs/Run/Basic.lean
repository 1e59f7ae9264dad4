import ReleaseLog.Proofs.Document.Heading
import ReleaseLog.Proofs.FileTree.Resolve
import ReleaseLog.Run.Basic

/-!
# How a run ends

`FileTree.RunEnds` lists the ends that a run can come to, each with what has been found on the way
and with what is left of the tree. Every run comes to one of them (`FileTree.run_ends`), so what
holds of all runs is shown end by end.
-/

namespace ReleaseLog
namespace FileTree

variable {tree : FileTree} {config : Config} {today : Date} {path content new stamp : Text}

/-- The text of the file that a path leads to. -/
def text? (tree : FileTree) (path : Text) : Option Text :=
  match tree.read path with
  | .ok bytes => Text.ofUtf8? bytes
  | .error _ => none

/-- The text of its changelog that a run gets to, or why it gets to none. -/
def opened (tree : FileTree) (config : Config) : Except Failure Text :=
  if isVersion config.version = false then .error (.input (.invalidVersion config.version))
  else if tree.isPresent config.changelog = false then .error (.noChangelog config.changelog)
  else
    match tree.read config.changelog with
    | .error error => .error (.access config.changelog error)
    | .ok bytes =>
        match Text.ofUtf8? bytes with
        | some content => .ok content
        | none => .error (.access config.changelog .notText)

/-- A run that has read its changelog. -/
def releaseIn (tree : FileTree) (config : Config) (stamp content : Text) : Report × FileTree :=
  (config.releaseIn stamp content : StateM FileTree Report) tree

/-- A run that has rendered the new changelog. -/
def publish (tree : FileTree) (config : Config) (new : Text) : Report × FileTree :=
  (config.publish new : StateM FileTree Report) tree

/-- The ends of a run on a tree, which is replaced by the tree given last. -/
inductive RunEnds (tree : FileTree) (config : Config) (today : Date) :
    Except Failure Outcome → FileTree → Prop
  | unread {failure : Failure}
      (missing : isVersion config.version = false ∨ tree.text? config.changelog = none) :
      RunEnds tree config today (.error failure) tree
  | skipped {content : Text} (valid : isVersion config.version = true)
      (loaded : tree.text? config.changelog = some content)
      (mentioned : mentionsRelease config.version content = true) :
      RunEnds tree config today (.ok (.skipped config.changelog config.version)) tree
  | failed {failure : Failure} {content : Text} (valid : isVersion config.version = true)
      (loaded : tree.text? config.changelog = some content)
      (fresh : mentionsRelease config.version content = false) :
      RunEnds tree config today (.error failure) tree
  | previewed {content new : Text} (valid : isVersion config.version = true)
      (loaded : tree.text? config.changelog = some content)
      (fresh : mentionsRelease config.version content = false)
      (rendered : render config (config.date.getD today).stamp content = .ok new)
      (dry : config.dryRun = true) :
      RunEnds tree config today (.ok (.previewed config.changelog config.version new)) tree
  | updated {content new : Text} {place : Place} {bytes : Bytes}
      (valid : isVersion config.version = true)
      (loaded : tree.text? config.changelog = some content)
      (fresh : mentionsRelease config.version content = false)
      (rendered : render config (config.date.getD today).stamp content = .ok new)
      (wet : config.dryRun = false)
      (placed : tree.canonicalize config.changelog = .ok (place, .file bytes)) :
      RunEnds tree config today (.ok (.updated config.changelog config.version))
        (tree.overwrite place (Text.toUtf8 new))

/-! ## Steps on a tree -/

theorem bind_apply {α β : Type} (first : StateM FileTree α) (next : α → StateM FileTree β)
    (tree : FileTree) : (first >>= next) tree = next (first tree).1 (first tree).2 := rfl

/-- The changelog is looked for, and nothing changes. -/
theorem locate_apply (path : Option Text) (date : Option Date) (today : Date) (tree : FileTree) :
    (locate path date today : StateM FileTree (Except Failure (Text × Date))) tree =
      (if tree.isPresent (path.getD defaultPath) then
          .ok (path.getD defaultPath, date.getD today)
        else .error (.noChangelog (path.getD defaultPath)), tree) := by
  simp only [locate, bind_apply, FileAccess.isPresent]
  cases tree.isPresent (path.getD defaultPath) with
  | false => rfl
  | true => rfl

/-- The changelog is read, and nothing changes. -/
theorem load_apply (path : Text) (tree : FileTree) :
    (load path : StateM FileTree (Except Failure Text)) tree =
      (match tree.read path with
        | .error error => .error (.access path error)
        | .ok bytes =>
            match Text.ofUtf8? bytes with
            | some content => .ok content
            | none => .error (.access path .notText), tree) := by
  simp only [load, bind_apply, FileAccess.read]
  cases tree.read path with
  | error error => rfl
  | ok bytes =>
      simp only
      cases Text.ofUtf8? bytes with
      | none => rfl
      | some content => rfl

/-! ## Reading the changelog -/

theorem text?_eq_some_iff :
    tree.text? path = some content ↔
      ∃ bytes, tree.read path = .ok bytes ∧ Text.ofUtf8? bytes = some content := by
  unfold text?
  split
  · rename_i found
    simp [found]
  · rename_i failed
    simp [failed]

theorem text?_of_resolve (found : tree.resolve path = .ok (place, .file (Text.toUtf8 content))) :
    tree.text? path = some content :=
  text?_eq_some_iff.2 ⟨_, read_eq_ok_iff.2 ⟨place, found⟩, Text.ofUtf8?_toUtf8 content⟩

theorem isPresent_of_read {bytes : Bytes} (h : tree.read path = .ok bytes) :
    tree.isPresent path = true := by
  obtain ⟨place, resolved⟩ := read_eq_ok_iff.1 h
  rw [isPresent, resolved]

/-- A run that writes reads the place that it writes to. -/
theorem ofUtf8?_of_canonicalize {place : Place} {bytes : Bytes}
    (loaded : tree.text? path = some content)
    (placed : tree.canonicalize path = .ok (place, .file bytes)) :
    tree.resolve path = .ok (place, .file bytes) ∧ Text.ofUtf8? bytes = some content := by
  obtain ⟨found, read, text⟩ := text?_eq_some_iff.1 loaded
  obtain ⟨here, resolved⟩ := read_eq_ok_iff.1 read
  have same := resolve_of_canonicalize (size_le_of_resolve resolved) placed
  rw [resolved] at same
  cases same
  exact ⟨resolved, text⟩

theorem opened_eq_ok_iff :
    tree.opened config = .ok content ↔
      isVersion config.version = true ∧ tree.text? config.changelog = some content := by
  unfold opened
  rw [text?_eq_some_iff]
  split
  · rename_i invalid
    simp [invalid]
  · rename_i valid
    split
    · rename_i absent
      simp only [reduceCtorEq, false_iff]
      rintro ⟨_, bytes, read, _⟩
      rw [isPresent_of_read read] at absent
      cases absent
    · split
      · rename_i failed
        simp [failed]
      · rename_i bytes read
        split
        · rename_i found text
          simp [valid, read, text]
        · rename_i noText
          simp [read, noText]

/-- A run that does not get to the text of its changelog fails. -/
theorem run_of_opened_error {failure : Failure} (h : tree.opened config = .error failure) :
    (tree.run config today).1.result = .error failure ∧ (tree.run config today).2 = tree := by
  unfold opened Config.changelog at h
  cases valid : isVersion config.version with
  | false =>
      simp only [valid, if_true] at h
      cases h
      simp only [run, Config.run, valid, Bool.not_false, if_true]
      exact ⟨rfl, rfl⟩
  | true =>
      simp only [run, Config.run, valid, Bool.not_true, Bool.false_eq_true, if_false, bind_apply,
        locate_apply]
      simp only [valid, Bool.true_eq_false, if_false] at h
      cases present : tree.isPresent (config.path.getD defaultPath) with
      | false =>
          simp only [present, if_true] at h
          cases h
          exact ⟨rfl, rfl⟩
      | true =>
          simp only [present, Bool.true_eq_false, if_false] at h
          simp only [if_true, bind_apply, load_apply]
          cases read : tree.read (config.path.getD defaultPath) with
          | error error =>
              simp only [read] at h
              cases h
              exact ⟨rfl, rfl⟩
          | ok bytes =>
              simp only [read] at h
              cases text : Text.ofUtf8? bytes with
              | none =>
                  simp only [text] at h ⊢
                  cases h
                  exact ⟨rfl, rfl⟩
              | some content =>
                  simp only [text] at h
                  cases h

/-- A run that gets to the text of its changelog goes on with it. -/
theorem run_of_text? (valid : isVersion config.version = true)
    (loaded : tree.text? config.changelog = some content) :
    (tree.run config today).1.result =
        (tree.releaseIn config (config.date.getD today).stamp content).1.result ∧
      (tree.run config today).2 =
        (tree.releaseIn config (config.date.getD today).stamp content).2 := by
  obtain ⟨bytes, read, text⟩ := text?_eq_some_iff.1 loaded
  have present : tree.isPresent (config.path.getD defaultPath) = true := isPresent_of_read read
  have readHere : tree.read (config.path.getD defaultPath) = .ok bytes := read
  simp only [run, Config.run, valid, Bool.not_true, Bool.false_eq_true, if_false, bind_apply,
    locate_apply, present, if_true, load_apply, readHere, text]
  exact ⟨rfl, rfl⟩

/-- A run that does not get there fails. -/
theorem run_of_unread
    (missing : isVersion config.version = false ∨ tree.text? config.changelog = none) :
    (∃ failure, (tree.run config today).1.result = .error failure) ∧
      (tree.run config today).2 = tree := by
  cases opening : tree.opened config with
  | error failure =>
      obtain ⟨result, after⟩ := run_of_opened_error opening
      exact ⟨⟨failure, result⟩, after⟩
  | ok content =>
      obtain ⟨valid, loaded⟩ := opened_eq_ok_iff.1 opening
      rw [valid, loaded] at missing
      simp at missing

/-! ## Releasing in it -/

theorem releaseIn_of_mentionsRelease (mentioned : mentionsRelease config.version content = true) :
    (tree.releaseIn config stamp content).1.result =
        .ok (.skipped config.changelog config.version) ∧
      (tree.releaseIn config stamp content).2 = tree := by
  simp only [releaseIn, Config.releaseIn, mentioned, if_true]
  exact ⟨rfl, rfl⟩

theorem releaseIn_of_error {error : ShapeError}
    (fresh : mentionsRelease config.version content = false)
    (rendered : render config stamp content = .error error) :
    (tree.releaseIn config stamp content).1.result = .error (.shape error) ∧
      (tree.releaseIn config stamp content).2 = tree := by
  cases read : Document.ofText (Text.normalizeLineEndings content) with
  | error found =>
      rw [render, read] at rendered
      cases rendered
      simp only [releaseIn, Config.releaseIn, fresh, Bool.false_eq_true, if_false, read]
      exact ⟨rfl, rfl⟩
  | ok old =>
      rw [render, read] at rendered
      cases rendered

theorem releaseIn_of_ok (fresh : mentionsRelease config.version content = false)
    (rendered : render config stamp content = .ok new) :
    (tree.releaseIn config stamp content).1.result = (tree.publish config new).1.result ∧
      (tree.releaseIn config stamp content).2 = (tree.publish config new).2 := by
  cases read : Document.ofText (Text.normalizeLineEndings content) with
  | error found =>
      rw [render, read] at rendered
      cases rendered
  | ok old =>
      rw [render, read] at rendered
      cases rendered
      simp only [releaseIn, Config.releaseIn, fresh, Bool.false_eq_true, if_false, read]
      exact ⟨rfl, rfl⟩

/-! ## Replacing it -/

section
variable {place : Place}

theorem target_of_canonicalize_error {error : OsError}
    (h : tree.canonicalize path = .error error) :
    tree.target path = .error (.access path error) := by rw [target, h]

/-- Why a place cannot be replaced, in the order of the checks. -/
theorem target_of_canonicalize {entry : FileEntry}
    (h : tree.canonicalize path = .ok (place, entry)) :
    tree.target path =
      if tree.hasRoomBeside place = false then .error (.access place.directoryPath .nameTooLong)
      else if place = [] then .error (.replacement place.toText .busy)
      else if entry = .directory then .error (.replacement place.toText .isDirectory)
      else .ok place := by
  have noLink := (entry?_of_canonicalize h).2
  unfold target
  rw [h]
  cases entry with
  | link => cases noLink
  | directory => simp
  | file => simp

/-- Only a file is replaced, and only if there is room for the path of a new one beside it. -/
theorem target_eq_ok_iff :
    tree.target path = .ok place ↔
      (∃ old, tree.canonicalize path = .ok (place, .file old)) ∧
        tree.hasRoomBeside place = true := by
  constructor
  · intro isTarget
    cases reached : tree.canonicalize path with
    | error error =>
        rw [target_of_canonicalize_error reached] at isTarget
        cases isTarget
    | ok answer =>
        obtain ⟨there, entry⟩ := answer
        have noLink := (entry?_of_canonicalize reached).2
        rw [target_of_canonicalize reached] at isTarget
        split at isTarget
        · cases isTarget
        split at isTarget
        · cases isTarget
        split at isTarget
        · cases isTarget
        rename_i room _ notDirectory
        cases isTarget
        cases entry with
        | file => exact ⟨⟨_, rfl⟩, by simpa using room⟩
        | directory => exact absurd rfl notDirectory
        | link => cases noLink
  · rintro ⟨⟨old, reached⟩, room⟩
    have notRoot := ne_nil_of_file (entry?_of_canonicalize reached).1
    rw [target_of_canonicalize reached, room]
    simp [notRoot]

end

/-- A file is replaced where it stands, or nothing happens. -/
theorem replace_cases (tree : FileTree) (path content : Text) :
    (∃ failure, tree.replace path content = (.error failure, tree)) ∨
      ∃ place bytes, tree.canonicalize path = .ok (place, .file bytes) ∧
        tree.replace path content =
          (.ok place.toText, tree.overwrite place (Text.toUtf8 content)) := by
  unfold replace
  split
  · exact .inl ⟨_, rfl⟩
  · rename_i place found
    obtain ⟨⟨bytes, reached⟩, _⟩ := target_eq_ok_iff.1 found
    exact .inr ⟨place, bytes, reached, rfl⟩

theorem publish_of_dryRun (dry : config.dryRun = true) :
    (tree.publish config new).1.result = .ok (.previewed config.changelog config.version new) ∧
      (tree.publish config new).2 = tree := by
  simp only [publish, Config.publish, dry, if_true]
  exact ⟨rfl, rfl⟩

theorem publish_of_replace_error {failure : Failure} (wet : config.dryRun = false)
    (replaced : tree.replace config.changelog new = (.error failure, tree)) :
    (tree.publish config new).1.result = .error failure ∧
      (tree.publish config new).2 = tree := by
  simp only [publish, Config.publish, wet, Bool.false_eq_true, if_false, bind_apply,
    FileAccess.replace, replaced]
  exact ⟨rfl, rfl⟩

theorem publish_of_replace_ok {place : Text} {after : FileTree} (wet : config.dryRun = false)
    (replaced : tree.replace config.changelog new = (.ok place, after)) :
    (tree.publish config new).1.result = .ok (.updated config.changelog config.version) ∧
      (tree.publish config new).2 = after := by
  simp only [publish, Config.publish, wet, Bool.false_eq_true, if_false, bind_apply,
    FileAccess.replace, replaced]
  exact ⟨rfl, rfl⟩

/-- A run that writes ends as the replacement of its changelog does. -/
theorem publish_of_not_dryRun (wet : config.dryRun = false) :
    (tree.publish config new).1.result =
        (tree.replace config.changelog new).1.map
          (fun _ => .updated config.changelog config.version) ∧
      (tree.publish config new).2 = (tree.replace config.changelog new).2 := by
  rcases tree.replace_cases config.changelog new with
    ⟨failure, replaced⟩ | ⟨place, bytes, _, replaced⟩
  · rw [replaced]
    exact publish_of_replace_error wet replaced
  · rw [replaced]
    exact publish_of_replace_ok wet replaced

/-! ## All ends -/

/-- Every run comes to one of the ends. -/
theorem run_ends (tree : FileTree) (config : Config) (today : Date) :
    tree.RunEnds config today (tree.run config today).1.result (tree.run config today).2 := by
  by_cases read : isVersion config.version = false ∨ tree.text? config.changelog = none
  · obtain ⟨⟨failure, result⟩, after⟩ := run_of_unread read
    rw [result, after]
    exact .unread read
  · have valid : isVersion config.version = true := by
      simpa using fun invalid => read (.inl invalid)
    obtain ⟨content, loaded⟩ := Option.ne_none_iff_exists'.1 fun unread => read (.inr unread)
    obtain ⟨result, after⟩ := run_of_text? valid loaded
    rw [result, after]
    cases mentioned : mentionsRelease config.version content with
    | true =>
        obtain ⟨result, after⟩ := releaseIn_of_mentionsRelease mentioned
        rw [result, after]
        exact .skipped valid loaded mentioned
    | false =>
        cases rendered : render config (config.date.getD today).stamp content with
        | error error =>
            obtain ⟨result, after⟩ := releaseIn_of_error mentioned rendered
            rw [result, after]
            exact .failed valid loaded mentioned
        | ok new =>
            obtain ⟨result, after⟩ := releaseIn_of_ok mentioned rendered
            rw [result, after]
            cases dry : config.dryRun with
            | true =>
                obtain ⟨result, after⟩ := publish_of_dryRun dry
                rw [result, after]
                exact .previewed valid loaded mentioned rendered dry
            | false =>
                rcases tree.replace_cases config.changelog new with
                  ⟨failure, replaced⟩ | ⟨place, bytes, placed, replaced⟩
                · obtain ⟨result, after⟩ := publish_of_replace_error dry replaced
                  rw [result, after]
                  exact .failed valid loaded mentioned
                · obtain ⟨result, after⟩ := publish_of_replace_ok dry replaced
                  rw [result, after]
                  exact .updated valid loaded mentioned rendered dry placed

end FileTree
end ReleaseLog
