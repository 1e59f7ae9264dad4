import ReleaseLog.Proofs.Document.Permanence
import ReleaseLog.Proofs.Run.Basic

/-!
# Releasing a version again

A run skips a version that its changelog mentions. Since release headings are permanent, a version
that has been released in a file is skipped there by all later runs, whatever else they release and
by whichever path they reach the file.
-/

namespace ReleaseLog

/-! ## When a run skips -/

namespace FileTree

variable {tree : FileTree} {config : Config} {today : Date} {place : Place}
  {path version content : Text} {bytes : Bytes}

/-- A run skips exactly the versions that the changelog mentions. -/
theorem run_skipped_iff_mentionsRelease (valid : isVersion config.version = true)
    (loaded : tree.text? config.changelog = some content) :
    (tree.run config today).1.result = .ok (.skipped config.changelog config.version) ↔
      mentionsRelease config.version content = true := by
  have ends := tree.run_ends config today
  generalize (tree.run config today).1.result = result at ends ⊢
  generalize (tree.run config today).2 = after at ends
  cases ends with
  | unread missing =>
      rw [valid, loaded] at missing
      simp at missing
  | skipped _ found mentioned =>
      obtain rfl := Option.some.inj (found.symm.trans loaded)
      simp [mentioned]
  | failed _ found fresh =>
      obtain rfl := Option.some.inj (found.symm.trans loaded)
      simp [fresh]
  | previewed _ found fresh =>
      obtain rfl := Option.some.inj (found.symm.trans loaded)
      simp [fresh]
  | updated _ found fresh =>
      obtain rfl := Option.some.inj (found.symm.trans loaded)
      simp [fresh]

/-- A mention of a version is one on some line, read with any line ending. -/
theorem mentionsRelease_iff_exists_line (isLabel : IsLabel version) :
    mentionsRelease version content = true ↔
      ∃ line ∈ Text.lines (Text.normalizeLineEndings content),
        releaseHeading version <:+: line := by
  rw [← mentionsRelease_normalizeLineEndings isLabel, mentionsRelease_iff,
    Text.infix_iff_exists_line isLabel.isInline_releaseHeading.not_mem]

/-- A run skips a version exactly if some line holds the beginning of its heading, at the start of
the line or not. That amounts to a heading of the version exactly if no such mention stands in a
changelog without one. -/
theorem run_skipped_iff (valid : isVersion config.version = true)
    (loaded : tree.text? config.changelog = some content) :
    ((tree.run config today).1.result = .ok (.skipped config.changelog config.version) ↔
      ∃ line ∈ Text.lines (Text.normalizeLineEndings content),
        releaseHeading config.version <:+: line) ∧
    (((tree.run config today).1.result = .ok (.skipped config.changelog config.version) ↔
        ∃ line ∈ Text.lines (Text.normalizeLineEndings content),
          releaseHeading config.version <+: line) ↔
      ((∃ line ∈ Text.lines (Text.normalizeLineEndings content),
          releaseHeading config.version <:+: line) →
        ∃ line ∈ Text.lines (Text.normalizeLineEndings content),
          releaseHeading config.version <+: line)) := by
  have skips : (tree.run config today).1.result =
      .ok (.skipped config.changelog config.version) ↔
        ∃ line ∈ Text.lines (Text.normalizeLineEndings content),
          releaseHeading config.version <:+: line := by
    rw [run_skipped_iff_mentionsRelease valid loaded,
      mentionsRelease_iff_exists_line (isLabel_of_isVersion valid)]
  refine ⟨skips, ?_⟩
  rw [skips]
  constructor
  · intro agree
    exact agree.1
  · intro heads
    refine ⟨heads, ?_⟩
    rintro ⟨line, member, begins⟩
    exact ⟨line, member, begins.isInfix⟩

theorem run_skipped_iff_of_heading :
    let content := "## [1-1]".toList
    let config : Config := { version := "1-1".toList, pullRequest := 7 }
    let tree : FileTree := ⟨[], [([defaultPath], .file (Text.toUtf8 content))]⟩
    ((tree.run config Date.epoch).1.result =
        .ok (.skipped config.changelog config.version) ↔
      ∃ line ∈ Text.lines (Text.normalizeLineEndings content),
        releaseHeading config.version <:+: line) ∧
    (((tree.run config Date.epoch).1.result =
        .ok (.skipped config.changelog config.version) ↔
        ∃ line ∈ Text.lines (Text.normalizeLineEndings content),
          releaseHeading config.version <+: line) ↔
      ((∃ line ∈ Text.lines (Text.normalizeLineEndings content),
          releaseHeading config.version <:+: line) →
        ∃ line ∈ Text.lines (Text.normalizeLineEndings content),
          releaseHeading config.version <+: line)) := by
  intro content config tree
  have valid : isVersion config.version = true := by decide
  have read : tree.read config.changelog = .ok (Text.toUtf8 content) := by decide +kernel
  exact run_skipped_iff valid (text?_eq_some_iff.2 ⟨_, read, Text.ofUtf8?_toUtf8 content⟩)

/-- A deeper heading is enough for a run to skip its version. -/
theorem not_forall_run_skipped_iff :
    ¬ ∀ (tree : FileTree) (config : Config) (today : Date) (content : Text),
      isVersion config.version = true → tree.text? config.changelog = some content →
        ((tree.run config today).1.result = .ok (.skipped config.changelog config.version) ↔
          ∃ line ∈ Text.lines (Text.normalizeLineEndings content),
            releaseHeading config.version <+: line) := by
  intro claim
  let content := "### [1-1]".toList
  let config : Config := { version := "1-1".toList, pullRequest := 7 }
  let tree : FileTree := ⟨[], [([defaultPath], .file (Text.toUtf8 content))]⟩
  have valid : isVersion config.version = true := by decide
  have read : tree.read config.changelog = .ok (Text.toUtf8 content) := by decide +kernel
  have loaded := text?_eq_some_iff.2 ⟨_, read, Text.ofUtf8?_toUtf8 content⟩
  have mentioned : mentionsRelease config.version content = true := by decide
  obtain ⟨line, member, begins⟩ := (claim tree config Date.epoch content valid loaded).1
    ((run_skipped_iff_mentionsRelease valid loaded).2 mentioned)
  have lines : Text.lines (Text.normalizeLineEndings content) = [content] := by decide
  rw [lines, List.mem_singleton] at member
  subst member
  exact absurd begins (by decide)

/-! ## What a single run keeps -/

/-- The file at this place has a release heading of the version. -/
def HasRelease (tree : FileTree) (place : Place) (version : Text) : Prop :=
  ∃ bytes content, tree.entry? place = some (.file bytes) ∧ Text.ofUtf8? bytes = some content ∧
    Text.leadsLine (releaseHeading version) true content

/-- No run takes a release away from a file. -/
theorem HasRelease.run (h : tree.HasRelease place version) (isLabel : IsLabel version)
    (config : Config) (today : Date) : HasRelease (tree.run config today).2 place version := by
  have ends := tree.run_ends config today
  generalize (tree.run config today).1.result = result at ends
  generalize (tree.run config today).2 = after at ends ⊢
  cases ends with
  | unread | skipped | failed | previewed => exact h
  | updated valid loaded fresh rendered wet placed =>
      rename_i content new there old
      obtain ⟨bytes, text, entry, decoded, leads⟩ := h
      obtain ⟨resolved, read⟩ := ofUtf8?_of_canonicalize loaded placed
      have written := entry?_of_resolve resolved
      by_cases same : place = there
      · subst same
        rw [written] at entry
        cases entry
        obtain rfl := Option.some.inj (read.symm.trans decoded)
        refine ⟨_, new, ?_, Text.ofUtf8?_toUtf8 new, leadsLine_render isLabel rendered leads⟩
        rw [entry?_overwrite written, if_pos rfl]
      · refine ⟨bytes, text, ?_, decoded, leads⟩
        rw [entry?_overwrite written, if_neg same, entry]

/-- An update leaves a release of its version where it found the changelog. -/
theorem hasRelease_of_updated
    (updated : (tree.run config today).1.result = .ok (.updated config.changelog config.version)) :
    isVersion config.version = true ∧ ∃ place bytes new,
      tree.resolve config.changelog = .ok (place, .file bytes) ∧
        (tree.run config today).2 = tree.overwrite place new ∧
          HasRelease (tree.run config today).2 place config.version := by
  have ends := tree.run_ends config today
  rw [updated] at ends
  generalize (tree.run config today).2 = after at ends ⊢
  cases ends with
  | updated valid loaded fresh rendered wet placed =>
      rename_i content new place bytes
      obtain ⟨resolved, _⟩ := ofUtf8?_of_canonicalize loaded placed
      refine ⟨valid, place, bytes, _, resolved, rfl, _, new, ?_, Text.ofUtf8?_toUtf8 new,
        leadsLine_render_self (isLabel_of_isVersion valid) rendered⟩
      rw [entry?_overwrite (entry?_of_resolve resolved), if_pos rfl]

/-- A release that a file has is skipped by a run that reaches the file. -/
theorem HasRelease.skipped (h : tree.HasRelease place config.version)
    (valid : isVersion config.version = true)
    (reached : tree.resolve config.changelog = .ok (place, .file bytes)) :
    (tree.run config today).1.result = .ok (.skipped config.changelog config.version) ∧
      (tree.run config today).2 = tree := by
  obtain ⟨found, content, entry, text, leads⟩ := h
  rw [entry?_of_resolve reached] at entry
  cases entry
  have loaded := text?_eq_some_iff.2 ⟨_, read_eq_ok_iff.2 ⟨place, reached⟩, text⟩
  have result : (tree.run config today).1.result =
      .ok (.skipped config.changelog config.version) :=
    (run_skipped_iff_mentionsRelease valid loaded).2 (mentionsRelease_of_leadsLine leads)
  refine ⟨result, ?_⟩
  have ends := tree.run_ends config today
  rw [result] at ends
  generalize (tree.run config today).2 = after at ends ⊢
  cases ends
  rfl

end FileTree

/-! ## Runs one after the other -/

/-- One run of many: what it was asked for, how it ended, and the trees before and after it. -/
structure Event where
  before : FileTree
  config : Config
  result : Except Failure Outcome
  after : FileTree

namespace Event

/-- The run was asked to release this version and reached the file at this place. -/
def concerns (event : Event) (place : Place) (version : Text) : Bool :=
  event.config.version == version &&
    match event.before.resolve event.config.changelog with
    | .ok (found, .file _) => found == place
    | _ => false

def isUpdate (event : Event) : Bool :=
  event.result == .ok (.updated event.config.changelog event.config.version)

def isSkip (event : Event) : Bool :=
  event.result == .ok (.skipped event.config.changelog event.config.version)

theorem concerns_iff {event : Event} {place : Place} {version : Text} :
    event.concerns place version = true ↔
      event.config.version = version ∧
        ∃ bytes, event.before.resolve event.config.changelog = .ok (place, .file bytes) := by
  unfold concerns
  rw [Bool.and_eq_true, beq_iff_eq]
  refine and_congr_right fun _ => ?_
  split
  · rename_i found bytes resolved
    simp [resolved]
  · rename_i notFile
    simp only [Bool.false_eq_true, false_iff]
    rintro ⟨bytes, resolved⟩
    exact notFile place bytes resolved

end Event

namespace FileTree

variable {tree : FileTree} {config : Config} {today : Date} {place : Place} {version : Text}

/-- One run on the tree. -/
def event (tree : FileTree) (config : Config) (today : Date) : Event where
  before := tree
  config := config
  result := (tree.run config today).1.result
  after := (tree.run config today).2

/-- Runs one after the other, each on the tree that the one before it left. -/
def runs (tree : FileTree) : List (Config × Date) → List Event
  | [] => []
  | (config, today) :: later =>
      tree.event config today :: runs (tree.event config today).after later

theorem isUpdate_event_iff :
    (tree.event config today).isUpdate = true ↔
      (tree.run config today).1.result = .ok (.updated config.changelog config.version) := by
  rw [Event.isUpdate, beq_iff_eq]
  rfl

theorem isSkip_event_iff :
    (tree.event config today).isSkip = true ↔
      (tree.run config today).1.result = .ok (.skipped config.changelog config.version) := by
  rw [Event.isSkip, beq_iff_eq]
  rfl

/-- An update has reached a file, and replaced that file only. -/
theorem exists_concerns_of_isUpdate (update : (tree.event config today).isUpdate = true) :
    ∃ place new, (tree.event config today).concerns place config.version = true ∧
      (tree.event config today).after = tree.overwrite place new := by
  obtain ⟨_, place, bytes, new, resolved, after, _⟩ :=
    hasRelease_of_updated (isUpdate_event_iff.1 update)
  exact ⟨place, new, Event.concerns_iff.2 ⟨rfl, bytes, resolved⟩, after⟩

theorem hasRelease_of_isUpdate (update : (tree.event config today).isUpdate = true)
    (concerned : (tree.event config today).concerns place version = true) :
    isVersion version = true ∧ (tree.event config today).after.HasRelease place version := by
  obtain ⟨valid, there, found, new, resolved, _, has⟩ :=
    hasRelease_of_updated (isUpdate_event_iff.1 update)
  obtain ⟨same, bytes, reached⟩ := Event.concerns_iff.1 concerned
  obtain rfl : config.version = version := same
  obtain ⟨rfl, _⟩ := Prod.mk.inj (Except.ok.inj (resolved.symm.trans reached))
  exact ⟨valid, has⟩

/-- A release that a file has is skipped by all runs that reach the file. -/
theorem HasRelease.runs (h : tree.HasRelease place version) (valid : isVersion version = true)
    (steps : List (Config × Date)) :
    ∀ event ∈ tree.runs steps, event.concerns place version = true →
      event.isSkip = true ∧ event.after = event.before := by
  induction steps generalizing tree with
  | nil => simp [FileTree.runs]
  | cons step later ih =>
      obtain ⟨config, today⟩ := step
      rw [FileTree.runs, List.forall_mem_cons]
      constructor
      · intro concerned
        obtain ⟨same, bytes, reached⟩ := Event.concerns_iff.1 concerned
        obtain rfl : config.version = version := same
        obtain ⟨result, after⟩ := h.skipped valid reached
        exact ⟨isSkip_event_iff.2 result, after⟩
      · exact ih (h.run (isLabel_of_isVersion valid) config today)

theorem not_isUpdate_of_isSkip {event : Event} (skip : event.isSkip = true) :
    event.isUpdate = false := by
  rw [Event.isSkip, beq_iff_eq] at skip
  rw [Event.isUpdate, skip]
  rfl

/-- A version is released once in a file: whatever runs come after, in whatever order, those that
reach the file for the same version skip it and change nothing. -/
theorem runs_release_once (tree : FileTree) (steps : List (Config × Date)) :
    (∀ event ∈ tree.runs steps, event.isUpdate = true → ∃ place new,
      event.concerns place event.config.version = true ∧
        event.after = event.before.overwrite place new) ∧
    ((tree.runs steps).Pairwise fun earlier later => ∀ place version,
      earlier.isUpdate = true → earlier.concerns place version = true →
        later.concerns place version = true → later.isSkip = true ∧ later.after = later.before) ∧
    ∀ place version, (tree.runs steps).countP
      (fun event => event.isUpdate && event.concerns place version) ≤ 1 := by
  induction steps generalizing tree with
  | nil => simp [runs]
  | cons step later ih =>
      obtain ⟨config, today⟩ := step
      obtain ⟨places, pairs, counts⟩ := ih (tree.event config today).after
      have first : ∀ place version, (tree.event config today).isUpdate = true →
          (tree.event config today).concerns place version = true →
            ∀ event ∈ runs (tree.event config today).after later,
              event.concerns place version = true →
                event.isSkip = true ∧ event.after = event.before := by
        intro place version update concerned
        obtain ⟨valid, has⟩ := hasRelease_of_isUpdate update concerned
        exact has.runs valid later
      rw [runs]
      refine ⟨?_, ?_, ?_⟩
      · exact List.forall_mem_cons.2 ⟨exists_concerns_of_isUpdate, places⟩
      · apply List.pairwise_cons.2
        refine ⟨?_, pairs⟩
        intro event member place version update concerned
        exact first place version update concerned event member
      · intro place version
        rw [List.countP_cons]
        split
        · rename_i counted
          rw [Bool.and_eq_true] at counted
          -- the first run is the update, so no later one is
          have none : (runs (tree.event config today).after later).countP
              (fun event => event.isUpdate && event.concerns place version) = 0 := by
            rw [List.countP_eq_zero]
            intro event member again
            rw [Bool.and_eq_true] at again
            have skipped := first place version counted.1 counted.2 event member again.2
            rw [not_isUpdate_of_isSkip skipped.1] at again
            cases again.1
          rw [none]
        · exact counts place version

end FileTree
end ReleaseLog
