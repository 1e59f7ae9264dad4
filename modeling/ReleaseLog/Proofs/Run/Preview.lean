import ReleaseLog.Proofs.Run.Effect
import ReleaseLog.Proofs.Run.Repeat

/-!
# Dry runs

A dry run goes as far as a real one up to the new text, and shows it where the real run puts it in
place of the changelog. For that the real run builds up the path of the changelog's place, name by
name from the root and through all links, and then that of the file beside it in which the text is
prepared. Each path on this way may be too long, that of a link that is passed included, where the
path that was given is not; apart from that, both agree (`FileTree.run_dry_agrees`).
-/

namespace ReleaseLog

namespace Config

/-- The configuration of a dry run. -/
def dry (config : Config) : Config := { config with dryRun := true }

/-- The configuration of a run that writes. -/
def wet (config : Config) : Config := { config with dryRun := false }

end Config

namespace FileTree

variable {tree : FileTree} {config : Config} {today : Date} {place : Place} {path : Text}
  {old : Bytes}

/-- A dry run and a real one agree: the first shows a text exactly if the second puts it into the
changelog, and otherwise they end alike. -/
structure RunsAgree (dry wet : Report × FileTree) : Prop where
  previewed_iff : ∀ path version new, dry.1.result = .ok (.previewed path version new) ↔
    wet.1.result = .ok (.updated path version) ∧ wet.2.text? path = some new
  otherwise : (∀ path version new, dry.1.result ≠ .ok (.previewed path version new)) →
    wet.1.result = dry.1.result

/-- There is room for the paths that it takes to replace what stands at the end of a path: for each
one that is built up on the way to its place, and for that of a new file beside it. -/
def HasRoom (tree : FileTree) (path : Text) : Prop :=
  ∃ place entry, tree.canonicalize path = .ok (place, entry) ∧ tree.hasRoomBeside place = true

/-! ## Replacing a file that has been read -/

/-- A file at the end of a path is replaced, unless a path that this takes is too long. -/
theorem target_of_resolve (found : tree.resolve path = .ok (place, .file old)) :
    (tree.HasRoom path → tree.target path = .ok place) ∧
      (¬ tree.HasRoom path →
        ∃ refused, tree.target path = .error (.access refused .nameTooLong)) := by
  rcases canonicalize_of_resolve found with reached | long
  · constructor
    · rintro ⟨there, entry, again, room⟩
      rw [reached] at again
      cases again
      exact target_eq_ok_iff.2 ⟨⟨old, reached⟩, room⟩
    · intro narrow
      have noRoom : tree.hasRoomBeside place = false := by
        simpa using fun room => narrow ⟨place, _, reached, room⟩
      rw [target_of_canonicalize reached, if_pos noRoom]
      exact ⟨_, rfl⟩
  · constructor
    · rintro ⟨_, _, reached, _⟩
      rw [long] at reached
      cases reached
    · intro _
      exact ⟨path, target_of_canonicalize_error long⟩

/-! ## A dry run and a real one -/

/-- A dry run and a real one end alike, or they come to the same new text; the real one then ends
as the replacement of its changelog does. -/
theorem run_dry_cases (tree : FileTree) (config : Config) {today₁ today₂ : Date}
    (dated : config.date.getD today₁ = config.date.getD today₂) :
    ((∀ path version new,
        (tree.run config.dry today₁).1.result ≠ .ok (.previewed path version new)) ∧
      (tree.run config.wet today₂).1.result = (tree.run config.dry today₁).1.result) ∨
    ∃ place old new, tree.resolve config.changelog = .ok (place, .file old) ∧
      (tree.run config.dry today₁).1.result =
        .ok (.previewed config.changelog config.version new) ∧
      (tree.run config.wet today₂).1.result =
        (tree.replace config.changelog new).1.map
          (fun _ => .updated config.changelog config.version) ∧
      (tree.run config.wet today₂).2 = (tree.replace config.changelog new).2 := by
  -- Neither opening the changelog nor rendering it depends on the kind of run.
  have openedDry : tree.opened config.dry = tree.opened config := rfl
  have openedWet : tree.opened config.wet = tree.opened config := rfl
  cases opening : tree.opened config with
  | error failure =>
      rw [opening] at openedDry openedWet
      rw [(run_of_opened_error openedDry).1, (run_of_opened_error openedWet).1]
      exact .inl ⟨by simp, rfl⟩
  | ok content =>
      rw [opening] at openedDry openedWet
      obtain ⟨validDry, loadedDry⟩ := opened_eq_ok_iff.1 openedDry
      obtain ⟨validWet, loadedWet⟩ := opened_eq_ok_iff.1 openedWet
      rw [(run_of_text? validDry loadedDry).1, (run_of_text? validWet loadedWet).1,
        (run_of_text? validWet loadedWet).2]
      have sameDay : config.wet.date.getD today₂ = config.dry.date.getD today₁ := dated.symm
      rw [sameDay]
      generalize (config.dry.date.getD today₁).stamp = stamp
      cases mentioned : mentionsRelease config.version content with
      | true =>
          have mentionedDry : mentionsRelease config.dry.version content = true := mentioned
          have mentionedWet : mentionsRelease config.wet.version content = true := mentioned
          rw [(releaseIn_of_mentionsRelease mentionedDry).1,
            (releaseIn_of_mentionsRelease mentionedWet).1]
          exact .inl ⟨by simp, rfl⟩
      | false =>
          have freshDry : mentionsRelease config.dry.version content = false := mentioned
          have freshWet : mentionsRelease config.wet.version content = false := mentioned
          have sameText : render config.wet stamp content = render config.dry stamp content := rfl
          cases rendered : render config.dry stamp content with
          | error error =>
              rw [rendered] at sameText
              rw [(releaseIn_of_error freshDry rendered).1,
                (releaseIn_of_error freshWet sameText).1]
              exact .inl ⟨by simp, rfl⟩
          | ok new =>
              rw [rendered] at sameText
              rw [(releaseIn_of_ok freshDry rendered).1, (releaseIn_of_ok freshWet sameText).1,
                (releaseIn_of_ok freshWet sameText).2, (publish_of_dryRun rfl).1,
                (publish_of_not_dryRun rfl).1, (publish_of_not_dryRun rfl).2]
              obtain ⟨bytes, read, _⟩ := text?_eq_some_iff.1 loadedDry
              obtain ⟨place, found⟩ := read_eq_ok_iff.1 read
              exact .inr ⟨place, bytes, new, found, rfl, rfl, rfl⟩

/-- A dry run writes nothing and does not say that it has. -/
theorem run_dry_unchanged (tree : FileTree) (config : Config) (today : Date) :
    (tree.run config.dry today).2 = tree ∧
      ∀ path version, (tree.run config.dry today).1.result ≠ .ok (.updated path version) := by
  have ends := tree.run_ends config.dry today
  generalize (tree.run config.dry today).1.result = result at ends ⊢
  generalize (tree.run config.dry today).2 = after at ends ⊢
  cases ends with
  | unread | skipped | failed | previewed => simp
  | updated _ _ _ _ wet => cases wet

/-- A real run that has room for its paths writes what the dry run shows. -/
theorem runsAgree_of_hasRoom {today₁ today₂ : Date}
    (dated : config.date.getD today₁ = config.date.getD today₂)
    (room : tree.HasRoom config.changelog) :
    RunsAgree (tree.run config.dry today₁) (tree.run config.wet today₂) := by
  rcases tree.run_dry_cases config dated with
    ⟨unseen, same⟩ | ⟨place, old, new, found, shown, result, after⟩
  · refine ⟨fun path version new => ?_, fun _ => same⟩
    constructor
    · intro shown
      exact absurd shown (unseen _ _ _)
    · rintro ⟨updated, _⟩
      rw [same] at updated
      exact absurd updated ((tree.run_dry_unchanged config today₁).2 _ _)
  · have replaced : tree.replace config.changelog new =
        (.ok place.toText, tree.overwrite place (Text.toUtf8 new)) := by
      rw [replace, (target_of_resolve found).1 room]
    rw [replaced] at result after
    have written : (tree.run config.wet today₂).2.text? config.changelog = some new := by
      rw [after]
      exact text?_of_resolve
        (resolve_other (onlyFileChanged_overwrite (entry?_of_resolve found) _) found)
    refine ⟨fun path version text => ?_, fun unseen => absurd shown (unseen _ _ _)⟩
    rw [shown, result]
    constructor
    · rintro ⟨⟩
      exact ⟨rfl, written⟩
    · rintro ⟨⟨⟩, again⟩
      rw [written] at again
      cases again
      rfl

/-! ## Runs one after the other -/

/-- A dry run can be left out of any row of runs. -/
theorem runs_eraseIdx (tree : FileTree) (before after : List (Config × Date)) (config : Config)
    (today : Date) :
    (tree.runs (before ++ (config.dry, today) :: after)).eraseIdx before.length =
      tree.runs (before ++ after) := by
  induction before generalizing tree with
  | nil =>
      have unchanged : (tree.event config.dry today).after = tree :=
        (tree.run_dry_unchanged config today).1
      rw [List.nil_append, runs, unchanged]
      rfl
  | cons step before ih =>
      obtain ⟨other, day⟩ := step
      exact congrArg (tree.event other day :: ·) (ih (tree.event other day).after)

/-- A dry run and a real one agree if there is room for every path of the replacement. If there is
not, the real run fails where the dry run shows the new text, and leaves everything as it was. In a
row of runs a dry run makes no difference to the others. -/
theorem run_dry_agrees (tree : FileTree) (config : Config) {today₁ today₂ : Date}
    (dated : config.date.getD today₁ = config.date.getD today₂) :
    (tree.HasRoom config.changelog →
      RunsAgree (tree.run config.dry today₁) (tree.run config.wet today₂)) ∧
    (¬ tree.HasRoom config.changelog →
      (∀ path version new,
        (tree.run config.dry today₁).1.result = .ok (.previewed path version new) →
          (∃ refused, (tree.run config.wet today₂).1.result =
            .error (.access refused .nameTooLong)) ∧ (tree.run config.wet today₂).2 = tree) ∧
      ((∀ path version new,
        (tree.run config.dry today₁).1.result ≠ .ok (.previewed path version new)) →
          (tree.run config.wet today₂).1.result = (tree.run config.dry today₁).1.result)) ∧
    ∀ before after, (tree.runs (before ++ (config.dry, today₁) :: after)).eraseIdx before.length =
      tree.runs (before ++ after) := by
  refine ⟨runsAgree_of_hasRoom dated, fun narrow => ?_,
    fun before after => tree.runs_eraseIdx before after config today₁⟩
  rcases tree.run_dry_cases config dated with
    ⟨unseen, same⟩ | ⟨place, old, new, found, shown, result, after⟩
  · exact ⟨fun path version new shown => absurd shown (unseen _ _ _), fun _ => same⟩
  · obtain ⟨refused, target⟩ := (target_of_resolve found).2 narrow
    have replaced : tree.replace config.changelog new =
        (.error (.access refused .nameTooLong), tree) := by
      rw [replace, target]
    rw [replaced] at result after
    exact ⟨fun _ _ _ _ => ⟨⟨refused, result⟩, after⟩, fun unseen => absurd shown (unseen _ _ _)⟩

theorem run_dry_agrees_behind_link :
    let tree := Sample.linkedTree (Sample.changelog Sample.oneFix [])
    let wet := (Sample.datedConfig.wet, Date.epoch)
    (tree.run Sample.datedConfig.wet Date.epoch).1.result =
        .ok (.updated Sample.datedConfig.changelog Sample.datedConfig.version) ∧
      (tree.run Sample.datedConfig.wet Date.epoch).2.text? Sample.datedConfig.changelog =
        some (Sample.released Sample.releasedFix []) ∧
      (tree.runs [(Sample.datedConfig.dry, Date.epoch), wet]).eraseIdx 0 = tree.runs [wet] := by
  intro tree wet
  have dated : Sample.datedConfig.date.getD Date.epoch =
      Sample.datedConfig.date.getD Date.epoch := rfl
  have room : tree.HasRoom Sample.datedConfig.changelog :=
    ⟨["a".toList], .file (Text.toUtf8 (Sample.changelog Sample.oneFix [])), by decide +kernel,
      by decide⟩
  have shown : (tree.run Sample.datedConfig.dry Date.epoch).1.result =
      .ok (.previewed Sample.datedConfig.changelog Sample.datedConfig.version
        (Sample.released Sample.releasedFix [])) := by decide +kernel
  obtain ⟨agree, _, rows⟩ := run_dry_agrees tree Sample.datedConfig dated
  obtain ⟨updated, written⟩ := ((agree room).previewed_iff _ _ _).1 shown
  exact ⟨updated, written, rows [] [wet]⟩

/-- A file at the end of a path that is short enough to be read can be too deep to be replaced. -/
theorem not_forall_runsAgree :
    ¬ ∀ (tree : FileTree) (config : Config) (today : Date), config.date.isSome = true →
      RunsAgree (tree.run config.dry today) (tree.run config.wet today) := by
  intro agree
  let content := Sample.changelog Sample.oneFix []
  let released := Sample.released Sample.releasedFix []
  -- The path has 4088 bytes, and the path from the root has more than 4095.
  let home : Place := ["tmp".toList, ".tmpABCDEF".toList]
  let names : List Text := List.replicate 16 (List.replicate 250 'd') ++ [List.replicate 72 'f']
  let directories := (List.range 16).map fun count => home ++ names.take (count + 1)
  let tree : FileTree := ⟨home, directories.map (·, .directory) ++
    [(home ++ names, .file (Text.toUtf8 content))]⟩
  let config : Config :=
    { Sample.datedConfig with path := some (List.intercalate ['/'] names) }
  have found : tree.resolve config.changelog =
      .ok (home ++ names, .file (Text.toUtf8 content)) := by decide +kernel
  have long : tree.canonicalize config.changelog = .error .nameTooLong := by decide +kernel
  have valid : isVersion config.dry.version = true := by decide
  have fresh : mentionsRelease config.dry.version content = false := by decide
  have rendered : render config.dry (config.dry.date.getD Date.epoch).stamp content =
      .ok released := by decide +kernel
  have loaded : tree.text? config.dry.changelog = some content := text?_of_resolve found
  have shown : (tree.run config.dry Date.epoch).1.result =
      .ok (.previewed config.dry.changelog config.dry.version released) := by
    rw [(run_of_text? valid loaded).1, (releaseIn_of_ok fresh rendered).1,
      (publish_of_dryRun rfl).1]
  obtain ⟨updated, _⟩ := ((agree tree config Date.epoch rfl).previewed_iff _ _ _).1 shown
  have ends := tree.run_ends config.wet Date.epoch
  rw [updated] at ends
  generalize (tree.run config.wet Date.epoch).2 = after at ends
  cases ends with
  | updated _ _ _ _ _ placed =>
      have reached : tree.canonicalize config.changelog = .ok _ := placed
      rw [long] at reached
      cases reached

end FileTree
end ReleaseLog
