import ReleaseLog.Proofs.Document.History
import ReleaseLog.Proofs.Run.Effect

/-!
# Runs and line endings

A changelog may end its lines with `\n`, with `\r\n` or with a lone `\r`, and mix them. Two runs on
changelogs that differ only in that end in the same way, though one of the steps, the search for the
version, looks at the text before its line endings are made uniform.
-/

namespace ReleaseLog
namespace FileTree

variable {tree other : FileTree} {place : Place} {path content new stamp : Text} {config : Config}
  {today : Date}

theorem target_of_onlyFileChanged {left right : Bytes}
    (alike : tree.OnlyFileChanged other place left right) :
    other.target path = tree.target path := by
  unfold target hasRoomBeside preparedPath
  rw [alike.home]
  rcases canonicalize_of_onlyFileChanged alike with same | ⟨here, there⟩
  · rw [same]
  · rw [here, there]

theorem replace_of_onlyFileChanged {left right : Bytes}
    (alike : tree.OnlyFileChanged other place left right) :
    (other.replace path new).1 = (tree.replace path new).1 := by
  unfold replace
  rw [target_of_onlyFileChanged alike]
  cases tree.target path with
  | error => rfl
  | ok => rfl

theorem publish_of_onlyFileChanged {left right : Bytes}
    (alike : tree.OnlyFileChanged other place left right) :
    (other.publish config new).1.result = (tree.publish config new).1.result := by
  cases dry : config.dryRun with
  | true => rw [(publish_of_dryRun dry).1, (publish_of_dryRun dry).1]
  | false =>
      rw [(publish_of_not_dryRun dry).1, (publish_of_not_dryRun dry).1,
        replace_of_onlyFileChanged alike]

theorem render_of_normalizeLineEndings_eq {left right : Text}
    (lines : Text.normalizeLineEndings left = Text.normalizeLineEndings right) :
    render config stamp right = render config stamp left := by
  rw [render, render, lines]

theorem releaseIn_of_normalizeLineEndings_eq {left right : Text}
    (alike : tree.OnlyFileChanged other place (Text.toUtf8 left) (Text.toUtf8 right))
    (lines : Text.normalizeLineEndings left = Text.normalizeLineEndings right)
    (version : IsLabel config.version) :
    (other.releaseIn config stamp right).1.result =
      (tree.releaseIn config stamp left).1.result := by
  -- The search looks at the raw texts, but a heading is in them exactly if it is in the uniform
  -- one.
  have mentions : mentionsRelease config.version right = mentionsRelease config.version left := by
    rw [← mentionsRelease_normalizeLineEndings version, ← lines,
      mentionsRelease_normalizeLineEndings version]
  have renders : render config stamp right = render config stamp left :=
    render_of_normalizeLineEndings_eq lines
  cases mentioned : mentionsRelease config.version left with
  | true =>
      rw [mentioned] at mentions
      rw [(releaseIn_of_mentionsRelease mentioned).1, (releaseIn_of_mentionsRelease mentions).1]
  | false =>
      rw [mentioned] at mentions
      cases rendered : render config stamp left with
      | error error =>
          rw [rendered] at renders
          rw [(releaseIn_of_error mentioned rendered).1, (releaseIn_of_error mentions renders).1]
      | ok new =>
          rw [rendered] at renders
          rw [(releaseIn_of_ok mentioned rendered).1, (releaseIn_of_ok mentions renders).1,
            publish_of_onlyFileChanged alike]

/-- What a run writes is what it has rendered. -/
theorem overwritten_of_updated {version : Text}
    (updated : (tree.run config today).1.result = .ok (.updated path version))
    (found : tree.resolve config.changelog = .ok (place, .file (Text.toUtf8 content))) :
    ∃ new, render config (config.date.getD today).stamp content = .ok new ∧
      (tree.run config today).2 = tree.overwrite place (Text.toUtf8 new) := by
  have ends := tree.run_ends config today
  rw [updated] at ends
  generalize (tree.run config today).2 = after at ends ⊢
  cases ends with
  | updated valid loaded fresh rendered wet placed =>
      obtain rfl := Option.some.inj (loaded.symm.trans (text?_of_resolve found))
      have resolved := (ofUtf8?_of_canonicalize loaded placed).1
      rw [found] at resolved
      cases resolved
      exact ⟨_, rendered, rfl⟩

/-- What a run shows is what it has rendered. -/
theorem render_of_previewed {version : Text}
    (previewed : (tree.run config today).1.result = .ok (.previewed path version new))
    (loaded : tree.text? config.changelog = some content) :
    render config (config.date.getD today).stamp content = .ok new := by
  have ends := tree.run_ends config today
  rw [previewed] at ends
  generalize (tree.run config today).2 = after at ends
  cases ends with
  | previewed valid found fresh rendered dry =>
      obtain rfl := Option.some.inj (found.symm.trans loaded)
      exact rendered

theorem not_mem_of_render (valid : isVersion config.version = true) (date : Date)
    (rendered : render config date.stamp content = .ok new)
    (repository : '\r' ∉ config.repository) : '\r' ∉ new := by
  obtain ⟨old, read, rfl⟩ := render_eq_ok_iff.1 rendered
  obtain ⟨wf, whole⟩ := Document.ofText_eq_ok_iff.1 read
  refine Document.not_mem_release wf repository (isLabel_of_isVersion valid)
    date.isWord_stamp.isInline ?_
  rw [whole]
  exact Text.not_mem_normalizeLineEndings content

/-- Runs on the same changelog with other line endings end in the same way. Where they update it,
the two files are the same afterwards, and what they write or show has no `\r` unless the repository
has one. -/
theorem run_ignores_lineEndings {left right : Text} {today₁ today₂ : Date}
    (alike : tree.OnlyFileChanged other place (Text.toUtf8 left) (Text.toUtf8 right))
    (found : tree.resolve config.changelog = .ok (place, .file (Text.toUtf8 left)))
    (lines : Text.normalizeLineEndings left = Text.normalizeLineEndings right)
    (valid : isVersion config.version = true)
    (dated : config.date.getD today₁ = config.date.getD today₂) :
    (tree.run config today₁).1.result = (other.run config today₂).1.result ∧
    (∀ path version, (tree.run config today₁).1.result = .ok (.updated path version) →
      ∃ new, OnlyFileChanged (tree.run config today₁).2 (other.run config today₂).2 place
          (Text.toUtf8 new) (Text.toUtf8 new) ∧
        ('\r' ∉ config.repository → '\r' ∉ new)) ∧
    (∀ path version new, (tree.run config today₁).1.result = .ok (.previewed path version new) →
      '\r' ∉ config.repository → '\r' ∉ new) := by
  have foundOther := resolve_other alike found
  have loaded := text?_of_resolve found
  have ends : (tree.run config today₁).1.result = (other.run config today₂).1.result := by
    rw [(run_of_text? valid loaded).1, (run_of_text? valid (text?_of_resolve foundOther)).1, dated,
      releaseIn_of_normalizeLineEndings_eq alike lines (isLabel_of_isVersion valid)]
  refine ⟨ends, ?_, ?_⟩
  · intro path version updated
    obtain ⟨new, rendered, after⟩ := overwritten_of_updated updated found
    obtain ⟨same, renderedOther, afterOther⟩ :=
      overwritten_of_updated (ends.symm.trans updated) foundOther
    rw [← dated, render_of_normalizeLineEndings_eq lines, rendered] at renderedOther
    obtain rfl := Except.ok.inj renderedOther
    refine ⟨new, ?_, not_mem_of_render valid _ rendered⟩
    rw [after, afterOther]
    exact onlyFileChanged_overwrite_both alike _
  · intro path version new previewed
    exact not_mem_of_render valid _ (render_of_previewed previewed loaded)

theorem run_ignores_lineEndings_mixed :
    let left := Sample.changelog "\r\n* fix\r".toList []
    let right := "## [Unreleased]\n* fix\r\n## [1-1]\r[Unreleased]: x".toList
    let tree : FileTree := ⟨[], [([defaultPath], .file (Text.toUtf8 left))]⟩
    let other := tree.overwrite [defaultPath] (Text.toUtf8 right)
    ∃ new, OnlyFileChanged (tree.run Sample.datedConfig Date.epoch).2
        (other.run Sample.datedConfig Date.epoch).2 [defaultPath] (Text.toUtf8 new)
          (Text.toUtf8 new) ∧ '\r' ∉ new := by
  intro left right tree other
  have alike : tree.OnlyFileChanged other [defaultPath] (Text.toUtf8 left) (Text.toUtf8 right) :=
    onlyFileChanged_overwrite rfl _
  have found : tree.resolve Sample.datedConfig.changelog =
      .ok ([defaultPath], .file (Text.toUtf8 left)) := by decide +kernel
  have lines : Text.normalizeLineEndings left = Text.normalizeLineEndings right := by decide
  have valid : isVersion Sample.datedConfig.version = true := by decide
  have updated : (tree.run Sample.datedConfig Date.epoch).1.result =
      .ok (.updated Sample.datedConfig.changelog Sample.datedConfig.version) := by decide +kernel
  obtain ⟨new, same, uniform⟩ :=
    (run_ignores_lineEndings alike found lines valid rfl).2.1 _ _ updated
  exact ⟨new, same, uniform (by decide)⟩

end FileTree
end ReleaseLog
