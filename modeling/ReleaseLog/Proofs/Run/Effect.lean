import ReleaseLog.Proofs.Document.Release
import ReleaseLog.Proofs.FileTree.Content
import ReleaseLog.Proofs.Run.Basic

/-!
# What a run changes

A run that updates its changelog gives new content to one file, the one that the changelog's path
leads to through all links. Every other run leaves the whole tree as it was, however far it came.
-/

namespace ReleaseLog

namespace Sample

/-- The sample release, with its day. -/
def datedConfig : Config := { config with date := some date }

/-- A directory in which the changelog is a link to a file with this text. -/
def linkedTree (content : Text) : FileTree :=
  ⟨[], [([defaultPath], .link "a".toList), (["a".toList], .file (Text.toUtf8 content))]⟩

end Sample

namespace FileTree

variable {tree before after : FileTree} {config : Config} {today : Date} {place : Place}
  {old new : Bytes}

/-- A run that updates its changelog has put the release of its version into the one file that the
path leads to, in which no heading of the version stood. A run that does not changes nothing. -/
theorem run_changes_one_file (tree : FileTree) (config : Config) (today : Date) :
    (∀ path version, (tree.run config today).1.result = .ok (.updated path version) →
      path = config.changelog ∧ version = config.version ∧
        ∃ place old content new, tree.resolve path = .ok (place, .file old) ∧
          Text.ofUtf8? old = some content ∧ ¬ releaseHeading version <:+: content ∧
            render config (config.date.getD today).stamp content = .ok new ∧
              tree.OnlyFileChanged (tree.run config today).2 place old (Text.toUtf8 new)) ∧
    ((∀ path version, (tree.run config today).1.result ≠ .ok (.updated path version)) →
      (tree.run config today).2 = tree) := by
  have ends := tree.run_ends config today
  generalize (tree.run config today).1.result = result at ends ⊢
  generalize (tree.run config today).2 = after at ends ⊢
  cases ends with
  | unread | skipped | failed | previewed => simp
  | updated valid loaded fresh rendered wet placed =>
      rename_i content new place old
      constructor
      · rintro path version ⟨⟩
        obtain ⟨resolved, text⟩ := ofUtf8?_of_canonicalize loaded placed
        have absent : ¬ releaseHeading config.version <:+: content := by
          rw [← mentionsRelease_iff, fresh]
          simp
        exact ⟨rfl, rfl, place, old, content, new, resolved, text, absent, rendered,
          onlyFileChanged_overwrite (entry?_of_resolve resolved) _⟩
      · intro notUpdated
        exact absurd rfl (notUpdated _ _)

/-- A changelog is updated behind its link, and the link stays. -/
theorem run_changes_one_file_behind_link :
    let tree := Sample.linkedTree (Sample.changelog Sample.oneFix [])
    let after := (tree.run Sample.datedConfig Date.epoch).2
    after.entry? ["a".toList] =
        some (.file (Text.toUtf8 (Sample.released Sample.releasedFix []))) ∧
      after.entry? [defaultPath] = some (.link "a".toList) := by
  intro tree after
  have updated : (tree.run Sample.datedConfig Date.epoch).1.result =
      .ok (.updated Sample.datedConfig.changelog Sample.datedConfig.version) := by decide +kernel
  obtain ⟨_, _, place, old, text, new, resolved, decoded, _, rendered, changed⟩ :=
    (run_changes_one_file tree Sample.datedConfig Date.epoch).1 _ _ updated
  have reached : tree.resolve Sample.datedConfig.changelog =
      .ok (["a".toList], .file (Text.toUtf8 (Sample.changelog Sample.oneFix []))) := by
    decide +kernel
  rw [reached] at resolved
  cases resolved
  rw [Text.ofUtf8?_toUtf8] at decoded
  cases decoded
  have release : render Sample.datedConfig (Sample.datedConfig.date.getD Date.epoch).stamp
      (Sample.changelog Sample.oneFix []) = .ok (Sample.released Sample.releasedFix []) := by
    decide +kernel
  rw [release] at rendered
  cases rendered
  have different : [defaultPath] ≠ ["a".toList] := by decide
  exact ⟨changed.new, (changed.other _ different).trans rfl⟩

end FileTree
end ReleaseLog
