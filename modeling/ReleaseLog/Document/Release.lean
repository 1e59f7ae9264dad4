import ReleaseLog.Config.Basic
import ReleaseLog.Document.Basic
import ReleaseLog.Document.Body
import ReleaseLog.Entry
import ReleaseLog.Text.LineEnding

/-!
# Releasing the unreleased changes

A release turns the unreleased section into a dated one: under a new, empty unreleased heading
stands the heading of the version, then the old body with the release's entry in it, then all
older releases and the link table with the release's lines. Above the unreleased heading nothing
changes.
-/

namespace ReleaseLog

namespace Config

/-- The entry that this release adds. -/
def entry (config : Config) : Entry :=
  Entry.compose config.version config.pullRequest config.repository

end Config

namespace Document

/-- The body of the new section. -/
def releasedBody (d : Document) (config : Config) : Text :=
  appendPullLink (mergeBullet d.body config.entry.bullet) config.entry.link config.repository

/-- The link table after the release. -/
def releasedLinks (d : Document) (config : Config) : Text :=
  updateLinks config.repository d.previous config.version d.links

/-- The text of the changelog after a release. -/
def release (d : Document) (config : Config) (stamp : Text) : Text :=
  d.preamble ++ unreleasedHeading ++ "\n\n".toList ++ releaseHeading config.version ++
    " ".toList ++ stamp ++ "\n\n".toList ++ d.releasedBody config ++ "\n\n".toList ++
    d.releases ++ d.releasedLinks config

end Document

/-- The text of a changelog after a release, with `\n` as its only line ending. -/
def render (config : Config) (stamp content : Text) : Except ShapeError Text :=
  (Document.ofText (Text.normalizeLineEndings content)).map (·.release config stamp)

end ReleaseLog
