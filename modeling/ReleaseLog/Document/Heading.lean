import ReleaseLog.Text.Line

/-!
# Headings of a changelog

A changelog has one heading `## [Unreleased]` and one heading `## [version]` for each release.
Whatever follows the closing bracket on the line, such as a date, is no part of the heading's
name. Headings are recognised on whole lines; only `mentionsRelease`, which asks whether a version
has been released at all, looks at any place of the text.
-/

namespace ReleaseLog

/-- The heading of the section that collects unreleased changes. -/
def unreleasedHeading : Text := "## [Unreleased]".toList

/-- The line is the heading of the unreleased section. -/
def isUnreleasedHeading (line : Text) : Bool := Text.startsWith unreleasedHeading line

/-- The characters of a release label. -/
def isLabelChar (c : Char) : Bool := c.isDigit || c == '.' || c == '-' || c.isLower

/-- The label of the release whose heading this line is. -/
def releaseLabel? (line : Text) : Option Text :=
  match Text.after? "## [".toList line with
  | none => none
  | some rest =>
      match rest.takeWhile isLabelChar, rest.dropWhile isLabelChar with
      | c :: label, ']' :: _ => some (c :: label)
      | _, _ => none

/-- The line is the heading of a release. -/
def isReleaseHeading (line : Text) : Bool := (releaseLabel? line).isSome

/-- The labels of all release headings, in the order in which they stand. -/
def releaseLabels (s : Text) : List Text := (Text.lines s).filterMap releaseLabel?

/-- The beginning of a release's heading. -/
def releaseHeading (version : Text) : Text := "## [".toList ++ version ++ "]".toList

/-- The heading of this release occurs somewhere in the text. -/
def mentionsRelease (version s : Text) : Bool := Text.occursIn (releaseHeading version) s

end ReleaseLog
