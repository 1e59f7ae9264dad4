import ReleaseLog.Text.Decimal

/-!
# Composite release versions

A release is named by two versions joined with a hyphen: its own and that of the node it is built
on, which may carry a prerelease tag, as in `1.2.3-4.5.6-rc.1`. `isVersion` reads such a name from
left to right; `dependencyVersion` is everything after the first hyphen.
-/

namespace ReleaseLog

/-- The characters of a plain version number. -/
def isVersionNumberChar (c : Char) : Bool := c.isDigit || c == '.'

/-- A prerelease tag: lower-case letters, a dot and a number. -/
def isPrereleaseTag (s : Text) : Bool :=
  match s.takeWhile Char.isLower, s.dropWhile Char.isLower with
  | [], _ => false
  | _ :: _, '.' :: number => Text.isDigits number
  | _ :: _, _ => false

/-- A version number of the node, with or without a prerelease tag behind a hyphen. -/
def isDependencyVersion (s : Text) : Bool :=
  match s.takeWhile isVersionNumberChar, s.dropWhile isVersionNumberChar with
  | [], _ => false
  | _ :: _, [] => true
  | _ :: _, '-' :: tag => isPrereleaseTag tag
  | _ :: _, _ => false

/-- A composite release version. -/
def isVersion (s : Text) : Bool :=
  match s.takeWhile isVersionNumberChar, s.dropWhile isVersionNumberChar with
  | [], _ => false
  | _ :: _, '-' :: dependency => isDependencyVersion dependency
  | _ :: _, _ => false

/-- The node's version within a release version: what follows the first hyphen, or all of it. -/
def dependencyVersion (version : Text) : Text :=
  match version.dropWhile (· != '-') with
  | _ :: dependency => dependency
  | [] => version

end ReleaseLog
