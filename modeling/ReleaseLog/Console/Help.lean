import ReleaseLog.Console.CommandLine

/-!
# Help

What the program says about itself: the answers to `--help` and `--version` go to standard output,
a complaint about the command line goes to standard error.
-/

namespace ReleaseLog

/-- The line that tells the version of the program. -/
def versionLine : Text := "changelog-bump 0.1.0\n".toList

namespace CommandOption

/-- What the option is for. -/
def purpose : CommandOption → Text
  | version => "Release version to cut, such as 1.2.3-4.5.6 or 1.2.3-4.5.6-rc.1".toList
  | pullRequest => "Pull request that bumped nearcore".toList
  | path => "Changelog to update, CHANGES.md if not given".toList
  | repository => "Repository that the links of the changelog lead to".toList
  | date => "Day of the release as YYYY-MM-DD, today if not given".toList

/-- The lines on an option. -/
def help (which : CommandOption) : Text :=
  "  --".toList ++ which.name ++ " <VALUE>\n      ".toList ++ which.purpose ++
    (which.environmentName?.elim [] fun name => " [env: ".toList ++ name ++ "]".toList) ++ ['\n']

end CommandOption

namespace Flag

/-- What the flag is for. -/
def purpose : Flag → Text
  | dryRun => "Print the new changelog instead of writing it".toList
  | debug => "Show the lines of the log that are for debugging".toList

/-- The lines on a flag. -/
def help (which : Flag) : Text :=
  "  --".toList ++ which.name ++ "\n      ".toList ++ which.purpose ++ ['\n']

end Flag

/-- The answer to `--help`. -/
def helpText : Text :=
  "Record a nearcore bump in the changelog and cut a release section\n\n".toList ++
    "Usage: changelog-bump [OPTIONS]\n\nOptions:\n".toList ++
    CommandOption.all.flatMap CommandOption.help ++ Flag.all.flatMap Flag.help ++
    "  -h, --help\n      Print help\n  -V, --version\n      Print version\n".toList

namespace Stop

/-- What goes to standard output. -/
def answer : Stop → Text
  | help => helpText
  | version => versionLine
  | unknownArgument | missingValue | repeated | unexpectedValue => []

/-- What goes to standard error. -/
def complaint : Stop → Text
  | unknownArgument => "error: unexpected argument found\n".toList
  | missingValue => "error: an option lacks its value\n".toList
  | repeated => "error: an option was given more than once\n".toList
  | unexpectedValue => "error: a flag takes no value\n".toList
  | help | version => []

end Stop
end ReleaseLog
