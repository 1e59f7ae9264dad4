import ReleaseLog.Config.Inputs

/-!
# The command line

Five options take a value and two flags take none; each may be given once. A value stands behind `=`
or is the next argument, unless that begins with a hyphen. The first argument that does not fit
decides how reading ends. An option that is not given takes its value from its environment
variable, if it has one.
-/

namespace ReleaseLog

/-- The options that take a value. -/
inductive CommandOption
  | version
  | pullRequest
  | path
  | repository
  | date
  deriving DecidableEq, Repr

namespace CommandOption

/-- All options. -/
def all : List CommandOption := [version, pullRequest, path, repository, date]

/-- How the option is written, without the hyphens. -/
def name : CommandOption → Text
  | version => "new-version".toList
  | pullRequest => "pr-number".toList
  | path => "changelog-path".toList
  | repository => "repo-url".toList
  | date => "date".toList

/-- The environment variable that the option falls back to. -/
def environmentName? : CommandOption → Option Text
  | version => some "NEW_VERSION".toList
  | pullRequest => some "PR_NUMBER".toList
  | path => some "CHANGELOG_PATH".toList
  | repository => some "CHANGELOG_REPO_URL".toList
  | date => none

end CommandOption

/-- The options that take no value. -/
inductive Flag
  | dryRun
  | debug
  deriving DecidableEq, Repr

namespace Flag

/-- All flags. -/
def all : List Flag := [dryRun, debug]

/-- How the flag is written, without the hyphens. -/
def name : Flag → Text
  | dryRun => "dry-run".toList
  | debug => "debug".toList

end Flag

/-- Why a command line does not lead to a run. -/
inductive Stop
  | unknownArgument
  | missingValue
  | repeated
  | unexpectedValue
  | help
  | version
  deriving DecidableEq, Repr

/-- The status with which the program ends: asking for help or the version is no fault. -/
def Stop.exitCode : Stop → Nat
  | help | version => 0
  | unknownArgument | missingValue | repeated | unexpectedValue => 2

/-- What an argument is by itself. -/
inductive Argument
  /-- An option, with the value behind `=` if there is one. -/
  | option (which : CommandOption) (attached : Option Text)
  | flag (which : Flag)
  /-- A question that is answered instead of a run, or a fault after which nothing counts. -/
  | question (answer : Stop)
  | fault (stop : Stop)
  /-- Two hyphens: no option follows. -/
  | lastOption
  /-- Anything that does not begin with a hyphen, and a lone hyphen. -/
  | plain (value : Text)
  deriving DecidableEq, Repr

namespace Argument

/-- An argument that takes no value. -/
def bare (attached : Option Text) (argument : Argument) : Argument :=
  if attached.isSome then .fault .unexpectedValue else argument

/-- An argument with two hyphens, given its name and what stands behind `=`. -/
def ofLong (name : Text) (attached : Option Text) : Argument :=
  match CommandOption.all.find? (·.name == name), Flag.all.find? (·.name == name) with
  | some which, _ => .option which attached
  | none, some which => bare attached (.flag which)
  | none, none =>
      if name == "help".toList then bare attached (.question .help)
      else if name == "version".toList then bare attached (.question .version)
      else .fault .unknownArgument

/-- An argument with one hyphen, of which the first letter counts. -/
def ofShort : Char → Argument
  | 'h' => .question .help
  | 'V' => .question .version
  | _ => .fault .unknownArgument

/-- What a text is as an argument. -/
def ofText : Text → Argument
  | ['-', '-'] => .lastOption
  | '-' :: '-' :: s =>
      match s.dropWhile (· != '=') with
      | _ :: attached => ofLong (s.takeWhile (· != '=')) (some attached)
      | [] => ofLong s none
  | '-' :: c :: _ => ofShort c
  | s => .plain s

end Argument

/-- The options and flags that have been given. -/
structure Given where
  value? : CommandOption → Option Text := fun _ => none
  isSet : Flag → Bool := fun _ => false

namespace Given

/-- An option is given a value, for the first time. -/
def setValue (given : Given) (which : CommandOption) (value : Text) : Except Stop Given :=
  if (given.value? which).isSome then .error .repeated
  else .ok { given with value? := fun o => if o = which then some value else given.value? o }

/-- A flag is set, for the first time. -/
def setFlag (given : Given) (which : Flag) : Except Stop Given :=
  if given.isSet which then .error .repeated
  else .ok { given with isSet := fun f => f = which || given.isSet f }

end Given

/-- What has been read of a command line: what was given, an option that is still open, and whether
options can still follow. The open option may have its value already, and is counted when the next
option begins. -/
structure Reading where
  given : Given := {}
  openOption : Option (CommandOption × Option Text) := none
  isClosed : Bool := false

namespace Reading

/-- The open option is counted. -/
def settle (reading : Reading) : Except Stop Given :=
  match reading.openOption with
  | none => .ok reading.given
  | some (_, none) => .error .missingValue
  | some (which, some value) => reading.given.setValue which value

/-- One more argument is read, as long as options can follow. -/
def read (reading : Reading) : Argument → Except Stop Reading
  | .option which none => do return { given := ← reading.settle, openOption := some (which, none) }
  | .option which (some value) => do return { given := ← (← reading.settle).setValue which value }
  | .flag which => do return { given := ← (← reading.settle).setFlag which }
  | .question answer => do
      let _ ← reading.settle
      throw answer
  | .fault stop => throw stop
  | .lastOption => return { reading with isClosed := true }
  | .plain value =>
      match reading.openOption with
      | some (which, none) => return { reading with openOption := some (which, some value) }
      | _ => throw .unknownArgument

/-- The next argument of a command line is read. Nothing may follow two hyphens. -/
def next (reading : Reading) (argument : Text) : Except Stop Reading :=
  if reading.isClosed then throw .unknownArgument else reading.read (Argument.ofText argument)

end Reading

/-- What a command line gives. -/
def Given.ofArguments (arguments : List Text) : Except Stop Given := do
  (← arguments.foldlM Reading.next {}).settle

/-- The inputs of a run: what was given, and the environment for what was not. -/
def Given.inputs (given : Given) (environment : Text → Option Text) : Inputs :=
  let value := fun which => (given.value? which).or (which.environmentName?.bind environment)
  { version := value .version
    pullRequest := value .pullRequest
    path := value .path
    repository := value .repository
    date := value .date
    dryRun := given.isSet .dryRun
    debug := given.isSet .debug }

/-- The inputs that a command line and an environment give. -/
def Inputs.ofCommandLine (arguments : List Text) (environment : Text → Option Text) :
    Except Stop Inputs :=
  (Given.ofArguments arguments).map (·.inputs environment)

end ReleaseLog
