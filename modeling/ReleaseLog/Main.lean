import ReleaseLog.Console.Basic
import Std.Time.DateTime.Timestamp

/-!
# The program

The outer layer: it reads the command line, the environment and the clock, gives the run the files
of the operating system, and prints what the run reports.
-/

namespace ReleaseLog

/-- The error of the operating system, told by its number. -/
def OsError.ofCode (code : UInt32) (details : String) : OsError :=
  match code.toNat with
  | 2 => .notFound
  | 16 => .busy
  | 20 => .notDirectory
  | 21 => .isDirectory
  | 36 => .nameTooLong
  | 40 => .tooManyLinks
  | n => .other (details.toList ++ " (os error ".toList ++ Text.ofNat n ++ ")".toList)

/-- The error that a file operation ran into. -/
def OsError.ofError : IO.Error → OsError
  | .alreadyExists _ code details | .inappropriateType _ code details
  | .invalidArgument _ code details | .noSuchThing _ code details
  | .permissionDenied _ code details | .resourceExhausted _ code details
  | .interrupted _ code details | .noFileOrDirectory _ code details
  | .hardwareFault code details | .illegalOperation code details | .otherError code details
  | .protocolError code details | .resourceBusy code details | .resourceVanished code details
  | .timeExpired code details | .unsatisfiedConstraints code details
  | .unsupportedOperation code details => .ofCode code details
  | .unexpectedEof => .other "unexpected end of file".toList
  | .userError message => .other message.toList

/-- A file operation whose error becomes part of the answer. -/
def attempt {α : Type} (operation : IO α) : IO (Except OsError α) := do
  try return .ok (← operation)
  catch error => return .error (.ofError error)

/-- The directory of a place, or the working directory for the root, which is in no directory. -/
def directoryOf (place : Text) : Text :=
  match place.reverse.dropWhile (· != '/') with
  | _ :: name :: names => (name :: names).reverse
  | _ => if place = ['/'] then ['.'] else ['/']

/-- A path of a new file in the directory. -/
def newPathIn (directory : Text) : IO String := do
  let number ← IO.rand 100000 999999
  let front := if directory = ['/'] then directory else directory ++ ['/']
  return String.ofList front ++ ".tmp" ++ toString number

/-- The text is written into a new file, and the file is moved onto the place. -/
def fillAndMove (file : IO.FS.Handle) (temporary place : String) (content : Text) :
    IO (Except Failure Unit) := do
  let written ← attempt do
    file.write (Text.toUtf8 content).toByteArray
    file.flush
  match written with
  | .error error => return .error (.access temporary.toList error)
  | .ok () =>
      return (← attempt (IO.FS.rename temporary place)).mapError (.replacement place.toList)

/-- A new file is made beside the old one and takes its place. It is removed if it does not get
there. The rights of a file can be set here but not be read, so the new file has those with which
files are made. -/
def replaceFile (path content : Text) : IO (Except Failure Text) := do
  match ← attempt (IO.FS.realPath (String.ofList path)) with
  | .error error => return .error (.access path error)
  | .ok target =>
      let place := target.toString
      let directory := directoryOf place.toList
      let temporary ← newPathIn directory
      match ← attempt (IO.FS.Handle.mk temporary .writeNew) with
      | .error error => return .error (.access directory error)
      | .ok file =>
          match ← fillAndMove file temporary place content with
          | .ok () => return .ok place.toList
          | .error failure =>
              let _ ← attempt (IO.FS.removeFile temporary)
              return .error failure

instance : FileAccess IO where
  isPresent path := return (← attempt (IO.FS.realPath (String.ofList path))).toOption.isSome
  read path := attempt do return (← IO.FS.readBinFile (String.ofList path)).toList
  replace := replaceFile

/-- The seconds since the beginning of 1970. -/
def secondsSinceEpoch : IO Nat := do
  return (← Std.Time.Timestamp.now).toSecondsSinceUnixEpoch.val.toNat

/-- The time of the day, as it stands before a note. -/
def clockText (seconds : Nat) : Text :=
  let ofDay := seconds % 86400
  Text.ofNatPadded 2 (ofDay / 3600) ++ ':' :: Text.ofNatPadded 2 (ofDay / 60 % 60) ++
    ':' :: Text.ofNatPadded 2 (ofDay % 60)

/-- The environment variables that options fall back to, as far as they are set. -/
def readVariables : IO (List (Text × Text)) :=
  (CommandOption.all.filterMap CommandOption.environmentName?).filterMapM fun name => do
    return (← IO.getEnv (String.ofList name)).map fun value => (name, value.toList)

end ReleaseLog

open ReleaseLog in
/-- The program. -/
def main (arguments : List String) : IO UInt32 := do
  let environment ← readVariables
  match Inputs.ofCommandLine (arguments.map String.toList) (environment.lookup ·) with
  | .error stop =>
      IO.print (String.ofList stop.answer)
      IO.eprint (String.ofList stop.complaint)
      return stop.exitCode.toUInt32
  | .ok inputs =>
      let report : Report ← inputs.run (Date.ofDaysSinceEpoch ((← secondsSinceEpoch) / 86400))
      for note in report.shownNotes inputs.debug do
        let clock := clockText (← secondsSinceEpoch)
        IO.print (String.ofList (clock ++ ' ' :: note.line))
      IO.print (String.ofList report.shownContent)
      return report.exitCode.toUInt32
