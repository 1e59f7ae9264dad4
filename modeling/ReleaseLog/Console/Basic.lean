import ReleaseLog.Console.Help
import ReleaseLog.Run.Basic

/-!
# What the program shows

The program shows the notes of its run, those for debugging only on demand, and behind them the
changelog of a dry run. A failure is noted too, and is followed by a hint if it lies in the inputs.
-/

namespace ReleaseLog

/-- The name of a level, as it is shown. -/
def Level.name : Level → Text
  | debug => "DEBUG".toList
  | info => "INFO".toList
  | error => "ERROR".toList

/-- The line that shows a note. -/
def Note.line (note : Note) : Text :=
  '[' :: note.level.name ++ "] ".toList ++ note.message ++ ['\n']

/-- The notes on a failure. -/
def Failure.notes (failure : Failure) : List Note :=
  .failed failure :: if failure.isConfiguration then [.seeHelp] else []

namespace Report

/-- The notes that are shown. -/
def shownNotes (debug : Bool) (report : Report) : List Note :=
  let ending :=
    match report.result with
    | .ok _ => []
    | .error failure => failure.notes
  (report.notes ++ ending).filter fun note => debug || note.level != .debug

/-- The changelog that is shown. -/
def shownContent (report : Report) : Text :=
  match report.result with
  | .ok (.previewed _ _ content) => content
  | _ => []

/-- The status with which the program ends. -/
def exitCode (report : Report) : Nat :=
  match report.result with
  | .ok _ => 0
  | .error failure => failure.exitCode

/-- Everything that is shown. -/
def shown (debug : Bool) (report : Report) : Text :=
  (report.shownNotes debug).flatMap Note.line ++ report.shownContent

end Report

/-- The run that the inputs ask for. -/
def Inputs.run {m : Type → Type} [Monad m] [FileAccess m] (inputs : Inputs) (today : Date) :
    m Report :=
  match Config.ofInputs inputs with
  | .ok config => config.run today
  | .error error => return Report.failed (.input error)

/-- What a call of the program leaves behind. -/
structure CallResult where
  exitCode : Nat
  output : Text
  tree : FileTree

/-- A call of the program in the working directory of a tree of files. -/
def FileTree.call (tree : FileTree) (arguments : List Text) (environment : Text → Option Text)
    (today : Date) : CallResult :=
  match Inputs.ofCommandLine arguments environment with
  | .error stop => { exitCode := stop.exitCode, output := stop.answer, tree }
  | .ok inputs =>
      let (report, tree) := (inputs.run today : StateM FileTree Report) tree
      { exitCode := report.exitCode, output := report.shown inputs.debug, tree }

end ReleaseLog
