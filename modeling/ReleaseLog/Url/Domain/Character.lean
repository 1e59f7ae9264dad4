import ReleaseLog.Text.Basic
import ReleaseLog.Url.Domain.Table

/-!
# Properties of a character in a domain name

Only the characters beyond ASCII are looked up. An ASCII character is kept by the mapping, in lower
case, and is no mark; whether it may stand in a name at all is a rule of urls and not of Unicode.
-/

namespace ReleaseLog
namespace Domain

/-- The character belongs to ASCII. -/
def isAscii (c : Char) : Bool := c.toNat < 128

/-- Consecutive characters with one property, which the sign stands for. -/
structure Run where
  sign : Char
  count : Nat
deriving DecidableEq, Repr

/-- The runs of a table. As far as it has been read, the table has `run` at its end. -/
def readRuns (run : Run) : Text → List Run
  | [] => [run]
  | c :: cs =>
      if c.isDigit then readRuns ⟨run.sign, 10 * run.count + (c.toNat - '0'.toNat)⟩ cs
      else run :: readRuns ⟨c, 0⟩ cs

/-- All runs of a table. -/
def runsOf (table : List String) : List Run := readRuns ⟨'U', 0⟩ (table.flatMap String.toList)

/-- The sign of the run that holds a position. -/
def signAt (position : Nat) : List Run → Char
  | [] => 'U'
  | run :: runs =>
      if position < run.count then run.sign else signAt (position - run.count) runs

/-- The runs of characters that the mapping treats alike. -/
def statusRuns : List Run := runsOf statusTable

/-- The runs of marks and of other characters. -/
def markRuns : List Run := runsOf markTable

/-- The runs of characters of one combining class. -/
def combiningRuns : List Run := runsOf combiningTable

/-- The runs of characters of one bidirectional class. -/
def directionRuns : List Run := runsOf directionTable

/-- The runs of characters of one joining type. -/
def joiningRuns : List Run := runsOf joiningTable

/-- What the mapping does with a character. -/
def status (c : Char) : Char := signAt c.toNat statusRuns

/-- The mapping keeps the character as it is. -/
def isKept (c : Char) : Bool := if isAscii c then c.toLower == c else status c == 'V'

/-- The character is a combining mark. -/
def isMark (c : Char) : Bool := !isAscii c && signAt c.toNat markRuns == 'M'

/-- The sign of combining class 0: the character does not move among marks. -/
def starter : Char := '*'

/-- The combining class of a character. -/
def combiningClass (c : Char) : Char := if isAscii c then starter else signAt c.toNat combiningRuns

/-- The character is a virama, which a joiner may follow. -/
def isVirama (c : Char) : Bool := combiningClass c == 'C'

/-- The bidirectional class of a character. -/
def direction (c : Char) : Char := signAt c.toNat directionRuns

/-- The joining type of a character. -/
def joining (c : Char) : Char := signAt c.toNat joiningRuns

end Domain
end ReleaseLog
