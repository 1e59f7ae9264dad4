import ReleaseLog.Text.Basic

/-!
# Hexadecimal digits

Digits are read in either case. A row of them stands for a number, most significant digit first.
-/

namespace ReleaseLog
namespace Text

/-- The value of a hexadecimal digit. -/
def hexDigit? (c : Char) : Option Nat :=
  if '0' ≤ c ∧ c ≤ '9' then some (c.toNat - '0'.toNat)
  else if 'a' ≤ c ∧ c ≤ 'f' then some (c.toNat - 'a'.toNat + 10)
  else if 'A' ≤ c ∧ c ≤ 'F' then some (c.toNat - 'A'.toNat + 10)
  else none

/-- The character is a hexadecimal digit. -/
def isHexDigit (c : Char) : Bool := (hexDigit? c).isSome

/-- The number that a row of hexadecimal digits stands for. -/
def hexValue (s : Text) : Nat := s.foldl (fun n c => 16 * n + (hexDigit? c).getD 0) 0

end Text
end ReleaseLog
