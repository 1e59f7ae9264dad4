import ReleaseLog.Text.Decimal
import ReleaseLog.Text.Hexadecimal

/-!
# IPv4 addresses

A host whose last part is a number is an IPv4 address, and no domain name can look like one. Up
to four numbers are written between dots, and a dot may follow the last. Each number is decimal,
octal behind `0` or hexadecimal behind `0x`. The last one fills all bytes that the others leave.
-/

namespace ReleaseLog
namespace Ipv4

/-- The number that a part of an address stands for. -/
def number? : Text → Option Nat
  | [] => none
  | '0' :: 'x' :: digits => if digits.all Text.isHexDigit then some (Text.hexValue digits) else none
  | ['0'] => some 0
  | '0' :: digits =>
      if digits.all (fun c => '0' ≤ c && c ≤ '7') then some (Nat.ofDigitChars 8 digits 0) else none
  | digits => if Text.isDigits digits then some (Text.digitsValue digits) else none

/-- The parts between the dots, without an empty one at the end. -/
def parts (s : Text) : List Text :=
  match (Text.splitOn '.' s).reverse with
  | [] :: rest => rest.reverse
  | reversed => reversed.reverse

/-- The host has to be an address: its last part is a row of digits or a number. -/
def isNumeric (s : Text) : Bool :=
  match (parts s).getLast? with
  | none => false
  | some last => Text.isDigits last || (number? last).isSome

/-- Each number but the last fits into a byte, and the last into the bytes that are left of four. -/
def fits : Nat → List Nat → Bool
  | _, [] => false
  | bytes, [last] => last < Nat.pow 256 bytes
  | bytes, n :: ns => n < 256 && fits (bytes - 1) ns

/-- The text is an address. -/
def isAddress (s : Text) : Bool :=
  match (parts s).mapM number? with
  | none => false
  | some numbers => numbers.length ≤ 4 && fits 4 numbers

end Ipv4
end ReleaseLog
