import ReleaseLog.Text.Decimal
import ReleaseLog.Text.Hexadecimal

/-!
# IPv6 addresses

An address has eight pieces of one to four hexadecimal digits with colons in between. Once, `::`
may stand for one or more pieces that are zero, and the last two pieces may be written as four
decimal numbers between dots.
-/

namespace ReleaseLog
namespace Ipv6

/-- A piece of the address. -/
def isPiece (s : Text) : Bool := !s.isEmpty && s.length ≤ 4 && s.all Text.isHexDigit

/-- A decimal number below 256 without leading zeros. -/
def isByte (s : Text) : Bool :=
  Text.isDigits s && (s.head? != some '0' || s.length == 1) && Text.digitsValue s < 256

/-- Two pieces written as four numbers. -/
def isDotted (s : Text) : Bool :=
  let numbers := Text.splitOn '.' s
  numbers.length == 4 && numbers.all isByte

/-- The number of pieces in a row, the end of which may be dotted. -/
def pieces? : List Text → Option Nat
  | [] => some 0
  | [last] => if isPiece last then some 1 else if isDotted last then some 2 else none
  | s :: rest => if isPiece s then (pieces? rest).map (· + 1) else none

/-- A text cut around its first `::`. -/
def cutAtGap : Text → Option (Text × Text)
  | [] => none
  | ':' :: ':' :: s => some ([], s)
  | c :: s => (cutAtGap s).map fun (left, right) => (c :: left, right)

/-- The parts between single colons; none in an empty text. -/
def row (s : Text) : List Text := if s.isEmpty then [] else Text.splitOn ':' s

/-- The text is an address. -/
def isAddress (s : Text) : Bool :=
  match cutAtGap s with
  | none => pieces? (row s) == some 8
  | some (left, right) =>
      (row left).all isPiece &&
        match pieces? (row right) with
        | none => false
        | some count => (row left).length + count ≤ 7

end Ipv6
end ReleaseLog
