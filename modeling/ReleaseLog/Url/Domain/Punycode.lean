import ReleaseLog.Text.Basic

/-!
# Punycode

A label that begins with `xn--` is the ASCII form of a label with other characters. The ASCII
characters of the label stand in front of its last hyphen. Behind it, numbers of variable length
say how far to go from one inserted character to the next, counting through all places of the
label for one character before turning to the next character.
-/

namespace ReleaseLog
namespace Punycode

/-- The value of a digit: the letters come before the decimal digits. -/
def digit? (c : Char) : Option Nat :=
  if 'a' ≤ c ∧ c ≤ 'z' then some (c.toNat - 'a'.toNat)
  else if '0' ≤ c ∧ c ≤ '9' then some (c.toNat - '0'.toNat + 26)
  else none

/-- A digit below this threshold ends its number. -/
def threshold (bias k : Nat) : Nat := min 26 (max 1 (k - bias))

/-- How often a distance has to be divided by 35 until it is at most 455, and what is left. -/
def shrink (k distance : Nat) : Nat × Nat :=
  if 455 < distance then shrink (k + 36) (distance / 35) else (k, distance)
termination_by distance
decreasing_by omega

/-- The bias for the next number, after a distance was covered in a label of `count` characters. -/
def nextBias (first : Bool) (count distance : Nat) : Nat :=
  let halved := if first then distance / 700 else distance / 2
  let (k, left) := shrink 0 (halved + halved / count)
  k + 36 * left / (left + 38)

/-- Where the decoder stands: the label so far, the character to be inserted, the place reached
for it and the bias; and, of the number that is being read, the place where it began, the weight
of its next digit and that digit's position. -/
structure State where
  label : Text
  character : Nat
  place : Nat
  bias : Nat
  start : Nat
  weight : Nat
  k : Nat

/-- The character with this code is inserted at a place. A code beyond Unicode has none. -/
def insertCode? (label : Text) (place code : Nat) : Option Text :=
  if code.isValidChar then some (label.take place ++ Char.ofNat code :: label.drop place)
  else none

/-- One more digit is read. -/
def State.read? (state : State) (digit : Nat) : Option State := do
  let place := state.place + digit * state.weight
  let limit := threshold state.bias state.k
  if digit < limit then
    let count := state.label.length + 1
    let code := state.character + place / count
    let label ← insertCode? state.label (place % count) code
    let next := place % count + 1
    return { label, character := code, place := next, start := next, weight := 1, k := 36
             bias := nextBias (state.start == 0) count (place - state.start) }
  else
    return { state with place, weight := state.weight * (36 - limit), k := state.k + 36 }

/-- The label after all digits; a number that does not end makes the label invalid. -/
def State.readAll? (state : State) : Text → Option Text
  | [] => if state.k = 36 then some state.label else none
  | c :: cs => do
      let digit ← digit? c
      let next ← state.read? digit
      next.readAll? cs

/-- A text cut around its last hyphen, if something stands in front of it. -/
def cutAtHyphen (s : Text) : Text × Text :=
  match s.reverse.dropWhile (· != '-') with
  | _ :: c :: front => ((c :: front).reverse, (s.reverse.takeWhile (· != '-')).reverse)
  | _ => ([], s)

/-- The label with this ASCII form, given without its `xn--`. -/
def decode? (s : Text) : Option Text :=
  let (label, digits) := cutAtHyphen s
  let state : State :=
    { label, character := 128, place := 0, bias := 72, start := 0, weight := 1, k := 36 }
  state.readAll? digits

end Punycode
end ReleaseLog
