import ReleaseLog.Text.Hexadecimal
import ReleaseLog.Url.Domain.Character

/-!
# Composed text

Names are compared in composed form, and a label that comes decoded from its ASCII form has to be
composed already. The composed form is found in three steps: each character is taken apart, the
marks behind a character are put in the order of their combining classes, and the parts are joined
again as far as they reach one another.
-/

namespace ReleaseLog
namespace Domain

/-- A character that stands for two others. -/
structure Composite where
  whole : Char
  first : Char
  second : Char
deriving DecidableEq, Repr

/-- The composites that end in `second`, given by the numbers of their first parts, each with that
of the whole. -/
def compositesEndingIn (second : Nat) : List Nat → List Composite
  | first :: whole :: others =>
      ⟨Char.ofNat whole, Char.ofNat first, Char.ofNat second⟩ :: compositesEndingIn second others
  | _ => []

/-- The composites of a row of hexadecimal numbers. -/
def compositesOfRow (row : Text) : List Composite :=
  match (Text.splitOn ' ' row).map Text.hexValue with
  | second :: others => compositesEndingIn second others
  | [] => []

/-- All composites but for the syllables of Hangul. -/
def composites : List Composite :=
  (Text.splitOn ',' (compositeTable.flatMap String.toList)).flatMap compositesOfRow

/-- Every syllable of Hangul, in one row, is a leading consonant and a vowel or, as 27 of 28 are,
such a syllable and a trailing consonant. -/
def hangulParts? (c : Char) : Option (Char × Char) :=
  if 0xAC00 ≤ c.toNat ∧ c.toNat ≤ 0xD7A3 then
    let place := c.toNat - 0xAC00
    if place % 28 = 0 then
      some (Char.ofNat (0x1100 + place / 588), Char.ofNat (0x1161 + place / 28 % 21))
    else some (Char.ofNat (c.toNat - place % 28), Char.ofNat (0x11A7 + place % 28))
  else none

/-- The syllable of Hangul that has these two parts. -/
def hangulWhole? (first second : Char) : Option Char :=
  let a := first.toNat
  let b := second.toNat
  if 0x1100 ≤ a ∧ a ≤ 0x1112 ∧ 0x1161 ≤ b ∧ b ≤ 0x1175 then
    some (Char.ofNat (0xAC00 + ((a - 0x1100) * 21 + (b - 0x1161)) * 28))
  else if 0xAC00 ≤ a ∧ a ≤ 0xD7A3 ∧ (a - 0xAC00) % 28 = 0 ∧ 0x11A8 ≤ b ∧ b ≤ 0x11C2 then
    some (Char.ofNat (a + (b - 0x11A7)))
  else none

/-- The two characters that this one stands for. One of ASCII stands for itself. -/
def parts? (c : Char) : Option (Char × Char) :=
  if isAscii c then none
  else
    hangulParts? c <|>
      (composites.find? (·.whole == c)).map fun composite => (composite.first, composite.second)

/-- The character that stands for these two. The second one is never of ASCII. -/
def whole? (first second : Char) : Option Char :=
  if isAscii second then none
  else
    hangulWhole? first second <|>
      (composites.find? fun composite =>
        composite.first == first && composite.second == second).map (·.whole)

/-- The characters of a text, one that stands for two replaced by these. -/
def takeApart (s : Text) : Text :=
  s.flatMap fun c =>
    match parts? c with
    | some (first, second) => [first, second]
    | none => [c]

/-- A character in front of a text whose marks are in order: it moves behind the marks of lower
classes, unless it is a starter. -/
def placeMark (c : Char) : Text → Text
  | [] => [c]
  | d :: ds =>
      if combiningClass d != starter && combiningClass d < combiningClass c then d :: placeMark c ds
      else c :: d :: ds

/-- The text with all characters taken apart and all marks in order. Taking apart twice is enough,
since the parts of a first part stand for themselves. -/
def decompose (s : Text) : Text := (takeApart (takeApart s)).foldr placeMark []

/-- The characters from `first` on, joined. The marks that stay between `first` and the rest are
`between`, in reverse; a character reaches `first` if the last of them is of a lower class. -/
def joinTo (first : Char) (between : Text) : Text → Text
  | [] => first :: between.reverse
  | c :: cs =>
      let reaches := between.head?.all fun mark => combiningClass mark < combiningClass c
      match if reaches then whole? first c else none with
      | some whole => joinTo whole between cs
      | none =>
          if combiningClass c == starter then first :: between.reverse ++ joinTo c [] cs
          else joinTo first (c :: between) cs

/-- The composed form of a text. -/
def compose (s : Text) : Text :=
  match decompose s with
  | [] => []
  | c :: cs => joinTo c [] cs

/-- The text is composed. -/
def isComposed (s : Text) : Bool := compose s == s

end Domain
end ReleaseLog
