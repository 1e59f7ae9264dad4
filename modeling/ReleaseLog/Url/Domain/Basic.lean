import ReleaseLog.Url.Domain.Composition
import ReleaseLog.Url.Domain.Label
import ReleaseLog.Url.Domain.Mapping
import ReleaseLog.Url.Domain.Punycode

/-!
# Domain names

A domain name is read in the way of internationalized names: its characters are mapped and
composed, the result is cut into labels at the dots, each label in ASCII form is decoded, and the
labels are checked. Labels may be empty, and only those with characters beyond ASCII are bounded in
length; the characters that delimit the parts of a url may not occur.
-/

namespace ReleaseLog
namespace Domain

/-- An ASCII character that no host name may hold. -/
def isForbidden (c : Char) : Bool :=
  c.toNat ≤ 0x20 || c.toNat == 0x7F || "%#/:<>?@[\\]^|".toList.contains c

/-- The most characters of a label that has some beyond ASCII. -/
def lengthLimit : Nat := 1000

/-- The most characters of a label in ASCII form, behind the sign that it is one. -/
def encodedLengthLimit : Nat := 2000

/-- The name after the mapping, composed; `none` if a character is refused. -/
def map? (name : Text) : Option Text :=
  (name.mapM mapCharacter?).map fun targets => compose targets.flatten

/-- The decoded form of a label in ASCII form: it has characters beyond ASCII, is composed, and the
mapping keeps all of its characters. -/
def decodeLabel? (encoded : Text) : Option Text := do
  if encoded.all isAscii && encoded.length ≤ encodedLengthLimit then
    let label ← Punycode.decode? encoded
    if label.all isKept && !label.all isAscii && isComposed label then some label else none
  else none

/-- A label of a mapped name in its decoded form. -/
def readLabel? (label : Text) : Option Text := do
  let decoded ←
    match Text.after? "xn--".toList label with
    | some encoded => decodeLabel? encoded
    | none => some label
  let fits := decoded.all isAscii || decoded.length ≤ lengthLimit
  if isLabel decoded && fits && !decoded.any isForbidden then some decoded else none

/-- All labels together keep their directions. -/
def directionsFit (labels : List Text) : Bool :=
  !labels.any hasRightToLeft || labels.all keepsDirection

/-- The mapped form of a domain name, if it is one. -/
def ofText? (name : Text) : Option Text := do
  let mapped ← map? name
  let labels ← (Text.splitOn '.' mapped).mapM readLabel?
  if directionsFit labels then some mapped else none

end Domain
end ReleaseLog
