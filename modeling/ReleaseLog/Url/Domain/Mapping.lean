import ReleaseLog.Text.Hexadecimal
import ReleaseLog.Url.Domain.Character
import ReleaseLog.Url.Domain.MappingTable

/-!
# The mapping of characters

Before a domain name is cut into labels, each of its characters is kept, removed or replaced by
others, so that names that look alike or differ in case only become the same name.
-/

namespace ReleaseLog
namespace Domain

/-- The characters with the hexadecimal codes of a row. -/
def readCodes (codes : Text) : Text :=
  (Text.splitOn ' ' codes).map fun code => Char.ofNat (Text.hexValue code)

/-- A series of characters at one distance, and what they become. -/
def seriesMappings : List Nat → List (Char × Text)
  | [first, count, distance, target, targetDistance] =>
      (List.range count).map fun i =>
        (Char.ofNat (first + distance * i), [Char.ofNat (target + targetDistance * i)])
  | _ => []

/-- Characters next to each other, from this code on, and what they become. -/
def rowMappings (first : Nat) : List Text → List (Char × Text)
  | [] => []
  | target :: targets => (Char.ofNat first, target) :: rowMappings (first + 1) targets

/-- The mappings of a row of the table of targets. -/
def targetMappings (row : Text) : List (Char × Text) :=
  match Text.splitOn ';' row with
  | first :: targets => rowMappings (Text.hexValue first) (targets.map readCodes)
  | [] => []

/-- All characters that become others, and what they become. -/
def mappings : List (Char × Text) :=
  (Text.splitOn ',' (seriesTable.flatMap String.toList)).flatMap
      (fun row => seriesMappings ((Text.splitOn ' ' row).map Text.hexValue)) ++
    (Text.splitOn ',' (targetTable.flatMap String.toList)).flatMap targetMappings

/-- What the mapping makes of a character; `none` if it refuses it. -/
def mapCharacter? (c : Char) : Option Text :=
  if isAscii c then some [c.toLower]
  else
    match status c with
    | 'V' => some [c]
    | 'M' => mappings.lookup c
    | 'I' => some []
    | _ => none

end Domain
end ReleaseLog
