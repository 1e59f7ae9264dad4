import ReleaseLog.Url.Domain.Character

/-!
# Rules on the labels of a domain name

A label does not begin with a combining mark, and the two joiners stand only where they change the
shape of their neighbours. If one label of a name is written from right to left, every label of
the name has to keep one direction, so that it looks the same wherever it is shown.
-/

namespace ReleaseLog
namespace Domain

/-- The zero width joiner. -/
def joiner : Char := '\u200d'

/-- The zero width non-joiner. -/
def nonJoiner : Char := '\u200c'

/-- The nearest character that is not transparent has one of these joining types. -/
def joinsWith (types : List Char) (s : Text) : Bool :=
  match s.dropWhile (fun c => joining c == 'T') with
  | [] => false
  | c :: _ => types.contains (joining c)

/-- Each joiner of a label follows a virama; a non-joiner may also stand between two characters
that would join. The characters before the rest of the label are given in reverse. -/
def joinersFit (before : Text) : Text → Bool
  | [] => true
  | c :: cs =>
      let afterVirama := before.head?.any isVirama
      let fits :=
        if c == joiner then afterVirama
        else if c == nonJoiner then
          afterVirama || (joinsWith ['L', 'D'] before && joinsWith ['R', 'D'] cs)
        else true
      fits && joinersFit (c :: before) cs

/-- A label as far as it does not depend on the others. -/
def isLabel (label : Text) : Bool := !label.head?.any isMark && joinersFit [] label

/-- The label has a character that is written from right to left. -/
def hasRightToLeft (label : Text) : Bool :=
  label.any fun c => !isAscii c && (direction c == 'R' || direction c == 'A')

/-- The label keeps one direction: its first character sets it, its last one but for marks belongs
to it, and from right to left it uses one kind of digits. -/
def keepsDirection (label : Text) : Bool :=
  let classes := label.map direction
  let last := classes.reverse.dropWhile (· == 'M')
  match classes.head?, last.head? with
  | none, _ => true
  | some 'L', some c => c ∈ ['L', 'E'] && classes.all (· ∈ ['L', 'E', 'N', 'M'])
  | some 'R', some c =>
      c ∈ ['R', 'E', 'A'] && classes.all (· ∈ ['R', 'A', 'E', 'N', 'M']) &&
        !(classes.contains 'E' && classes.contains 'A')
  | _, _ => false

end Domain
end ReleaseLog
