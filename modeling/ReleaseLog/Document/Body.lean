import ReleaseLog.Text.Decimal
import ReleaseLog.Text.Line

/-!
# The body of a section

The body of the unreleased section takes the entry of a release at two places: the bullet goes to
the top of the part headed `Changes`, and the link goes below the last line that cites a pull
request of the same repository. Where such a place is missing, one is made: a heading at the top of
the body, a paragraph at its end.
-/

namespace ReleaseLog

/-- The heading of the changes, where a body has none. -/
def changesHeading : Text := "### Changes".toList

/-- The line is a heading, of any level, with the text `Changes`. -/
def isChangesHeading (line : Text) : Bool :=
  match line.takeWhile (· == '#'), line.dropWhile (· == '#') with
  | [], _ => false
  | _ :: _, rest =>
      match rest.takeWhile Text.isBlank with
      | [] => false
      | _ :: _ =>
          match Text.after? "Changes".toList (rest.dropWhile Text.isBlank) with
          | some rest => rest.all Text.isBlank
          | none => false

/-- The body with a bullet at the top of its changes. -/
def mergeBullet (body bullet : Text) : Text :=
  if body.isEmpty then changesHeading ++ "\n\n".toList ++ bullet
  else
    match Text.findLine isChangesHeading true body with
    | some cut =>
        cut.before ++ cut.line ++ "\n\n".toList ++ bullet ++ "\n".toList ++
          Text.trimStart cut.after
    | none => changesHeading ++ "\n\n".toList ++ bullet ++ "\n\n".toList ++ body

/-- The address in front of `/pull/` and a number at the end of a text, which must be one word.
The last `/pull/` counts, and blanks may follow the number. -/
def pullRepository? (s : Text) : Option Text :=
  let reversed := s.reverse.dropWhile Text.isBlank
  match reversed.takeWhile Char.isDigit with
  | [] => none
  | _ :: _ =>
      match Text.after? "/llup/".toList (reversed.dropWhile Char.isDigit) with
      | some (c :: repository) =>
          if (c :: repository).all (!Text.isWhite ·) then some (c :: repository).reverse else none
      | _ => none

/-- The repository that a line refers to, if it has the form `[#number]: repository/pull/number`.
The two numbers need not agree. -/
def citedRepository? (line : Text) : Option Text :=
  match Text.after? "[#".toList line with
  | none => none
  | some rest =>
      match rest.takeWhile Char.isDigit with
      | [] => none
      | _ :: _ =>
          match Text.after? "]: ".toList (rest.dropWhile Char.isDigit) with
          | some address => pullRepository? address
          | none => none

/-- The body with a link below the last reference to this repository. -/
def appendPullLink (body link repository : Text) : Text :=
  match Text.findLastLine (fun line => citedRepository? line == some repository) true body with
  | some cut => cut.before ++ cut.line ++ "\n".toList ++ link ++ cut.after
  | none => body ++ "\n\n".toList ++ link

end ReleaseLog
