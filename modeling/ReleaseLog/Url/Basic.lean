import ReleaseLog.Url.Domain.Basic
import ReleaseLog.Url.Ipv4
import ReleaseLog.Url.Ipv6
import ReleaseLog.Url.Percent

/-!
# Urls

A url is judged as far as its scheme, host and port go; path, query and fragment can hold
anything. Tabs and line ends are ignored wherever they stand, and so are control characters and
spaces around the url. Of the schemes, `http`, `https`, `ws`, `wss` and `ftp` demand a host and take
a backslash for a slash; `file` has rules of its own; all others may do without a host.
-/

namespace ReleaseLog

/-- Why a text is no url that can be used. -/
inductive UrlError
  | noScheme
  | noHost
  | invalidPort
  | invalidIpv4
  | invalidIpv6
  | invalidDomain
  | invalidHostCharacter
  | unsupportedScheme
  deriving DecidableEq, Repr

/-- The wording of the error. -/
def UrlError.message : UrlError → Text
  | noScheme => "relative URL without a base".toList
  | noHost => "empty host".toList
  | invalidPort => "invalid port number".toList
  | invalidIpv4 => "invalid IPv4 address".toList
  | invalidIpv6 => "invalid IPv6 address".toList
  | invalidDomain => "invalid international domain name".toList
  | invalidHostCharacter => "invalid domain character".toList
  | unsupportedScheme => "only http and https schemes are supported".toList

namespace Url

/-- The character is ignored at the ends of a url. -/
def isControlOrSpace (c : Char) : Bool := c.toNat ≤ 0x20

/-- The character is ignored anywhere. -/
def isIgnored (c : Char) : Bool := c == '\t' || c == '\n' || c == '\r'

/-- The characters of a url that count. -/
def clean (s : Text) : Text :=
  (((s.dropWhile isControlOrSpace).reverse.dropWhile isControlOrSpace).reverse).filter
    (!isIgnored ·)

/-- The characters of a scheme. -/
def isSchemeChar (c : Char) : Bool := c.isAlphanum || c == '+' || c == '-' || c == '.'

/-- The scheme of a url in lower case, and what follows its colon. -/
def cutScheme? (s : Text) : Option (Text × Text) :=
  match s.takeWhile isSchemeChar, s.dropWhile isSchemeChar with
  | c :: scheme, ':' :: rest =>
      if c.isAlpha then some ((c :: scheme).map Char.toLower, rest) else none
  | _, _ => none

/-- The schemes that demand a host. -/
def isSpecial (scheme : Text) : Bool :=
  ["http".toList, "https".toList, "ws".toList, "wss".toList, "ftp".toList].contains scheme

/-- The character ends the part of a url that names the host. -/
def endsAuthority (special : Bool) (c : Char) : Bool :=
  c == '/' || c == '?' || c == '#' || (special && c == '\\')

/-- The credentials in front of the last `@`, and what follows them. -/
def cutCredentials (s : Text) : Option Text × Text :=
  match s.reverse.dropWhile (· != '@') with
  | _ :: credentials => (some credentials.reverse, (s.reverse.takeWhile (· != '@')).reverse)
  | [] => (none, s)

/-- The credentials say something: they are neither empty nor a lone colon. -/
def namesUser (credentials : Option Text) : Bool :=
  credentials.any fun s => !s.isEmpty && s != [':']

/-- A host cut off the port behind it: at the first colon outside of brackets. -/
def cutHost (inside : Bool) : Text → Text × Text
  | [] => ([], [])
  | c :: cs =>
      if c == ':' && !inside then ([], c :: cs)
      else
        let (host, rest) := cutHost (c == '[' || (inside && c != ']')) cs
        (c :: host, rest)

/-- What stands behind a host is empty, or a colon and a number that fits into two bytes, which may
be missing. A backslash ends the number. -/
def checkPort (s : Text) : Except UrlError Unit :=
  let digits := (s.drop 1).takeWhile (· != '\\')
  if digits.all Char.isDigit && Text.digitsValue digits < 65536 then .ok ()
  else .error .invalidPort

/-- What stands in brackets is an IPv6 address. -/
def checkBrackets (s : Text) : Except UrlError Unit :=
  match s.reverse with
  | ']' :: address =>
      if Ipv6.isAddress address.reverse then .ok () else .error .invalidIpv6
  | _ => .error .invalidIpv6

/-- The host of a scheme that demands one. -/
def checkHost : Text → Except UrlError Unit
  | '[' :: s => checkBrackets s
  | s =>
      match Percent.decode? s with
      | none => .error .invalidDomain
      | some decoded =>
          match Domain.ofText? decoded with
          | none => .error .invalidDomain
          | some [] => .error .noHost
          | some name =>
              if Ipv4.isNumeric name && !Ipv4.isAddress name then .error .invalidIpv4 else .ok ()

/-- A character that no host of another scheme may hold. -/
def isForbiddenInHost (c : Char) : Bool :=
  "\x00\t\n\r #/:<>?@[\\]^|".toList.contains c

/-- The host of a scheme that does not demand one. -/
def checkOpaqueHost : Text → Except UrlError Unit
  | '[' :: s => checkBrackets s
  | s => if s.any isForbiddenInHost then .error .invalidHostCharacter else .ok ()

/-- A host and the port behind it, where a host is demanded. -/
def checkSpecial (host port : Text) : Except UrlError Unit := do
  if host.isEmpty then .error .noHost
  else
    checkHost host
    checkPort port

/-- A host and the port behind it, where none is demanded. Neither a port nor a user can do without
one. -/
def checkOpaque (host port : Text) (named : Bool) : Except UrlError Unit := do
  checkOpaqueHost host
  if host.isEmpty && !port.isEmpty then .error .noHost
  else
    checkPort port
    if host.isEmpty && named then .error .noHost else .ok ()

/-- The part of a url that names the host, with credentials in front of it and a port behind it.
`followed` tells that a path, a query or a fragment comes after it: an `@` alone is then not
enough. -/
def checkAuthority (special followed : Bool) (authority : Text) : Except UrlError Unit :=
  let (credentials, place) := cutCredentials authority
  if credentials == some [] && place.isEmpty && followed then .error .noHost
  else
    let (host, port) := cutHost false place
    if special then checkSpecial host port else checkOpaque host port (namesUser credentials)

/-- What stands behind the slashes of a url. -/
def checkBelow (special : Bool) (s : Text) : Except UrlError Unit :=
  checkAuthority special (!(s.dropWhile (!endsAuthority special ·)).isEmpty)
    (s.takeWhile (!endsAuthority special ·))

/-- The character is a slash of either kind. -/
def isSlash (c : Char) : Bool := c == '/' || c == '\\'

/-- A letter and a colon or a bar, which name a drive and not a host. -/
def isDrive : Text → Bool
  | [letter, mark] => letter.isAlpha && (mark == ':' || mark == '|')
  | _ => false

/-- What stands behind `file:`. A host is looked for behind two slashes and may be missing. -/
def checkFile : Text → Except UrlError Unit
  | first :: second :: s =>
      if isSlash first && isSlash second then
        let host := s.takeWhile (!endsAuthority true ·)
        if host.isEmpty || isDrive host then .ok () else checkHost host
      else .ok ()
  | _ => .ok ()

/-- What stands behind the scheme of a url. -/
def checkRest (scheme s : Text) : Except UrlError Unit :=
  if isSpecial scheme then checkBelow true (s.dropWhile isSlash)
  else if scheme == "file".toList then checkFile s
  else
    match s with
    | '/' :: '/' :: below => checkBelow false below
    | _ => .ok ()

/-- The scheme of a url, in lower case. -/
def scheme (s : Text) : Except UrlError Text :=
  match cutScheme? (clean s) with
  | none => .error .noScheme
  | some (scheme, rest) =>
      match checkRest scheme rest with
      | .ok () => .ok scheme
      | .error e => .error e

/-- The text is a url of the web. -/
def checkWeb (s : Text) : Except UrlError Unit :=
  match scheme s with
  | .error e => .error e
  | .ok scheme =>
      if scheme == "http".toList || scheme == "https".toList then .ok ()
      else .error .unsupportedScheme

end Url
end ReleaseLog
