import ReleaseLog.Text.Hexadecimal
import ReleaseLog.Text.Utf8

/-!
# Percent-encoding

In a host name, `%` and two hexadecimal digits stand for a byte. All other characters stand for
the bytes of their UTF-8 form, a `%` without two such digits included. The bytes together are again
the UTF-8 form of a text, or the name is refused.
-/

namespace ReleaseLog
namespace Percent

/-- The bytes that a text stands for. -/
def bytes : Text → Bytes
  | [] => []
  | '%' :: high :: low :: s =>
      match Text.hexDigit? high, Text.hexDigit? low with
      | some h, some l => UInt8.ofNat (16 * h + l) :: bytes s
      | _, _ => '%'.toNat.toUInt8 :: bytes (high :: low :: s)
  | c :: s => String.utf8EncodeChar c ++ bytes s

/-- The text that a text stands for. -/
def decode? (s : Text) : Option Text :=
  if s.contains '%' then Text.ofUtf8? (bytes s) else some s

end Percent
end ReleaseLog
