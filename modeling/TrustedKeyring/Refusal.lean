import TrustedKeyring.Errno
import TrustedKeyring.HashAlgorithm
import TrustedKeyring.Json.Fault

/-!
# Refusals

The causes for which an operation on trusted keys is refused, their texts, and the error number
that each one stands for.
-/

namespace TrustedKeyring

inductive Refusal where
  | noKey
  | unknownAlgorithm (number : UInt8)
  | invalidArgument (detail : String)
  | loadFailed (errno : Errno)
  | otherKeyring (bound requested : String)
  | otherService
  | searchFailed (errno : Errno)
  | provisionFailed (errno : Errno)
  | badConfig (detail : String)
  /-- A file could not be read; without a number if the operating system was never asked. -/
  | unreadable (errno : Option Errno)
  | badDocument (fault : Json.Fault)
deriving DecidableEq, Repr

namespace Refusal

def errno : Refusal → Errno
  | noKey => Errno.ENOKEY
  | unknownAlgorithm _ => Errno.ENOPKG
  | invalidArgument _ => Errno.EINVAL
  | loadFailed e => e
  | otherKeyring _ _ => Errno.EINVAL
  | otherService => Errno.EINVAL
  | searchFailed e => e
  | provisionFailed e => e
  | badConfig _ => Errno.EINVAL
  | unreadable e => e.getD Errno.ENOENT
  | badDocument _ => Errno.EINVAL

/-- The text of the refusal.  For files and documents the text is that of the reader that met the
fault. -/
def message? : Refusal → Option String
  | noKey => some "required key not available"
  | unknownAlgorithm number => some ("unsupported hash algorithm: " ++ toString number.toNat)
  | invalidArgument detail => some ("invalid argument: " ++ detail)
  | loadFailed e => some ("trust anchor load failed: " ++ e.describe)
  | otherKeyring bound requested =>
    some ("trust anchor holds keyring '" ++ bound ++ "', not '" ++ requested ++ "'")
  | otherService => some "trust anchor was loaded through a different key service"
  | searchFailed e => some ("key lookup failed: " ++ e.describe)
  | provisionFailed e => some ("key provisioning failed: " ++ e.describe)
  | badConfig detail => some ("configuration: " ++ detail)
  | unreadable _ => none
  | badDocument _ => none

end Refusal

end TrustedKeyring
