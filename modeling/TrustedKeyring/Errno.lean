/-!
# Error numbers

The positive operating-system error numbers that key services and signature primitives report,
in 32-bit arithmetic.
-/

namespace TrustedKeyring

structure Errno where
  code : Int32
deriving DecidableEq, Repr

namespace Errno

def ENOENT : Errno := ⟨2⟩
def EAGAIN : Errno := ⟨11⟩
def ENOMEM : Errno := ⟨12⟩
def EACCES : Errno := ⟨13⟩
def EEXIST : Errno := ⟨17⟩
def ENOTDIR : Errno := ⟨20⟩
def EISDIR : Errno := ⟨21⟩
def EINVAL : Errno := ⟨22⟩
def ENAMETOOLONG : Errno := ⟨36⟩
def ENOPKG : Errno := ⟨65⟩
def EBADMSG : Errno := ⟨74⟩
def ENOKEY : Errno := ⟨126⟩
def EKEYREJECTED : Errno := ⟨129⟩

/-- The error number behind a code of either sign.  The one code without a 32-bit absolute value
becomes the largest code. -/
def ofRaw (code : Int32) : Errno :=
  if code = Int32.minValue then ⟨Int32.maxValue⟩ else ⟨code.abs⟩

def negated (e : Errno) : Int32 :=
  -e.code

def named : List (Errno × String) :=
  [(ENOENT, "ENOENT"), (EAGAIN, "EAGAIN"), (ENOMEM, "ENOMEM"), (EACCES, "EACCES"),
    (EEXIST, "EEXIST"), (ENOTDIR, "ENOTDIR"), (EINVAL, "EINVAL"), (ENOPKG, "ENOPKG"),
    (EBADMSG, "EBADMSG"), (ENOKEY, "ENOKEY"), (EKEYREJECTED, "EKEYREJECTED")]

def name? (e : Errno) : Option String :=
  named.lookup e

def describe (e : Errno) : String :=
  match e.name? with
  | some name => name ++ " (" ++ toString e.code.toInt ++ ")"
  | none => "errno " ++ toString e.code.toInt

end Errno

end TrustedKeyring
