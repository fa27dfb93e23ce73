/-!
# Hash algorithms

The hash algorithms a certificate header can declare, numbered as the header stores them.
-/

namespace TrustedKeyring

inductive HashAlgorithm where
  | md4 | md5 | sha1 | ripemd160 | sha256 | sha384 | sha512 | sha224
  | ripemd128 | ripemd256 | ripemd320 | whirlpool256 | whirlpool384 | whirlpool512
  | tiger128 | tiger160 | tiger192 | sm3 | streebog256 | streebog512
deriving DecidableEq, Repr

namespace HashAlgorithm

def all : List HashAlgorithm :=
  [md4, md5, sha1, ripemd160, sha256, sha384, sha512, sha224, ripemd128, ripemd256, ripemd320,
    whirlpool256, whirlpool384, whirlpool512, tiger128, tiger160, tiger192, sm3, streebog256,
    streebog512]

def bound : UInt8 := 20

def toByte : HashAlgorithm → UInt8
  | md4 => 0
  | md5 => 1
  | sha1 => 2
  | ripemd160 => 3
  | sha256 => 4
  | sha384 => 5
  | sha512 => 6
  | sha224 => 7
  | ripemd128 => 8
  | ripemd256 => 9
  | ripemd320 => 10
  | whirlpool256 => 11
  | whirlpool384 => 12
  | whirlpool512 => 13
  | tiger128 => 14
  | tiger160 => 15
  | tiger192 => 16
  | sm3 => 17
  | streebog256 => 18
  | streebog512 => 19

def ofByte? (number : UInt8) : Option HashAlgorithm :=
  all[number.toNat]?

def name : HashAlgorithm → String
  | md4 => "md4"
  | md5 => "md5"
  | sha1 => "sha1"
  | ripemd160 => "rmd160"
  | sha256 => "sha256"
  | sha384 => "sha384"
  | sha512 => "sha512"
  | sha224 => "sha224"
  | ripemd128 => "rmd128"
  | ripemd256 => "rmd256"
  | ripemd320 => "rmd320"
  | whirlpool256 => "wp256"
  | whirlpool384 => "wp384"
  | whirlpool512 => "wp512"
  | tiger128 => "tgr128"
  | tiger160 => "tgr160"
  | tiger192 => "tgr192"
  | sm3 => "sm3"
  | streebog256 => "streebog256"
  | streebog512 => "streebog512"

def tag : HashAlgorithm → String
  | md4 => "Md4"
  | md5 => "Md5"
  | sha1 => "Sha1"
  | ripemd160 => "RipeMd160"
  | sha256 => "Sha256"
  | sha384 => "Sha384"
  | sha512 => "Sha512"
  | sha224 => "Sha224"
  | ripemd128 => "RipeMd128"
  | ripemd256 => "RipeMd256"
  | ripemd320 => "RipeMd320"
  | whirlpool256 => "Wp256"
  | whirlpool384 => "Wp384"
  | whirlpool512 => "Wp512"
  | tiger128 => "Tgr128"
  | tiger160 => "Tgr160"
  | tiger192 => "Tgr192"
  | sm3 => "Sm3_256"
  | streebog256 => "Streebog256"
  | streebog512 => "Streebog512"

def ofTag? (tag : String) : Option HashAlgorithm :=
  all.find? fun algorithm => algorithm.tag == tag

def digestSize : HashAlgorithm → Nat
  | md4 | md5 | ripemd128 | tiger128 => 16
  | sha1 | ripemd160 | tiger160 => 20
  | tiger192 => 24
  | sha224 => 28
  | sha256 | ripemd256 | whirlpool256 | sm3 | streebog256 => 32
  | ripemd320 => 40
  | sha384 | whirlpool384 => 48
  | sha512 | whirlpool512 | streebog512 => 64

def isKnown (number : UInt8) : Bool :=
  number < bound

theorem ofByte?_toByte (algorithm : HashAlgorithm) :
    ofByte? algorithm.toByte = some algorithm := by
  cases algorithm <;> rfl

theorem ofTag?_tag (algorithm : HashAlgorithm) : ofTag? algorithm.tag = some algorithm := by
  cases algorithm <;> decide

theorem ofByte?_isSome_iff (number : UInt8) : (ofByte? number).isSome ↔ isKnown number := by
  have size : all.length = bound.toNat := rfl
  rw [ofByte?, Option.isSome_iff_ne_none, ne_eq, List.getElem?_eq_none_iff, Nat.not_le, size,
    ← UInt8.lt_iff_toNat_lt]
  simp [isKnown]

end HashAlgorithm

end TrustedKeyring
