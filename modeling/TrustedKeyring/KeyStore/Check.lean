import TrustedKeyring.KeyStore.Add

/-!
# Checking signatures with a key store

The signature primitive that takes its keys from a key store.  Its code is zero for a signature
that holds, and the negative of an error number otherwise.
-/

namespace TrustedKeyring

def HashAlgorithm.isCheckable : HashAlgorithm → Bool
  | .md5 | .sha1 | .ripemd160 | .sha224 | .sha256 | .sha384 | .sha512 => true
  | _ => false

namespace KeyStore

/-- The code for a signature.  The query's algorithm and signature go before those of the
certificate. -/
def check (crypto : Crypto) (store : KeyStore) (handle : Handle)
    (query : SignatureQuery) (certificate : Certificate) (header : Header) : Int32 :=
  match store.publicKey? handle with
  | none => Errno.ENOKEY.negated
  | some key =>
    match query.algorithm.or header.algorithm? with
    | none => Errno.ENOPKG.negated
    | some algorithm =>
      if !algorithm.isCheckable then Errno.ENOPKG.negated
      else
        match query.declared? with
        | none => Errno.EBADMSG.negated
        | some digest =>
          if digest.length ≠ algorithm.digestSize then Errno.EBADMSG.negated
          else
            let signature :=
              if query.signature.isEmpty then certificate.signature
              else query.signature
            -- a question without an answer is a rejection as well
            if crypto.verify key algorithm digest signature = some true then 0
            else Errno.EKEYREJECTED.negated

def primitive (crypto : Crypto) : SignaturePrimitive KeyStore where
  check handle query certificate header store :=
    (.ok (store.check crypto handle query certificate header), store)

end KeyStore

end TrustedKeyring
