import TrustedKeyring.Asn1.Writer
import TrustedKeyring.Crypto.Curve

/-!
# ECDSA signatures

A signature is a sequence of two numbers in its one written form.  The digest counts as a number,
cut to the length of the curve's order.
-/

namespace TrustedKeyring.Ecdsa

def encode (r s : Nat) : Bytes :=
  Asn1.writeSequence [Asn1.writeNatural r, Asn1.writeNatural s]

/-- Reads the two numbers; the signature must be just as `encode` writes it. -/
def decode? (signature : Bytes) : Option (Nat × Nat) :=
  match Asn1.readElement signature with
  | none => none
  | some (outer, _) =>
    match outer.sequence? with
    | some [r, s] =>
      let r := Bytes.toNat r.content
      let s := Bytes.toNat s.content
      -- what follows the sequence, or any longer form of a number, would not be written so
      if encode r s = signature then some (r, s) else none
    | _ => none

def verify (curve : Curve) (point : Nat × Nat) (digest signature : Bytes) : Bool :=
  match decode? signature with
  | none => false
  | some (r, s) =>
    let n := curve.order
    if r = 0 ∨ n ≤ r ∨ s = 0 ∨ n ≤ s then false
    else
      -- the order has as many bits as a coordinate, so the digest is cut to whole octets
      let e := Bytes.toNat (digest.take curve.width)
      let w := Modular.inverse n s
      let sum :=
        Curve.Jacobian.add curve
          (Curve.Jacobian.mul curve (.ofAffine curve.base) (e * w % n))
          (Curve.Jacobian.mul curve (.ofAffine point) (r * w % n))
      match sum.affineX? curve with
      | none => false
      | some x => x % n = r

end TrustedKeyring.Ecdsa
