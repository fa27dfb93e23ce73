import TrustedKeyring.Bytes
import TrustedKeyring.Crypto.Modular

/-!
# Elliptic curves

The curves P-256 and P-384, `y² = x³ - 3x + b` over a prime field, with points in Jacobian
coordinates: `(x, y, z)` stands for `(x / z², y / z³)`, and `z = 0` for the point at infinity.
-/

namespace TrustedKeyring

inductive Curve where
  | p256
  | p384
deriving DecidableEq, Repr

namespace Curve

/-- The prime that the coordinates are residues of: 2²⁵⁶ - 2²²⁴ + 2¹⁹² + 2⁹⁶ - 1 and
2³⁸⁴ - 2¹²⁸ - 2⁹⁶ + 2³² - 1. -/
def prime : Curve → Nat
  | p256 => 0xffffffff00000001000000000000000000000000ffffffffffffffffffffffff
  | p384 =>
    0xfffffffffffffffffffffffffffffffffffffffffffffffffffffffffffffffeffffffff0000000000000000ffffffff

def constant : Curve → Nat
  | p256 => 0x5ac635d8aa3a93e7b3ebbd55769886bc651d06b0cc53b0f63bce3c3e27d2604b
  | p384 =>
    0xb3312fa7e23ee7e4988e056be3f82d19181d9c6efe8141120314088f5013875ac656398d8a2ed19d2a85c8edd3ec2aef

def order : Curve → Nat
  | p256 => 0xffffffff00000000ffffffffffffffffbce6faada7179e84f3b9cac2fc632551
  | p384 =>
    0xffffffffffffffffffffffffffffffffffffffffffffffffc7634d81f4372ddf581a0db248b0a77aecec196accc52973

def base : Curve → Nat × Nat
  | p256 =>
    (0x6b17d1f2e12c4247f8bce6e563a440f277037d812deb33a0f4a13945d898c296,
      0x4fe342e2fe1a7f9b8ee7eb4a7c0f9e162bce33576b315ececbb6406837bf51f5)
  | p384 =>
    (0xaa87ca22be8b05378eb1c71ef320ad746e1d3b628ba79b9859f741e082542a385502f25dbf55296c3a545e3872760ab7,
      0x3617de4a96262c6f5d9e98bf9292dc29f8f41dbd289a147ce9da3113b5f0b8c00a60b1ce1d7e819d7a431d7c90ea0e5f)

def width : Curve → Nat
  | p256 => 32
  | p384 => 48

def rightSide (curve : Curve) (x : Nat) : Nat :=
  let p := curve.prime
  Modular.sub p ((x * x % p * x + curve.constant) % p) (3 * x % p)

def contains (curve : Curve) (x y : Nat) : Bool :=
  y * y % curve.prime == curve.rightSide x

/-- The root of a square residue, if it is one.  Both primes are three modulo four. -/
def sqrt? (curve : Curve) (a : Nat) : Option Nat :=
  let root := Modular.pow curve.prime a ((curve.prime + 1) / 4)
  if root * root % curve.prime = a then some root else none

/-- The affine point that a byte string stands for: both coordinates after 4, or one coordinate
after the parity of the other plus 2; both coordinates may also stand after the parity plus 6. -/
def point? (curve : Curve) (octets : Bytes) : Option (Nat × Nat) :=
  match octets with
  | [] => none
  | form :: coordinates =>
    let x := Bytes.toNat (coordinates.take curve.width)
    let y := Bytes.toNat (coordinates.drop curve.width)
    if form = 4 ∨ form = 6 ∨ form = 7 then
      if coordinates.length = 2 * curve.width ∧ x < curve.prime ∧ y < curve.prime
          ∧ curve.contains x y ∧ (form = 4 ∨ y % 2 = form.toNat % 2) then some (x, y)
      else none
    else if form = 2 ∨ form = 3 then
      if coordinates.length = curve.width ∧ x < curve.prime then
        match curve.sqrt? (curve.rightSide x) with
        | none => none
        | some root =>
          if root % 2 = form.toNat % 2 then some (x, root)
          else if root = 0 then none
          else some (x, curve.prime - root)
      else none
    else none

structure Jacobian where
  x : Nat
  y : Nat
  z : Nat
deriving DecidableEq, Repr

namespace Jacobian

def infinity : Jacobian := ⟨1, 1, 0⟩

def ofAffine (point : Nat × Nat) : Jacobian := ⟨point.1, point.2, 1⟩

def double (curve : Curve) (a : Jacobian) : Jacobian :=
  if a.y = 0 ∨ a.z = 0 then infinity
  else
    let p := curve.prime
    let yy := a.y * a.y % p
    let zz := a.z * a.z % p
    let s := 4 * a.x * yy % p
    let m := 3 * (Modular.sub p a.x zz * ((a.x + zz) % p) % p) % p
    let x := Modular.sub p (m * m % p) (2 * s % p)
    let y := Modular.sub p (m * Modular.sub p s x % p) (8 * (yy * yy % p) % p)
    ⟨x, y, 2 * a.y * a.z % p⟩

def add (curve : Curve) (a b : Jacobian) : Jacobian :=
  if a.z = 0 then b
  else if b.z = 0 then a
  else
    let p := curve.prime
    let zza := a.z * a.z % p
    let zzb := b.z * b.z % p
    let ua := a.x * zzb % p
    let ub := b.x * zza % p
    let sa := a.y * (zzb * b.z % p) % p
    let sb := b.y * (zza * a.z % p) % p
    -- the points have one first coordinate: they are equal or opposite
    if ua = ub then if sa = sb then double curve a else infinity
    else
      let h := Modular.sub p ub ua
      let r := Modular.sub p sb sa
      let hh := h * h % p
      let hhh := h * hh % p
      let v := ua * hh % p
      let x := Modular.sub p (Modular.sub p (r * r % p) hhh) (2 * v % p)
      let y := Modular.sub p (r * Modular.sub p v x % p) (sa * hhh % p)
      ⟨x, y, h * (a.z * b.z % p) % p⟩

def mulFrom (curve : Curve) (point accumulator : Jacobian) (scalar : Nat) : Jacobian :=
  if h : scalar = 0 then accumulator
  else
    mulFrom curve (double curve point)
      (if scalar % 2 = 1 then add curve accumulator point else accumulator) (scalar / 2)
termination_by scalar
decreasing_by exact Nat.div_lt_self (Nat.pos_of_ne_zero h) (by decide)

def mul (curve : Curve) (point : Jacobian) (scalar : Nat) : Jacobian :=
  mulFrom curve point infinity scalar

def affineX? (curve : Curve) (a : Jacobian) : Option Nat :=
  if a.z = 0 then none
  else
    let p := curve.prime
    some (a.x * Modular.inverse p (a.z * a.z % p) % p)

end Jacobian

end Curve

end TrustedKeyring
