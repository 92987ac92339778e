/-
This file holds the group in which keys live: the points of the curve `y² = x³ + 7` over the
integers modulo a prime, whose number is another prime. Sums are computed in coordinates that need
no division, and turned back at the end.
-/

import WalletBridge.Text.Bytes

namespace WalletBridge.Secp256k1

/-- The prime of the coordinates. -/
def fieldPrime : Nat := 0xFFFFFFFFFFFFFFFFFFFFFFFFFFFFFFFFFFFFFFFFFFFFFFFFFFFFFFFEFFFFFC2F

/-- The number of points. -/
def groupOrder : Nat := 0xFFFFFFFFFFFFFFFFFFFFFFFFFFFFFFFEBAAEDCE6AF48A03BBFD25E8CD0364141

/-! ### Coordinates -/

/-- The power of a number modulo another, by squaring from the lowest bit of the exponent up. -/
def powMod (modulus : Nat) : Nat → Nat → Nat → Nat → Nat
  | 0, _, _, result => result
  | bits + 1, base, exponent, result =>
    powMod modulus bits (base * base % modulus) (exponent / 2)
      (if exponent % 2 = 1 then result * base % modulus else result)

/-- The power of a coordinate, for exponents of 256 bits. -/
def power (base exponent : Nat) : Nat := powMod fieldPrime 256 base exponent 1

/-- The difference of two coordinates. -/
def minus (left right : Nat) : Nat := (left + fieldPrime - right) % fieldPrime

/-- The coordinate with which another one makes one. -/
def inverse (value : Nat) : Nat := power value (fieldPrime - 2)

/-- A coordinate whose square is this one, if there is one. -/
def root? (value : Nat) : Option Nat :=
  let root := power value ((fieldPrime + 1) / 4)
  if root * root % fieldPrime = value % fieldPrime then some root else none

/-! ### Points -/

/-- A point other than the neutral one. -/
structure Point where
  x : Nat
  y : Nat
  deriving Repr, DecidableEq, Inhabited

/-- The point that generates the group. -/
def generator : Point :=
  ⟨0x79BE667EF9DCBBAC55A06295CE870B07029BFCDB2DCE28D959F2815B16F81798,
   0x483ADA7726A3C4655DA4FBFC0E1108A8FD17B448A68554199C47D08FFB10D4B8⟩

/-- Whether a point lies on the curve. -/
def Point.isOnCurve (point : Point) : Bool :=
  point.y * point.y % fieldPrime = (point.x * point.x * point.x + 7) % fieldPrime

/-- A point with the denominator of its coordinates: `(x / z², y / z³)`. A zero denominator stands
for the neutral point. -/
structure Scaled where
  x : Nat
  y : Nat
  z : Nat

namespace Scaled

/-- The neutral point. -/
def neutral : Scaled := ⟨1, 1, 0⟩

/-- A point as it is. -/
def ofPoint (point : Point) : Scaled := ⟨point.x, point.y, 1⟩

/-- The point, if it is not the neutral one. -/
def toPoint? (point : Scaled) : Option Point :=
  if point.z = 0 then none
  else
    let scale := inverse point.z
    let square := scale * scale % fieldPrime
    some ⟨point.x * square % fieldPrime, point.y * (square * scale % fieldPrime) % fieldPrime⟩

/-- Twice a point. -/
def double (point : Scaled) : Scaled :=
  if point.z = 0 ∨ point.y = 0 then neutral
  else
    let square := point.y * point.y % fieldPrime
    let middle := 4 * point.x * square % fieldPrime
    let slope := 3 * point.x * point.x % fieldPrime
    let x := minus (slope * slope % fieldPrime) (2 * middle % fieldPrime)
    let y := minus (slope * minus middle x % fieldPrime) (8 * square * square % fieldPrime)
    ⟨x, y, 2 * point.y * point.z % fieldPrime⟩

/-- The sum of two points. -/
def add (left right : Scaled) : Scaled :=
  if left.z = 0 then right
  else if right.z = 0 then left
  else
    let leftSquare := left.z * left.z % fieldPrime
    let rightSquare := right.z * right.z % fieldPrime
    let leftX := left.x * rightSquare % fieldPrime
    let rightX := right.x * leftSquare % fieldPrime
    let leftY := left.y * (rightSquare * right.z % fieldPrime) % fieldPrime
    let rightY := right.y * (leftSquare * left.z % fieldPrime) % fieldPrime
    if leftX = rightX then
      if leftY = rightY then double left else neutral
    else
      let width := minus rightX leftX
      let height := minus rightY leftY
      let square := width * width % fieldPrime
      let cube := square * width % fieldPrime
      let middle := leftX * square % fieldPrime
      let x := minus (minus (height * height % fieldPrime) cube) (2 * middle % fieldPrime)
      let y := minus (height * minus middle x % fieldPrime) (leftY * cube % fieldPrime)
      ⟨x, y, left.z * right.z % fieldPrime * width % fieldPrime⟩

/-- A multiple of a point, from the lowest bit of the factor up. -/
def timesFrom : Nat → Nat → Scaled → Scaled → Scaled
  | 0, _, _, sum => sum
  | bits + 1, factor, point, sum =>
    timesFrom bits (factor / 2) point.double (if factor % 2 = 1 then sum.add point else sum)

/-- A multiple of a point, for factors of 256 bits. -/
def times (factor : Nat) (point : Scaled) : Scaled := timesFrom 256 factor point neutral

end Scaled

namespace Point

/-- The multiple of the generator that belongs to a secret number. -/
def ofSecret (secret : Nat) : Option Point :=
  ((Scaled.ofPoint generator).times secret).toPoint?

/-- A point moved by a multiple of the generator. -/
def tweak (point : Point) (amount : Nat) : Option Point :=
  ((Scaled.ofPoint point).add ((Scaled.ofPoint generator).times amount)).toPoint?

/-- The point with an abscissa and a parity of the ordinate, if there is one. -/
def lift? (x : Nat) (odd : Bool) : Option Point :=
  if x < fieldPrime then
    (root? ((x * x * x + 7) % fieldPrime)).map fun y =>
      ⟨x, if (y % 2 = 1) = (odd = true) then y else fieldPrime - y⟩
  else none

/-- Whether the ordinate is odd. -/
def isOdd (point : Point) : Bool := point.y % 2 = 1

/-! ### Octets -/

/-- The 32 octets of the abscissa. -/
def abscissa (point : Point) : Bytes := Bytes.bigEndian 32 point.x

/-- The 33 octets of the parity and the abscissa. -/
def compressed (point : Point) : Bytes := (if point.isOdd then 3 else 2) :: point.abscissa

/-- The 65 octets of both coordinates. -/
def uncompressed (point : Point) : Bytes := 4 :: point.abscissa ++ Bytes.bigEndian 32 point.y

/-- The point that 32 octets stand for: the one with an even ordinate. -/
def ofAbscissa? (octets : Bytes) : Option Point :=
  if octets.length = 32 then lift? (Bytes.ofBigEndian octets) false else none

/-- The point that 33 or 65 octets stand for. -/
def ofBytes? (octets : Bytes) : Option Point :=
  match octets with
  | lead :: rest =>
    if rest.length = 32 then
      if lead = 2 then lift? (Bytes.ofBigEndian rest) false
      else if lead = 3 then lift? (Bytes.ofBigEndian rest) true
      else none
    else if rest.length = 64 ∧ lead = 4 then
      let point : Point :=
        ⟨Bytes.ofBigEndian (rest.take 32), Bytes.ofBigEndian (rest.drop 32)⟩
      if point.x < fieldPrime ∧ point.y < fieldPrime ∧ point.isOnCurve then some point else none
    else none
  | [] => none

end Point

/-- Whether a number can be a secret. -/
def isSecret (secret : Nat) : Bool := 0 < secret && secret < groupOrder

end WalletBridge.Secp256k1
