import Latchkey.Bytes

/-!
# Curve25519

Multiplication of points on the Montgomery curve `v² = u³ + 486662 u² + u` over the integers modulo
`2²⁵⁵ - 19`, of which only the coordinate `u` is carried along.
-/

namespace Latchkey.Curve25519

def p : Nat := (1 <<< 255) - 19

def add (a b : Nat) : Nat := (a + b) % p

def sub (a b : Nat) : Nat := (a + (p - b)) % p

def mul (a b : Nat) : Nat := a * b % p

/-- A power in the field. The exponent is read from its low `bits` bits. -/
def pow : (bits : Nat) → (base exponent : Nat) → Nat
  | 0, _, _ => 1
  | bits + 1, base, exponent =>
    let high := pow bits (mul base base) (exponent / 2)
    if exponent % 2 = 1 then mul base high else high

/-- The inverse in the field, where zero is its own inverse. -/
def inverse (a : Nat) : Nat := pow 255 a (p - 2)

/-- A multiple of a point and the multiple after it, as quotients `x / z`. -/
structure Rung where
  x : Nat
  z : Nat
  x' : Nat
  z' : Nat

namespace Rung

def bottom (u : Nat) : Rung := ⟨1, 0, u, 1⟩

def swap (r : Rung) : Rung := ⟨r.x', r.z', r.x, r.z⟩

/-- Doubles the first multiple and adds the two, whose difference is the point `u`. -/
def double (u : Nat) (r : Rung) : Rung :=
  let a := add r.x r.z
  let aa := mul a a
  let b := sub r.x r.z
  let bb := mul b b
  let e := sub aa bb
  let da := mul (sub r.x' r.z') a
  let cb := mul (add r.x' r.z') b
  let sum := add da cb
  let difference := sub da cb
  { x := mul aa bb
    z := mul e (add aa (mul 121665 e))
    x' := mul sum sum
    z' := mul u (mul difference difference) }

def up (u : Nat) (bit : Bool) (r : Rung) : Rung :=
  if bit then (r.swap.double u).swap else r.double u

end Rung

/-- Climbs from the highest of `bits` bits of the scalar down to the lowest. -/
def climb (u scalar : Nat) : (bits : Nat) → Rung → Rung
  | 0, r => r
  | bits + 1, r => climb u scalar bits (r.up u (scalar.testBit bits))

/-- The scalar of a secret: a multiple of eight whose highest bit is the one below the last. -/
def scalarOf (secret : Bytes) : Nat := Bytes.toNat secret / 8 % (1 <<< 251) * 8 + (1 <<< 254)

/-- The coordinate held by a public key, whose last bit does not count. -/
def coordinateOf (point : Bytes) : Nat := Bytes.toNat point % (1 <<< 255) % p

def multiply (secret point : Bytes) : Bytes :=
  let u := coordinateOf point
  let top := climb u (scalarOf secret) 255 (Rung.bottom u)
  Bytes.ofNat 32 (mul top.x (inverse top.z))

def basePoint : Bytes := Bytes.ofNat 32 9

@[simp] theorem length_multiply (secret point : Bytes) : (multiply secret point).length = 32 :=
  Bytes.length_ofNat ..

end Latchkey.Curve25519
