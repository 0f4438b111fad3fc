/-
Binary floating-point numbers of 64 bits.

A `Binary64` is a magnitude: a significand of at most 53 binary digits and a
power of two.  The sign of a number, and what lies beyond the largest magnitude,
are left to those who use it.  Every operation is the exact result, rounded
once: to the nearest magnitude, and between two equally near ones to that with
the even significand.
-/

namespace Demarcation

/-- The magnitude `significand · 2 ^ (power - 1074)`. -/
structure Binary64 where
  significand : Nat
  power : Nat
  significand_lt : significand < Nat.pow 2 53
  /-- A significand is short only where no smaller power is left. -/
  normal : Nat.pow 2 52 ≤ significand ∨ power = 0
  power_le : power ≤ 2045
deriving DecidableEq

namespace Binary64

/-- The magnitude with these parts, if there is one. -/
def ofParts? (significand power : Nat) : Option Binary64 :=
  if h : significand < Nat.pow 2 53 ∧ (Nat.pow 2 52 ≤ significand ∨ power = 0) ∧
      power ≤ 2045 then
    some ⟨significand, power, h.1, h.2.1, h.2.2⟩
  else none

def zero : Binary64 := ⟨0, 0, by decide, .inr rfl, by decide⟩

/-- The magnitude as a multiple of the least positive one, `2 ^ -1074`. -/
def scaled (x : Binary64) : Nat := x.significand * Nat.pow 2 x.power

/-- The whole number nearest to `n / d`; of two equally near ones, the even one. -/
def nearest (n d : Nat) : Nat :=
  let low := n / d
  let rest := n % d
  if d < 2 * rest ∨ d = 2 * rest ∧ low % 2 = 1 then low + 1 else low

/-- The magnitude nearest to `n / d`.  There is none if that is too large. -/
def ofRatio? (n d : Nat) : Option Binary64 :=
  let units := n * Nat.pow 2 1074
  let power := (units / d).log2 - 52
  let significand := nearest units (d * Nat.pow 2 power)
  if significand = Nat.pow 2 53 then ofParts? (Nat.pow 2 52) (power + 1)
  else ofParts? significand power

/-- The magnitude nearest to a natural number. -/
def ofNat? (n : Nat) : Option Binary64 := ofRatio? n 1

/-- The product, unless it is too large. -/
def mul? (x y : Binary64) : Option Binary64 := ofRatio? (x.scaled * y.scaled) (Nat.pow 2 2148)

/-- The quotient by a magnitude other than zero, unless it is too large. -/
def div? (x y : Binary64) : Option Binary64 := ofRatio? x.scaled y.scaled

/-- What is rounded to a whole number is off by half at most. -/
theorem nearest_near (n d : Nat) (hd : 0 < d) :
    2 * (nearest n d * d) ≤ 2 * n + d ∧ 2 * n ≤ 2 * (nearest n d * d) + d := by
  have whole : d * (n / d) + n % d = n := Nat.div_add_mod n d
  have small : n % d < d := Nat.mod_lt n hd
  unfold nearest
  simp only
  generalize n / d = q at *
  generalize n % d = r at *
  split
  · rw [Nat.add_mul, Nat.one_mul, Nat.mul_comm q d]
    omega
  · rw [Nat.mul_comm q d]
    omega

example : (ofNat? (2 ^ 53 + 1)).map scaled = some (2 ^ 53 * 2 ^ 1074) := by decide +kernel
example : ofNat? (2 ^ 1024 - 2 ^ 970) = none := by decide +kernel
example : (ofRatio? 1 (2 ^ 1075)).map scaled = some 0 := by decide +kernel

end Binary64

end Demarcation
