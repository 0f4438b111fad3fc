/-
The shortest decimals of binary floating-point numbers.

The numbers that round to a magnitude form an interval around it, whose ends
belong to it if its significand is even.  `shortest` is the decimal with the
fewest digits in that interval, of several such the one nearest to the
magnitude, and of two equally near ones the one with an even last digit.  On the
grid of the multiples of a power of ten only the two neighbours of the magnitude
need to be tried: if any multiple lies in the interval, one of these does.
-/
import Demarcation.Binary64

namespace Demarcation

/-- The number `digits · 10 ^ exponent`. -/
structure Decimal where
  digits : Nat
  exponent : Int
deriving DecidableEq

/-- The order of a decimal and of `units · 2 ^ -1076`. -/
def Decimal.compareUnits (d : Decimal) (units : Nat) : Ordering :=
  compare (d.digits * Nat.pow 10 d.exponent.toNat * Nat.pow 2 1076)
    (units * Nat.pow 10 (-d.exponent).toNat)

/-- Of two decimals the one that is `good`.  If both are, `first` says which one to
take. -/
def Decimal.choose? (good : Decimal → Bool) (first : Bool) (c d : Decimal) : Option Decimal :=
  match good c, good d with
  | false, false => none
  | true, false => some c
  | false, true => some d
  | true, true => some (if first then c else d)

theorem Decimal.good_of_choose? {good : Decimal → Bool} {first : Bool} {c d e : Decimal}
    (h : choose? good first c d = some e) : good e = true := by
  unfold choose? at h
  split at h
  · simp at h
  · next hc _ => exact Option.some.inj h ▸ hc
  · next _ hd => exact Option.some.inj h ▸ hd
  · next hc hd =>
    rw [← Option.some.inj h]
    cases first
    · exact hd
    · exact hc

namespace Binary64

variable (x : Binary64)

/-- The lower end of the interval, in units of `2 ^ -1076`.  Just below a power of
two the magnitudes are twice as dense as just above it. -/
def lowerEnd : Nat :=
  if x.significand = Nat.pow 2 52 ∧ 0 < x.power then 4 * x.scaled - Nat.pow 2 x.power
  else 4 * x.scaled - 2 * Nat.pow 2 x.power

/-- The upper end of the interval, in units of `2 ^ -1076`. -/
def upperEnd : Nat := 4 * x.scaled + 2 * Nat.pow 2 x.power

/-- Whether a decimal rounds to the magnitude. -/
def isNearestTo (d : Decimal) : Bool :=
  let closed := x.significand % 2 == 0
  let lower := d.compareUnits x.lowerEnd
  let upper := d.compareUnits x.upperEnd
  (lower == .gt || closed && lower == .eq) && (upper == .lt || closed && upper == .eq)

/-- The multiple of `10 ^ exponent` that rounds to the magnitude, if there is one;
of two, the nearer one, and of two equally near ones the even one. -/
def onGrid? (exponent : Int) : Option Decimal :=
  let n := x.scaled * Nat.pow 10 (-exponent).toNat
  let d := Nat.pow 2 1074 * Nat.pow 10 exponent.toNat
  Decimal.choose? x.isNearestTo (nearest n d = n / d) ⟨n / d, exponent⟩ ⟨n / d + 1, exponent⟩

/-- What is found on a grid rounds to the magnitude. -/
theorem isNearestTo_of_onGrid? {exponent : Int} {d : Decimal} (h : x.onGrid? exponent = some d) :
    x.isNearestTo d = true :=
  Decimal.good_of_choose? h

/-- No power of ten above `10 ^ topExponent` is needed to write the magnitude. -/
def topExponent : Int := ((x.scaled.log2 : Int) - 1074) * 30103 / 100000 + 1

/-- The shortest decimal of a magnitude other than zero.  Seventeen digits are
enough for every magnitude; its exact value stands at the end of the search. -/
def shortest : Decimal :=
  ((List.range 20).findSome? fun (i : Nat) => x.onGrid? (x.topExponent - i)).getD
    ⟨x.scaled * Nat.pow 5 1074, -1074⟩

example : (ofRatio? 1 10).map shortest = some ⟨1, -1⟩ := by decide +kernel
example : (ofParts? 1 0).map shortest = some ⟨5, -324⟩ := by decide +kernel
example : (ofRatio? 1 (2 ^ 25)).map shortest = some ⟨29802322387695312, -24⟩ := by decide +kernel
example : (ofNat? (10 ^ 23)).map shortest = some ⟨1, 23⟩ := by decide +kernel

end Binary64

end Demarcation
