/-
Number literals of JSON texts.

`Numeral.scan` cuts a literal into its digits; a literal that nobody looks at
is only cut.  `Numeral.value?` says what the literal stands for: an integer
that fits 64 bits is exact, everything else is a floating-point number, and a
magnitude beyond the largest double stands for nothing.

The magnitude of such a number is computed in two roundings: the leading digits
that fit a 64-bit significand are kept, and the significand and the power of ten
are rounded to doubles before one is multiplied or divided by the other.
-/
import Demarcation.Binary64
import Demarcation.Text.Digit

namespace Demarcation.Json

open Text (scanDigits ofDigits)

/-- A number literal: its digits, most significant first, and its exponent. -/
structure Numeral where
  negative : Bool
  whole : List Nat
  fraction : List Nat
  /-- Whether the exponent is negative, and its digits. -/
  exponent : Option (Bool × List Nat)
deriving DecidableEq

/-- What a number literal stands for. -/
inductive Number where
  | natural (n : Nat)
  | negative (n : Int)
  | floating (negative : Bool) (magnitude : Binary64)
deriving DecidableEq

namespace Numeral

/-- The digits before the point: a zero, or digits that start with none. -/
def scanWhole (cs : List Char) : Option (List Nat × List Char) :=
  match scanDigits cs with
  | ([], _) => none
  | (0 :: _ :: _, _) => none
  | (ds, rest) => some (ds, rest)

/-- The digits after the point, if there is one. -/
def scanFraction : List Char → Option (List Nat × List Char)
  | '.' :: rest =>
    match scanDigits rest with
    | ([], _) => none
    | (ds, rest) => some (ds, rest)
  | cs => some ([], cs)

/-- The digits of an exponent whose mark and sign have been read. -/
def scanExponentDigits (negative : Bool) (cs : List Char) :
    Option (Option (Bool × List Nat) × List Char) :=
  match scanDigits cs with
  | ([], _) => none
  | (ds, rest) => some (some (negative, ds), rest)

/-- The exponent, if there is one. -/
def scanExponent : List Char → Option (Option (Bool × List Nat) × List Char)
  | c :: rest =>
    if c = 'e' ∨ c = 'E' then
      match rest with
      | '+' :: rest => scanExponentDigits false rest
      | '-' :: rest => scanExponentDigits true rest
      | rest => scanExponentDigits false rest
    else some (none, c :: rest)
  | [] => some (none, [])

/-- The literal after its sign. -/
def scanMagnitude (negative : Bool) (cs : List Char) : Option (Numeral × List Char) := do
  let (whole, cs) ← scanWhole cs
  let (fraction, cs) ← scanFraction cs
  let (exponent, cs) ← scanExponent cs
  return (⟨negative, whole, fraction, exponent⟩, cs)

/-- The number literal at the front of a text, and the rest. -/
def scan : List Char → Option (Numeral × List Char)
  | '-' :: rest => scanMagnitude true rest
  | cs => scanMagnitude false cs

/-! ## Magnitude -/

/-- A significand and the power of ten that it is to be multiplied by. -/
structure Scaled where
  significand : Nat
  power : Int

/-- Whether one more digit fits a 64-bit significand. -/
def Scaled.fits (s : Scaled) (d : Nat) : Bool := s.significand * 10 + d < Nat.pow 2 64

/-- Digits before the point: one that does not fit, and all after it, only
raise the power. -/
def Scaled.pushWhole (s : Scaled) : List Nat → Scaled
  | [] => s
  | d :: ds =>
    if s.fits d then Scaled.pushWhole ⟨s.significand * 10 + d, s.power⟩ ds
    else ⟨s.significand, s.power + (ds.length + 1)⟩

/-- Digits after the point: one that does not fit, and all after it, are lost. -/
def Scaled.pushFraction (s : Scaled) : List Nat → Scaled
  | [] => s
  | d :: ds =>
    if s.fits d then Scaled.pushFraction ⟨s.significand * 10 + d, s.power - 1⟩ ds
    else s

/-- The powers of ten up to `10 ^ 308`, which are the ones that doubles reach. -/
def powerOfTen? (n : Nat) : Option Binary64 :=
  if n ≤ 308 then Binary64.ofNat? (Nat.pow 10 n) else none

/-- The significand times its power of ten.  There is none above the largest
double; far below the least one, where two powers of ten are needed, the last
step goes down to zero. -/
def Scaled.magnitude? (s : Scaled) : Option Binary64 := do
  let significand ← Binary64.ofNat? s.significand
  if s.significand = 0 then return .zero
  if 0 ≤ s.power then
    significand.mul? (← powerOfTen? s.power.toNat)
  else
    let places := (-s.power).toNat
    if places ≤ 308 then
      significand.div? (← powerOfTen? places)
    else if places ≤ 616 then
      (← significand.div? (← powerOfTen? 308)).div? (← powerOfTen? (places - 308))
    else
      return .zero

/-- The literal as a significand and a power of ten. -/
def scaled (n : Numeral) : Scaled :=
  let s := ((Scaled.mk 0 0).pushWhole n.whole).pushFraction n.fraction
  match n.exponent with
  | none => s
  | some (false, ds) => ⟨s.significand, s.power + ofDigits ds⟩
  | some (true, ds) => ⟨s.significand, s.power - ofDigits ds⟩

/-- What the literal stands for. -/
def value? (n : Numeral) : Option Number :=
  let magnitude := ofDigits n.whole
  if n.fraction = [] ∧ n.exponent = none ∧ !n.negative ∧ magnitude < Nat.pow 2 64 then
    some (.natural magnitude)
  else if n.fraction = [] ∧ n.exponent = none ∧ n.negative ∧ 0 < magnitude ∧
      magnitude ≤ Nat.pow 2 63 then
    some (.negative (-magnitude))
  else n.scaled.magnitude?.map (.floating n.negative)

end Numeral

/-- What the number literal at the front of a text stands for, and the rest. -/
def readNumber (cs : List Char) : Option (Number × List Char) := do
  let (numeral, rest) ← Numeral.scan cs
  let value ← numeral.value?
  return (value, rest)

end Demarcation.Json
