/-
Writing JSON on one line.

Members come in the given order, with nothing between them but the commas.  A
floating-point number is written with the fewest digits that identify it, and
with a point or an exponent, so that it is not taken for an integer.
-/
import Demarcation.Binary64.Shortest
import Demarcation.Json.Numeral
import Demarcation.Json.Text

namespace Demarcation.Json

def writeFlag : Bool → List Char
  | true => ['t', 'r', 'u', 'e']
  | false => ['f', 'a', 'l', 's', 'e']

def writeNatural (n : Nat) : List Char := Nat.toDigits 10 n

def writeInteger (n : Int) : List Char :=
  if n < 0 then '-' :: writeNatural n.natAbs else writeNatural n.natAbs

/-- A decimal with the point among its digits or next to them, unless that takes
many zeros. -/
def writeDecimal (d : Decimal) : List Char :=
  let digits := writeNatural d.digits
  let point := digits.length + d.exponent
  if 0 ≤ d.exponent ∧ point ≤ 16 then
    digits ++ List.replicate d.exponent.toNat '0' ++ ['.', '0']
  else if 0 < point ∧ point ≤ 16 then
    digits.take point.toNat ++ '.' :: digits.drop point.toNat
  else if -5 < point ∧ point ≤ 0 then
    '0' :: '.' :: List.replicate (-point).toNat '0' ++ digits
  else
    let fraction := if digits.length = 1 then [] else '.' :: digits.drop 1
    digits.take 1 ++ fraction ++ 'e' :: writeInteger (point - 1)

def writeMagnitude (x : Binary64) : List Char :=
  if x = .zero then ['0', '.', '0'] else writeDecimal x.shortest

def Number.write : Number → List Char
  | .natural n => writeNatural n
  | .negative n => writeInteger n
  | .floating false magnitude => writeMagnitude magnitude
  | .floating true magnitude => '-' :: writeMagnitude magnitude

/-- The parts of an array or an object, with commas between them. -/
def writeParts (parts : List (List Char)) : List Char := List.intercalate [','] parts

/-- A member: its name and the text of its value. -/
def writeMember (member : String × List Char) : List Char :=
  quote member.1 ++ ':' :: member.2

/-- An object with the given members. -/
def writeObject (members : List (String × List Char)) : List Char :=
  '{' :: writeParts (members.map writeMember) ++ ['}']

/-- An array with the given elements. -/
def writeArray (elements : List (List Char)) : List Char := '[' :: writeParts elements ++ [']']

example : writeDecimal ⟨15, -1⟩ = "1.5".toList ∧ writeDecimal ⟨15, -8⟩ = "1.5e-7".toList := by
  decide +kernel
example : writeDecimal ⟨15, 3⟩ = "15000.0".toList ∧ writeDecimal ⟨5, -324⟩ = "5e-324".toList := by
  decide +kernel

end Demarcation.Json
