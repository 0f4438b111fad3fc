/-
Decimal digits, and the natural numbers that they write.

`scanDigits` cuts the digits off the front of a text.  `word?` reads a whole
text as a number that fits a machine word: a plus sign may stand in front of
the digits, and nothing else may stand anywhere.
-/

namespace Demarcation.Text

/-- The value of a decimal digit. -/
def digit? (c : Char) : Option Nat :=
  if '0' ≤ c ∧ c ≤ '9' then some (c.toNat - '0'.toNat) else none

/-- The digits at the front of a text, and the rest. -/
def scanDigits : List Char → List Nat × List Char
  | [] => ([], [])
  | c :: rest =>
    match digit? c with
    | none => ([], c :: rest)
    | some d => ((d :: (scanDigits rest).1), (scanDigits rest).2)

/-- The number that a list of decimal digits writes. -/
def ofDigits (ds : List Nat) : Nat := ds.foldl (fun n d => n * 10 + d) 0

/-- A text without the plus sign that it may start with. -/
def dropPlus : List Char → List Char
  | '+' :: rest => rest
  | cs => cs

/-- The number below `2 ^ bits` that starts a text. -/
def wordAtFront? (bits : Nat) (cs : List Char) : Option Nat :=
  match scanDigits (dropPlus cs) with
  | ([], _) => none
  | (ds, _) => if ofDigits ds < Nat.pow 2 bits then some (ofDigits ds) else none

/-- The number below `2 ^ bits` that a whole text writes. -/
def word? (bits : Nat) (cs : List Char) : Option Nat :=
  if (scanDigits (dropPlus cs)).2 = [] then wordAtFront? bits cs else none

example : word? 16 "+0080".toList = some 80 ∧ word? 16 "65536".toList = none := by decide +kernel
example : word? 16 "8_0".toList = none ∧ wordAtFront? 16 "8_0".toList = some 8 := by decide +kernel

end Demarcation.Text
