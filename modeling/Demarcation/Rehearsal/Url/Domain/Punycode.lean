/-
Punycode.

A label beyond ASCII can be written in ASCII: its ASCII characters come first, then
a hyphen if there are any, and then the places of the other characters, in the
order of their code points.  A place is told by how many possible ones lie between
it and the last place.  Such a number is written in base 36, lowest digit first,
and ends with the first digit below a threshold, which adapts to the numbers that
have been read.
-/

namespace Demarcation.Rehearsal.Url.Domain.Punycode

/-- The value of a digit.  Letters come before figures; capitals are none. -/
def digit? (c : Char) : Option Nat :=
  if 'a' ≤ c ∧ c ≤ 'z' then some (c.toNat - 'a'.toNat)
  else if '0' ≤ c ∧ c ≤ '9' then some (c.toNat - '0'.toNat + 26)
  else none

/-- The value from which on a digit at a place is not the last one. -/
def threshold (place bias : Nat) : Nat :=
  if place ≤ bias then 1 else if bias + 26 ≤ place then 26 else place - bias

/-- The sum of `sum` and the number at the front of a text, and the rest.  Numbers stay
below `2 ^ 32`. -/
def readNumber? (bias place weight sum : Nat) : List Char → Option (Nat × List Char)
  | [] => none
  | c :: rest =>
    match digit? c with
    | none => none
    | some d =>
      let weight' := weight * (36 - threshold place bias)
      if Nat.pow 2 32 ≤ sum + d * weight then none
      else if d < threshold place bias then some (sum + d * weight, rest)
      else if Nat.pow 2 32 ≤ weight' then none
      else readNumber? bias (place + 36) weight' (sum + d * weight) rest

theorem length_readNumber? {bias place weight sum : Nat} {cs : List Char} {n : Nat}
    {rest : List Char} (h : readNumber? bias place weight sum cs = some (n, rest)) :
    rest.length < cs.length := by
  induction cs generalizing place weight sum with
  | nil => simp [readNumber?] at h
  | cons c cs ih =>
    unfold readNumber? at h
    simp only at h
    split at h
    · simp at h
    · split at h
      · simp at h
      · split at h
        · simp only [Option.some.injEq, Prod.mk.injEq] at h
          simp [← h.2]
        · split at h
          · simp at h
          · exact Nat.lt_succ_of_lt (ih h)

/-- The bias for numbers of the size of `n`. -/
def settle (n steps : Nat) : Nat :=
  if 455 < n then settle (n / 35) (steps + 36) else steps + 36 * n / (n + 38)
termination_by n
decreasing_by omega

/-- The bias after a number, when there are `count` characters. -/
def adapt (n count : Nat) (first : Bool) : Nat :=
  let n := n / if first then 700 else 2
  settle (n + n / count) 0

/-- The characters read so far with those that the rest of a text puts between them.
`code` and `place` are the code point and the place of the last one. -/
def insertFrom (bias code place : Nat) (read : List Char) (cs : List Char) :
    Option (List Char) :=
  if cs = [] then some read
  else
    match h : readNumber? bias 36 1 place cs with
    | none => none
    | some (n, rest) =>
      have : rest.length < cs.length := length_readNumber? h
      let count := read.length + 1
      let code := code + n / count
      if code < 0xD800 ∨ 0xDFFF < code ∧ code < 0x110000 then
        insertFrom (adapt (n - place) count (place == 0)) code (n % count + 1)
          (read.insertIdx (n % count) (Char.ofNat code)) rest
      else none
termination_by cs.length

/-- The label that a text writes.  It is not all ASCII. -/
def decode? (cs : List Char) : Option (List Char) :=
  let places := (cs.reverse.takeWhile (· ≠ '-')).reverse
  let plain := cs.take (cs.length - places.length - 1)
  if places = [] ∨ plain.any (0x80 ≤ ·.toNat) then none
  else insertFrom 72 128 0 plain (if plain = [] then cs else places)

example : decode? "bcher-kva".toList = some "bücher".toList := by decide +kernel
example : decode? "mgbh0fb".toList = some "مثال".toList := by decide +kernel
example : decode? "0".toList = none ∧ decode? "-abc".toList = none := by decide +kernel

end Demarcation.Rehearsal.Url.Domain.Punycode
