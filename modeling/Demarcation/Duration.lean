/-
Spans of time, to the nanosecond, and the text in which they are reported.

A span is written in the largest unit that it fills, with as many decimals as
it needs and no trailing zero: `5s`, `1.5ms`, `999ns`, `0ns`.
-/

namespace Demarcation

/-- A span of time. -/
structure Duration where
  nanoseconds : Nat
deriving DecidableEq, Repr

namespace Duration

def ofSeconds (n : Nat) : Duration := ⟨n * 1000000000⟩

def ofMilliseconds (n : Nat) : Duration := ⟨n * 1000000⟩

/-- Whole seconds. -/
def seconds (d : Duration) : Nat := d.nanoseconds / 1000000000

/-- What is left beside the whole seconds, in nanoseconds. -/
def subsecond (d : Duration) : Nat := d.nanoseconds % 1000000000

/-- What remains of `d` after `spent`; nothing when `spent` is the longer one. -/
def remaining (d spent : Duration) : Duration := ⟨d.nanoseconds - spent.nanoseconds⟩

/-- The decimals of `part` in a unit that has `places` decimal places. -/
def decimals (places part : Nat) : List Char :=
  let digits := Nat.toDigits 10 part
  let padded := List.replicate (places - digits.length) '0' ++ digits
  (padded.reverse.dropWhile (· == '0')).reverse

/-- `count` in units of which each is `10 ^ places` nanoseconds. -/
def inUnit (places : Nat) (suffix : String) (count : Nat) : String :=
  let whole := toString (count / Nat.pow 10 places)
  match decimals places (count % Nat.pow 10 places) with
  | [] => whole ++ suffix
  | part => whole ++ "." ++ String.ofList part ++ suffix

/-- The span in the largest unit that it fills. -/
def text (d : Duration) : String :=
  if d.nanoseconds ≥ 1000000000 then inUnit 9 "s" d.nanoseconds
  else if d.nanoseconds ≥ 1000000 then inUnit 6 "ms" d.nanoseconds
  else if d.nanoseconds ≥ 1000 then inUnit 3 "µs" d.nanoseconds
  else inUnit 0 "ns" d.nanoseconds

example : (ofMilliseconds 1500).text = "1.5s" := by decide +kernel
example : (Duration.mk 1000).text = "1µs" := by decide +kernel
example : (Duration.mk 0).text = "0ns" := by decide +kernel
example : (Duration.mk 123456789).text = "123.456789ms" := by decide +kernel

theorem seconds_ofSeconds (n : Nat) : (ofSeconds n).seconds = n := by
  simp [seconds, ofSeconds]

end Duration

end Demarcation
