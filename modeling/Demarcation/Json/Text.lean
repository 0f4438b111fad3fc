/-
String literals of JSON texts.

A literal is read in two steps.  `StringUnit.scan` cuts what follows the
opening quote into units up to the closing one: characters and `\u` codes.
`StringUnit.text?` then joins the codes to characters, and has no text for half
a surrogate pair.  A string that nobody looks at is only cut, so that a stray
half does no harm there.

`quote` writes a literal: quotes, backslashes and control characters are
escaped, everything else is written as it is.
-/
import Demarcation.Text.Hex

namespace Demarcation.Json

open Text (hexDigit? hexDigit)

/-- One unit of a string literal. -/
inductive StringUnit where
  /-- A character, written as it is or by a one-letter escape. -/
  | char (c : Char)
  /-- A `\u` escape: one UTF-16 code unit. -/
  | code (n : Nat)
deriving DecidableEq

/-- The character that a one-letter escape stands for. -/
def escaped? : Char → Option Char
  | '"' => some '"'
  | '\\' => some '\\'
  | '/' => some '/'
  | 'b' => some '\x08'
  | 'f' => some '\x0c'
  | 'n' => some '\n'
  | 'r' => some '\r'
  | 't' => some '\t'
  | _ => none

/-- The number that four hexadecimal digits write. -/
def code? (a b c d : Char) : Option Nat := do
  let a ← hexDigit? a
  let b ← hexDigit? b
  let c ← hexDigit? c
  let d ← hexDigit? d
  return ((a * 16 + b) * 16 + c) * 16 + d

namespace StringUnit

/-- The first unit of what follows an opening quote, and the rest; `none` in
place of a unit is the closing quote. -/
def next? : List Char → Option (Option StringUnit × List Char)
  | [] => none
  | '"' :: rest => some (none, rest)
  | '\\' :: 'u' :: a :: b :: c :: d :: rest => (code? a b c d).map fun n => (some (code n), rest)
  | '\\' :: c :: rest => (escaped? c).map fun e => (some (char e), rest)
  | c :: rest => if c.toNat < 0x20 ∨ c = '\\' then none else some (some (char c), rest)

theorem length_next? {cs : List Char} {u : Option StringUnit} {rest : List Char}
    (h : next? cs = some (u, rest)) : rest.length < cs.length := by
  unfold next? at h
  split at h
  · simp at h
  · simp only [Option.some.injEq, Prod.mk.injEq] at h
    simp [← h.2]
  · obtain ⟨n, -, hn⟩ := Option.map_eq_some_iff.1 h
    simp only [Prod.mk.injEq] at hn
    simp only [← hn.2, List.length_cons]
    omega
  · obtain ⟨e, -, he⟩ := Option.map_eq_some_iff.1 h
    simp only [Prod.mk.injEq] at he
    simp only [← he.2, List.length_cons]
    omega
  · split at h
    · simp at h
    · simp only [Option.some.injEq, Prod.mk.injEq] at h
      simp [← h.2]

/-- The units up to the closing quote, and what follows it. -/
def scan (cs : List Char) : Option (List StringUnit × List Char) :=
  match h : next? cs with
  | none => none
  | some (none, rest) => some ([], rest)
  | some (some u, rest) =>
    have : rest.length < cs.length := length_next? h
    (scan rest).map fun (us, rest) => (u :: us, rest)
termination_by cs.length

/-- A code that opens a surrogate pair. -/
def opensPair (n : Nat) : Prop := 0xD800 ≤ n ∧ n < 0xDC00

/-- A code that closes a surrogate pair. -/
def closesPair (n : Nat) : Prop := 0xDC00 ≤ n ∧ n < 0xE000

instance (n : Nat) : Decidable (opensPair n) := by unfold opensPair; infer_instance

instance (n : Nat) : Decidable (closesPair n) := by unfold closesPair; infer_instance

/-- The characters that the units write.  There are none if half a surrogate
pair stands alone. -/
def text? : List StringUnit → Option (List Char)
  | [] => some []
  | char c :: rest => (text? rest).map (c :: ·)
  | code n :: rest =>
    if opensPair n then
      match rest with
      | code m :: rest =>
        if closesPair m then
          (text? rest).map (Char.ofNat (0x10000 + (n - 0xD800) * 0x400 + (m - 0xDC00)) :: ·)
        else none
      | _ => none
    else if closesPair n then none
    else (text? rest).map (Char.ofNat n :: ·)

end StringUnit

/-- The text of the literal whose opening quote has been read, and the rest. -/
def readText (cs : List Char) : Option (String × List Char) := do
  let (units, rest) ← StringUnit.scan cs
  let text ← StringUnit.text? units
  return (String.ofList text, rest)

/-- What follows the literal whose opening quote has been read. -/
def skipText (cs : List Char) : Option (List Char) :=
  (StringUnit.scan cs).map Prod.snd

/-- A character within a literal. -/
def escape (c : Char) : List Char :=
  match c with
  | '"' => ['\\', '"']
  | '\\' => ['\\', '\\']
  | '\x08' => ['\\', 'b']
  | '\x0c' => ['\\', 'f']
  | '\n' => ['\\', 'n']
  | '\r' => ['\\', 'r']
  | '\t' => ['\\', 't']
  | c =>
    if c.toNat < 0x20 then
      ['\\', 'u', '0', '0', hexDigit (c.toNat / 16), hexDigit (c.toNat % 16)]
    else [c]

/-- A text as a literal. -/
def quote (text : String) : List Char :=
  '"' :: text.toList.flatMap escape ++ ['"']

example : quote "a\"\n\x1f" = "\"a\\\"\\n\\u001f\"".toList := by decide +kernel
example : readText "a\\u00e9\\ud83d\\ude00\" :".toList = some ("aé😀", " :".toList) := by
  decide +kernel
example : readText "\\ud83d\"".toList = none ∧ skipText "\\ud83d\"".toList = some [] := by
  decide +kernel

end Demarcation.Json
