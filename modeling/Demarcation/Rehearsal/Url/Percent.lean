/-
Percent-encoded texts.

A percent sign and two hexadecimal digits stand for a byte, every other
character for the bytes of its UTF-8 form; a percent sign without its digits is
a character like any other.  What a text stands for is therefore a list of
bytes, which need not be a text again.
-/
import Demarcation.Text.Hex

namespace Demarcation.Rehearsal.Url

open Text (hexDigit?)

/-- The byte that two hexadecimal digits write. -/
def byte? (a b : Char) : Option UInt8 := do
  let high ← hexDigit? a
  let low ← hexDigit? b
  return UInt8.ofNat (high * 16 + low)

/-- The bytes of a character. -/
def bytesOf (c : Char) : List UInt8 := String.utf8EncodeChar c

/-- The bytes that a percent-encoded text stands for. -/
def percentDecode : List Char → List UInt8
  | [] => []
  | '%' :: a :: b :: rest =>
    match byte? a b with
    | some byte => byte :: percentDecode rest
    | none => bytesOf '%' ++ percentDecode (a :: b :: rest)
  | c :: rest => bytesOf c ++ percentDecode rest

/-- The bytes that a part of a query stands for, where a plus sign is a space. -/
def formDecode (cs : List Char) : List UInt8 :=
  percentDecode (cs.map fun c => if c = '+' then ' ' else c)

/-- The text that bytes encode. -/
def text? (bytes : List UInt8) : Option String := String.fromUTF8? ⟨bytes.toArray⟩

example : text? (percentDecode "%2Fa%zz%c3%A9".toList) = some "/a%zzé" := by decide +kernel
example : text? (percentDecode "%ff".toList) = none := by decide +kernel

end Demarcation.Rehearsal.Url
