/-
Hosts of URLs.

In brackets stands an IPv6 address.  Otherwise the host of a web or file URL is a domain,
which is an IPv4 address if its last label is a number, and the host of any
other URL is opaque: a text without the characters that have a meaning in URLs.
-/
import Demarcation.Text.Digit
import Demarcation.Rehearsal.Url.Parts
import Demarcation.Rehearsal.Url.Domain
import Demarcation.Rehearsal.Url.Percent

namespace Demarcation.Rehearsal.Url

open Text (hexDigit?)

/-! ## Addresses -/

/-- Whether a text is a number below 256 without leading zeros. -/
def isOctet (cs : List Char) : Bool :=
  match Text.scanDigits cs with
  | ([d], []) => d < 10
  | (d :: ds, []) => 0 < d && ds.length < 3 && Text.ofDigits (d :: ds) < 256
  | _ => false

/-- Whether a text is an IPv4 address in its usual form. -/
def isDottedQuad (cs : List Char) : Bool :=
  (parts '.' cs).length = 4 && (parts '.' cs).all isOctet

/-- Whether a text is one group of an IPv6 address. -/
def isGroup (cs : List Char) : Bool :=
  0 < cs.length && cs.length ≤ 4 && cs.all fun c => (hexDigit? c).isSome

/-- How many groups of 16 bits the parts of an IPv6 address make up.  The last
part may be an IPv4 address if `quad` says so. -/
def groupCount? (quad : Bool) : List (List Char) → Option Nat
  | [] => some 0
  | [part] => if isGroup part then some 1 else if quad && isDottedQuad part then some 2 else none
  | part :: rest => if isGroup part then (groupCount? quad rest).map (· + 1) else none

/-- The text before the first double colon and the text behind it. -/
def cutGap : List Char → Option (List Char × List Char)
  | ':' :: ':' :: rest => some ([], rest)
  | c :: rest => (cutGap rest).map fun (before, behind) => (c :: before, behind)
  | [] => none

/-- The parts of what stands on one side of a double colon. -/
def groupsBeside (cs : List Char) : List (List Char) := if cs = [] then [] else parts ':' cs

/-- Whether a text is an IPv6 address.  A double colon stands for at least one
group. -/
def isIpv6 (cs : List Char) : Bool :=
  match cutGap cs with
  | none => groupCount? true (parts ':' cs) = some 8
  | some (before, behind) =>
    match groupCount? false (groupsBeside before), groupCount? true (groupsBeside behind) with
    | some m, some n => m + n ≤ 7
    | _, _ => false

/-- The number that a text writes in a base of at most sixteen. -/
def inBase? (base : Nat) (cs : List Char) : Option Nat :=
  cs.foldlM (fun n c => do
    let d ← hexDigit? c
    if d < base then some (n * base + d) else none) 0

/-- The number that a label of a domain writes: in hexadecimal after `0x`, in octal
after another zero, else in decimal. -/
def labelNumber? : List Char → Option Nat
  | [] => none
  | '0' :: 'x' :: rest | '0' :: 'X' :: rest => inBase? 16 rest
  | '0' :: c :: rest => inBase? 8 (c :: rest)
  | cs => inBase? 10 cs

/-- The labels of a domain, without the empty one behind a final point. -/
def labels (domain : List Char) : List (List Char) :=
  let all := parts '.' domain
  if 1 < all.length ∧ all.getLast? = some [] then all.dropLast else all

/-- Whether the last label is meant as a number. -/
def endsInNumber (domain : List Char) : Bool :=
  match (labels domain).getLast? with
  | none => false
  | some label => label ≠ [] && (label.all Char.isDigit || (labelNumber? label).isSome)

/-- The IPv4 address that numbers write.  The last of them fills all bytes that the
others leave. -/
def ipv4? (numbers : List Nat) : Option Nat :=
  match numbers.reverse with
  | [] => none
  | last :: others =>
    if others.length ≤ 3 ∧ others.all (· < 256) ∧ last < Nat.pow 256 (4 - others.length) then
      some (others.reverse.foldl (fun n b => n * 256 + b) 0 * Nat.pow 256 (4 - others.length) +
        last)
    else none

/-- An IPv4 address in its usual form. -/
def dottedQuad (address : Nat) : List Char :=
  List.intercalate ['.'] ([3, 2, 1, 0].map fun i => Nat.toDigits 10 (address / Nat.pow 256 i % 256))

/-! ## Names -/

/-- The characters that no opaque host holds. -/
def isHostBreak (c : Char) : Bool := c ∈ "\x00\t\n\r #/:<>?@[\\]^|".toList

/-- A domain, or the address that it writes. -/
def parseDomain? (cs : List Char) : Option (List Char) := do
  let domain ← Domain.ofText? (← text? (percentDecode cs)).toList
  if endsInNumber domain then
    return dottedQuad (← ipv4? (← (labels domain).mapM labelNumber?))
  else return domain

/-- The host that a text writes, where `web` says that it belongs to a web URL. -/
def parseHost? (web : Bool) (cs : List Char) : Option (List Char) :=
  match cs with
  | '[' :: rest =>
    if rest.getLast? = some ']' ∧ isIpv6 rest.dropLast then some cs else none
  | _ => if web then parseDomain? cs else if cs.any isHostBreak then none else some cs

example : isIpv6 "1:2::192.168.0.1".toList ∧ ¬isIpv6 "1::2::3".toList := by decide +kernel
example : endsInNumber "a.0x7f.".toList ∧ ¬endsInNumber "1.a".toList := by decide +kernel
example : ((labels "0x7f.1".toList).mapM labelNumber?).bind ipv4? = some 0x7F000001 := by
  decide +kernel
example : ipv4? [256, 1, 1, 1] = none ∧ dottedQuad 0x7F000001 = "127.0.0.1".toList := by
  decide +kernel
example : parseHost? false "256.1.1.1".toList = some "256.1.1.1".toList := by decide +kernel

end Demarcation.Rehearsal.Url
