/-
Domains.

A domain consists of labels with points between them.  It may be written in any
script and with characters that only stand for others.  `ofText?` replaces these by
their images, joins letters and marks, reads the labels that are written in
Punycode, and then asks of every label that it starts with no mark, that a joiner
stands only where it makes a difference to the letters, and, if anything in the
domain is written from the right, that the label can be read in one direction.
-/
import Demarcation.Rehearsal.Unicode.Composition
import Demarcation.Rehearsal.Unicode.Direction
import Demarcation.Rehearsal.Unicode.Joining
import Demarcation.Rehearsal.Url.Domain.Image
import Demarcation.Rehearsal.Url.Domain.Punycode

namespace Demarcation.Rehearsal.Url.Domain

open Unicode (isMark isVirama isTransparent joinsAfter joinsBefore composed Direction)

/-! ## Labels -/

/-- The ASCII characters that no domain holds. -/
def isBreak (c : Char) : Bool :=
  c.toNat ≤ 0x20 || c.toNat = 0x7F || c ∈ "%#/:<>?@[\\]^|".toList

/-- What a label stands for.  Behind `xn--` it is written in Punycode, and what is
written so stands for nothing else. -/
def readLabel? : List Char → Option (List Char)
  | 'x' :: 'n' :: '-' :: '-' :: written =>
    if 2000 < written.length then none
    else (Punycode.decode? written).filter fun label =>
      label.all isPlain && composed label == label
  | label => some label

/-- Whether the letters at both sides of a place would be joined, marks aside.
`before` has the last one first. -/
def joinsAcross (before rest : List Char) : Bool :=
  (before.dropWhile isTransparent).head?.any joinsAfter
    && (rest.dropWhile isTransparent).head?.any joinsBefore

/-- Whether each joiner of a label follows a virama, or keeps letters apart that would
be joined without it.  `before` is the part of the label before those characters,
the last one first. -/
def joinersFit (before : List Char) : List Char → Bool
  | [] => true
  | c :: rest =>
    (if c = '\u200c' then before.head?.any isVirama || joinsAcross before rest
      else if c = '\u200d' then before.head?.any isVirama
      else true)
      && joinersFit (c :: before) rest

/-- Whether a label may be part of a domain. -/
def isLabel (label : List Char) : Bool :=
  !label.head?.any isMark && joinersFit [] label
    && (label.length ≤ 1000 || label.all (·.toNat < 0x80))

/-! ## Direction -/

/-- Whether something in a label is written from the right. -/
def leansRight (label : List Char) : Bool :=
  label.any fun c => Direction.of c ∈ [.fromRight, .arabic]

/-- The directions of a label behind its first character, without the marks at its
end. -/
def directionsBehind (rest : List Char) : List Direction :=
  ((rest.map Direction.of).reverse.dropWhile (· = .mark)).reverse

/-- Whether a label can be read in the direction of its first character.  From the
right, it may hold numbers of one kind. -/
def isReadable : List Char → Bool
  | [] => true
  | first :: rest =>
    let behind := directionsBehind rest
    match Direction.of first with
    | .fromLeft =>
      behind.all (· ∈ [.fromLeft, .european, .mark, .neutral])
        && behind.getLast?.all (· ∈ [.fromLeft, .european])
    | .fromRight =>
      behind.all (· ≠ .fromLeft)
        && behind.getLast?.all (· ∈ [.fromRight, .european, .arabic])
        && !(.european ∈ behind && .arabic ∈ behind)
    | _ => false

/-! ## Domains -/

/-- The labels of the domain that a text writes. -/
def labels? (text : List Char) : Option (List (List Char)) := do
  let plain := composed (← text.mapM image?).flatten
  if plain.any isBreak then none
  let labels ← (parts '.' plain).mapM readLabel?
  if labels.all isLabel && (!labels.any leansRight || labels.all isReadable) then some labels
  else none

/-- The domain that a text writes, with its labels in letters of their own scripts.
It is not empty. -/
def ofText? (text : List Char) : Option (List Char) :=
  ((labels? text).map (List.intercalate ['.'])).filter (· ≠ [])

example : ¬isReadable ['a', 'א'] ∧ ¬isReadable ['1', 'א'] ∧ isReadable ['א', '1'] := by
  decide +kernel
example : joinersFit [] ['क', '\u094d', '\u200d', 'ष'] ∧ ¬joinersFit [] ['a', '\u200d', 'b'] := by
  decide +kernel

end Demarcation.Rehearsal.Url.Domain
