/-
Entities and their rows.

A row has the name of its entity, an identifier and a document.  A document is
any JSON value; nothing looks into it.
-/
import Demarcation.Json.Value
import Demarcation.Text.Hex

namespace Demarcation

/-- The identifier of a row. -/
structure EntityId where
  bits : BitVec 128
deriving DecidableEq

namespace EntityId

/-- The lower-case hexadecimal digits of `n`, exactly `count` of them. -/
def hex (count n : Nat) : List Char :=
  let digits := Nat.toDigits 16 n
  List.replicate (count - digits.length) '0' ++ digits

/-- The groups of digits in which an identifier is written. -/
def groupLengths : List Nat := [8, 4, 4, 4, 12]

/-- Cut a list into pieces of the given lengths. -/
def cut {α : Type} : List Nat → List α → List (List α)
  | [], _ => []
  | n :: ns, xs => xs.take n :: cut ns (xs.drop n)

/-- The identifier in its groups of hexadecimal digits, hyphens between them. -/
def text (id : EntityId) : String :=
  String.ofList (List.intercalate ['-'] (cut groupLengths (hex 32 id.bits.toNat)))

/-- The identifier that a text writes, in either case: the one whose own text
is that text. -/
def ofText? (s : String) : Option EntityId := do
  let digits ← (s.toList.filter (· ≠ '-')).mapM Text.hexDigit?
  let id : EntityId := ⟨BitVec.ofNat 128 (digits.foldl (fun n d => n * 16 + d) 0)⟩
  if id.text.toList = s.toList.map Char.toLower then some id else none

end EntityId

/-- The content of a row. -/
structure Document where
  value : Json.Value
deriving DecidableEq

/-- The document as JSON text. -/
def Document.text (d : Document) : String := String.ofList d.value.write

/-- The document that a text holds. -/
def Document.ofText? (text : String) : Option Document := (Json.Value.ofText? text).map Document.mk

/-- Which row of which entity. -/
structure EntityKey where
  entity : String
  id : EntityId
deriving DecidableEq

/-- A row. -/
structure Record where
  entity : String
  id : EntityId
  data : Document
deriving DecidableEq

def Record.key (r : Record) : EntityKey := ⟨r.entity, r.id⟩

example : ((EntityId.ofText? "00000004-0000-4000-8000-000000007BBC").map EntityId.text)
    = some "00000004-0000-4000-8000-000000007bbc" := by decide +kernel

end Demarcation
