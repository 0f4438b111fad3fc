/-
Readers for the values that settings are made of.

A reader takes the text from where a value should stand and gives the value
and the rest of the text.  A value of the wrong kind is read far enough to name
it in the report, and no further; if it is not even well formed the document is
malformed.
-/
import Demarcation.Json.Problem
import Demarcation.Json.Skip

namespace Demarcation.Json

/-- A reader for the value at the front of a text. -/
abbrev Reader (α : Type) := List Char → Except Problem (α × List Char)

/-- The result of a lexical step, which has no other problem than bad form. -/
def wellFormed {α : Type} : Option α → Except Problem α
  | none => .error .malformed
  | some a => .ok a

def Number.found : Number → Found
  | .natural n => .integer n
  | .negative n => .integer n
  | .floating .. => .floating

/-- What stands at the front of a text.  Of an array or an object, the opening
bracket is enough. -/
def found? (cs : List Char) : Option Found :=
  match skipBlanks cs with
  | 'n' :: rest => (skipWord ['u', 'l', 'l'] rest).map fun _ => .null
  | 't' :: rest => (skipWord ['r', 'u', 'e'] rest).map fun _ => .flag true
  | 'f' :: rest => (skipWord ['a', 'l', 's', 'e'] rest).map fun _ => .flag false
  | '"' :: rest => (readText rest).map fun (s, _) => .text s
  | '[' :: _ => some .array
  | '{' :: _ => some .object
  | cs => (readNumber cs).map fun (n, _) => n.found

/-- The problem of a text at whose front something else than `expected` stands. -/
def unexpected (expected : String) (cs : List Char) : Problem :=
  match found? cs with
  | none => .malformed
  | some found => .mismatch (.wrongType found expected)

/-- A text. -/
def readString (expected : String) : Reader String := fun cs =>
  match skipBlanks cs with
  | '"' :: rest => wellFormed (readText rest)
  | cs => .error (unexpected expected cs)

/-- `true` or `false`. -/
def readFlag : Reader Bool := fun cs =>
  match skipBlanks cs with
  | 't' :: rest => wellFormed ((skipWord ['r', 'u', 'e'] rest).map (true, ·))
  | 'f' :: rest => wellFormed ((skipWord ['a', 'l', 's', 'e'] rest).map (false, ·))
  | cs => .error (unexpected "a boolean" cs)

/-- `null`. -/
def readNull : Reader Unit := fun cs =>
  match skipBlanks cs with
  | 'n' :: rest => wellFormed ((skipWord ['u', 'l', 'l'] rest).map ((), ·))
  | cs => .error (unexpected "unit" cs)

/-- A natural number below `2 ^ bits`; `expected` names that type. -/
def readWord (bits : Nat) (expected : String) : Reader Nat := fun cs =>
  match readNumber (skipBlanks cs) with
  | some (.natural n, rest) =>
    if n < Nat.pow 2 bits then .ok (n, rest) else .error (.mismatch (.outOfRange n expected))
  | some (.negative n, _) => .error (.mismatch (.outOfRange n expected))
  | _ => .error (unexpected expected cs)

/-- The name of a member; nothing else may start one. -/
def readName : Reader String := fun cs =>
  match skipBlanks cs with
  | '"' :: rest => wellFormed (readText rest)
  | _ => .error .malformed

/-- The value that a name stands for. -/
def variant {α : Type} (names : List (String × α)) (name : String) : Except Problem α :=
  match names.lookup name with
  | some value => .ok value
  | none => .error (.mismatch (.unknownVariant name (names.map Prod.fst)))

/-- One of several names, or an object with that name as its one member and
`null` as its value. -/
def readVariant {α : Type} (names : List (String × α)) : Reader α := fun cs =>
  match skipBlanks cs with
  | '"' :: rest => do
    let (name, rest) ← wellFormed (readText rest)
    let value ← variant names name
    return (value, rest)
  | '{' :: rest => do
    let (name, rest) ← readName rest
    let value ← variant names name
    let rest ← wellFormed (skipColon rest)
    let ((), rest) ← readNull rest
    match skipBlanks rest with
    | '}' :: rest => return (value, rest)
    | _ => throw .malformed
  | _ => .error .malformed

end Demarcation.Json
