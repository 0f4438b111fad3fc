/-
Documents that fill in a structure of settings.

A `Schema` names the fields of a structure, in order, and says how each one is
read.  A document is an object or an array.  An object sets the fields that it
names, in any order, each at most once; other members are passed over.  An
array sets the first fields in their order.  What a document does not set keeps
its default.
-/
import Demarcation.Json.Reader

namespace Demarcation.Json

/-- One field of a structure: its name, and how its value changes the
structure. -/
structure Field (σ : Type) where
  name : String
  read : Reader (σ → σ)

/-- The document form of a structure. -/
structure Schema (σ : Type) where
  /-- What messages call the structure. -/
  title : String
  default : σ
  fields : List (Field σ)

/-- A field whose value is stored by `set`. -/
def Field.of {σ α : Type} (name : String) (read : Reader α) (set : σ → α → σ) : Field σ where
  name := name
  read cs := (read cs).map fun (value, rest) => (fun s => set s value, rest)

namespace Schema

variable {σ : Type}

def field? (schema : Schema σ) (name : String) : Option (Field σ) :=
  schema.fields.find? (·.name = name)

/-- The text from the next member's name on, or nothing if the object ends
here; `first` says that no member has been read yet. -/
def nextMember (first : Bool) (cs : List Char) : Except Problem (Option (List Char)) :=
  match skipBlanks cs with
  | '}' :: _ => .ok none
  | ',' :: rest => if first then .error .malformed else .ok (some rest)
  | cs => if first then .ok (some cs) else .error .malformed

/-- The members of an object, up to its closing bracket.  `seen` lists the
fields that have been set. -/
def readMembersWith (schema : Schema σ) (fuel : Nat) (first : Bool) (seen : List String)
    (acc : σ) (cs : List Char) : Except Problem (σ × List Char) :=
  match fuel with
  | 0 => .error .malformed
  | fuel + 1 => do
    match ← nextMember first cs with
    | none => return (acc, cs)
    | some cs =>
      match skipBlanks cs with
      | '"' :: rest =>
        let (name, rest) ← wellFormed (readText rest)
        match schema.field? name with
        | none =>
          let rest ← wellFormed (skipColon rest)
          let rest ← wellFormed (skipValue rest)
          schema.readMembersWith fuel false seen acc rest
        | some field =>
          if name ∈ seen then throw (.mismatch (.duplicateField name))
          let rest ← wellFormed (skipColon rest)
          let (change, rest) ← field.read rest
          schema.readMembersWith fuel false (name :: seen) (change acc) rest
      | _ => throw .malformed

/-- The text from the next element on, or nothing if the array ends here. -/
def nextElement (first : Bool) (cs : List Char) : Except Problem (Option (List Char)) :=
  match skipBlanks cs with
  | [] => .error .malformed
  | ']' :: _ => .ok none
  | ',' :: rest =>
    if first then .ok (some cs)
    else
      match skipBlanks rest with
      | ']' :: _ => .error .malformed
      | _ => .ok (some rest)
  | cs => if first then .ok (some cs) else .error .malformed

/-- The elements of an array, one for each of `fields` until the array ends. -/
def readElements : List (Field σ) → (first : Bool) → σ → List Char →
    Except Problem (σ × List Char)
  | [], _, acc, cs => .ok (acc, cs)
  | field :: fields, first, acc, cs => do
    match ← nextElement first cs with
    | none => return (acc, cs)
    | some cs =>
      let (change, rest) ← field.read cs
      readElements fields false (change acc) rest

/-- What follows a closing bracket. -/
def closing (bracket : Char) (cs : List Char) : Except Problem (List Char) :=
  match skipBlanks cs with
  | c :: rest => if c = bracket then .ok rest else .error .malformed
  | [] => .error .malformed

/-- The structure at the front of a text. -/
def reader (schema : Schema σ) : Reader σ := fun cs =>
  match skipBlanks cs with
  | '{' :: rest => do
    let (value, rest) ← schema.readMembersWith (rest.length + 1) true [] schema.default rest
    let rest ← closing '}' rest
    return (value, rest)
  | '[' :: rest => do
    let (value, rest) ← readElements schema.fields true schema.default rest
    let rest ← closing ']' rest
    return (value, rest)
  | cs => .error (unexpected s!"struct {schema.title}" cs)

end Schema

/-- The value that a whole document holds; only blanks may follow it. -/
def readDocument {α : Type} (read : Reader α) (text : String) : Except Problem α := do
  let (value, rest) ← read text.toList
  if skipBlanks rest = [] then return value else throw .malformed

end Demarcation.Json
