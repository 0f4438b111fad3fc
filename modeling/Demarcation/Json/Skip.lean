/-
Passing over JSON values.

`skipValue` follows the grammar of JSON without building a value: brackets,
commas and colons must be in place, numbers must be well formed, and strings
are cut but not read.  Each step of the recursion uses up at least one
character, so the length of the text bounds its depth.
-/
import Demarcation.Json.Numeral
import Demarcation.Json.Text

namespace Demarcation.Json

/-- The characters that may stand between the parts of a JSON text. -/
def isBlank (c : Char) : Bool := c = ' ' || c = '\n' || c = '\t' || c = '\r'

/-- The text from its first character that is not blank. -/
def skipBlanks (cs : List Char) : List Char := cs.dropWhile isBlank

/-- What follows `word`, if the text starts with it. -/
def skipWord : List Char → List Char → Option (List Char)
  | [], cs => some cs
  | w :: ws, c :: cs => if w = c then skipWord ws cs else none
  | _ :: _, [] => none

/-- What follows the colon after a member's name. -/
def skipColon (cs : List Char) : Option (List Char) :=
  match skipBlanks cs with
  | ':' :: rest => some rest
  | _ => none

/-- What follows a member's name. -/
def skipName (cs : List Char) : Option (List Char) :=
  match skipBlanks cs with
  | '"' :: rest => skipText rest
  | _ => none

mutual

/-- What follows the value at the front of a text. -/
def skipValueWith (fuel : Nat) (cs : List Char) : Option (List Char) :=
  match fuel with
  | 0 => none
  | fuel + 1 =>
    match skipBlanks cs with
    | 'n' :: rest => skipWord ['u', 'l', 'l'] rest
    | 't' :: rest => skipWord ['r', 'u', 'e'] rest
    | 'f' :: rest => skipWord ['a', 'l', 's', 'e'] rest
    | '"' :: rest => skipText rest
    | '[' :: rest =>
      match skipBlanks rest with
      | ']' :: rest => some rest
      | _ => skipElementsWith fuel rest
    | '{' :: rest =>
      match skipBlanks rest with
      | '}' :: rest => some rest
      | _ => skipMembersWith fuel rest
    | cs => (Numeral.scan cs).map Prod.snd

/-- What follows an array, from one of its elements on. -/
def skipElementsWith (fuel : Nat) (cs : List Char) : Option (List Char) :=
  match fuel with
  | 0 => none
  | fuel + 1 =>
    match skipValueWith fuel cs with
    | none => none
    | some rest =>
      match skipBlanks rest with
      | ',' :: rest => skipElementsWith fuel rest
      | ']' :: rest => some rest
      | _ => none

/-- What follows an object, from one of its members on. -/
def skipMembersWith (fuel : Nat) (cs : List Char) : Option (List Char) :=
  match fuel with
  | 0 => none
  | fuel + 1 =>
    match (skipName cs).bind skipColon with
    | none => none
    | some rest =>
      match skipValueWith fuel rest with
      | none => none
      | some rest =>
        match skipBlanks rest with
        | ',' :: rest => skipMembersWith fuel rest
        | '}' :: rest => some rest
        | _ => none

end

/-- What follows the value at the front of a text; nothing if there is no
well-formed value. -/
def skipValue (cs : List Char) : Option (List Char) :=
  skipValueWith (2 * cs.length + 1) cs

example : skipValue " [1, -2.5e3, [\"\\ud800\", null], true] ,".toList = some " ,".toList := by
  decide +kernel
example : skipValue "[1,]".toList = none ∧ skipValue "01".toList = none := by decide +kernel

end Demarcation.Json
