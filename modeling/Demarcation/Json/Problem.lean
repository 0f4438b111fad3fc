/-
What may be wrong with a JSON document.

A document is malformed when it is not JSON at all, or holds more than belongs
there.  Otherwise one of its values does not suit the place where it stands,
and the mismatch says what was found and what was expected.  Whichever problem
comes first in the text is reported.
-/
import Demarcation.Text.Quoted

namespace Demarcation.Json

/-- A value found where another kind was expected. -/
inductive Found where
  | null
  | flag (b : Bool)
  | integer (n : Int)
  | floating
  | text (s : String)
  | array
  | object
deriving DecidableEq

/-- The words for a value that was found. -/
def Found.message : Found → String
  | .null => "null"
  | .flag true => "boolean `true`"
  | .flag false => "boolean `false`"
  | .integer n => s!"integer `{n}`"
  | .floating => "floating point"
  | .text s => "string " ++ Text.quoted s
  | .array => "sequence"
  | .object => "map"

/-- A well-formed value that does not suit its place. -/
inductive Mismatch where
  | wrongType (found : Found) (expected : String)
  | outOfRange (found : Int) (expected : String)
  | unknownVariant (found : String) (known : List String)
  | duplicateField (name : String)
deriving DecidableEq

def Mismatch.message : Mismatch → String
  | .wrongType found expected => s!"invalid type: {found.message}, expected {expected}"
  | .outOfRange found expected => s!"invalid value: integer `{found}`, expected {expected}"
  | .unknownVariant found known =>
    let names := ", ".intercalate (known.map fun name => s!"`{name}`")
    s!"unknown variant `{found}`, expected one of {names}"
  | .duplicateField name => s!"duplicate field `{name}`"

/-- Why a document can not be read. -/
inductive Problem where
  | malformed
  | mismatch (cause : Mismatch)
deriving DecidableEq

end Demarcation.Json
