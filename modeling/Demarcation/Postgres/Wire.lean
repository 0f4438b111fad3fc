/-
What goes over a connection, seen from its client.
-/
import Demarcation.Postgres.Statement

namespace Demarcation.Postgres

/-- A connection to the server. -/
structure Connection where
  index : Nat
deriving DecidableEq

/-- A cell of a row that the server sent. -/
inductive Cell where
  | null
  | text (content : String)
deriving DecidableEq

/-- The document in a cell, if it holds the text of one. -/
def Cell.document? : Cell → Option Document
  | .null => none
  | .text content => Document.ofText? content

/-- What the server answers to a statement: how many rows it affected, and the
first row of its result under the names of the columns. -/
structure ServerAnswer where
  affected : Nat := 0
  row : Option (List (String × Cell)) := none
deriving DecidableEq

/-- The document in the column `name` of a row. -/
def documentIn (name : String) (row : List (String × Cell)) : Except DatabaseFailure Document :=
  match row.lookup name with
  | none => .error (.columnNotFound name)
  | some cell =>
    match cell.document? with
    | none => .error (.columnDecode name "not a JSON text")
    | some document => .ok document

end Demarcation.Postgres
