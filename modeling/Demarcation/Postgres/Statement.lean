/-
Statements for a PostgreSQL server.

The rows of an entity live in a table of its name, with a key column `id` and a
document column `data`.  The name of a table is the only part of a statement
that varies, and only an identifier can be one; identifiers of rows and
documents travel beside the text as bound parameters.
-/
import Demarcation.Failure

namespace Demarcation.Postgres

/-- A letter or an underscore. -/
def startsIdentifier (c : Char) : Bool := c.isAlpha || c = '_'

/-- A letter, a digit or an underscore. -/
def continuesIdentifier (c : Char) : Bool := c.isAlphanum || c = '_'

/-- Whether a text can be the name of a table.  Letters and digits are those
of ASCII. -/
def isIdentifier (text : String) : Bool :=
  match text.toList with
  | [] => false
  | c :: cs => startsIdentifier c && cs.all continuesIdentifier

/-- The name of a table. -/
structure TableName where
  text : String
  isIdentifier_text : isIdentifier text = true

/-- The table in which the rows of an entity live. -/
def TableName.ofEntity (entity : String) : Except Failure TableName :=
  if h : isIdentifier entity = true then .ok ⟨entity, h⟩
  else .error (.invalidIdentifier entity)

/-- A value that is bound to a statement. -/
inductive Parameter where
  | id (id : EntityId)
  | document (data : Document)
deriving DecidableEq

/-- What can be sent to the server. -/
inductive Statement where
  | begin
  | setReadOnly
  | commit
  | rollback
  /-- SQL of the application. -/
  | native (sql : String)
  /-- Read the row with this identifier. -/
  | select (table : TableName) (id : EntityId)
  /-- Add a row. -/
  | insert (table : TableName) (id : EntityId) (data : Document)
  /-- Add a row, or replace the one that has its identifier. -/
  | upsert (table : TableName) (id : EntityId) (data : Document)
  /-- Remove the row with this identifier. -/
  | delete (table : TableName) (id : EntityId)

namespace Statement

/-- The SQL text. -/
def text : Statement → String
  | .begin => "BEGIN"
  | .setReadOnly => "SET TRANSACTION READ ONLY"
  | .commit => "COMMIT"
  | .rollback => "ROLLBACK"
  | .native sql => sql
  | .select table _ => s!"SELECT data FROM {table.text} WHERE id = $1"
  | .insert table _ _ => s!"INSERT INTO {table.text} (id, data) VALUES ($1, $2)"
  | .upsert table _ _ =>
    s!"INSERT INTO {table.text} (id, data) VALUES ($1, $2) "
      ++ "ON CONFLICT (id) DO UPDATE SET data = EXCLUDED.data"
  | .delete table _ => s!"DELETE FROM {table.text} WHERE id = $1"

/-- The bound parameters, in the order of their numbers. -/
def parameters : Statement → List Parameter
  | .select _ id | .delete _ id => [.id id]
  | .insert _ id data | .upsert _ id data => [.id id, .document data]
  | .begin | .setReadOnly | .commit | .rollback | .native _ => []

end Statement

end Demarcation.Postgres
