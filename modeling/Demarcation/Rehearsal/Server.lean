/-
A database server in memory.

The server keeps its tables in memory and follows the rules of PostgreSQL as
far as units of work can notice them.  A connection is idle, in a transaction,
or in a transaction that has failed.  Writes take effect at once and are undone
when their transaction does not commit.  After an error a transaction takes no
further statements, and its `COMMIT` undoes it without an error.

Replies to SQL of the application are planned, and so are faults: a fault
strikes at the given arrival of its statement.
-/
import Demarcation.Postgres.Wire
import Demarcation.Table
import Demarcation.Text.Digit

namespace Demarcation.Rehearsal

open Postgres (Statement ServerAnswer Cell Connection)

/-- The planned reply to SQL of the application: a command tag, or an error. -/
inductive NativeReply where
  | tag (tag : String)
  | refused (message : String)

/-- An error at the `arrival`-th arrival of a statement, counted from one. -/
structure Fault where
  statement : String
  arrival : Nat
  message : String

/-- What a write replaced. -/
structure Undo where
  table : String
  id : EntityId
  former : Option Cell

/-- What a connection is in the midst of. -/
inductive Phase where
  | idle
  | running (readOnly : Bool)
  | aborted

/-- A connection, and what undoes the writes of its transaction, newest first. -/
structure Line where
  phase : Phase := .idle
  undo : List Undo := []

/-- A server. -/
structure Server where
  tables : Table String (Table EntityId Cell) := .empty
  natives : List (String × NativeReply) := []
  faults : List Fault := []
  /-- What the column with the document is called. -/
  documentColumn : String := "data"
  /-- The error that meets every new connection, if any. -/
  refusal : Option String := none
  /-- The statements that have arrived. -/
  arrived : List String := []
  lines : Array Line := #[]

/-- How many rows a command tag says were affected: the number that starts
what follows the last space of the tag, if it fits 64 bits. -/
def affectedOfTag (tag : String) : Nat :=
  if ' ' ∈ tag.toList then
    (Text.wordAtFront? 64 (tag.toList.reverse.takeWhile (· ≠ ' ')).reverse).getD 0
  else 0

namespace Server

/-- A server operation, with the server as its state. -/
abbrev Serve := StateM Server

def line (server : Server) (connection : Connection) : Line :=
  (server.lines[connection.index]?).getD {}

def setLine (connection : Connection) (line : Line) : Serve Unit :=
  modify fun s => { s with lines := s.lines.modify connection.index fun _ => line }

/-- Store a cell in a table that exists, or remove it. -/
def setCell (server : Server) (table : String) (id : EntityId) (cell : Option Cell) : Server :=
  match server.tables.find? table with
  | none => server
  | some rows =>
    let rows := match cell with
      | some cell => rows.insert id cell
      | none => rows.erase id
    { server with tables := server.tables.insert table rows }

/-- End the transaction of a connection. -/
def finish (connection : Connection) (keep : Bool) : Serve Unit := do
  let undo := ((← get).line connection).undo
  unless keep do
    modify fun s => undo.foldl (fun s u => s.setCell u.table u.id u.former) s
  setLine connection {}

/-- Answer by an error, which makes a running transaction fail. -/
def refuse (connection : Connection) (message : String) :
    Serve (Except DatabaseFailure ServerAnswer) := do
  let line := (← get).line connection
  match line.phase with
  | .running _ => setLine connection { line with phase := .aborted }
  | _ => pure ()
  return .error (.server message)

/-- Write a cell, so that it can be undone. -/
def write (connection : Connection) (table : String) (id : EntityId) (cell : Option Cell) :
    Serve Unit := do
  let server ← get
  let former := (server.tables.find? table).bind (·.find? id)
  set (server.setCell table id cell)
  let line := server.line connection
  match line.phase with
  | .running _ => setLine connection { line with undo := ⟨table, id, former⟩ :: line.undo }
  | _ => pure ()

/-- Run a statement on the rows of its table. -/
def runStatement (connection : Connection) (statement : Statement) :
    Serve (Except DatabaseFailure ServerAnswer) := do
  let server ← get
  let onRows (table : String)
      (run : Table EntityId Cell → Serve (Except DatabaseFailure ServerAnswer)) :=
    match server.tables.find? table with
    | none => refuse connection s!"relation \"{table}\" does not exist"
    | some rows => run rows
  match statement with
  | .select table id => onRows table.text fun rows =>
    return .ok { row := (rows.find? id).map fun cell => [(server.documentColumn, cell)] }
  | .insert table id data => onRows table.text fun rows => do
    if rows.contains id then
      let key := table.text ++ "_pkey"
      refuse connection s!"duplicate key value violates unique constraint \"{key}\""
    else
      write connection table.text id (some (.text data.text))
      return .ok { affected := 1 }
  | .upsert table id data => onRows table.text fun _ => do
    write connection table.text id (some (.text data.text))
    return .ok { affected := 1 }
  | .delete table id => onRows table.text fun rows => do
    write connection table.text id none
    return .ok { affected := if rows.contains id then 1 else 0 }
  | _ => refuse connection "syntax error"

/-- Run a statement other than the beginning or the end of a transaction. -/
def run (connection : Connection) (statement : Statement) :
    Serve (Except DatabaseFailure ServerAnswer) := do
  let server ← get
  let line := server.line connection
  let text := statement.text
  let word := String.ofList (text.toList.takeWhile (· ≠ ' '))
  match line.phase, decide (word ∈ ["INSERT", "UPDATE", "DELETE"]) with
  | .aborted, _ =>
    refuse connection
      "current transaction is aborted, commands ignored until end of transaction block"
  | .running true, true =>
    refuse connection s!"cannot execute {word} in a read-only transaction"
  | phase, _ =>
    if text = Statement.setReadOnly.text then
      match phase with
      | .running _ => setLine connection { line with phase := .running true }
      | _ => pure ()
      return .ok {}
    else
      match server.natives.lookup text with
      | some (.tag tag) => return .ok { affected := affectedOfTag tag }
      | some (.refused message) => refuse connection message
      | none => runStatement connection statement

/-- Answer a statement that arrives on a connection. -/
def respond (connection : Connection) (statement : Statement) :
    Serve (Except DatabaseFailure ServerAnswer) := do
  let text := statement.text
  modify fun s => { s with arrived := text :: s.arrived }
  let server ← get
  let line := server.line connection
  match server.faults.find? fun f => f.statement = text ∧ f.arrival = server.arrived.count text with
  | some fault =>
    if text = Statement.commit.text then
      finish connection false
      return .error (.server fault.message)
    else
      refuse connection fault.message
  | none =>
    if text = Statement.begin.text then
      setLine connection { line with phase := .running false }
      return .ok {}
    else if text = Statement.commit.text then
      finish connection (line.phase matches .idle | .running _)
      return .ok {}
    else if text = Statement.rollback.text then
      finish connection false
      return .ok {}
    else
      run connection statement

/-- Take up a connection. -/
def connect : Serve (Except DatabaseFailure Connection) := do
  let server ← get
  match server.refusal with
  | some message => return .error (.server message)
  | none =>
    set { server with lines := server.lines.push {} }
    return .ok ⟨server.lines.size⟩

end Server

end Demarcation.Rehearsal
