/-
Sessions with a PostgreSQL server.

A session is the handle of a persistence unit whose rows live in PostgreSQL.
While it has a transaction it keeps the connection on which the transaction was
begun.  Otherwise each operation takes a connection from the pool for itself.
Statements are sent as soon as they are issued, so that there is nothing to
flush.

Of the session policy only `readOnly` has an effect: transactions are begun
read-only, and an operation outside a transaction runs in a read-only
transaction of its own.

A connection whose transaction was not ended in order is `discarded`: the
server is told to roll back before the connection is used again.

The transaction sits behind a lock, which an operation holds while it uses the
connection.  Closing does not wait for the lock; it takes the transaction away
only if nobody holds it.
-/
import Demarcation.Async.Task
import Demarcation.Event
import Demarcation.Operation
import Demarcation.Postgres.Wire
import Demarcation.SessionOptions
import Demarcation.Work

namespace Demarcation.Postgres

/-- The state of a session. -/
structure Session where
  factory : FactoryId
  options : SessionOptions := {}
  /-- The connection on which a transaction is open. -/
  transaction : Option Connection := none
  active : Bool := false
  closed : Bool := false
  /-- Whether somebody holds the lock. -/
  locked : Bool := false
deriving DecidableEq

namespace Session

/-- What is answered at once. -/
inductive Command where
  | get
  | set (session : Session)
  /-- Give a connection back. -/
  | release (connection : Connection)
  /-- Give a connection back whose transaction was not ended in order. -/
  | discard (connection : Connection)
  | emit (event : Event)

/-- The answer to a command. -/
abbrev Answer : Command → Type
  | .get => Session
  | .set _ | .release _ | .discard _ | .emit _ => Unit

/-- What is awaited. -/
inductive Call where
  /-- That nobody holds the lock. -/
  | unlocked
  /-- A connection from the pool. -/
  | acquire
  | send (connection : Connection) (statement : Statement)

/-- The reply to a call. -/
abbrev Reply : Call → Type
  | .unlocked => Unit
  | .acquire => Except DatabaseFailure Connection
  | .send .. => Except DatabaseFailure ServerAnswer

/-- The commands of a session. -/
abbrev vocabulary : Vocabulary where
  Command := Command
  Answer := Answer

/-- The calls of a session. -/
abbrev calls : Calls where
  Call := Call
  Reply := Reply

/-- A routine of a session. -/
abbrev Routine : Type → Type := Task vocabulary calls

/-! ## Steps -/

def get : Action vocabulary Session := .perform .get .done

def set (session : Session) : Action vocabulary Unit := .perform (.set session) .done

def modify (change : Session → Session) : Action vocabulary Unit := do
  let session ← get
  set (change session)

def release (connection : Connection) : Action vocabulary Unit :=
  .perform (.release connection) .done

def discard (connection : Connection) : Action vocabulary Unit :=
  .perform (.discard connection) .done

def emit (event : Event) : Action vocabulary Unit := .perform (.emit event) .done

def acquire : Routine (Except DatabaseFailure Connection) :=
  .await .acquire (.done ()) .done

def send (connection : Connection) (statement : Statement) :
    Routine (Except DatabaseFailure ServerAnswer) :=
  .await (.send connection statement) (.done ()) .done

/-- Wait for the lock and take it. -/
def lock : Routine Unit := do
  .await .unlocked (.done ()) .done
  modify fun session => { session with locked := true }

def unlock : Action vocabulary Unit :=
  modify fun session => { session with locked := false }

/-! ## Transactions -/

/-- A connection on which a transaction has been begun, read-only if this is
asked for.

If the caller is dropped while `BEGIN` is on its way, nobody knows whether the server has
begun a transaction, so the connection is discarded; that the driver does so is assumed
here.  A server that refuses `BEGIN` has begun none: then there is nothing to roll back, and
the connection goes back as it is, as can be watched from the server.  Once a transaction
has been begun, the connection is discarded whatever goes wrong. -/
def openTransaction (readOnly : Bool) : Routine (Except DatabaseFailure Connection) := do
  match ← acquire with
  | .error failure => return .error failure
  | .ok connection =>
    match ← (send connection .begin).guarded (discard connection) with
    | .error failure =>
      release connection
      return .error failure
    | .ok _ =>
      if readOnly then
        match ← (send connection .setReadOnly).guarded (discard connection) with
        | .error failure =>
          discard connection
          return .error failure
        | .ok _ => return .ok connection
      else
        return .ok connection

/-- End the transaction on a connection by `COMMIT` or `ROLLBACK`. -/
def endTransaction (connection : Connection) (statement : Statement) :
    Routine (Except DatabaseFailure Unit) := do
  match ← (send connection statement).guarded (discard connection) with
  | .error failure =>
    discard connection
    return .error failure
  | .ok _ =>
    release connection
    return .ok ()

/-- Take the transaction out of the session, in order to end it. -/
def takeTransaction : Routine (Option Connection) := do
  modify fun session => { session with active := false }
  lock
  let session ← get
  set { session with transaction := none, locked := false }
  return session.transaction

/-! ## The calls of a handle -/

/-- Apply a session policy. -/
def configure (options : SessionOptions) : Routine (Except Failure Unit) := do
  let session ← get
  if session.closed then
    return .error .handleClosed
  else
    set { session with options }
    return .ok ()

/-- Begin a transaction while the lock is held. -/
def beginLocked (readOnly : Bool) : Routine (Except Failure Unit) := do
  let session ← get
  if session.transaction.isSome then
    return .error .transactionInProgress
  else
    match ← openTransaction readOnly with
    | .error failure => return .error (.database failure)
    | .ok connection =>
      modify fun session => { session with transaction := some connection, active := true }
      emit (.transactionStarted session.factory readOnly)
      return .ok ()

/-- Begin a transaction; there must be none. -/
def begin : Routine (Except Failure Unit) := do
  let session ← get
  if session.closed then
    return .error .handleClosed
  else
    let readOnly := session.options.readOnly
    lock
    let result ← (beginLocked readOnly).guarded unlock
    unlock
    return result

/-- Commit the transaction. -/
def commit : Routine (Except Failure Unit) := do
  match ← takeTransaction with
  | none => return .error (.commitFailed "no transaction in progress")
  | some connection =>
    match ← endTransaction connection .commit with
    | .error failure => return .error (.commitFailed failure.message)
    | .ok () => return .ok ()

/-- Roll the transaction back. -/
def rollback : Routine (Except Failure Unit) := do
  match ← takeTransaction with
  | none => return .error (.rollbackFailed "no transaction in progress")
  | some connection =>
    match ← endTransaction connection .rollback with
    | .error failure => return .error (.rollbackFailed failure.message)
    | .ok () => return .ok ()

/-- Abandon the transaction of a session, unless somebody uses it at this
moment. -/
def abandon (session : Session) : Action vocabulary Unit := do
  if session.locked then
    return ()
  else
    match session.transaction with
    | none => return ()
    | some connection =>
      set { session with transaction := none }
      discard connection

/-- Close the session, once and for all. -/
def close : Action vocabulary Unit := do
  let session ← get
  if session.closed then
    return ()
  else
    let session := { session with closed := true, active := false }
    set session
    abandon session
    emit (.handleClosed session.factory)

/-- Whether an object of this type stands behind a session: the session or its
pool. -/
def provides : ObjectType → Bool
  | .session | .pool => true
  | .sharedHandle | .provided _ => false

/-! ## Operations -/

/-- Read the row with this key, if there is one. -/
def fetch (connection : Connection) (key : EntityKey) :
    Routine (Except Failure (Option Record)) := do
  match TableName.ofEntity key.entity with
  | .error failure => return .error failure
  | .ok table =>
    match ← send connection (.select table key.id) with
    | .error failure => return .error (.database failure)
    | .ok answer =>
      match answer.row with
      | none => return .ok none
      | some row =>
        match documentIn "data" row with
        | .error failure => return .error (.database failure)
        | .ok data => return .ok (some { entity := key.entity, id := key.id, data })

/-- Send a statement that changes the table of an entity. -/
def change (connection : Connection) (entity : String) (statement : TableName → Statement)
    (outcome : Outcome) : Routine (Except Failure Outcome) := do
  match TableName.ofEntity entity with
  | .error failure => return .error failure
  | .ok table =>
    match ← send connection (statement table) with
    | .error failure => return .error (.database failure)
    | .ok _ => return .ok outcome

/-- Run an operation on a connection. -/
def runOn (connection : Connection) : Operation → Routine (Except Failure Outcome)
  | .find key => do
    match ← fetch connection key with
    | .error failure => return .error failure
    | .ok record => return .ok (.found record)
  | .contains key => do
    match ← fetch connection key with
    | .error failure => return .error failure
    | .ok record => return .ok (.contains record.isSome)
  | .nativeQuery sql => do
    match ← send connection (.native sql) with
    | .error failure => return .error (.database failure)
    | .ok answer => return .ok (.rows answer.affected)
  | .persist record => change connection record.entity (.insert · record.id record.data) .unit
  | .merge record =>
    change connection record.entity (.upsert · record.id record.data) (.merged record)
  | .remove key => change connection key.entity (.delete · key.id) .unit
  | .refresh key => do
    match ← fetch connection key with
    | .error failure => return .error failure
    | .ok none => return .error (.entityNotFound key)
    | .ok (some record) => return .ok (.found (some record))
  | .flush | .joinTransaction => return .ok .unit

/-- Run an operation in a read-only transaction of its own. -/
def runReadOnly (operation : Operation) : Routine (Except Failure Outcome) := do
  match ← openTransaction true with
  | .error failure => return .error (.database failure)
  | .ok connection =>
    match ← (runOn connection operation).guarded (discard connection) with
    | .error failure =>
      discard connection
      return .error failure
    | .ok outcome =>
      match ← endTransaction connection .commit with
      | .error failure => return .error (.database failure)
      | .ok () => return .ok outcome

/-- Run an operation on a connection of its own. -/
def runPlain (operation : Operation) : Routine (Except Failure Outcome) := do
  match ← acquire with
  | .error failure => return .error (.database failure)
  | .ok connection =>
    let result ← (runOn connection operation).guarded (release connection)
    release connection
    return result

/-- Run an operation: in the transaction if there is one. -/
def execute (operation : Operation) : Routine (Except Failure Outcome) := do
  let session ← get
  if session.closed then
    return .error .handleClosed
  else
    lock
    let session ← get
    match session.transaction with
    | some connection =>
      let result ← (runOn connection operation).guarded unlock
      unlock
      return result
    | none =>
      unlock
      if session.options.readOnly then
        runReadOnly operation
      else
        runPlain operation

end Session

end Demarcation.Postgres
