/-
A stage for rehearsals.

On a `Stage` units of work can be rehearsed and watched.  It has contexts and
handles, factories that behave as planned or stand over a pool of connections
to a server in memory, a clock that runs only while somebody waits, and a
record of everything that factories, handles and the server were asked.

`Stage.work`, `Stage.session` and `Stage.setup` are the surroundings that
a stage offers to units of work, to sessions and to setting up.
-/
import Demarcation.Async.Deadline
import Demarcation.Postgres.Session
import Demarcation.Rehearsal.Address
import Demarcation.Rehearsal.Server
import Demarcation.Setup

namespace Demarcation.Rehearsal

open Postgres (Connection Session Statement)

/-- The calls of factories and handles. -/
inductive CallKind where
  | create | configure | begin | commit | rollback | execute
deriving DecidableEq

def CallKind.name : CallKind → String
  | .create => "create"
  | .configure => "configure"
  | .begin => "begin"
  | .commit => "commit"
  | .rollback => "rollback"
  | .execute => "execute"

/-- How a planned factory and its handles behave.  Calls of each kind are
counted from zero, all handles of the factory together. -/
structure Behavior where
  delay : CallKind → Nat → Duration := fun _ _ => ⟨0⟩
  /-- Whether a call never ends. -/
  hangs : CallKind → Nat → Bool := fun _ _ => false
  fails? : CallKind → Nat → Option Failure := fun _ _ => none
  /-- Whether a handle stays without a transaction when it begins one. -/
  inactive : Bool := false
  /-- Whether a failed commit ends the transaction. -/
  commitFailureEnds : Bool := false
  /-- What stands behind a handle. -/
  provides : List ObjectType := []
  /-- The planned outcome of an operation. -/
  outcome? : Operation → Option Outcome := fun _ => none

/-- What an operation comes to if nothing is planned. -/
def usualOutcome : Operation → Outcome
  | .find _ => .found none
  | .contains _ => .contains false
  | .nativeQuery _ => .rows 1
  | .merge record => .merged record
  | .refresh key => .found (some { entity := key.entity, id := key.id, data := ⟨.null⟩ })
  | .persist _ | .remove _ | .flush | .joinTransaction => .unit

/-- Where a factory gets its handles from. -/
inductive Source where
  | planned (behavior : Behavior)
  | pooled (pool : Nat)

/-- A factory on a stage. -/
structure Factory where
  source : Source
  /-- How many handles it has opened. -/
  opened : Nat := 0
  /-- The calls that it and its handles have seen. -/
  seen : List CallKind := []

/-- What stands behind a handle. -/
inductive Backing where
  | planned (active closed : Bool)
  | session (session : Session)

/-- A handle on a stage: the how-many-th of its factory it is, and what
stands behind it. -/
structure HandleState where
  factory : FactoryId
  ordinal : Nat
  backing : Backing

/-- A pool of connections. -/
structure Pool where
  capacity : Nat
  /-- How long to wait for a connection. -/
  patience : Duration
  /-- What keeps its connections from being made, if anything. -/
  obstacle : Option DatabaseFailure := none
  used : Nat := 0
  /-- The connections that nobody uses, the one that has rested longest first. -/
  idle : List Connection := []
  closed : Bool := false

/-- What a factory, a handle or the server was asked. -/
inductive Entry where
  | create (factory : FactoryId)
  | configure (handle : Handle) (options : SessionOptions)
  | begin (handle : Handle)
  | commit (handle : Handle)
  | rollback (handle : Handle)
  | execute (handle : Handle) (operation : Operation)
  | close (handle : Handle)
  | sent (statement : Statement)

/-- A stage. -/
structure Stage where
  workspace : Workspace := {}
  factories : Array Factory := #[]
  handles : Array HandleState := #[]
  registries : Array Registry := #[]
  /-- How many shared handles have been made. -/
  minted : Nat := 0
  /-- The declared methods of each pipeline. -/
  pipelines : Array Declarations := #[]
  pools : Array Pool := #[]
  /-- The pool of each connection. -/
  owners : Array Nat := #[]
  server : Server := {}
  /-- What was asked, newest first. -/
  record : List Entry := []
  /-- The journal, newest first. -/
  journal : List Event := []
  clock : Duration := ⟨0⟩
  deadline : Option Duration := none
  /-- Whether the deadline has come while somebody waited. -/
  late : Bool := false

namespace Stage

/-- Something that happens on a stage. -/
abbrev Live := StateM Stage

def note (entry : Entry) : Live Unit := modify fun p => { p with record := entry :: p.record }

def emit (event : Event) : Live Unit := modify fun p => { p with journal := event :: p.journal }

/-- A span as the clock of a stage measures it: in whole milliseconds, rounded up,
and thirty years at the most. -/
def measured (span : Duration) : Duration :=
  .ofMilliseconds (min ((span.nanoseconds + 999999) / 1000000) (30 * 365 * 86400 * 1000))

/-- Let time pass.  The answer is whether all of it passed before the deadline,
or just at it. -/
def wait (span : Duration) : Live Bool := do
  let p ← get
  let arrival : Duration := ⟨p.clock.nanoseconds + (measured span).nanoseconds⟩
  match p.deadline with
  | none =>
    set { p with clock := arrival }
    return true
  | some deadline =>
    if 0 < span.nanoseconds ∧ deadline.nanoseconds < arrival.nanoseconds then
      set { p with clock := deadline, late := true }
      return false
    else
      set { p with clock := arrival }
      return true

/-! ## Factories and handles -/

def factory (p : Stage) (f : FactoryId) : Factory :=
  (p.factories[f.index]?).getD { source := .planned {} }

def backing (p : Stage) (h : Handle) : Backing :=
  ((p.handles[h.index]?).map (·.backing)).getD (.planned false true)

def setBacking (h : Handle) (backing : Backing) : Live Unit :=
  modify fun p => { p with handles := p.handles.modify h.index fun s => { s with backing } }

def addFactory (source : Source) : Live FactoryId :=
  modifyGet fun p =>
    (⟨p.factories.size⟩, { p with factories := p.factories.push { source } })

def addPool (pool : Pool) : Live Nat :=
  modifyGet fun p => (p.pools.size, { p with pools := p.pools.push pool })

/-- A new handle of a factory. -/
def addHandle (f : FactoryId) (backing : Backing) : Live Handle :=
  modifyGet fun p =>
    let ordinal := (p.factory f).opened
    (⟨p.handles.size, f⟩, { p with
      handles := p.handles.push { factory := f, ordinal, backing }
      factories := p.factories.modify f.index fun s => { s with opened := s.opened + 1 } })

/-- What is planned for the next call of its kind. -/
def planned (f : FactoryId) (behavior : Behavior) (kind : CallKind) :
    Live (Option (Except Failure Unit)) := do
  let count := ((← get).factory f).seen.count kind
  modify fun p => { p with
    factories := p.factories.modify f.index fun s => { s with seen := kind :: s.seen } }
  if !(← wait (behavior.delay kind count)) then return none
  else if behavior.hangs kind count then return none
  else
    match behavior.fails? kind count with
    | some failure => return some (.error failure)
    | none => return some (.ok ())

/-! ## Connections -/

def modifyPool (pool : Nat) (change : Pool → Pool) : Live Unit :=
  modify fun p => { p with pools := p.pools.modify pool change }

/-- An operation of the server. -/
def serve {α : Type} (operation : Server.Serve α) : Live α :=
  modifyGet fun p =>
    let (a, server) := operation.run p.server
    (a, { p with server })

/-- Take up a connection for a pool. -/
def connect (pool : Nat) (obstacle : Option DatabaseFailure) :
    Live (Except DatabaseFailure Connection) := do
  match obstacle with
  | some failure => return .error failure
  | none =>
    match ← serve Server.connect with
    | .error failure => return .error failure
    | .ok connection =>
      modify fun p => { p with owners := p.owners.push pool }
      return .ok connection

/-- Close a connection.  The server undoes what its transaction has written. -/
def disconnect (connection : Connection) : Live Unit := serve (Server.finish connection false)

/-- A connection of a pool; no reply if the deadline passes first. -/
def acquire (pool : Nat) : Live (Option (Except DatabaseFailure Connection)) := do
  match (← get).pools[pool]? with
  | none => return some (.error .poolClosed)
  | some state =>
    if state.closed then return some (.error .poolClosed)
    else if state.patience.nanoseconds = 0 ∨ state.capacity ≤ state.used then
      if ← wait state.patience then return some (.error .poolTimedOut) else return none
    else
      match state.idle with
      | connection :: idle =>
        modifyPool pool fun s => { s with used := s.used + 1, idle }
        return some (.ok connection)
      | [] =>
        match ← connect pool state.obstacle with
        | .error failure => return some (.error failure)
        | .ok connection =>
          modifyPool pool fun s => { s with used := s.used + 1 }
          return some (.ok connection)

/-- Give a connection back to its pool, to be used again if `usable` says so. -/
def giveBack (connection : Connection) (usable : Bool) : Live Unit := do
  match (← get).owners[connection.index]? with
  | none => return ()
  | some pool =>
    modifyPool pool fun s => { s with used := s.used - 1 }
    if usable ∧ ((← get).pools[pool]?).all (!·.closed) then
      modifyPool pool fun s => { s with idle := s.idle ++ [connection] }
    else disconnect connection

def release (connection : Connection) : Live Unit := giveBack connection true

/-- Take up connections of a pool and give them all back. -/
def stock (pool : Nat) : (count : Nat) → Live (Option (Except DatabaseFailure Unit))
  | 0 => return some (.ok ())
  | count + 1 => do
    match ← acquire pool with
    | none => return none
    | some (.error failure) => return some (.error failure)
    | some (.ok connection) =>
      let result ← stock pool count
      release connection
      return result

/-- Send a statement and take its answer. -/
def send (connection : Connection) (statement : Statement) :
    Live (Except DatabaseFailure Postgres.ServerAnswer) := do
  note (.sent statement)
  serve (Server.respond connection statement)

/-- Roll back and give a connection back.  If the server refuses to roll back, the
connection is not used again. -/
def discard (connection : Connection) : Live Unit := do
  let result ← send connection .rollback
  giveBack connection result.toBool

/-! ## Surroundings -/

/-- The surroundings of the session behind a handle. -/
def session (h : Handle) : Surroundings Session.vocabulary Session.calls Live where
  answer
    | .get => do
      match (← get).backing h with
      | .session s => return s
      | .planned .. => return { factory := h.factory }
    | .set s => setBacking h (.session s)
    | .release connection => release connection
    | .discard connection => discard connection
    | .emit event => emit event
  reply?
    | .unlocked => do
      match (← get).backing h with
      | .session s => return if s.locked then none else some ()
      | .planned .. => return none
    | .acquire => do
      match ((← get).factory h.factory).source with
      | .pooled pool => acquire pool
      | .planned _ => return none
    | .send connection statement => do return some (← send connection statement)

/-- The answer to a command of a unit of work. -/
def answer : (c : Work.Command) → Live (Work.Answer c)
  | .context c => modifyGet fun p =>
    let (a, workspace) := p.workspace.perform c
    (a, { p with workspace })
  | .transactionActive h => do
    match (← get).backing h with
    | .planned active _ => return active
    | .session s => return s.active
  | .close h => do
    match (← get).backing h with
    | .planned .. =>
      note (.close h)
      setBacking h (.planned false true)
    | .session _ => Session.close.run (session h).answer
  | .provides h type => do
    match (← get).backing h, ((← get).factory h.factory).source with
    | .session _, _ => return Session.provides type
    | .planned .., .planned behavior => return type ∈ behavior.provides
    | .planned .., .pooled _ => return false
  | .emit event => emit event

/-- Open a handle. -/
def create (f : FactoryId) : Live (Option (Except Failure Handle)) := do
  match ((← get).factory f).source with
  | .pooled _ => return some (.ok (← addHandle f (.session { factory := f })))
  | .planned behavior =>
    note (.create f)
    match ← planned f behavior .create with
    | none => return none
    | some (.error failure) => return some (.error failure)
    | some (.ok ()) => return some (.ok (← addHandle f (.planned false false)))

/-- A call on a handle that has no outcome.  `active` says whether a planned
handle has a transaction afterwards, given whether the call succeeded and
whether there was one before. -/
def callHandle (h : Handle) (kind : CallKind) (entry : Entry)
    (active : Behavior → (succeeded before : Bool) → Bool)
    (onSession : Session.Routine (Except Failure Unit)) :
    Live (Option (Except Failure Unit)) := do
  match (← get).backing h, ((← get).factory h.factory).source with
  | .planned before closed, .planned behavior =>
    note entry
    match ← planned h.factory behavior kind with
    | none => return none
    | some result =>
      setBacking h (.planned (active behavior result.toBool before) closed)
      return some result
  | _, _ => onSession.run (session h)

/-- Run an operation on a handle. -/
def execute (h : Handle) (operation : Operation) : Live (Option (Except Failure Outcome)) := do
  match (← get).backing h, ((← get).factory h.factory).source with
  | .planned .., .planned behavior =>
    note (.execute h operation)
    match ← planned h.factory behavior .execute with
    | none => return none
    | some (.error failure) => return some (.error failure)
    | some (.ok ()) =>
      return some (.ok ((behavior.outcome? operation).getD (usualOutcome operation)))
  | _, _ => (Session.execute operation).run (session h)

section

variable {m : Type → Type} [Monad m] {app : Jobs} (lift : {α : Type} → Live α → m α)

/-- The surroundings of units of work; `job` runs what the application awaits. -/
def work (job : (j : app.Job) → m (Option (app.Result j))) :
    Surroundings Work.vocabulary (Work.calls app) m where
  answer c := lift (answer c)
  reply?
    | .create f => lift (create f)
    | .configure h options =>
      lift (callHandle h .configure (.configure h options) (fun _ _ before => before)
        (Session.configure options))
    | .begin h =>
      lift (callHandle h .begin (.begin h)
        (fun b succeeded before => before || succeeded && !b.inactive) Session.begin)
    | .commit h =>
      lift (callHandle h .commit (.commit h)
        (fun b succeeded before => !succeeded && before && !b.commitFailureEnds) Session.commit)
    | .rollback h =>
      lift (callHandle h .rollback (.rollback h) (fun _ _ _ => false) Session.rollback)
    | .execute h operation => lift (execute h operation)
    | .job j => job j

/-- Start a limit; the answer is the time at which it started. -/
def startLimit (limit : Duration) : Live Duration :=
  modifyGet fun p =>
    (p.clock, { p with
      deadline := some ⟨p.clock.nanoseconds + (measured limit).nanoseconds⟩ })

/-- Lift a limit.  The answer is how much time has passed since it started, and
whether it was exceeded. -/
def endLimit (start : Duration) : Live (Duration × Bool) :=
  modifyGet fun p => ((p.clock.remaining start, p.late), { p with deadline := none, late := false })

/-- The surroundings of routines under a limit.  A call that never ends is
dropped together with its caller, before any limit passes. -/
def timed (around : Surroundings Work.vocabulary (Work.calls app) m) :
    Surroundings Work.vocabulary (Work.calls app).timed m where
  answer := around.answer
  reply? | (limit, call) => do
    let start ← lift (startLimit limit)
    let reply ← around.reply? call
    let (taken, late) ← lift (endLimit start)
    return match reply with
      | some r => some (some (r, taken))
      | none => if late then some none else none

end

/-- The surroundings of setting up, for one registry and one pipeline. -/
def setup (registry pipeline : Nat) : Surroundings Setup.vocabulary Setup.calls Live where
  answer
    | .registry => do return ((← get).registries[registry]?).getD {}
    | .setRegistry r =>
      modify fun p => { p with registries := p.registries.modify registry fun _ => r }
    | .declarations => do return ((← get).pipelines[pipeline]?).getD {}
    | .setDeclarations d =>
      modify fun p => { p with pipelines := p.pipelines.modify pipeline fun _ => d }
    | .mint => modifyGet fun p => (⟨p.minted⟩, { p with minted := p.minted + 1 })
    | .emit event => emit event
  reply?
    | .openPool settings => do
      match Address.ofUrl settings.url with
      | .error failure => return some (.error failure)
      | .ok address =>
        let pool ← addPool {
          capacity := settings.maxConnections
          patience := settings.acquireTimeout
          obstacle := obstacle? address }
        let count := max 1 (min settings.minConnections settings.maxConnections)
        match ← stock pool count with
        | none => return none
        | some (.error failure) => return some (.error failure)
        | some (.ok ()) => return some (.ok (← addFactory (.pooled pool)))
    | .closePool f => do
      match ((← get).factory f).source with
      | .planned _ => return some ()
      | .pooled pool =>
        let idle := (((← get).pools[pool]?).map (·.idle)).getD []
        modifyPool pool fun s => { s with closed := true, idle := [] }
        idle.forM disconnect
        return if (((← get).pools[pool]?).all (·.used = 0)) then some () else none

end Stage

end Demarcation.Rehearsal
