/-
The calls of a session's handle.

An operation sends one statement at most, `Operation.statement?`, and its outcome
is read from the answer.  It runs in the transaction of the session if there is
one, in a read-only transaction of its own, or on a connection of its own.

`Order` lists the calls of a handle, and `Order.Conducts` what passes in each of
them: the exchanges, the reply, and the session that is left.  The calls come one
after the other.  So nobody holds the lock when a call begins, and a call is dropped
only while it waits for the pool or for the server.
-/
import Demarcation.Proofs.Exchanges

namespace Demarcation

open Postgres

/-! ## What an operation sends -/

namespace Operation

/-- The statement of an operation; there may be none.  It fails if the entity can not
name a table. -/
def statement? : Operation → Except Failure (Option Statement)
  | .find key | .contains key | .refresh key =>
    (TableName.ofEntity key.entity).map fun table => some (.select table key.id)
  | .nativeQuery sql => .ok (some (.native sql))
  | .persist record =>
    (TableName.ofEntity record.entity).map fun table => some (.insert table record.id record.data)
  | .merge record =>
    (TableName.ofEntity record.entity).map fun table => some (.upsert table record.id record.data)
  | .remove key => (TableName.ofEntity key.entity).map fun table => some (.delete table key.id)
  | .flush | .joinTransaction => .ok none

/-- The record in the answer of the server, if there is one. -/
def recordIn (key : EntityKey) (answer : ServerAnswer) : Except Failure (Option Record) :=
  match answer.row with
  | none => .ok none
  | some row =>
    match documentIn "data" row with
    | .error failure => .error (.database failure)
    | .ok data => .ok (some { entity := key.entity, id := key.id, data })

/-- The outcome of an operation whose statement was answered. -/
def outcome (answer : ServerAnswer) : Operation → Except Failure Outcome
  | .find key => (recordIn key answer).map .found
  | .contains key => (recordIn key answer).map fun record => .contains record.isSome
  | .nativeQuery _ => .ok (.rows answer.affected)
  | .merge record => .ok (.merged record)
  | .refresh key =>
    match recordIn key answer with
    | .error failure => .error failure
    | .ok none => .error (.entityNotFound key)
    | .ok (some record) => .ok (.found (some record))
  | .persist _ | .remove _ | .flush | .joinTransaction => .ok .unit

/-- The result of an operation, given the server's verdict on its statement. -/
def conclude (operation : Operation) :
    Except DatabaseFailure ServerAnswer → Except Failure Outcome
  | .error failure => .error (.database failure)
  | .ok answer => operation.outcome answer

end Operation

namespace Postgres

namespace Session

variable {d t : Desk} {c : Connection} {st : Statement} {op : Operation}

/-- A statement that is sent on a connection, and what becomes of its verdict. -/
theorem send_bind_congr {α : Type} {f g : Except DatabaseFailure ServerAnswer → Routine α}
    (h : ∀ verdict, f verdict = g verdict) : (send c st >>= f) = (send c st >>= g) :=
  congrArg (send c st >>= ·) (funext h)

theorem change_eq (entity : String) (statement : TableName → Statement) (outcome : Outcome) :
    change c entity statement outcome =
      match (TableName.ofEntity entity).map statement with
      | .error failure => .done (.error failure)
      | .ok statement => send c statement >>= fun
        | .error failure => .done (.error (.database failure))
        | .ok _ => .done (.ok outcome) := by
  cases h : TableName.ofEntity entity <;> simp only [change, h, Except.map] <;> rfl

theorem fetch_eq (key : EntityKey) :
    fetch c key =
      match (TableName.ofEntity key.entity).map (Statement.select · key.id) with
      | .error failure => .done (.error failure)
      | .ok statement => send c statement >>= fun
        | .error failure => .done (.error (.database failure))
        | .ok answer => .done (Operation.recordIn key answer) := by
  cases h : TableName.ofEntity key.entity with
  | error => simp only [fetch, h, Except.map]; rfl
  | ok table =>
      simp only [fetch, h, Except.map]
      refine send_bind_congr fun verdict => ?_
      cases verdict with
      | error => rfl
      | ok answer =>
          cases hrow : answer.row with
          | none => simp only [Operation.recordIn, hrow, Task.pure_eq_done]
          | some row =>
              cases hdata : documentIn "data" row <;>
                simp only [Operation.recordIn, hrow, hdata, Task.pure_eq_done]

/-- An operation sends its statement, if it has one, and concludes from the verdict. -/
theorem runOn_eq (c : Connection) (op : Operation) :
    runOn c op =
      match op.statement? with
      | .error failure => .done (.error failure)
      | .ok none => .done (.ok .unit)
      | .ok (some statement) =>
        send c statement >>= fun verdict => .done (op.conclude verdict) := by
  cases op with
  | nativeQuery =>
      refine send_bind_congr fun verdict => ?_
      cases verdict <;> rfl
  | flush => rfl
  | joinTransaction => rfl
  | persist record | merge record | remove record =>
      simp only [runOn, change_eq, Operation.statement?]
      cases TableName.ofEntity record.entity with
      | error => rfl
      | ok => exact send_bind_congr fun verdict => by cases verdict <;> rfl
  | find key | contains key | refresh key =>
      simp only [runOn, fetch_eq, Operation.statement?]
      cases TableName.ofEntity key.entity with
      | error => rfl
      | ok =>
          simp only [Except.map, Task.bind_assoc]
          refine send_bind_congr fun verdict => ?_
          cases verdict with
          | error => rfl
          | ok answer =>
              simp only [Operation.conclude, Operation.outcome, Task.done_bind]
              rcases Operation.recordIn key answer with failure | _ | record <;> rfl

/-! ## Where an operation runs -/

/-- What running an operation on a connection does. -/
inductive Runs (connection : Connection) (operation : Operation) :
    List Exchange → Option (Except Failure Outcome) → Prop where
  | unnamed {failure : Failure} (sends : operation.statement? = .error failure) :
      Runs connection operation [] (some (.error failure))
  | unsent (sends : operation.statement? = .ok none) :
      Runs connection operation [] (some (.ok .unit))
  | answered {statement : Statement} (sends : operation.statement? = .ok (some statement))
      (verdict : Except DatabaseFailure ServerAnswer) :
      Runs connection operation [.sent connection statement verdict true]
        (some (operation.conclude verdict))
  | dropped {statement : Statement} (sends : operation.statement? = .ok (some statement))
      (verdict : Except DatabaseFailure ServerAnswer) :
      Runs connection operation [.sent connection statement verdict false] none

/-- What running an operation in a read-only transaction of its own does. -/
inductive RunsReadOnly (operation : Operation) :
    List Exchange → Option (Except Failure Outcome) → Prop where
  | openDropped {opened : List Exchange} (opens : Opens true opened none) :
      RunsReadOnly operation opened none
  | unopened {opened : List Exchange} {failure : DatabaseFailure}
      (opens : Opens true opened (some (.error failure))) :
      RunsReadOnly operation opened (some (.error (.database failure)))
  | runDropped {opened ran : List Exchange} {connection : Connection}
      (opens : Opens true opened (some (.ok connection)))
      (runs : Runs connection operation ran none) :
      RunsReadOnly operation (opened ++ (ran ++ [.discarded connection])) none
  | failed {opened ran : List Exchange} {connection : Connection} {failure : Failure}
      (opens : Opens true opened (some (.ok connection)))
      (runs : Runs connection operation ran (some (.error failure))) :
      RunsReadOnly operation (opened ++ (ran ++ [.discarded connection]))
        (some (.error failure))
  | ended {opened ran ending : List Exchange} {connection : Connection} {outcome : Outcome}
      {ended? : Option (Except DatabaseFailure Unit)}
      (opens : Opens true opened (some (.ok connection)))
      (runs : Runs connection operation ran (some (.ok outcome)))
      (ends : EndsBy connection .commit ending ended?) :
      RunsReadOnly operation (opened ++ (ran ++ ending))
        (ended?.map fun ended => (ended.mapError Failure.database).map fun _ => outcome)

/-- What running an operation on a connection of its own does. -/
inductive RunsPlain (operation : Operation) :
    List Exchange → Option (Except Failure Outcome) → Prop where
  | abandoned : RunsPlain operation [.asked none] none
  | unlent (failure : DatabaseFailure) :
      RunsPlain operation [.asked (some (.error failure))] (some (.error (.database failure)))
  | ran {ran : List Exchange} {connection : Connection} {v : Option (Except Failure Outcome)}
      (runs : Runs connection operation ran v) :
      RunsPlain operation (.asked (some (.ok connection)) :: (ran ++ [.released connection])) v

section Operations

variable {v : Option (Except Failure Outcome)}

theorem trades_runOn : Trades (runOn c op) (Runs c op) := by
  intro d v t
  rw [runOn_eq]
  cases hst : op.statement? with
  | error failure =>
      rw [Task.reaches_done]
      constructor
      · rintro ⟨rfl, rfl⟩
        exact ⟨[], .unnamed hst, (Desk.add_nil _).symm⟩
      · rintro ⟨new, h, rfl⟩
        cases h with
        | unnamed h => rw [hst] at h; cases h; exact ⟨rfl, Desk.add_nil _⟩
        | unsent h | answered h | dropped h => rw [hst] at h; cases h
  | ok st? =>
      cases st? with
      | none =>
          rw [Task.reaches_done]
          constructor
          · rintro ⟨rfl, rfl⟩
            exact ⟨[], .unsent hst, (Desk.add_nil _).symm⟩
          · rintro ⟨new, h, rfl⟩
            cases h with
            | unsent => exact ⟨rfl, Desk.add_nil _⟩
            | unnamed h | answered h | dropped h => rw [hst] at h; cases h
      | some st =>
          rw [Task.reaches_bind_done (g := op.conclude) fun _ => rfl]
          constructor
          · rintro ⟨r, hsent, rfl⟩
            obtain ⟨new, hsends, rfl⟩ := (trades_send ..).mp hsent
            cases hsends with
            | heard verdict => exact ⟨_, .answered hst verdict, rfl⟩
            | dropped verdict => exact ⟨_, .dropped hst verdict, rfl⟩
          · rintro ⟨new, h, rfl⟩
            cases h with
            | unnamed h | unsent h => rw [hst] at h; cases h
            | answered h verdict =>
                rw [hst] at h
                cases h
                exact ⟨_, (trades_send ..).mpr ⟨_, .heard verdict, rfl⟩, rfl⟩
            | dropped h verdict =>
                rw [hst] at h
                cases h
                exact ⟨_, (trades_send ..).mpr ⟨_, .dropped verdict, rfl⟩, rfl⟩

theorem trades_runReadOnly : Trades (runReadOnly op) (RunsReadOnly op) := by
  intro d v t
  rw [runReadOnly, trades_openTransaction.reaches_bind]
  constructor
  · rintro (⟨failure | c, opened, hopens, h⟩ | ⟨rfl, opened, hopens, rfl⟩)
    · obtain ⟨rfl, rfl⟩ := Task.reaches_done.mp h
      exact ⟨opened, .unopened hopens, rfl⟩
    · rw [(trades_runOn.guarded fun _ _ => reaches_discard).reaches_bind] at h
      rcases h with ⟨failure | outcome, _, ⟨ran, hruns, rfl⟩, h⟩ | ⟨rfl, _, ⟨ran, hruns, rfl⟩, rfl⟩
      · simp only [Option.isSome_some, if_true, List.append_nil, Task.liftM_eq_ofAction,
          reaches_discard_bind, Task.pure_eq_done, Task.reaches_done] at h
        obtain ⟨rfl, rfl⟩ := h
        exact ⟨_, .failed hopens hruns, by simp⟩
      · rw [Task.reaches_bind_done (g := fun ended => (ended.mapError Failure.database).map
          fun _ => outcome) (by rintro (_ | _) <;> rfl)] at h
        obtain ⟨ended?, hended, rfl⟩ := h
        obtain ⟨ending, hends, rfl⟩ := (trades_endTransaction ..).mp hended
        exact ⟨_, .ended hopens hruns hends, by simp⟩
      · exact ⟨_, .runDropped hopens hruns, by simp⟩
    · exact ⟨opened, .openDropped hopens, rfl⟩
  · rintro ⟨new, h, rfl⟩
    cases h with
    | openDropped hopens => exact Or.inr ⟨rfl, _, hopens, rfl⟩
    | unopened hopens => exact Or.inl ⟨_, _, hopens, Task.reaches_done.mpr ⟨rfl, rfl⟩⟩
    | runDropped hopens hruns =>
        refine Or.inl ⟨_, _, hopens, ?_⟩
        rw [(trades_runOn.guarded fun _ _ => reaches_discard).reaches_bind]
        exact Or.inr ⟨rfl, _, ⟨_, hruns, rfl⟩, by simp⟩
    | failed hopens hruns =>
        refine Or.inl ⟨_, _, hopens, ?_⟩
        rw [(trades_runOn.guarded fun _ _ => reaches_discard).reaches_bind]
        exact Or.inl ⟨_, _, ⟨_, hruns, rfl⟩, by simp⟩
    | @ended _ _ _ _ outcome _ hopens hruns hends =>
        refine Or.inl ⟨_, _, hopens, ?_⟩
        rw [(trades_runOn.guarded fun _ _ => reaches_discard).reaches_bind]
        refine Or.inl ⟨_, _, ⟨_, hruns, rfl⟩, ?_⟩
        rw [Task.reaches_bind_done (g := fun ended => (ended.mapError Failure.database).map
          fun _ => outcome) (by rintro (_ | _) <;> rfl)]
        exact ⟨_, (trades_endTransaction ..).mpr ⟨_, hends, by simp⟩, rfl⟩

theorem trades_runPlain : Trades (runPlain op) (RunsPlain op) := by
  intro d v t
  rw [runPlain, reaches_acquire_bind]
  constructor
  · rintro (⟨failure | c, h⟩ | ⟨rfl, rfl⟩)
    · obtain ⟨rfl, rfl⟩ := Task.reaches_done.mp h
      exact ⟨_, .unlent failure, rfl⟩
    · rw [(trades_runOn.guarded fun _ _ => reaches_release).reaches_bind] at h
      rcases h with ⟨result, _, ⟨ran, hruns, rfl⟩, h⟩ | ⟨rfl, _, ⟨ran, hruns, rfl⟩, rfl⟩
      · simp only [Option.isSome_some, if_true, List.append_nil, Task.liftM_eq_ofAction,
          reaches_release_bind, Task.pure_eq_done, Task.reaches_done] at h
        obtain ⟨rfl, rfl⟩ := h
        exact ⟨_, .ran hruns, by simp⟩
      · exact ⟨_, .ran hruns, by simp⟩
    · exact ⟨_, .abandoned, rfl⟩
  · rintro ⟨new, h, rfl⟩
    cases h with
    | abandoned => exact Or.inr ⟨rfl, rfl⟩
    | unlent failure => exact Or.inl ⟨.error failure, Task.reaches_done.mpr ⟨rfl, rfl⟩⟩
    | @ran _ c v hruns =>
        refine Or.inl ⟨.ok c, ?_⟩
        rw [(trades_runOn.guarded fun _ _ => reaches_release).reaches_bind]
        cases v with
        | none => exact Or.inr ⟨rfl, _, ⟨_, hruns, rfl⟩, by simp⟩
        | some result => exact Or.inl ⟨result, _, ⟨_, hruns, rfl⟩, by simp⟩

end Operations

/-! ## The calls of a handle -/

/-- What applying a policy does. -/
inductive Configures (session : Session) (options : SessionOptions) :
    Option (Except Failure Unit) → Session → Prop where
  | closed (closed : session.closed = true) :
      Configures session options (some (.error .handleClosed)) session
  | configured (isOpen : session.closed = false) :
      Configures session options (some (.ok ())) { session with options }

/-- What beginning a transaction does. -/
inductive Begins (session : Session) :
    List Exchange → Option (Except Failure Unit) → Session → Prop where
  | closed (closed : session.closed = true) :
      Begins session [] (some (.error .handleClosed)) session
  | busy (isOpen : session.closed = false) (busy : session.transaction.isSome = true) :
      Begins session [] (some (.error .transactionInProgress)) session
  | dropped (isOpen : session.closed = false) (idle : session.transaction = none)
      {opened : List Exchange} (opens : Opens session.options.readOnly opened none) :
      Begins session opened none session
  | failed (isOpen : session.closed = false) (idle : session.transaction = none)
      {opened : List Exchange} {failure : DatabaseFailure}
      (opens : Opens session.options.readOnly opened (some (.error failure))) :
      Begins session opened (some (.error (.database failure))) session
  | begun (isOpen : session.closed = false) (idle : session.transaction = none)
      {opened : List Exchange} {connection : Connection}
      (opens : Opens session.options.readOnly opened (some (.ok connection))) :
      Begins session opened (some (.ok ()))
        { session with transaction := some connection, active := true }

/-- What ending the transaction by this statement does; `failed` is how it fails. -/
inductive Ends (session : Session) (statement : Statement) (failed : String → Failure) :
    List Exchange → Option (Except Failure Unit) → Session → Prop where
  | idle (idle : session.transaction = none) :
      Ends session statement failed [] (some (.error (failed "no transaction in progress")))
        { session with active := false }
  | ended {connection : Connection} (busy : session.transaction = some connection)
      {ending : List Exchange} {ended? : Option (Except DatabaseFailure Unit)}
      (ends : EndsBy connection statement ending ended?) :
      Ends session statement failed ending
        (ended?.map fun ended => ended.mapError fun failure => failed failure.message)
        { session with transaction := none, active := false }

/-- What an operation does; the session stays as it is. -/
inductive Executes (session : Session) (operation : Operation) :
    List Exchange → Option (Except Failure Outcome) → Prop where
  | closed (closed : session.closed = true) :
      Executes session operation [] (some (.error .handleClosed))
  | inTransaction (isOpen : session.closed = false) {connection : Connection}
      (busy : session.transaction = some connection)
      {new : List Exchange} {v : Option (Except Failure Outcome)}
      (runs : Runs connection operation new v) : Executes session operation new v
  | readOnly (isOpen : session.closed = false) (idle : session.transaction = none)
      (only : session.options.readOnly = true)
      {new : List Exchange} {v : Option (Except Failure Outcome)}
      (runs : RunsReadOnly operation new v) : Executes session operation new v
  | plain (isOpen : session.closed = false) (idle : session.transaction = none)
      (plain : session.options.readOnly = false)
      {new : List Exchange} {v : Option (Except Failure Outcome)}
      (runs : RunsPlain operation new v) : Executes session operation new v

/-- What closing does. -/
inductive Closes (session : Session) : List Exchange → Session → Prop where
  | again (closed : session.closed = true) : Closes session [] session
  | idle (isOpen : session.closed = false) (idle : session.transaction = none) :
      Closes session [] { session with closed := true, active := false }
  | abandoned (isOpen : session.closed = false) {connection : Connection}
      (busy : session.transaction = some connection) :
      Closes session [.discarded connection]
        { session with closed := true, active := false, transaction := none }

section Calls

variable {v : Option (Except Failure Unit)}

theorem reaches_configure {options : SessionOptions} :
    (configure options).Reaches Desk.Step d v t ↔
      ∃ next, Configures d.session options v next ∧ t = { d with session := next } := by
  simp only [configure, Task.liftM_eq_ofAction, Task.pure_eq_done, reaches_get_bind]
  by_cases hclosed : d.session.closed = true
  · rw [if_pos hclosed, Task.reaches_done]
    constructor
    · rintro ⟨rfl, rfl⟩
      exact ⟨_, .closed hclosed, rfl⟩
    · rintro ⟨next, h, rfl⟩
      cases h with
      | closed => exact ⟨rfl, rfl⟩
      | configured hopen => rw [hclosed] at hopen; cases hopen
  · rw [if_neg hclosed, reaches_set_bind, Task.reaches_done]
    constructor
    · rintro ⟨rfl, rfl⟩
      exact ⟨_, .configured (eq_false_of_ne_true hclosed), rfl⟩
    · rintro ⟨next, h, rfl⟩
      cases h with
      | closed h => exact absurd h hclosed
      | configured => exact ⟨rfl, rfl⟩

/-- The lock is given back in the end, whether the routine was dropped or not. -/
theorem reaches_unlocking {α : Type} {x : Routine α} {v : Option α} :
    (x.guarded unlock >>= fun a => Task.ofAction unlock >>= fun _ => .done a).Reaches
        Desk.Step d v t ↔
      ∃ u, x.Reaches Desk.Step d v u ∧ t = u.withLock false := by
  rw [Task.reaches_bind]
  constructor
  · rintro (⟨a, w, hfirst, hrest⟩ | ⟨rfl, hfirst⟩)
    · rw [reaches_unlock_bind, Task.reaches_done] at hrest
      obtain ⟨rfl, rfl⟩ := hrest
      rcases Task.reaches_guarded.mp hfirst with ⟨-, h⟩ | ⟨hv, -⟩
      · exact ⟨w, h, rfl⟩
      · cases hv
    · rcases Task.reaches_guarded.mp hfirst with ⟨hv, -⟩ | ⟨-, u, h, hunlock⟩
      · exact absurd rfl hv
      · exact ⟨u, h, reaches_unlock.mp hunlock⟩
  · rintro ⟨u, h, rfl⟩
    cases v with
    | none =>
        exact Or.inr ⟨rfl, Task.reaches_guarded.mpr (Or.inr ⟨rfl, u, h, reaches_unlock.mpr rfl⟩)⟩
    | some a =>
        refine Or.inl ⟨a, u, Task.reaches_guarded.mpr (Or.inl ⟨Option.some_ne_none a, h⟩), ?_⟩
        rw [reaches_unlock_bind, Task.reaches_done]
        exact ⟨rfl, rfl⟩

/-- A session that was locked for a while is left as it was. -/
theorem relocked_eq (hfree : d.session.locked = false) (es : List Exchange) :
    ((d.withLock true).add es).withLock false = { session := d.session, past := d.past ++ es } := by
  rw [Desk.withLock_add, Desk.withLock_withLock, Desk.withLock_of_eq hfree]
  rfl

/-- The session that is left by a begin, from the one that is locked while it runs. -/
theorem begun_eq (hfree : d.session.locked = false) (es : List Exchange) (connection : Connection) :
    (⟨{ ((d.withLock true).add es).session with transaction := some connection, active := true },
      ((d.withLock true).add es).past⟩ : Desk).withLock false =
      { session := { d.session with transaction := some connection, active := true },
        past := d.past ++ es } := by
  obtain ⟨s, past⟩ := d
  cases s
  cases hfree
  rfl

theorem beginLocked_eq (readOnly : Bool) :
    beginLocked readOnly = Task.ofAction get >>= fun session =>
      if session.transaction.isSome then .done (.error .transactionInProgress)
      else openTransaction readOnly >>= fun
        | .error failure => .done (.error (.database failure))
        | .ok connection =>
          Task.ofAction (modify fun session =>
            { session with transaction := some connection, active := true }) >>= fun _ =>
          Task.ofAction (emit (.transactionStarted session.factory readOnly)) >>= fun _ =>
          .done (.ok ()) := rfl

theorem reaches_begin (hfree : d.session.locked = false) :
    begin.Reaches Desk.Step d v t ↔
      ∃ new next, Begins d.session new v next ∧
        t = { session := next, past := d.past ++ new } := by
  simp only [begin, Task.liftM_eq_ofAction, Task.pure_eq_done, reaches_get_bind]
  by_cases hclosed : d.session.closed = true
  · rw [if_pos hclosed, Task.reaches_done]
    constructor
    · rintro ⟨rfl, rfl⟩
      exact ⟨[], _, .closed hclosed, (Desk.add_nil t).symm⟩
    · rintro ⟨new, next, h, rfl⟩
      cases h with
      | closed => exact ⟨rfl, Desk.add_nil d⟩
      | busy h | dropped h | failed h | begun h => rw [hclosed] at h; cases h
  · have hopen : d.session.closed = false := eq_false_of_ne_true hclosed
    rw [if_neg hclosed, reaches_lock_bind hfree, reaches_unlocking]
    constructor
    · rintro ⟨u, h, rfl⟩
      rw [beginLocked_eq, reaches_get_bind, Desk.withLock_transaction] at h
      by_cases hbusy : d.session.transaction.isSome = true
      · rw [if_pos hbusy, Task.reaches_done] at h
        obtain ⟨rfl, rfl⟩ := h
        refine ⟨[], _, .busy hopen hbusy, ?_⟩
        rw [← relocked_eq hfree, Desk.add_nil]
      · have hidle : d.session.transaction = none := by simpa using hbusy
        rw [if_neg hbusy, trades_openTransaction.reaches_bind] at h
        rcases h with ⟨failure | c, opened, hopens, h⟩ | ⟨rfl, opened, hopens, rfl⟩
        · obtain ⟨rfl, rfl⟩ := Task.reaches_done.mp h
          exact ⟨opened, _, .failed hopen hidle hopens, relocked_eq hfree opened⟩
        · simp only [reaches_modify_bind, reaches_emit_bind, Task.reaches_done] at h
          obtain ⟨rfl, rfl⟩ := h
          exact ⟨opened, _, .begun hopen hidle hopens, begun_eq hfree opened c⟩
        · exact ⟨opened, _, .dropped hopen hidle hopens, relocked_eq hfree opened⟩
    · rintro ⟨new, next, h, rfl⟩
      cases h with
      | closed h => exact absurd h hclosed
      | busy _ hbusy =>
          refine ⟨d.withLock true, ?_, ?_⟩
          · rw [beginLocked_eq, reaches_get_bind, Desk.withLock_transaction, if_pos hbusy,
              Task.reaches_done]
            exact ⟨rfl, rfl⟩
          · rw [← relocked_eq hfree, Desk.add_nil]
      | dropped _ hidle hopens =>
          refine ⟨_, ?_, (relocked_eq hfree new).symm⟩
          rw [beginLocked_eq, reaches_get_bind, Desk.withLock_transaction, hidle]
          exact trades_openTransaction.reaches_bind.mpr (Or.inr ⟨rfl, new, hopens, rfl⟩)
      | failed _ hidle hopens =>
          refine ⟨_, ?_, (relocked_eq hfree new).symm⟩
          rw [beginLocked_eq, reaches_get_bind, Desk.withLock_transaction, hidle]
          exact trades_openTransaction.reaches_bind.mpr
            (Or.inl ⟨_, new, hopens, Task.reaches_done.mpr ⟨rfl, rfl⟩⟩)
      | @begun _ hidle _ c hopens =>
          refine ⟨_, ?_, (begun_eq hfree new c).symm⟩
          rw [beginLocked_eq, reaches_get_bind, Desk.withLock_transaction, hidle]
          refine trades_openTransaction.reaches_bind.mpr (Or.inl ⟨_, new, hopens, ?_⟩)
          show Task.Reaches Desk.Step (Task.ofAction (modify _) >>= _) _ _ _
          rw [reaches_modify_bind, reaches_emit_bind, Task.reaches_done]
          exact ⟨rfl, rfl⟩

/-- What the calls that end a transaction have in common. -/
def endBy (statement : Statement) (failed : String → Failure) : Routine (Except Failure Unit) := do
  match ← takeTransaction with
  | none => return .error (failed "no transaction in progress")
  | some connection =>
    match ← endTransaction connection statement with
    | .error failure => return .error (failed failure.message)
    | .ok () => return .ok ()

theorem commit_eq : commit = endBy .commit .commitFailed := rfl

theorem rollback_eq : rollback = endBy .rollback .rollbackFailed := rfl

theorem reaches_take_bind {α : Type} {f : Option Connection → Routine α} {v : Option α}
    (hfree : d.session.locked = false) :
    (takeTransaction >>= f).Reaches Desk.Step d v t ↔
      (f d.session.transaction).Reaches Desk.Step
        { d with session := { d.session with transaction := none, active := false } } v t := by
  have htake : (takeTransaction >>= f) =
      Task.ofAction (modify fun session => { session with active := false }) >>= fun _ =>
        lock >>= fun _ => Task.ofAction get >>= fun session =>
          Task.ofAction (set { session with transaction := none, locked := false }) >>= fun _ =>
            f session.transaction := rfl
  rw [htake, reaches_modify_bind, reaches_lock_bind, reaches_get_bind, reaches_set_bind]
  · simp only [Desk.withLock, hfree]
  · exact hfree

theorem reaches_endBy {failed : String → Failure} (hfree : d.session.locked = false) :
    (endBy st failed).Reaches Desk.Step d v t ↔
      ∃ new next, Ends d.session st failed new v next ∧
        t = { session := next, past := d.past ++ new } := by
  rw [endBy, reaches_take_bind hfree]
  cases hidle : d.session.transaction with
  | none =>
      rw [Task.pure_eq_done, Task.reaches_done]
      constructor
      · rintro ⟨rfl, rfl⟩
        exact ⟨_, _, .idle hidle, by simp [hidle]⟩
      · rintro ⟨new, next, h, rfl⟩
        cases h with
        | idle => exact ⟨rfl, by simp [hidle]⟩
        | ended hbusy => rw [hidle] at hbusy; cases hbusy
  | some c =>
      rw [Task.reaches_bind_done (g := fun ended : Except DatabaseFailure Unit =>
        ended.mapError fun failure => failed failure.message) (by rintro (_ | _) <;> rfl)]
      constructor
      · rintro ⟨ended?, hended, rfl⟩
        obtain ⟨ending, hends, rfl⟩ := (trades_endTransaction ..).mp hended
        exact ⟨_, _, .ended hidle hends, rfl⟩
      · rintro ⟨new, next, h, rfl⟩
        cases h with
        | idle h => rw [hidle] at h; cases h
        | ended hbusy hends =>
            rw [hidle] at hbusy
            cases hbusy
            exact ⟨_, (trades_endTransaction ..).mpr ⟨_, hends, rfl⟩, rfl⟩

theorem reaches_execute {v : Option (Except Failure Outcome)} (hfree : d.session.locked = false) :
    (execute op).Reaches Desk.Step d v t ↔ ∃ new, Executes d.session op new v ∧ t = d.add new := by
  simp only [execute, Task.liftM_eq_ofAction, Task.pure_eq_done, reaches_get_bind]
  by_cases hclosed : d.session.closed = true
  · rw [if_pos hclosed, Task.reaches_done]
    constructor
    · rintro ⟨rfl, rfl⟩
      exact ⟨[], .closed hclosed, (Desk.add_nil t).symm⟩
    · rintro ⟨new, h, rfl⟩
      cases h with
      | closed => exact ⟨rfl, Desk.add_nil d⟩
      | inTransaction h | readOnly h | plain h => rw [hclosed] at h; cases h
  · have hopen : d.session.closed = false := eq_false_of_ne_true hclosed
    rw [if_neg hclosed, reaches_lock_bind hfree, reaches_get_bind, Desk.withLock_transaction]
    cases htransaction : d.session.transaction with
    | some c =>
        dsimp only
        rw [reaches_unlocking]
        constructor
        · rintro ⟨u, h, rfl⟩
          obtain ⟨new, hruns, rfl⟩ := (trades_runOn ..).mp h
          exact ⟨new, .inTransaction hopen htransaction hruns, relocked_eq hfree new⟩
        · rintro ⟨new, h, rfl⟩
          cases h with
          | closed h => exact absurd h hclosed
          | inTransaction _ hbusy hruns =>
              rw [htransaction] at hbusy
              cases hbusy
              exact ⟨_, (trades_runOn ..).mpr ⟨new, hruns, rfl⟩, (relocked_eq hfree new).symm⟩
          | readOnly _ hidle | plain _ hidle => rw [htransaction] at hidle; cases hidle
    | none =>
        dsimp only
        rw [reaches_unlock_bind, Desk.withLock_withLock, Desk.withLock_of_eq hfree]
        show Task.Reaches Desk.Step
          (if d.session.options.readOnly then runReadOnly op else runPlain op) d v t ↔ _
        by_cases honly : d.session.options.readOnly = true
        · rw [if_pos honly, trades_runReadOnly]
          constructor
          · rintro ⟨new, hruns, rfl⟩
            exact ⟨new, .readOnly hopen htransaction honly hruns, rfl⟩
          · rintro ⟨new, h, rfl⟩
            cases h with
            | closed h => exact absurd h hclosed
            | inTransaction _ hbusy => rw [htransaction] at hbusy; cases hbusy
            | readOnly _ _ _ hruns => exact ⟨new, hruns, rfl⟩
            | plain _ _ hplain => rw [honly] at hplain; cases hplain
        · rw [if_neg honly, trades_runPlain]
          constructor
          · rintro ⟨new, hruns, rfl⟩
            exact ⟨new, .plain hopen htransaction (eq_false_of_ne_true honly) hruns, rfl⟩
          · rintro ⟨new, h, rfl⟩
            cases h with
            | closed h => exact absurd h hclosed
            | inTransaction _ hbusy => rw [htransaction] at hbusy; cases hbusy
            | readOnly _ _ h => exact absurd h honly
            | plain _ _ _ hruns => exact ⟨new, hruns, rfl⟩

theorem reaches_close {u : Option Unit} (hfree : d.session.locked = false) :
    (Task.ofAction close : Routine Unit).Reaches Desk.Step d u t ↔
      u = some () ∧ ∃ new next, Closes d.session new next ∧
        t = { session := next, past := d.past ++ new } := by
  have hclose : (Task.ofAction close : Routine Unit) = Task.ofAction get >>= fun session =>
      Task.ofAction (if session.closed then .done () else
        set { session with closed := true, active := false } >>= fun _ =>
          abandon { session with closed := true, active := false } >>= fun _ =>
            emit (.handleClosed session.factory)) := Task.ofAction_bind ..
  rw [hclose, reaches_get_bind]
  by_cases hclosed : d.session.closed = true
  · rw [if_pos hclosed, Task.ofAction_done, Task.reaches_done]
    constructor
    · rintro ⟨rfl, rfl⟩
      exact ⟨rfl, [], _, .again hclosed, (Desk.add_nil t).symm⟩
    · rintro ⟨rfl, new, next, h, rfl⟩
      cases h with
      | again => exact ⟨rfl, Desk.add_nil d⟩
      | idle h | abandoned h => rw [hclosed] at h; cases h
  · have hopen : d.session.closed = false := eq_false_of_ne_true hclosed
    have hemit : ∀ {e : Event} {b : Desk}, (Task.ofAction (emit e) : Routine Unit).Reaches
        Desk.Step b u t ↔ u = some () ∧ t = b := by
      intro e b
      exact reaches_perform.trans Task.reaches_done
    rw [if_neg hclosed, Task.ofAction_bind, reaches_set_bind, Task.ofAction_bind, abandon,
      if_neg (by simp [hfree])]
    cases htransaction : d.session.transaction with
    | none =>
        show (Task.ofAction (emit _) : Routine Unit).Reaches Desk.Step _ u t ↔ _
        rw [hemit]
        constructor
        · rintro ⟨rfl, rfl⟩
          exact ⟨rfl, [], _, .idle hopen htransaction, by simp [htransaction]⟩
        · rintro ⟨rfl, new, next, h, rfl⟩
          cases h with
          | again h => exact absurd h hclosed
          | idle => exact ⟨rfl, by simp [htransaction]⟩
          | abandoned _ hbusy => rw [htransaction] at hbusy; cases hbusy
    | some c =>
        rw [Task.ofAction_bind, Task.bind_assoc, reaches_set_bind, reaches_discard_bind, hemit]
        constructor
        · rintro ⟨rfl, rfl⟩
          exact ⟨rfl, _, _, .abandoned hopen htransaction, rfl⟩
        · rintro ⟨rfl, new, next, h, rfl⟩
          cases h with
          | again h => exact absurd h hclosed
          | idle _ hidle => rw [htransaction] at hidle; cases hidle
          | abandoned _ hbusy =>
              rw [htransaction] at hbusy
              cases hbusy
              exact ⟨rfl, rfl⟩

end Calls

end Session

/-! ## Orders -/

/-- The calls of a handle. -/
inductive Order where
  | configure (options : SessionOptions)
  | begin
  | commit
  | rollback
  | execute (operation : Operation)
  | close

namespace Order

/-- What a call returns. -/
abbrev Reply : Order → Type
  | .configure _ | .begin | .commit | .rollback => Except Failure Unit
  | .execute _ => Except Failure Outcome
  | .close => Unit

/-- What a call does. -/
def routine : (order : Order) → Session.Routine order.Reply
  | .configure options => Session.configure options
  | .begin => Session.begin
  | .commit => Session.commit
  | .rollback => Session.rollback
  | .execute operation => Session.execute operation
  | .close => .ofAction Session.close

/-- What passes in a call, and the session that it leaves. -/
def Conducts (session : Session) : (order : Order) →
    List Exchange → Option order.Reply → Session → Prop
  | .configure options, new, reply, next => new = [] ∧ session.Configures options reply next
  | .begin, new, reply, next => session.Begins new reply next
  | .commit, new, reply, next => session.Ends .commit .commitFailed new reply next
  | .rollback, new, reply, next => session.Ends .rollback .rollbackFailed new reply next
  | .execute operation, new, reply, next => session.Executes operation new reply ∧ next = session
  | .close, new, reply, next => reply = some () ∧ session.Closes new next

theorem reaches_routine {d t : Desk} {order : Order} {reply : Option order.Reply}
    (hfree : d.session.locked = false) :
    order.routine.Reaches Desk.Step d reply t ↔
      ∃ new next, order.Conducts d.session new reply next ∧
        t = { session := next, past := d.past ++ new } := by
  cases order with
  | configure options =>
      refine Session.reaches_configure.trans ?_
      constructor
      · rintro ⟨next, h, rfl⟩
        exact ⟨[], next, ⟨rfl, h⟩, by simp⟩
      · rintro ⟨_, next, ⟨rfl, h⟩, rfl⟩
        exact ⟨next, h, by simp⟩
  | begin => exact Session.reaches_begin hfree
  | commit =>
      rw [routine, Session.commit_eq]
      exact Session.reaches_endBy hfree
  | rollback =>
      rw [routine, Session.rollback_eq]
      exact Session.reaches_endBy hfree
  | execute operation =>
      refine (Session.reaches_execute hfree).trans ?_
      constructor
      · rintro ⟨new, h, rfl⟩
        exact ⟨new, _, ⟨h, rfl⟩, rfl⟩
      · rintro ⟨new, _, ⟨h, rfl⟩, rfl⟩
        exact ⟨new, h, rfl⟩
  | close =>
      refine (Session.reaches_close hfree).trans ?_
      constructor
      · rintro ⟨hreply, new, next, h, rfl⟩
        exact ⟨new, next, ⟨hreply, h⟩, rfl⟩
      · rintro ⟨new, next, ⟨hreply, h⟩, rfl⟩
        exact ⟨hreply, new, next, h, rfl⟩

end Order

/-- A call that was made: what was asked, and what was returned; there is no reply if
the caller was dropped. -/
structure Turn where
  order : Order
  reply : Option order.Reply

/-- The turn may lead from one desk to the other. -/
def Desk.Takes (before : Desk) (turn : Turn) (after : Desk) : Prop :=
  turn.order.routine.Reaches Desk.Step before turn.reply after

theorem Desk.takes_iff {before after : Desk} {turn : Turn}
    (hfree : before.session.locked = false) :
    before.Takes turn after ↔
      ∃ new next, turn.order.Conducts before.session new turn.reply next ∧
        after = { session := next, past := before.past ++ new } :=
  Order.reaches_routine hfree

end Postgres

end Demarcation
