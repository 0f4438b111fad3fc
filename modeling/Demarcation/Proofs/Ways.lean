/-
The ways an operation takes.

A session runs an operation in its transaction, in a read-only transaction of its own, or
on a connection of its own.  `Session.execute_eq` cuts the routine in two: `connect` comes
to a connection, one way or another, without a look at the operation, and `Way.use` runs
the operation there and gives the connection back.  So what an operation sends, and what it
makes of the reply, is the same in every way.

All this is said of traces, whatever the session, the pool and the server answer.  So it
holds in every state of a session, and also where other calls of the handle come in between.
-/
import Demarcation.Proofs.Visits

namespace Demarcation.Postgres

/-- Where an operation is run. -/
inductive Way where
  /-- In the transaction of the session. -/
  | inTransaction
  /-- In a read-only transaction of its own. -/
  | readOnly
  /-- On a connection of its own. -/
  | plain
deriving DecidableEq

namespace Session

/-- Come to the connection on which an operation is run. -/
def connect : Routine (Except Failure (Way × Connection)) := do
  let session ← get
  if session.closed then
    return .error .handleClosed
  else
    lock
    let session ← get
    match session.transaction with
    | some connection => return .ok (.inTransaction, connection)
    | none =>
      unlock
      if session.options.readOnly then
        match ← openTransaction true with
        | .error failure => return .error (.database failure)
        | .ok connection => return .ok (.readOnly, connection)
      else
        match ← acquire with
        | .error failure => return .error (.database failure)
        | .ok connection => return .ok (.plain, connection)

end Session

namespace Way

open Session

/-- What is done when the operation is dropped. -/
def cleanup (connection : Connection) : Way → Action vocabulary Unit
  | .inTransaction => unlock
  | .readOnly => discard connection
  | .plain => release connection

/-- What is done after the operation. -/
def settle (connection : Connection) : Way → Except Failure Outcome →
    Routine (Except Failure Outcome)
  | .inTransaction, result => do
    unlock
    return result
  | .readOnly, .error failure => do
    discard connection
    return .error failure
  | .readOnly, .ok outcome => do
    match ← endTransaction connection .commit with
    | .error failure => return .error (.database failure)
    | .ok () => return .ok outcome
  | .plain, result => do
    release connection
    return result

/-- Run an operation on the connection, and give the connection back. -/
def use (way : Way) (connection : Connection) (operation : Operation) :
    Routine (Except Failure Outcome) := do
  let result ← (runOn connection operation).guarded (way.cleanup connection)
  way.settle connection result

end Way

namespace Session

variable {operation : Operation} {c : Connection} {ds : List SessionDeed}

theorem execute_eq (operation : Operation) :
    execute operation = connect >>= fun
      | .error failure => .done (.error failure)
      | .ok (way, connection) => way.use connection operation := by
  -- `connect` asks what `execute` asks, so they branch alike, and each branch ends in one way.
  simp only [execute, connect, Task.bind_assoc]
  refine congrArg (_ >>= ·) (funext fun session => ?_)
  cases session.closed with
  | true => rfl
  | false =>
      simp only [Bool.false_eq_true, if_false, Task.bind_assoc]
      refine congrArg (_ >>= ·) (funext fun _ => congrArg (_ >>= ·) (funext fun session => ?_))
      cases session.transaction with
      | some connection => rfl
      | none =>
          simp only [Task.bind_assoc]
          refine congrArg (_ >>= ·) (funext fun _ => ?_)
          cases session.options.readOnly with
          | true =>
              simp only [if_true, runReadOnly, Task.bind_assoc]
              refine congrArg (_ >>= ·) (funext fun opened => ?_)
              cases opened with
              | error => rfl
              | ok connection =>
                  refine congrArg (_ >>= ·) (funext fun result => ?_)
                  cases result <;> rfl
          | false =>
              simp only [Bool.false_eq_true, if_false, runPlain, Task.bind_assoc]
              refine congrArg (_ >>= ·) (funext fun lent => ?_)
              cases lent <;> rfl

end Session

/-! ## What is sent -/

/-- The statement that is sent in a deed. -/
def SessionDeed.statement? : SessionDeed → Option Statement
  | .heard (.send _ statement) _ | .lost (.send _ statement) => some statement
  | _ => none

/-- A statement with the verdict of the server on it. -/
def SessionDeed.verdict? :
    SessionDeed → Option (Statement × Except DatabaseFailure ServerAnswer)
  | .heard (.send _ statement) verdict => some (statement, verdict)
  | _ => none

/-- The statements that are sent for the operation itself, and not to control a
transaction. -/
def ownStatements (deeds : List SessionDeed) : List Statement :=
  deeds.filterMap fun deed => (SessionDeed.statement? deed).filter fun st => !st.isControl

/-- The verdicts on these statements. -/
def ownVerdicts (deeds : List SessionDeed) :
    List (Statement × Except DatabaseFailure ServerAnswer) :=
  deeds.filterMap fun deed => (SessionDeed.verdict? deed).filter fun given => !given.1.isControl

/-- No statement is sent in the deed but one of these. -/
def SessionDeed.SendsOnly (allowed : Statement → Prop) (deed : SessionDeed) : Prop :=
  ∀ st, SessionDeed.statement? deed = some st → allowed st

section Own

variable {ds es : List SessionDeed} {allowed : Statement → Prop}

@[simp] theorem ownStatements_append (ds es : List SessionDeed) :
    ownStatements (ds ++ es) = ownStatements ds ++ ownStatements es :=
  List.filterMap_append

@[simp] theorem ownVerdicts_append (ds es : List SessionDeed) :
    ownVerdicts (ds ++ es) = ownVerdicts ds ++ ownVerdicts es :=
  List.filterMap_append

theorem ownStatements_heard {c : Connection} {st : Statement} (h : st.isControl = false)
    (verdict : Except DatabaseFailure ServerAnswer) :
    ownStatements [.heard (.send c st) verdict] = [st] :=
  List.filterMap_cons_some (Option.filter_eq_some_iff.mpr ⟨rfl, by simp [h]⟩)

theorem ownStatements_lost {c : Connection} {st : Statement} (h : st.isControl = false) :
    ownStatements [.lost (.send c st)] = [st] :=
  List.filterMap_cons_some (Option.filter_eq_some_iff.mpr ⟨rfl, by simp [h]⟩)

theorem ownVerdicts_heard {c : Connection} {st : Statement} (h : st.isControl = false)
    (verdict : Except DatabaseFailure ServerAnswer) :
    ownVerdicts [.heard (.send c st) verdict] = [(st, verdict)] :=
  List.filterMap_cons_some (Option.filter_eq_some_iff.mpr ⟨rfl, by simp [h]⟩)

theorem SessionDeed.statement?_of_verdict? {d : SessionDeed} {st : Statement}
    {verdict : Except DatabaseFailure ServerAnswer}
    (h : SessionDeed.verdict? d = some (st, verdict)) : SessionDeed.statement? d = some st := by
  rcases d with _ | ⟨_ | _ | _, _⟩ | (_ | _ | _) <;> cases h
  rfl

/-- Where only transactions are controlled, there is nothing of the operation. -/
theorem own_of_control (hallowed : ∀ st, allowed st → st.isControl = true)
    (hds : ∀ d ∈ ds, SessionDeed.SendsOnly allowed d) :
    ownStatements ds = [] ∧ ownVerdicts ds = [] := by
  constructor
  · refine List.filterMap_eq_nil_iff.mpr fun d hd => Option.filter_eq_none_iff.mpr ?_
    intro st hst
    simp [hallowed st (hds d hd st hst)]
  · refine List.filterMap_eq_nil_iff.mpr fun d hd => Option.filter_eq_none_iff.mpr ?_
    rintro ⟨st, verdict⟩ hgiven
    simp [hallowed st (hds d hd st (SessionDeed.statement?_of_verdict? hgiven))]

end Own

namespace Session

variable {α : Type} {allowed : Statement → Prop} {earlier : List SessionDeed} {c : Connection}
  {st : Statement}

/-- The routine sends only such statements. -/
def SendsOnly (allowed : Statement → Prop) (x : Routine α) : Prop :=
  ∀ ds v, x.Traces ds v → ∀ d ∈ ds, SessionDeed.SendsOnly allowed d

theorem sendsOnly_done (a : α) : SendsOnly allowed (.done a : Routine α) := by
  intro ds v htraces
  obtain ⟨rfl, -⟩ := Task.traces_done.mp htraces
  exact List.forall_mem_nil _

theorem sendsOnly_of_action {x : Action vocabulary α} {ds : List SessionDeed} {a : α}
    (h : x.Traces ds a) : ∀ d ∈ ds, SessionDeed.SendsOnly allowed d := by
  induction h with
  | done => exact List.forall_mem_nil _
  | perform _ ih => exact List.forall_mem_cons.mpr ⟨(fun _ hst => nomatch hst), ih⟩

theorem own_of_action {x : Action vocabulary α} {ds : List SessionDeed} {a : α}
    (h : x.Traces ds a) : ownStatements ds = [] ∧ ownVerdicts ds = [] := by
  have hsilent : ∀ d ∈ ds, SessionDeed.SendsOnly (fun _ => False) d := sendsOnly_of_action h
  exact own_of_control (fun _ hst => hst.elim) hsilent

theorem sendsOnly_ofAction (x : Action vocabulary α) :
    SendsOnly allowed (Task.ofAction x : Routine α) := by
  intro ds v htraces
  obtain ⟨a, -, h⟩ := Task.traces_ofAction.mp htraces
  exact sendsOnly_of_action h

theorem SendsOnly.bind {β : Type} {x : Routine α} {f : α → Routine β} (hx : SendsOnly allowed x)
    (hf : ∀ a, SendsOnly allowed (f a)) : SendsOnly allowed (x >>= f) := by
  intro ds v htraces
  rcases Task.traces_bind.mp htraces with ⟨a, first, rest, rfl, hfirst, hrest⟩ | ⟨h, -⟩
  · exact List.forall_mem_append.mpr ⟨hx first _ hfirst, hf a rest v hrest⟩
  · exact hx ds _ h

theorem SendsOnly.guarded {x : Routine α} (hx : SendsOnly allowed x)
    (cleanup : Action vocabulary Unit) : SendsOnly allowed (x.guarded cleanup) := by
  intro ds v htraces
  rcases Task.traces_guarded.mp htraces with ⟨-, h⟩ | ⟨-, first, last, rfl, hfirst, hlast⟩
  · exact hx ds v h
  · exact List.forall_mem_append.mpr ⟨hx first _ hfirst, sendsOnly_of_action hlast⟩

theorem sendsOnly_await {call : Call} (hcall : ∀ r, SessionDeed.SendsOnly allowed (.heard call r))
    (hlost : SessionDeed.SendsOnly allowed (.lost call)) :
    SendsOnly allowed (.await call (.done ()) .done) := by
  intro ds v htraces
  rcases Task.traces_call.mp htraces with ⟨r, rfl, -⟩ | ⟨rfl, -⟩
  · exact List.forall_mem_singleton.mpr (hcall r)
  · exact List.forall_mem_singleton.mpr hlost

theorem sendsOnly_acquire : SendsOnly allowed acquire :=
  sendsOnly_await (fun _ _ hst => nomatch hst) fun _ hst => nomatch hst

theorem sendsOnly_lock : SendsOnly allowed lock := by
  have hwait : SendsOnly allowed (.await .unlocked (.done ()) .done : Routine Unit) :=
    sendsOnly_await (fun _ _ hst => nomatch hst) fun _ hst => nomatch hst
  exact hwait.bind fun _ => sendsOnly_ofAction _

theorem sendsOnly_send (h : allowed st) : SendsOnly allowed (send c st) := by
  refine sendsOnly_await ?_ ?_
  · rintro r _ ⟨⟩
    exact h
  · rintro _ ⟨⟩
    exact h

/-! ## Coming to a connection -/

/-- A statement that comes before the operation. -/
def Prepares (st : Statement) : Prop := st = .begin ∨ st = .setReadOnly

theorem isControl_of_prepares (st : Statement) (h : Prepares st) : st.isControl = true := by
  rcases h with rfl | rfl <;> rfl

theorem sendsOnly_openTransaction : SendsOnly Prepares (openTransaction true) := by
  refine sendsOnly_acquire.bind fun lent => ?_
  cases lent with
  | error => exact sendsOnly_done _
  | ok c =>
      refine ((sendsOnly_send (Or.inl rfl)).guarded _).bind fun begun => ?_
      cases begun with
      | error => exact (sendsOnly_ofAction _).bind fun _ => sendsOnly_done _
      | ok =>
          refine ((sendsOnly_send (Or.inr rfl)).guarded _).bind fun restricted => ?_
          cases restricted with
          | error => exact (sendsOnly_ofAction _).bind fun _ => sendsOnly_done _
          | ok => exact sendsOnly_done _

theorem sendsOnly_connect : SendsOnly Prepares connect := by
  refine (sendsOnly_ofAction _).bind fun session => ?_
  cases session.closed with
  | true => exact sendsOnly_done _
  | false =>
      refine sendsOnly_lock.bind fun _ => (sendsOnly_ofAction _).bind fun session => ?_
      cases session.transaction with
      | some => exact sendsOnly_done _
      | none =>
          refine (sendsOnly_ofAction _).bind fun _ => ?_
          cases session.options.readOnly with
          | true =>
              refine sendsOnly_openTransaction.bind fun opened => ?_
              cases opened <;> exact sendsOnly_done _
          | false =>
              refine sendsOnly_acquire.bind fun lent => ?_
              cases lent <;> exact sendsOnly_done _

/-- Coming to a connection sends nothing of the operation. -/
theorem own_of_connect {ds : List SessionDeed}
    {reached : Option (Except Failure (Way × Connection))} (h : connect.Traces ds reached) :
    ownStatements ds = [] ∧ ownVerdicts ds = [] :=
  own_of_control isControl_of_prepares (sendsOnly_connect ds reached h)

/-! ### Where there is none -/

/-- Whenever the routine ends, `post` holds of its deeds and of its value. -/
def Ensures (post : List SessionDeed → α → Prop) (x : Routine α) : Prop :=
  ∀ ds a, x.Traces ds (some a) → post ds a

variable {β : Type} {post : List SessionDeed → α → Prop} {goal : List SessionDeed → β → Prop}

theorem ensures_true (x : Routine α) : Ensures (fun _ _ => True) x := fun _ _ _ => trivial

theorem ensures_done {a : α} (h : post [] a) : Ensures post (.done a) := by
  intro ds b htraces
  obtain ⟨rfl, hb⟩ := Task.traces_done.mp htraces
  cases hb
  exact h

theorem Ensures.bind {x : Routine α} {f : α → Routine β} (hx : Ensures post x)
    (hf : ∀ a first, post first a → Ensures (fun rest => goal (first ++ rest)) (f a)) :
    Ensures goal (x >>= f) := by
  intro ds b htraces
  rcases Task.traces_bind.mp htraces with ⟨a, first, rest, rfl, hfirst, hrest⟩ | ⟨-, hb⟩
  · exact hf a first (hx first a hfirst) rest b hrest
  · cases hb

theorem ensures_call {call : Call} (cleanup : Action vocabulary Unit) :
    Ensures (fun ds r => .heard call r ∈ ds)
      ((Task.await call (.done ()) .done : Routine (Reply call)).guarded cleanup) := by
  intro ds r htraces
  rcases Task.traces_guarded.mp htraces with ⟨-, h⟩ | ⟨hnone, -⟩
  · rcases Task.traces_call.mp h with ⟨_, rfl, hr⟩ | ⟨-, hr⟩ <;> cases hr
    exact List.mem_singleton_self _
  · cases hnone

theorem ensures_acquire : Ensures (fun ds r => .heard .acquire r ∈ ds) acquire := by
  intro ds r htraces
  rcases Task.traces_call.mp htraces with ⟨_, rfl, hr⟩ | ⟨-, hr⟩ <;> cases hr
  exact List.mem_singleton_self _

theorem ensures_get : Ensures (fun ds session => .did .get session ∈ ds) (Task.ofAction get) := by
  intro ds session htraces
  obtain ⟨_, hv, h⟩ := Task.traces_ofAction.mp htraces
  cases hv
  obtain ⟨_, _, rfl, hdone⟩ := Action.traces_perform.mp h
  obtain ⟨rfl, rfl⟩ := Action.traces_done.mp hdone
  exact List.mem_singleton_self _

/-- Why there is no connection to run an operation on. -/
inductive Unconnected (deeds : List SessionDeed) : Failure → Prop where
  | closed {session : Session} (seen : .did .get session ∈ deeds)
      (closed : session.closed = true) : Unconnected deeds .handleClosed
  | unlent {failure : DatabaseFailure} (replied : .heard .acquire (.error failure) ∈ deeds) :
      Unconnected deeds (.database failure)
  | refused (connection : Connection) {statement : Statement} {failure : DatabaseFailure}
      (prepares : Prepares statement)
      (replied : .heard (.send connection statement) (.error failure) ∈ deeds) :
      Unconnected deeds (.database failure)

variable {ds es : List SessionDeed} {failure : Failure}

theorem Unconnected.mono (h : Unconnected ds failure) (hsub : ds ⊆ es) :
    Unconnected es failure := by
  cases h with
  | closed hseen hclosed => exact .closed (hsub hseen) hclosed
  | unlent hreplied => exact .unlent (hsub hreplied)
  | refused c hprepares hreplied => exact .refused c hprepares (hsub hreplied)

theorem ensures_openTransaction :
    Ensures (fun ds r => ∀ cause, r = .error cause → Unconnected ds (.database cause))
      (openTransaction true) := by
  refine ensures_acquire.bind fun lent asked hlent => ?_
  cases lent with
  | error =>
      refine ensures_done ?_
      rintro _ ⟨⟩
      exact .unlent (by simp [hlent])
  | ok c =>
      refine (ensures_call _).bind fun begun sent hbegun => ?_
      cases begun with
      | error =>
          refine (ensures_true _).bind fun _ _ _ => ensures_done ?_
          rintro _ ⟨⟩
          exact .refused c (Or.inl rfl) (by simp [hbegun])
      | ok =>
          refine (ensures_call _).bind fun set sent hset => ?_
          cases set with
          | error =>
              refine (ensures_true _).bind fun _ _ _ => ensures_done ?_
              rintro _ ⟨⟩
              exact .refused c (Or.inr rfl) (by simp [hset])
          | ok =>
              refine ensures_done ?_
              rintro _ ⟨⟩

theorem ensures_connect :
    Ensures (fun ds r => ∀ failure, r = .error failure → Unconnected ds failure) connect := by
  refine ensures_get.bind fun session _ hseen => ?_
  cases hclosed : session.closed with
  | true =>
      refine ensures_done ?_
      rintro _ ⟨⟩
      exact .closed (by simp [hseen]) hclosed
  | false =>
      refine (ensures_true _).bind fun _ _ _ => (ensures_true _).bind fun session _ _ => ?_
      cases session.transaction with
      | some =>
          refine ensures_done ?_
          rintro _ ⟨⟩
      | none =>
          refine (ensures_true _).bind fun _ _ _ => ?_
          cases session.options.readOnly with
          | true =>
              refine ensures_openTransaction.bind fun opened _ hopened => ?_
              cases opened with
              | error cause =>
                  refine ensures_done ?_
                  rintro _ ⟨⟩
                  exact (hopened cause rfl).mono fun d hd => by simp [hd]
              | ok =>
                  refine ensures_done ?_
                  rintro _ ⟨⟩
          | false =>
              refine ensures_acquire.bind fun lent _ hlent => ?_
              cases lent with
              | error =>
                  refine ensures_done ?_
                  rintro _ ⟨⟩
                  exact .unlent (by simp [hlent])
              | ok =>
                  refine ensures_done ?_
                  rintro _ ⟨⟩

end Session

end Demarcation.Postgres
