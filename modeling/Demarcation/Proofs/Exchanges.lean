/-
What passes between a session and its server.

Apart from its own state, a session has to do with a pool and a server: it asks
for a connection, sends statements over it, and gives it back.  These are its
exchanges.  A `Desk` is a session with the exchanges that it has had, and
`Desk.Step` says what each deed of a routine does to it.  Pool and server may
answer what they like.

For each routine a relation lists what passes when it runs, one constructor for
each way through it, and the routine reaches exactly that: `Opens`, `EndsBy`,
`Runs` and so on, and `Order.Conducts` for the calls of a handle.  These come one
after the other, so that the lock is free whenever a call begins; nobody waits
for it, and a call can be dropped only while it waits for the pool or the server.
-/
import Demarcation.Postgres.Session
import Demarcation.Proofs.Reaching

namespace Demarcation.Postgres

/-! ## Exchanges -/

/-- What passes between a session and the pool or the server. -/
inductive Exchange where
  /-- A connection was asked for; there is no reply if nobody waited for it. -/
  | asked (reply : Option (Except DatabaseFailure Connection))
  /-- A statement was sent.  The verdict is the server's, whether it was heard or
  not. -/
  | sent (connection : Connection) (statement : Statement)
      (verdict : Except DatabaseFailure ServerAnswer) (heard : Bool)
  /-- A connection was given back. -/
  | released (connection : Connection)
  /-- A connection was given back, to be rolled back before it is used again. -/
  | discarded (connection : Connection)

/-- A session with its exchanges so far. -/
structure Desk where
  session : Session
  past : List Exchange := []

namespace Desk

/-- A new session. -/
def new (factory : FactoryId) : Desk where
  session := { factory }

/-- The desk after further exchanges. -/
def add (desk : Desk) (exchanges : List Exchange) : Desk :=
  { desk with past := desk.past ++ exchanges }

/-- The desk with the lock held, or free. -/
def withLock (desk : Desk) (locked : Bool) : Desk :=
  { desk with session := { desk.session with locked } }

theorem withLock_of_eq {d : Desk} {locked : Bool} (h : d.session.locked = locked) :
    d.withLock locked = d := by
  obtain ⟨s, past⟩ := d
  cases s
  cases h
  rfl

@[simp] theorem withLock_withLock (d : Desk) (held locked : Bool) :
    (d.withLock held).withLock locked = d.withLock locked := rfl

@[simp] theorem withLock_transaction (d : Desk) (locked : Bool) :
    (d.withLock locked).session.transaction = d.session.transaction := rfl

@[simp] theorem withLock_add (d : Desk) (es : List Exchange) (locked : Bool) :
    (d.add es).withLock locked = (d.withLock locked).add es := rfl

@[simp] theorem add_session (d : Desk) (es : List Exchange) : (d.add es).session = d.session := rfl

@[simp] theorem add_past (d : Desk) (es : List Exchange) : (d.add es).past = d.past ++ es := rfl

@[simp] theorem add_nil (d : Desk) : d.add [] = d := by simp [add]

@[simp] theorem add_add (d : Desk) (es fs : List Exchange) :
    (d.add es).add fs = d.add (es ++ fs) := by
  simp [add]

end Desk

/-- A deed of a session. -/
abbrev SessionDeed : Type := Deed Session.vocabulary Session.calls

namespace Desk

/-- The answer to a command. -/
def answer (desk : Desk) : (command : Session.Command) → Session.Answer command
  | .get => desk.session
  | .set _ | .release _ | .discard _ | .emit _ => ()

/-- The desk after a command. -/
def obey (desk : Desk) : Session.Command → Desk
  | .get | .emit _ => desk
  | .set session => { desk with session }
  | .release connection => desk.add [.released connection]
  | .discard connection => desk.add [.discarded connection]

/-- What a deed does.  The lock is had as soon as it is free. -/
def Step (before : Desk) : SessionDeed → Desk → Prop
  | .did command answer, after => answer = before.answer command ∧ after = before.obey command
  | .heard .unlocked _, after => before.session.locked = false ∧ after = before
  | .lost .unlocked, after => before.session.locked = true ∧ after = before
  | .heard .acquire reply, after => after = before.add [.asked (some reply)]
  | .lost .acquire, after => after = before.add [.asked none]
  | .heard (.send connection statement) reply, after =>
    after = before.add [.sent connection statement reply true]
  | .lost (.send connection statement), after =>
    ∃ verdict, after = before.add [.sent connection statement verdict false]

end Desk

namespace Session

variable {d t : Desk} {c : Connection} {st : Statement} {α : Type} {v : Option α}

/-! ## One step at a time -/

section Steps

variable {u : Unit} {f : Unit → Routine α}

theorem reaches_perform {command : Command} {next : Answer command → Routine α} :
    (Task.perform command next : Routine α).Reaches Desk.Step d v t ↔
      (next (d.answer command)).Reaches Desk.Step (d.obey command) v t := by
  rw [Task.reaches_perform]
  constructor
  · rintro ⟨_, _, ⟨rfl, rfl⟩, h⟩
    exact h
  · intro h
    exact ⟨_, _, ⟨rfl, rfl⟩, h⟩

theorem action_reaches_perform {command : Command} {next : Answer command → Action vocabulary α}
    {a : α} :
    (Action.perform command next : Action vocabulary α).Reaches Desk.Step d a t ↔
      (next (d.answer command)).Reaches Desk.Step (d.obey command) a t := by
  rw [Action.reaches_perform]
  constructor
  · rintro ⟨_, _, ⟨rfl, rfl⟩, h⟩
    exact h
  · intro h
    exact ⟨_, _, ⟨rfl, rfl⟩, h⟩

theorem reaches_release :
    (release c).Reaches Desk.Step d u t ↔ t = d.add [.released c] := by
  rw [release, action_reaches_perform, Action.reaches_done]
  exact and_iff_right rfl

theorem reaches_discard :
    (discard c).Reaches Desk.Step d u t ↔ t = d.add [.discarded c] := by
  rw [discard, action_reaches_perform, Action.reaches_done]
  exact and_iff_right rfl

theorem reaches_unlock :
    unlock.Reaches Desk.Step d u t ↔ t = d.withLock false := by
  have hset : unlock = .perform .get fun session =>
      .perform (.set { session with locked := false }) .done := rfl
  rw [hset, action_reaches_perform, action_reaches_perform, Action.reaches_done]
  exact and_iff_right rfl

@[simp] theorem reaches_get_bind {f : Session → Routine α} :
    (Task.ofAction get >>= f).Reaches Desk.Step d v t ↔ (f d.session).Reaches Desk.Step d v t :=
  reaches_perform

@[simp] theorem reaches_set_bind {s : Session} :
    (Task.ofAction (set s) >>= f).Reaches Desk.Step d v t ↔
      (f ()).Reaches Desk.Step { d with session := s } v t :=
  reaches_perform

@[simp] theorem reaches_modify_bind {g : Session → Session} :
    (Task.ofAction (modify g) >>= f).Reaches Desk.Step d v t ↔
      (f ()).Reaches Desk.Step { d with session := g d.session } v t :=
  reaches_perform.trans reaches_perform

@[simp] theorem reaches_emit_bind {e : Event} :
    (Task.ofAction (emit e) >>= f).Reaches Desk.Step d v t ↔ (f ()).Reaches Desk.Step d v t :=
  reaches_perform

@[simp] theorem reaches_release_bind :
    (Task.ofAction (release c) >>= f).Reaches Desk.Step d v t ↔
      (f ()).Reaches Desk.Step (d.add [.released c]) v t :=
  reaches_perform

@[simp] theorem reaches_discard_bind :
    (Task.ofAction (discard c) >>= f).Reaches Desk.Step d v t ↔
      (f ()).Reaches Desk.Step (d.add [.discarded c]) v t :=
  reaches_perform

@[simp] theorem reaches_unlock_bind :
    (Task.ofAction unlock >>= f).Reaches Desk.Step d v t ↔
      (f ()).Reaches Desk.Step (d.withLock false) v t :=
  reaches_modify_bind

/-- A free lock is taken at once. -/
theorem reaches_lock_bind (hfree : d.session.locked = false) :
    (lock >>= f).Reaches Desk.Step d v t ↔
      (f ()).Reaches Desk.Step (d.withLock true) v t := by
  have hlock : (lock >>= f) = .await .unlocked (.done ()) fun _ =>
      Task.ofAction (modify fun session => { session with locked := true }) >>= f := rfl
  rw [hlock, Task.reaches_await]
  constructor
  · rintro (⟨_, _, ⟨-, rfl⟩, h⟩ | ⟨-, _, ⟨hheld, -⟩, -⟩)
    · exact reaches_modify_bind.mp h
    · rw [hfree] at hheld
      cases hheld
  · intro h
    exact Or.inl ⟨(), d, ⟨hfree, rfl⟩, reaches_modify_bind.mpr h⟩

end Steps

/-! ## Routines that only exchange -/

/-- The routine leaves the session alone, and `R` says what passes in it with each
result. -/
def Trades (routine : Routine α) (R : List Exchange → Option α → Prop) : Prop :=
  ∀ before result after, routine.Reaches Desk.Step before result after ↔
    ∃ new, R new result ∧ after = before.add new

/-- What sending a statement does. -/
inductive Sends (connection : Connection) (statement : Statement) :
    List Exchange → Option (Except DatabaseFailure ServerAnswer) → Prop where
  | heard (verdict : Except DatabaseFailure ServerAnswer) :
      Sends connection statement [.sent connection statement verdict true] (some verdict)
  | dropped (verdict : Except DatabaseFailure ServerAnswer) :
      Sends connection statement [.sent connection statement verdict false] none

theorem trades_send : Trades (send c st) (Sends c st) := by
  intro before result after
  rw [send, Task.reaches_await]
  simp only [Task.reaches_done, Action.reaches_done]
  constructor
  · rintro (⟨verdict, _, rfl, rfl, rfl⟩ | ⟨rfl, _, ⟨verdict, rfl⟩, -, rfl⟩)
    · exact ⟨_, .heard verdict, rfl⟩
    · exact ⟨_, .dropped verdict, rfl⟩
  · rintro ⟨new, h, rfl⟩
    cases h with
    | heard verdict => exact Or.inl ⟨verdict, _, rfl, rfl, rfl⟩
    | dropped verdict => exact Or.inr ⟨rfl, _, ⟨verdict, rfl⟩, trivial, rfl⟩

section Trades

variable {β : Type} {x : Routine α} {R : List Exchange → Option α → Prop} {f : α → Routine β}
  {w : Option β}

theorem Trades.reaches_bind (hx : Trades x R) :
    (x >>= f).Reaches Desk.Step d w t ↔
      (∃ a new, R new (some a) ∧ (f a).Reaches Desk.Step (d.add new) w t) ∨
      (w = none ∧ ∃ new, R new none ∧ t = d.add new) := by
  rw [Task.reaches_bind]
  constructor
  · rintro (⟨a, u, hfirst, hrest⟩ | ⟨rfl, hfirst⟩)
    · obtain ⟨new, hnew, rfl⟩ := (hx ..).mp hfirst
      exact Or.inl ⟨a, new, hnew, hrest⟩
    · exact Or.inr ⟨rfl, (hx ..).mp hfirst⟩
  · rintro (⟨a, new, hnew, hrest⟩ | ⟨rfl, hnew⟩)
    · exact Or.inl ⟨a, _, (hx ..).mpr ⟨new, hnew, rfl⟩, hrest⟩
    · exact Or.inr ⟨rfl, (hx ..).mpr hnew⟩

/-- A cleanup comes last, and only if the routine was dropped. -/
theorem Trades.reaches_guarded (hx : Trades x R) {cleanup : Action vocabulary Unit}
    {cleaned : Desk → Desk}
    (hcleanup : ∀ u t, cleanup.Reaches Desk.Step u () t ↔ t = cleaned u) :
    (x.guarded cleanup).Reaches Desk.Step d v t ↔
      ∃ new, R new v ∧ t = if v.isSome then d.add new else cleaned (d.add new) := by
  rw [Task.reaches_guarded]
  cases v with
  | some a =>
      simp only [ne_eq, Option.some_ne_none, not_false_iff, true_and, Option.isSome_some, if_true,
        false_and, or_false, hx _ _ _]
  | none =>
      simp only [ne_eq, not_true, false_and, true_and, false_or, Option.isSome_none,
        Bool.false_eq_true, if_false, hcleanup, hx _ _ _]
      constructor
      · rintro ⟨_, ⟨new, hnew, rfl⟩, rfl⟩
        exact ⟨new, hnew, rfl⟩
      · rintro ⟨new, hnew, rfl⟩
        exact ⟨_, ⟨new, hnew, rfl⟩, rfl⟩

theorem Trades.guarded (hx : Trades x R) {cleanup : Action vocabulary Unit} {last : List Exchange}
    (hcleanup : ∀ u t, cleanup.Reaches Desk.Step u () t ↔ t = u.add last) :
    Trades (x.guarded cleanup)
      fun new v => ∃ first, R first v ∧ new = first ++ if v.isSome then [] else last := by
  intro d v t
  rw [hx.reaches_guarded hcleanup]
  constructor
  · rintro ⟨new, hnew, rfl⟩
    refine ⟨_, ⟨new, hnew, rfl⟩, ?_⟩
    cases v <;> simp
  · rintro ⟨_, ⟨new, hnew, rfl⟩, rfl⟩
    refine ⟨new, hnew, ?_⟩
    cases v <;> simp

end Trades

@[simp] theorem reaches_acquire_bind {f : Except DatabaseFailure Connection → Routine α} :
    (acquire >>= f).Reaches Desk.Step d v t ↔
      (∃ reply, (f reply).Reaches Desk.Step (d.add [.asked (some reply)]) v t) ∨
      (v = none ∧ t = d.add [.asked none]) := by
  simp [acquire, Desk.Step]

/-- A statement after which the connection is discarded if its verdict is not heard. -/
@[simp] theorem reaches_send_bind {f : Except DatabaseFailure ServerAnswer → Routine α} :
    ((send c st).guarded (discard c) >>= f).Reaches Desk.Step d v t ↔
      (∃ verdict, (f verdict).Reaches Desk.Step (d.add [.sent c st verdict true]) v t) ∨
      (v = none ∧ ∃ verdict, t = d.add [.sent c st verdict false, .discarded c]) := by
  rw [(trades_send.guarded fun _ _ => reaches_discard).reaches_bind]
  constructor
  · rintro (⟨verdict, _, ⟨_, hsends, rfl⟩, h⟩ | ⟨rfl, _, ⟨_, hsends, rfl⟩, rfl⟩)
    · cases hsends
      exact Or.inl ⟨verdict, h⟩
    · cases hsends with
      | dropped verdict => exact Or.inr ⟨rfl, verdict, rfl⟩
  · rintro (⟨verdict, h⟩ | ⟨rfl, verdict, rfl⟩)
    · exact Or.inl ⟨verdict, _, ⟨_, .heard verdict, rfl⟩, h⟩
    · exact Or.inr ⟨rfl, _, ⟨_, .dropped verdict, rfl⟩, rfl⟩

/-! ## Transactions -/

/-- What opening a transaction does. -/
inductive Opens (readOnly : Bool) :
    List Exchange → Option (Except DatabaseFailure Connection) → Prop where
  | abandoned : Opens readOnly [.asked none] none
  | unlent (failure : DatabaseFailure) :
      Opens readOnly [.asked (some (.error failure))] (some (.error failure))
  | beginDropped (connection : Connection) (verdict : Except DatabaseFailure ServerAnswer) :
      Opens readOnly [.asked (some (.ok connection)), .sent connection .begin verdict false,
        .discarded connection] none
  | beginRefused (connection : Connection) (failure : DatabaseFailure) :
      Opens readOnly [.asked (some (.ok connection)),
        .sent connection .begin (.error failure) true, .released connection]
        (some (.error failure))
  | begun (connection : Connection) (answer : ServerAnswer) (plain : readOnly = false) :
      Opens readOnly [.asked (some (.ok connection)), .sent connection .begin (.ok answer) true]
        (some (.ok connection))
  | setDropped (connection : Connection) (answer : ServerAnswer) (only : readOnly = true)
      (verdict : Except DatabaseFailure ServerAnswer) :
      Opens readOnly [.asked (some (.ok connection)), .sent connection .begin (.ok answer) true,
        .sent connection .setReadOnly verdict false, .discarded connection] none
  | setRefused (connection : Connection) (answer : ServerAnswer) (only : readOnly = true)
      (failure : DatabaseFailure) :
      Opens readOnly [.asked (some (.ok connection)), .sent connection .begin (.ok answer) true,
        .sent connection .setReadOnly (.error failure) true, .discarded connection]
        (some (.error failure))
  | begunReadOnly (connection : Connection) (answer : ServerAnswer) (only : readOnly = true)
      (confirmation : ServerAnswer) :
      Opens readOnly [.asked (some (.ok connection)), .sent connection .begin (.ok answer) true,
        .sent connection .setReadOnly (.ok confirmation) true] (some (.ok connection))

/-- What ending a transaction by this statement does. -/
inductive EndsBy (connection : Connection) (statement : Statement) :
    List Exchange → Option (Except DatabaseFailure Unit) → Prop where
  | dropped (verdict : Except DatabaseFailure ServerAnswer) :
      EndsBy connection statement
        [.sent connection statement verdict false, .discarded connection] none
  | refused (failure : DatabaseFailure) :
      EndsBy connection statement
        [.sent connection statement (.error failure) true, .discarded connection]
        (some (.error failure))
  | ended (answer : ServerAnswer) :
      EndsBy connection statement
        [.sent connection statement (.ok answer) true, .released connection] (some (.ok ()))

theorem trades_openTransaction {readOnly : Bool} :
    Trades (openTransaction readOnly) (Opens readOnly) := by
  intro d v t
  constructor
  · intro h
    simp only [openTransaction, reaches_acquire_bind] at h
    rcases h with ⟨failure | c, h⟩ | ⟨rfl, rfl⟩
    · obtain ⟨rfl, rfl⟩ := Task.reaches_done.mp h
      exact ⟨_, .unlent failure, rfl⟩
    · simp only [reaches_send_bind] at h
      rcases h with ⟨failure | a, h⟩ | ⟨rfl, verdict, rfl⟩
      · simp only [Task.liftM_eq_ofAction, reaches_release_bind, Task.pure_eq_done,
          Task.reaches_done] at h
        obtain ⟨rfl, rfl⟩ := h
        exact ⟨_, .beginRefused c failure, by simp⟩
      · cases hro : readOnly with
        | false =>
            simp only [hro, Bool.false_eq_true, if_false, Task.pure_eq_done,
              Task.reaches_done] at h
            obtain ⟨rfl, rfl⟩ := h
            exact ⟨_, .begun c a rfl, by simp⟩
        | true =>
            simp only [hro, if_true, reaches_send_bind] at h
            rcases h with ⟨failure | b, h⟩ | ⟨rfl, verdict, rfl⟩
            · simp only [Task.liftM_eq_ofAction, reaches_discard_bind, Task.pure_eq_done,
                Task.reaches_done] at h
              obtain ⟨rfl, rfl⟩ := h
              exact ⟨_, .setRefused c a rfl failure, by simp⟩
            · obtain ⟨rfl, rfl⟩ := Task.reaches_done.mp h
              exact ⟨_, .begunReadOnly c a rfl b, by simp⟩
            · exact ⟨_, .setDropped c a rfl verdict, by simp⟩
      · exact ⟨_, .beginDropped c verdict, by simp⟩
    · exact ⟨_, .abandoned, rfl⟩
  · rintro ⟨new, h, rfl⟩
    simp only [openTransaction, reaches_acquire_bind]
    cases h with
    | abandoned => exact Or.inr ⟨rfl, rfl⟩
    | unlent failure => exact Or.inl ⟨.error failure, Task.reaches_done.mpr ⟨rfl, rfl⟩⟩
    | beginDropped c verdict =>
        refine Or.inl ⟨.ok c, ?_⟩
        simp only [reaches_send_bind]
        exact Or.inr ⟨trivial, verdict, by simp⟩
    | beginRefused c failure =>
        refine Or.inl ⟨.ok c, ?_⟩
        simp only [reaches_send_bind]
        exact Or.inl ⟨.error failure, by simp⟩
    | begun c a hro =>
        refine Or.inl ⟨.ok c, ?_⟩
        simp only [reaches_send_bind]
        exact Or.inl ⟨.ok a, by simp [hro]⟩
    | setDropped c a hro verdict =>
        refine Or.inl ⟨.ok c, ?_⟩
        simp only [reaches_send_bind]
        refine Or.inl ⟨.ok a, ?_⟩
        simp only [hro, if_true, reaches_send_bind]
        exact Or.inr ⟨trivial, verdict, by simp⟩
    | setRefused c a hro failure =>
        refine Or.inl ⟨.ok c, ?_⟩
        simp only [reaches_send_bind]
        refine Or.inl ⟨.ok a, ?_⟩
        simp only [hro, if_true, reaches_send_bind]
        exact Or.inl ⟨.error failure, by simp⟩
    | begunReadOnly c a hro b =>
        refine Or.inl ⟨.ok c, ?_⟩
        simp only [reaches_send_bind]
        refine Or.inl ⟨.ok a, ?_⟩
        simp only [hro, if_true, reaches_send_bind]
        exact Or.inl ⟨.ok b, by simp⟩

theorem trades_endTransaction : Trades (endTransaction c st) (EndsBy c st) := by
  intro d v t
  simp only [endTransaction, reaches_send_bind]
  constructor
  · rintro (⟨failure | a, h⟩ | ⟨rfl, verdict, rfl⟩)
    · simp only [Task.liftM_eq_ofAction, reaches_discard_bind, Task.pure_eq_done,
        Task.reaches_done] at h
      obtain ⟨rfl, rfl⟩ := h
      exact ⟨_, .refused failure, by simp⟩
    · simp only [Task.liftM_eq_ofAction, reaches_release_bind, Task.pure_eq_done,
        Task.reaches_done] at h
      obtain ⟨rfl, rfl⟩ := h
      exact ⟨_, .ended a, by simp⟩
    · exact ⟨_, .dropped verdict, rfl⟩
  · rintro ⟨new, h, rfl⟩
    cases h with
    | dropped verdict => exact Or.inr ⟨rfl, verdict, rfl⟩
    | refused failure => exact Or.inl ⟨.error failure, by simp⟩
    | ended a => exact Or.inl ⟨.ok a, by simp⟩

end Session

end Demarcation.Postgres
