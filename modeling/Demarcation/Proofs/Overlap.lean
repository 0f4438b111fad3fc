/-
Calls of a handle that overlap.

Two tasks may use one handle at a time, and closing it does not wait for anybody.
`Traffic` is a session with the calls that are in flight on it: a call goes on until
it waits, and then any other call may go on, or a new one may be made.

Closing ends a transaction that nobody uses, and a session that is closed begins no
other: this holds for ever if no begin was in flight when the session was closed
(`closed_for_good`).  A begin looks at the session before it waits, and not again.  So
one that was in flight then may still succeed, and the closed session has a
transaction (`begun_after_close`).  An operation that was in flight keeps its
transaction, and then a commit is still sent (`committed_after_close`).

What a call may do to a property of the session, however the others come in between, is
`Keeps`; it is read off the routine of the call, wait by wait.
-/
import Mathlib.Logic.Function.Basic
import Mathlib.Logic.Relation
import Demarcation.Proofs.Orders

namespace Demarcation.Postgres

/-! ## Many calls on one session -/

section Settle

variable {α : Type}

/-- The desk after the steps of an action. -/
def Desk.after (desk : Desk) : Action Session.vocabulary α → Desk
  | .done _ => desk
  | .perform command next => (desk.obey command).after (next (desk.answer command))

/-- Going on until the routine waits or ends. -/
def Desk.settle (desk : Desk) : Session.Routine α → Session.Routine α × Desk
  | .done value => (.done value, desk)
  | .perform command next => (desk.obey command).settle (next (desk.answer command))
  | .await call onDrop next => (.await call onDrop next, desk)

/-- What is left of a call when nobody waits for its reply any more. -/
def Desk.Loses (desk : Desk) : Session.Call → Desk → Prop
  | .unlocked, after => after = desk
  | .acquire, after => after = desk.add [.asked none]
  | .send connection statement, after =>
    ∃ verdict, after = desk.add [.sent connection statement verdict false]

end Settle

/-- A call in flight. -/
structure InFlight where
  order : Order
  rest : Session.Routine order.Reply

/-- A session with the calls that are in flight on it. -/
structure Traffic where
  desk : Desk
  calls : Nat → Option InFlight := fun _ => none

namespace Traffic

/-- What is left of call `i`, if anything. -/
def put (s : Traffic) (i : Nat) (call : Option InFlight) (desk : Desk) : Traffic :=
  { desk, calls := Function.update s.calls i call }

theorem calls_put_self (s : Traffic) (i : Nat) (call : Option InFlight) (desk : Desk) :
    (s.put i call desk).calls i = call := by
  show Function.update s.calls i call i = call
  rw [Function.update_self]

theorem calls_put_of_ne (s : Traffic) {i j : Nat} (hne : j ≠ i) (call : Option InFlight)
    (desk : Desk) : (s.put i call desk).calls j = s.calls j := by
  show Function.update s.calls i call j = s.calls j
  rw [Function.update_of_ne hne]

/-- Call `i` goes on with this routine. -/
def go (s : Traffic) (i : Nat) (order : Order) (routine : Session.Routine order.Reply)
    (desk : Desk) : Traffic :=
  s.put i (some ⟨order, (desk.settle routine).1⟩) (desk.settle routine).2

/-- Call `i` is made. -/
def make (s : Traffic) (i : Nat) (order : Order) : Traffic := s.go i order order.routine s.desk

/-- Call `i` is made, goes on, is dropped, or leaves with its reply. -/
inductive Moves (s : Traffic) (i : Nat) : Traffic → Prop where
  | call (free : s.calls i = none) (order : Order) : Moves s i (s.make i order)
  | reply {order : Order} {call : Session.Call} {onDrop : Action Session.vocabulary Unit}
      {next : Session.Reply call → Session.Routine order.Reply} {reply : Session.Reply call}
      {desk : Desk} (waits : s.calls i = some ⟨order, .await call onDrop next⟩)
      (step : s.desk.Step (.heard call reply) desk) : Moves s i (s.go i order (next reply) desk)
  | drop {order : Order} {call : Session.Call} {onDrop : Action Session.vocabulary Unit}
      {next : Session.Reply call → Session.Routine order.Reply} {desk : Desk}
      (waits : s.calls i = some ⟨order, .await call onDrop next⟩)
      (loses : s.desk.Loses call desk) : Moves s i (s.put i none (desk.after onDrop))
  | leave {order : Order} {reply : order.Reply}
      (ended : s.calls i = some ⟨order, .done reply⟩) : Moves s i (s.put i none s.desk)

/-- What comes later. -/
def Later : Traffic → Traffic → Prop :=
  Relation.ReflTransGen fun before after => ∃ i, before.Moves i after

end Traffic

/-! ## What a call keeps -/

section Keeps

variable {α β : Type} {I J : Session → Prop} {may : Session.Call → Prop} {d : Desk}

/-- Each step of the action keeps `I`. -/
def Desk.KeptBy (I : Session → Prop) (desk : Desk) : Action Session.vocabulary α → Prop
  | .done _ => True
  | .perform command next =>
    (I desk.session → I (desk.obey command).session) ∧
      Desk.KeptBy I (desk.obey command) (next (desk.answer command))

/-- Each step of the routine keeps `I`, and so does its cleanup; it waits for such calls
only, and ends as `post` says.  While it waits others may do anything that leaves `J`. -/
def Session.Keeps (I J : Session → Prop) (may : Session.Call → Prop) (post : α → Desk → Prop) :
    Session.Routine α → Desk → Prop
  | .done value, desk => post value desk
  | .perform command next, desk =>
    (I desk.session → I (desk.obey command).session) ∧
      Keeps I J may post (next (desk.answer command)) (desk.obey command)
  | .await call onDrop next, _ =>
    may call ∧ ∀ desk : Desk, J desk.session → Desk.KeptBy I desk onDrop ∧
      ∀ reply, Keeps I J may post (next reply) desk

namespace Desk

theorem KeptBy.after {x : Action Session.vocabulary α} (h : Desk.KeptBy I d x)
    (hd : I d.session) : I (d.after x).session := by
  induction x generalizing d with
  | done => exact hd
  | perform command next ih => exact ih _ h.2 (h.1 hd)

theorem keptBy_bind {x : Action Session.vocabulary α} {f : α → Action Session.vocabulary β}
    (hx : Desk.KeptBy I d x) (hf : ∀ a e, Desk.KeptBy I e (f a)) : Desk.KeptBy I d (x >>= f) := by
  induction x generalizing d with
  | done a => exact hf a d
  | perform command next ih => exact ⟨hx.1, ih _ hx.2⟩

end Desk

namespace Session

variable {post : β → Desk → Prop} {x : Routine α} {f : α → Routine β}

/-- From one wait to the next. -/
theorem Keeps.settle {post : α → Desk → Prop} (h : Keeps I J may post x d)
    (hd : I d.session) : I (d.settle x).2.session := by
  induction x generalizing d with
  | done value => exact hd
  | perform command next ih => exact ih _ h.2 (h.1 hd)
  | await call onDrop next => exact hd

/-- A routine that waits keeps `I` wherever it goes on. -/
theorem Keeps.rest {post : α → Prop} (h : Keeps I J may (fun a _ => post a) x d) (e : Desk) :
    Keeps I J may (fun a _ => post a) (d.settle x).1 e := by
  induction x generalizing d with
  | done value => exact h
  | perform command next ih => exact ih _ h.2
  | await call onDrop next => exact h

theorem Keeps.mono {post post' : α → Desk → Prop} (h : Keeps I J may post x d)
    (hpost : ∀ a e, post a e → post' a e) : Keeps I J may post' x d := by
  induction x generalizing d with
  | done value => exact hpost value d h
  | perform command next ih => exact ⟨h.1, ih _ h.2⟩
  | await call onDrop next ih =>
      refine ⟨h.1, ?_⟩
      intro e he
      exact ⟨(h.2 e he).1, fun reply => ih reply ((h.2 e he).2 reply)⟩

theorem keeps_bind :
    Keeps I J may post (x >>= f) d ↔ Keeps I J may (fun a e => Keeps I J may post (f a) e) x d := by
  induction x generalizing d with
  | done value => exact Iff.rfl
  | perform command next ih => exact and_congr Iff.rfl (ih _)
  | await call onDrop next ih =>
      refine and_congr Iff.rfl (forall₂_congr fun e _ => and_congr Iff.rfl ?_)
      exact forall_congr' fun reply => ih reply

theorem Keeps.guarded {post : α → Desk → Prop} {cleanup : Action vocabulary Unit}
    (h : Keeps I J may post x d) (hcleanup : ∀ e, Desk.KeptBy I e cleanup) :
    Keeps I J may post (x.guarded cleanup) d := by
  induction x generalizing d with
  | done value => exact h
  | perform command next ih => exact ⟨h.1, ih _ h.2⟩
  | await call onDrop next ih =>
      refine ⟨h.1, ?_⟩
      intro e he
      obtain ⟨honDrop, hnext⟩ := h.2 e he
      exact ⟨Desk.keptBy_bind honDrop fun _ => hcleanup, fun reply => ih reply (hnext reply)⟩

section Steps

variable {g : Session → Session} {r : Unit → Routine β}

@[simp] theorem keeps_get_bind {f : Session → Routine β} :
    Keeps I J may post (Task.ofAction get >>= f) d ↔ Keeps I J may post (f d.session) d :=
  and_iff_right id

@[simp] theorem keeps_set_bind {s : Session} :
    Keeps I J may post (Task.ofAction (set s) >>= r) d ↔
      (I d.session → I s) ∧ Keeps I J may post (r ()) { d with session := s } := Iff.rfl

@[simp] theorem keeps_modify_bind :
    Keeps I J may post (Task.ofAction (modify g) >>= r) d ↔
      (I d.session → I (g d.session)) ∧
        Keeps I J may post (r ()) { d with session := g d.session } :=
  and_iff_right id

@[simp] theorem keeps_unlock_bind :
    Keeps I J may post (Task.ofAction unlock >>= r) d ↔
      (I d.session → I { d.session with locked := false }) ∧
        Keeps I J may post (r ()) (d.withLock false) :=
  keeps_modify_bind

@[simp] theorem keeps_lock_bind :
    Keeps I J may post (lock >>= r) d ↔
      may .unlocked ∧ ∀ e : Desk, J e.session →
        (I e.session → I { e.session with locked := true }) ∧
          Keeps I J may post (r ()) (e.withLock true) := by
  refine and_congr Iff.rfl (forall₂_congr fun e _ => ?_)
  constructor
  · rintro ⟨-, h⟩
    exact keeps_modify_bind.mp (h ())
  · intro h
    exact ⟨trivial, fun _ => keeps_modify_bind.mpr h⟩

end Steps

end Session

end Keeps

/-! ## A session that stays closed -/

/-- A property of closed sessions that no call on a closed session ends. -/
structure Session.Lasting (I : Session → Prop) : Prop where
  closed : ∀ {s : Session}, I s → s.closed = true
  relock : ∀ {s : Session} (locked : Bool), I s → I { s with locked }
  lower : ∀ {s : Session}, I s → I { s with active := false }
  forget : ∀ {s : Session}, I s → I { s with transaction := none }

section Lasting

variable {I : Session → Prop} {d : Desk}

/-- Whatever others do, each step of the routine keeps `I`. -/
def Session.Lasts {α : Type} (I : Session → Prop) (x : Session.Routine α) (d : Desk) : Prop :=
  Session.Keeps I (fun _ => True) (fun _ => True) (fun _ _ => True) x d

namespace Session

variable {α β : Type} {x : Routine α} {f : α → Routine β} {c : Connection} {st : Statement}
  {op : Operation}

theorem lasts_done (a : α) : Lasts I (.done a) d := trivial

theorem Lasts.bind (hx : Lasts I x d) (hf : ∀ a e, Lasts I (f a) e) : Lasts I (x >>= f) d :=
  keeps_bind.mpr (hx.mono fun a e _ => hf a e)

theorem Lasts.guarded {cleanup : Action vocabulary Unit} (hx : Lasts I x d)
    (hcleanup : ∀ e, Desk.KeptBy I e cleanup) : Lasts I (x.guarded cleanup) d :=
  Keeps.guarded hx hcleanup

theorem lasts_send : Lasts I (send c st) d :=
  ⟨trivial, fun _ _ => ⟨trivial, fun _ => trivial⟩⟩

theorem lasts_acquire : Lasts I acquire d :=
  ⟨trivial, fun _ _ => ⟨trivial, fun _ => trivial⟩⟩

theorem keptBy_discard : Desk.KeptBy I d (discard c) := ⟨id, trivial⟩

theorem keptBy_release : Desk.KeptBy I d (release c) := ⟨id, trivial⟩

theorem Lasting.keptBy_unlock (h : Lasting I) : Desk.KeptBy I d unlock :=
  ⟨id, h.relock false, trivial⟩

theorem lasts_openTransaction {readOnly : Bool} : Lasts I (openTransaction readOnly) d := by
  refine lasts_acquire.bind ?_
  rintro (failure | c) e
  · exact trivial
  · refine (Lasts.guarded lasts_send fun _ => keptBy_discard).bind ?_
    rintro (failure | answer) e
    · exact ⟨id, trivial⟩
    · cases readOnly with
      | false => exact trivial
      | true =>
          refine (Lasts.guarded lasts_send fun _ => keptBy_discard).bind ?_
          rintro (failure | answer) e
          · exact ⟨id, trivial⟩
          · exact trivial

theorem lasts_endTransaction : Lasts I (endTransaction c st) d := by
  refine (Lasts.guarded lasts_send fun _ => keptBy_discard).bind ?_
  rintro (failure | answer) e
  · exact ⟨id, trivial⟩
  · exact ⟨id, trivial⟩

theorem lasts_runOn : Lasts I (runOn c op) d := by
  rw [runOn_eq]
  cases op.statement? with
  | error failure => exact trivial
  | ok st? =>
      cases st? with
      | none => exact trivial
      | some st => exact lasts_send.bind fun _ _ => trivial

theorem lasts_runReadOnly : Lasts I (runReadOnly op) d := by
  refine lasts_openTransaction.bind ?_
  rintro (failure | c) e
  · exact trivial
  · refine Lasts.bind (Lasts.guarded lasts_runOn fun _ => keptBy_discard) ?_
    rintro (failure | outcome) e
    · exact ⟨id, trivial⟩
    · refine lasts_endTransaction.bind ?_
      rintro (failure | ⟨⟩) e <;> exact trivial

theorem lasts_runPlain : Lasts I (runPlain op) d := by
  refine lasts_acquire.bind ?_
  rintro (failure | c) e
  · exact trivial
  · refine Lasts.bind (Lasts.guarded lasts_runOn fun _ => keptBy_release) ?_
    exact fun result e => ⟨id, trivial⟩

/-- Taking the transaction out of the session. -/
theorem Lasting.keeps_take_bind {J : Session → Prop} {may : Call → Prop} {post : β → Desk → Prop}
    {f : Option Connection → Routine β} (h : Lasting I) (hmay : may .unlocked)
    (hf : ∀ e : Desk, J e.session → ∀ e', Keeps I J may post (f e.session.transaction) e') :
    Keeps I J may post (takeTransaction >>= f) d := by
  have htake : (takeTransaction >>= f) =
      Task.ofAction (modify fun session => { session with active := false }) >>= fun _ =>
        lock >>= fun _ => Task.ofAction get >>= fun session =>
          Task.ofAction (set { session with transaction := none, locked := false }) >>= fun _ =>
            f session.transaction := rfl
  rw [htake, keeps_modify_bind, keeps_lock_bind]
  refine ⟨h.lower, hmay, ?_⟩
  intro e he
  rw [keeps_get_bind, keeps_set_bind]
  exact ⟨h.relock true, fun he => h.relock false (h.forget he), hf e he _⟩

theorem Lasting.lasts_endBy (h : Lasting I) {failed : String → Failure} :
    Lasts I (endBy st failed) d := by
  refine h.keeps_take_bind trivial fun e _ e' => ?_
  cases e.session.transaction with
  | none => exact trivial
  | some c =>
      refine lasts_endTransaction.bind ?_
      rintro (failure | ⟨⟩) e <;> exact trivial

theorem Lasting.lasts_execute (h : Lasting I) : Lasts I (execute op) d := by
  simp only [Lasts, execute, Task.liftM_eq_ofAction, Task.pure_eq_done, keeps_get_bind]
  by_cases hclosed : d.session.closed = true
  · rw [if_pos hclosed]
    exact trivial
  · rw [if_neg hclosed, keeps_lock_bind]
    refine ⟨trivial, ?_⟩
    intro e _
    refine ⟨h.relock true, keeps_get_bind.mpr ?_⟩
    cases (e.withLock true).session.transaction with
    | some c =>
        refine (lasts_runOn.guarded fun _ => h.keptBy_unlock).bind ?_
        exact fun result e => ⟨id, h.relock false, trivial⟩
    | none =>
        refine keeps_unlock_bind.mpr ⟨h.relock false, ?_⟩
        split
        · exact lasts_runReadOnly
        · exact lasts_runPlain

theorem Lasting.lasts_configure (h : Lasting I) {options : SessionOptions} :
    Lasts I (configure options) d := by
  simp only [Lasts, configure, Task.liftM_eq_ofAction, Task.pure_eq_done, keeps_get_bind]
  by_cases hclosed : d.session.closed = true
  · rw [if_pos hclosed]
    exact trivial
  · rw [if_neg hclosed, keeps_set_bind]
    exact ⟨fun hd => absurd (h.closed hd) hclosed, trivial⟩

theorem Lasting.lasts_abandon (h : Lasting I) (s : Session) (past : List Exchange) :
    Lasts I (Task.ofAction (abandon s)) ⟨s, past⟩ := by
  rw [abandon]
  split
  · exact trivial
  · cases s.transaction with
    | none => exact trivial
    | some c => exact ⟨h.forget, id, trivial⟩

theorem Lasting.lasts_close (h : Lasting I) : Lasts I (Task.ofAction close) d := by
  have hclose : (Task.ofAction close : Routine Unit) = Task.ofAction get >>= fun session =>
      Task.ofAction (if session.closed then .done () else
        set { session with closed := true, active := false } >>= fun _ =>
          abandon { session with closed := true, active := false } >>= fun _ =>
            emit (.handleClosed session.factory)) := Task.ofAction_bind ..
  rw [hclose, Lasts, keeps_get_bind]
  by_cases hclosed : d.session.closed = true
  · rw [if_pos hclosed]
    exact trivial
  · rw [if_neg hclosed, Task.ofAction_bind, keeps_set_bind]
    refine ⟨fun hd => absurd (h.closed hd) hclosed, ?_⟩
    rw [Task.ofAction_bind]
    exact Lasts.bind (h.lasts_abandon _ _) fun _ _ => ⟨id, trivial⟩

theorem lasts_begin (hclosed : d.session.closed = true) :
    Lasts I begin d := by
  simp only [Lasts, begin, Task.liftM_eq_ofAction, Task.pure_eq_done, keeps_get_bind]
  rw [if_pos hclosed]
  exact trivial

end Session

/-- No call but a begin ends the property, and on a closed session none does. -/
theorem Session.Lasting.lasts_routine (h : Session.Lasting I) {order : Order}
    (hbegin : order = .begin → d.session.closed = true) : Session.Lasts I order.routine d := by
  cases order with
  | configure options => exact h.lasts_configure
  | begin => exact Session.lasts_begin (hbegin rfl)
  | commit => exact h.lasts_endBy
  | rollback => exact h.lasts_endBy
  | execute operation => exact h.lasts_execute
  | close => exact h.lasts_close

end Lasting

/-! ## Every state of a session that is closed -/

/-- The session is closed and shows no transaction. -/
def Session.Shut (s : Session) : Prop := s.closed = true ∧ s.active = false

/-- The session is closed and has no transaction. -/
def Session.Gone (s : Session) : Prop := s.Shut ∧ s.transaction = none

theorem Session.lasting_shut : Session.Lasting Session.Shut where
  closed h := h.1
  relock _ h := h
  lower h := ⟨h.1, rfl⟩
  forget h := h

theorem Session.lasting_gone : Session.Lasting Session.Gone where
  closed h := h.1.1
  relock _ h := h
  lower h := ⟨⟨h.1.1, rfl⟩, h.2⟩
  forget h := ⟨h.1, rfl⟩

namespace Traffic

variable {s t u : Traffic} {i : Nat} {I : Session → Prop} {d : Desk}
  {P : Nat → InFlight → Prop}

/-- Every call in flight has the property. -/
def Every (P : Nat → InFlight → Prop) (s : Traffic) : Prop :=
  ∀ i call, s.calls i = some call → P i call

theorem Every.put {call? : Option InFlight} (h : Every P s)
    (hcall : ∀ call, call? = some call → P i call) : Every P (s.put i call? d) := by
  intro j call hj
  by_cases hij : j = i
  · subst hij
    rw [calls_put_self] at hj
    exact hcall call hj
  · rw [calls_put_of_ne s hij] at hj
    exact h j call hj

theorem Every.go {order : Order} {routine : Session.Routine order.Reply} (h : Every P s)
    (hcall : P i ⟨order, (d.settle routine).1⟩) : Every P (s.go i order routine d) := by
  refine h.put ?_
  rintro _ ⟨⟩
  exact hcall

theorem Every.forget (h : Every P s) : Every P (s.put i none d) := h.put nofun

/-- Whatever the call still does, it keeps `I`. -/
def Safe (I : Session → Prop) (call : InFlight) : Prop := ∀ e, Session.Lasts I call.rest e

/-- A begin that has not come to its end may do what the other calls may not. -/
def Tame (I : Session → Prop) (call : InFlight) : Prop := call.order ≠ .begin → Safe I call

/-- No begin is in flight that has not come to its end. -/
def NoBegin (s : Traffic) : Prop :=
  ∀ i rest, s.calls i = some ⟨.begin, rest⟩ → ∃ reply, rest = .done reply

theorem session_eq_of_heard {call : Session.Call} {reply : Session.Reply call} {e : Desk}
    (h : d.Step (.heard call reply) e) : e.session = d.session := by
  cases call with
  | unlocked => exact congrArg Desk.session h.2
  | acquire =>
      obtain rfl : e = d.add _ := h
      rfl
  | send connection statement =>
      obtain rfl : e = d.add _ := h
      rfl

theorem session_eq_of_loses {call : Session.Call} {e : Desk} (h : d.Loses call e) :
    e.session = d.session := by
  cases call with
  | unlocked => exact congrArg Desk.session h
  | acquire =>
      obtain rfl : e = d.add _ := h
      rfl
  | send connection statement =>
      obtain ⟨verdict, rfl⟩ := h
      rfl

/-- At any moment every call in flight is tame. -/
theorem Moves.tame (hI : Session.Lasting I) (h : s.Moves i t)
    (hs : s.Every fun _ call => Tame I call) : t.Every fun _ call => Tame I call := by
  cases h with
  | call free order =>
      -- The session may be open, and then a begin is what ends the property.
      refine hs.go fun hbegin => ?_
      exact Session.Keeps.rest (hI.lasts_routine fun h => absurd h hbegin)
  | @reply order call onDrop next reply desk waits step =>
      refine hs.go fun hbegin => ?_
      obtain ⟨-, hnext⟩ := hs i _ waits hbegin desk
      exact Session.Keeps.rest ((hnext desk trivial).2 reply)
  | drop => exact hs.forget
  | leave => exact hs.forget

/-- A property that lasts is kept by calls that are safe, and then all others are. -/
theorem Moves.safe (hI : Session.Lasting I) (h : s.Moves i t) (hsession : I s.desk.session)
    (hs : s.Every fun _ call => Safe I call) :
    I t.desk.session ∧ t.Every fun _ call => Safe I call := by
  cases h with
  | call free order =>
      have hlasts : Session.Lasts I order.routine s.desk :=
        hI.lasts_routine fun _ => hI.closed hsession
      exact ⟨hlasts.settle hsession, hs.go (Session.Keeps.rest hlasts)⟩
  | @reply order call onDrop next reply desk waits step =>
      obtain ⟨-, hnext⟩ := hs i _ waits desk
      have hlasts := (hnext desk trivial).2 reply
      rw [← session_eq_of_heard step] at hsession
      exact ⟨hlasts.settle hsession, hs.go (Session.Keeps.rest hlasts)⟩
  | @drop order call onDrop next desk waits loses =>
      -- The cleanup of the call was chosen when it began to wait, and runs on what is there now.
      obtain ⟨-, hnext⟩ := hs i _ waits desk
      rw [← session_eq_of_loses loses] at hsession
      exact ⟨(hnext desk trivial).1.after hsession, hs.forget⟩
  | leave => exact ⟨hsession, hs.forget⟩

/-- The reply of a commit that finds no transaction. -/
def unbegun : Except Failure Unit := .error (.commitFailed "no transaction in progress")

/-- Where there is no transaction the routine waits for the lock at most, and fails. -/
def Fails (routine : Session.Routine (Except Failure Unit)) (desk : Desk) : Prop :=
  Session.Keeps Session.Gone Session.Gone (· = .unlocked) (fun reply _ => reply = unbegun) routine
    desk

/-- If the call is a commit it has failed, or it waits for the lock and then fails. -/
def Futile (call : InFlight) : Prop :=
  ∀ rest, call = ⟨.commit, rest⟩ → rest = .done unbegun ∨
    ∃ onDrop next, rest = .await .unlocked onDrop next ∧
      ∀ e : Desk, e.session.Gone → ∀ reply, Fails (next reply) e

theorem fails_commit : Fails Session.commit d := by
  refine Session.lasting_gone.keeps_take_bind rfl fun e hgone e' => ?_
  rw [hgone.2]
  exact rfl

theorem Fails.futile {x : Session.Routine (Except Failure Unit)} (h : Fails x d) :
    Futile ⟨.commit, (d.settle x).1⟩ := by
  rintro _ ⟨⟩
  induction x generalizing d with
  | done value => exact Or.inl (congrArg Task.done h)
  | perform command next ih => exact ih _ h.2
  | await call onDrop next =>
      obtain ⟨rfl, hnext⟩ := h
      exact Or.inr ⟨onDrop, next, rfl, fun e he => (hnext e he).2⟩

theorem futile_of_ne {order : Order} {rest : Session.Routine order.Reply}
    (hne : order ≠ .commit) : Futile ⟨order, rest⟩ := by
  rintro _ ⟨⟩
  exact absurd rfl hne

/-- Where the transaction is gone, a commit that is made then is futile. -/
theorem Moves.futile {new : Nat → Prop} (h : s.Moves i t) (hgone : s.desk.session.Gone)
    (hs : s.Every fun j call => new j → Futile call) :
    t.Every fun j call => new j → Futile call := by
  cases h with
  | call free order =>
      refine hs.go fun _ => ?_
      by_cases hcommit : order = .commit
      · subst hcommit
        exact fails_commit.futile
      · exact futile_of_ne hcommit
  | @reply order call onDrop next reply desk waits step =>
      refine hs.go fun hnew => ?_
      by_cases hcommit : order = .commit
      · subst hcommit
        rw [← session_eq_of_heard step] at hgone
        obtain hdone | ⟨_, _, hawait, hfails⟩ := hs i _ waits hnew _ rfl
        · cases hdone
        · cases hawait
          exact (hfails desk hgone reply).futile
      · exact futile_of_ne hcommit
  | drop => exact hs.forget
  | leave => exact hs.forget

/-- Closing a session that is open. -/
theorem settle_close (hopen : d.session.closed = false) :
    (d.settle Order.close.routine).2.session.Shut ∧
      (d.session.locked = false → (d.settle Order.close.routine).2.session.Gone) := by
  obtain ⟨⟨factory, options, transaction, active, closed, locked⟩, past⟩ := d
  cases hopen
  cases locked <;> cases transaction
  · exact ⟨⟨rfl, rfl⟩, fun _ => ⟨⟨rfl, rfl⟩, rfl⟩⟩
  · exact ⟨⟨rfl, rfl⟩, fun _ => ⟨⟨rfl, rfl⟩, rfl⟩⟩
  · exact ⟨⟨rfl, rfl⟩, nofun⟩
  · exact ⟨⟨rfl, rfl⟩, nofun⟩

theorem Later.move (h : s.Later t) (hmoves : t.Moves i u) : s.Later u := .tail h ⟨i, hmoves⟩

theorem Later.idle (h : s.Later t) (hnone : ∀ i, t.calls i = none) :
    s.Later ⟨t.desk, fun _ => none⟩ := by
  obtain ⟨desk, calls⟩ := t
  obtain rfl : calls = fun _ => none := funext hnone
  exact h

/-- A property that lasts is never lost, if the calls in flight are safe. -/
theorem Later.safe (hI : Session.Lasting I) (h : s.Later t) (hsession : I s.desk.session)
    (hs : s.Every fun _ call => Safe I call) :
    I t.desk.session ∧ t.Every fun _ call => Safe I call := by
  induction h with
  | refl => exact ⟨hsession, hs⟩
  | tail _ hmoves ih =>
      obtain ⟨j, hmoves⟩ := hmoves
      exact hmoves.safe hI ih.1 ih.2

theorem Later.tame (hI : Session.Lasting I) (h : s.Later t)
    (hs : s.Every fun _ call => Tame I call) : t.Every fun _ call => Tame I call := by
  induction h with
  | refl => exact hs
  | tail _ hmoves ih =>
      obtain ⟨j, hmoves⟩ := hmoves
      exact hmoves.tame hI ih

theorem Later.futile {new : Nat → Prop} (h : s.Later t) (hgone : s.desk.session.Gone)
    (hsafe : s.Every fun _ call => Safe Session.Gone call)
    (hs : s.Every fun j call => new j → Futile call) :
    t.Every fun j call => new j → Futile call := by
  induction h with
  | refl => exact hs
  | tail hbefore hmoves ih =>
      obtain ⟨j, hmoves⟩ := hmoves
      exact hmoves.futile (Later.safe Session.lasting_gone hbefore hgone hsafe).1 ih

/-- Where no begin is in flight every call is safe. -/
theorem NoBegin.safe (hnone : s.NoBegin) (hs : s.Every fun _ call => Tame I call) :
    s.Every fun _ call => Safe I call := by
  rintro j ⟨order, rest⟩ hj
  by_cases hbegin : order = .begin
  · subst hbegin
    obtain ⟨reply, rfl⟩ := hnone j rest hj
    exact fun e => Session.lasts_done reply
  · exact hs j _ hj hbegin

section Closed

variable {factory : FactoryId}

/-- A property that lasts and that closing brings about holds from then on, if no begin
was in flight. -/
theorem lasts_of_close (hI : Session.Lasting I)
    (hs : Later ⟨.new factory, fun _ => none⟩ s) (hnone : s.NoBegin)
    (hclose : I (s.desk.settle Order.close.routine).2.session)
    (ht : (s.make i .close).Later t) :
    I t.desk.session ∧ t.Every fun _ call => Safe I call := by
  have hsafe : s.Every fun _ call => Safe I call := hnone.safe (hs.tame hI nofun)
  refine ht.safe hI hclose (hsafe.go ?_)
  exact Session.Keeps.rest (hI.lasts_close (d := s.desk))

/-- If no begin is in flight when a session is closed, it shows no transaction ever
after.  If nobody holds the lock either, it has none ever after, and a commit that is made
then fails and has not sent anything. -/
theorem closed_for_good (hs : Later ⟨.new factory, fun _ => none⟩ s)
    (hopen : s.desk.session.closed = false) (hnone : s.NoBegin)
    (ht : (s.make i .close).Later t) :
    t.desk.session.Shut ∧ (s.desk.session.locked = false →
      t.desk.session.transaction = none ∧ ∀ j u rest, t.calls j = none → t.Later u →
        u.calls j = some ⟨.commit, rest⟩ → rest = .done unbegun ∨
          ∃ onDrop next, rest = .await .unlocked onDrop next) := by
  obtain ⟨hshut, hgone⟩ := settle_close hopen
  refine ⟨(lasts_of_close Session.lasting_shut hs hnone hshut ht).1, fun hfree => ?_⟩
  obtain ⟨hgone, hsafe⟩ := lasts_of_close Session.lasting_gone hs hnone (hgone hfree) ht
  refine ⟨hgone.2, fun j u rest hj hu hrest => ?_⟩
  have hnew : t.Every fun k call => k = j → Futile call := by
    rintro k call hk rfl
    cases hj.symm.trans hk
  obtain hdone | ⟨onDrop, next, hawait, -⟩ := hu.futile hgone hsafe hnew j _ hrest rfl _ rfl
  · exact Or.inl hdone
  · exact Or.inr ⟨onDrop, next, hawait⟩

/-- A begin that was in flight when the session was closed may still succeed. -/
theorem begun_after_close (factory : FactoryId) (c : Connection) (answer : ServerAnswer) :
    ∃ past, Later ⟨.new factory, fun _ => none⟩
      ⟨⟨{ factory, transaction := some c, active := true, closed := true }, past⟩,
        fun _ => none⟩ := by
  have h : Later ⟨.new factory, fun _ => none⟩ _ := .move .refl (.call (i := 0) rfl .begin)
  replace h := h.move (@Moves.reply _ 0 .begin .unlocked _ _ () _ rfl ⟨rfl, rfl⟩)
  -- The begin has the lock and waits for the pool, so that closing finds no transaction.
  replace h := h.move (.call (i := 1) rfl .close)
  replace h := h.move (@Moves.leave _ 1 .close _ rfl)
  replace h := h.move (@Moves.reply _ 0 .begin .acquire _ _ (.ok c) _ rfl rfl)
  replace h := h.move (@Moves.reply _ 0 .begin (.send c .begin) _ _ (.ok answer) _ rfl rfl)
  replace h := h.move (@Moves.leave _ 0 .begin _ rfl)
  exact ⟨_, h.idle (by rintro (_ | _ | i) <;> rfl)⟩

/-- The session begins a transaction while nothing else happens. -/
theorem begun (factory : FactoryId) (c : Connection) (answer : ServerAnswer) :
    ∃ past, Later ⟨.new factory, fun _ => none⟩
      ⟨⟨{ factory, transaction := some c, active := true }, past⟩, fun _ => none⟩ := by
  have h : Later ⟨.new factory, fun _ => none⟩ _ := .move .refl (.call (i := 0) rfl .begin)
  replace h := h.move (@Moves.reply _ 0 .begin .unlocked _ _ () _ rfl ⟨rfl, rfl⟩)
  replace h := h.move (@Moves.reply _ 0 .begin .acquire _ _ (.ok c) _ rfl rfl)
  replace h := h.move (@Moves.reply _ 0 .begin (.send c .begin) _ _ (.ok answer) _ rfl rfl)
  replace h := h.move (@Moves.leave _ 0 .begin _ rfl)
  exact ⟨_, h.idle (by rintro (_ | i) <;> rfl)⟩

/-- An operation that is in flight when the session is closed keeps the transaction from
being taken away. -/
theorem kept_after_close (factory : FactoryId) (c : Connection) (answer : ServerAnswer)
    (sql : String) (past : List Exchange) :
    ∃ past', Later ⟨⟨{ factory, transaction := some c, active := true }, past⟩, fun _ => none⟩
      ⟨⟨{ factory, transaction := some c, closed := true }, past'⟩, fun _ => none⟩ := by
  have h : Later ⟨⟨{ factory, transaction := some c, active := true }, past⟩, fun _ => none⟩ _ :=
    .move .refl (.call (i := 0) rfl (.execute (.nativeQuery sql)))
  replace h := h.move (@Moves.reply _ 0 (.execute _) .unlocked _ _ () _ rfl ⟨rfl, rfl⟩)
  -- The operation has the lock, and closing does not wait for it.
  replace h := h.move (.call (i := 1) rfl .close)
  replace h := h.move (@Moves.leave _ 1 .close _ rfl)
  replace h := h.move (@Moves.reply _ 0 (.execute _) (.send c _) _ _ (.ok answer) _ rfl rfl)
  replace h := h.move (@Moves.leave _ 0 (.execute _) _ rfl)
  exact ⟨_, h.idle (by rintro (_ | _ | i) <;> rfl)⟩

/-- So a commit that is made after the session was closed may be sent. -/
theorem committed_after_close (factory : FactoryId) (c : Connection) (answer : ServerAnswer) :
    ∃ t onDrop next, Later ⟨.new factory, fun _ => none⟩ t ∧ t.desk.session.closed = true ∧
      t.calls 0 = some ⟨.commit, .await (.send c .commit) onDrop next⟩ := by
  obtain ⟨past, hbegun⟩ := begun factory c answer
  obtain ⟨_, hkept⟩ := kept_after_close factory c answer "" past
  have h : Later _ _ := .trans hbegun hkept
  replace h := h.move (.call (i := 0) rfl .commit)
  exact ⟨_, _, _, h.move (@Moves.reply _ 0 .commit .unlocked _ _ () _ rfl ⟨rfl, rfl⟩), rfl, rfl⟩

end Closed

end Traffic

end Demarcation.Postgres
