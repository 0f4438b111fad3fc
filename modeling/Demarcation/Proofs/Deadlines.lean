/-
Routines against the clock.

A `Pace` says what the surroundings answer and reply, and how long each reply takes, if it
comes at all.  It fixes what a routine does when nothing hurries it: the calls that it makes
(`Task.plan`) and the value that it comes to, if it comes to one (`Task.outcome?`).

Under a limit the routine does the same as long as there is time.  If its calls take less
than the limit altogether, it makes all of them and comes to its value
(`Task.within_of_fits`); if they take more, the limit passes, and the calls that were made
are those that begin before the limit (`Task.within_of_late`).  When a reply comes at the
very moment of the limit, either may happen; `Pace.Apart` says that none does.
-/
import Mathlib.Data.ENat.Basic
import Demarcation.Proofs.Checkups
import Demarcation.Proofs.Forwarding

namespace Demarcation

/-- What the surroundings do: what they answer at once, and what they reply to a call and
after how long, if ever. -/
structure Pace (V : Vocabulary) (C : Calls) where
  answer : (command : V.Command) → V.Answer command
  reply? : (call : C.Call) → Option (C.Reply call × Duration)

variable {V : Vocabulary} {C : Calls} {α β : Type}

namespace Pace

variable (pace : Pace V C)

/-- What is replied to a call, if anything ever is. -/
def says? (call : C.Call) : Option (C.Reply call) := (pace.reply? call).map Prod.fst

/-- How long a call takes. -/
def delay (call : C.Call) : ℕ∞ :=
  match pace.reply? call with
  | none => ⊤
  | some (_, taken) => taken.nanoseconds

/-- How long these calls take, one after the other. -/
def elapsed (calls : List C.Call) : ℕ∞ := (calls.map pace.delay).sum

/-- The deed is what the surroundings do: a reply is heard in time if it comes before the
time is up, and missed if it comes after that.

A reply at the very moment of the limit may be heard or missed.  A real clock ticks in whole
milliseconds, and what is due between two ticks is due at the later one
(`Rehearsal.Stage.measured`); so a reply and a limit that fall on the same tick meet there,
even if they lie less than a millisecond apart.  The lengths of a pace are meant in the
clock's own measure. -/
def Allows : Deed V C.timed → Prop
  | .did command answer => answer = pace.answer command
  | .heard (left, call) (some (reply, taken)) =>
    pace.reply? call = some (reply, taken) ∧ taken.nanoseconds ≤ left.nanoseconds
  | .heard (left, call) none => (left.nanoseconds : ℕ∞) ≤ pace.delay call
  | .lost _ => False

@[simp] theorem elapsed_nil : pace.elapsed [] = 0 := rfl

@[simp] theorem elapsed_cons (call : C.Call) (calls : List C.Call) :
    pace.elapsed (call :: calls) = pace.delay call + pace.elapsed calls := by
  simp [elapsed]

end Pace

/-! ## What is done without haste -/

namespace Task

variable (pace : Pace V C)

/-- The calls of the routine; there is none after one that nobody replies to. -/
def plan : Task V C α → List C.Call
  | .done _ => []
  | .perform command next => (next (pace.answer command)).plan
  | .await call _ next => call ::
    match pace.says? call with
    | none => []
    | some reply => (next reply).plan

/-- The value of the routine, if each of its calls is replied to. -/
def outcome? : Task V C α → Option α
  | .done value => some value
  | .perform command next => (next (pace.answer command)).outcome?
  | .await call _ next =>
    match pace.says? call with
    | none => none
    | some reply => (next reply).outcome?

theorem outcome?_bind (x : Task V C α) (f : α → Task V C β) :
    (x >>= f).outcome? pace = (x.outcome? pace).bind fun a => (f a).outcome? pace := by
  induction x with
  | done a => rfl
  | perform c next ih => exact ih _
  | await call onDrop next ih =>
      simp only [await_bind, outcome?]
      cases pace.says? call with
      | none => rfl
      | some reply => exact ih reply

theorem plan_bind (x : Task V C α) (f : α → Task V C β) :
    (x >>= f).plan pace =
      x.plan pace ++ ((x.outcome? pace).elim [] fun a => (f a).plan pace) := by
  induction x with
  | done a => rfl
  | perform c next ih => exact ih _
  | await call onDrop next ih =>
      simp only [await_bind, plan, outcome?]
      cases pace.says? call with
      | none => rfl
      | some reply => simp only [ih reply, List.cons_append]

end Task

/-! ## What is done under a limit -/

/-- The call that is made in a deed. -/
def Deed.call? : Deed V C.timed → Option C.Call
  | .did .. => none
  | .heard (_, call) _ | .lost (_, call) => some call

/-- The calls that are made, in order. -/
def made (deeds : List (Deed V C.timed)) : List C.Call := deeds.filterMap Deed.call?

@[simp] theorem made_did (command : V.Command) (answer : V.Answer command)
    (ds : List (Deed V C.timed)) : made (.did command answer :: ds) = made ds := rfl

@[simp] theorem made_heard (left : Duration) (call : C.Call)
    (reply : Option (C.Reply call × Duration)) (ds : List (Deed V C.timed)) :
    made (.heard (left, call) reply :: ds) = call :: made ds := rfl

theorem made_append (ds es : List (Deed V C.timed)) : made (ds ++ es) = made ds ++ made es :=
  List.filterMap_append

/-- None of these calls ends at the very moment of the limit; for a clock with coarse ticks,
none ends on the same tick. -/
def Pace.Apart (pace : Pace V C) (limit : Duration) (calls : List C.Call) : Prop :=
  ∀ n < calls.length, pace.elapsed (calls.take (n + 1)) ≠ limit.nanoseconds

/-- The first `n` of these calls are those that begin before the limit; the first one of all
begins in any case. -/
def Pace.Begins (pace : Pace V C) (limit : Duration) (calls : List C.Call) (n : ℕ) : Prop :=
  ∀ i < calls.length, i < n ↔ i = 0 ∨ pace.elapsed (calls.take i) < limit.nanoseconds

section Clock

variable {pace : Pace V C} {limit taken : Duration} {call : C.Call} {calls : List C.Call}
  {reply : C.Reply call}

/-- Later calls have what the first one leaves of the limit. -/
theorem Duration.remaining_compare (h : taken.nanoseconds ≤ limit.nanoseconds) (t : ℕ∞) :
    ((taken.nanoseconds : ℕ∞) + t < limit.nanoseconds ↔
        t < (limit.remaining taken).nanoseconds) ∧
      ((limit.nanoseconds : ℕ∞) < taken.nanoseconds + t ↔
        ((limit.remaining taken).nanoseconds : ℕ∞) < t) ∧
      ((taken.nanoseconds : ℕ∞) + t = limit.nanoseconds ↔
        t = (limit.remaining taken).nanoseconds) := by
  have hleft : (limit.remaining taken).nanoseconds = limit.nanoseconds - taken.nanoseconds := rfl
  generalize (limit.remaining taken).nanoseconds = left at hleft
  induction t using ENat.recTopCoe with
  | top => simp
  | coe t =>
      norm_cast
      omega

theorem Pace.delay_of_reply (h : pace.reply? call = some (reply, taken)) :
    pace.delay call = taken.nanoseconds := by
  simp [delay, h]

theorem Pace.says_of_reply (h : pace.reply? call = some (reply, taken)) :
    pace.says? call = some reply := by
  simp [says?, h]

theorem Pace.Apart.lt (h : pace.Apart limit (call :: calls))
    (hreply : pace.reply? call = some (reply, taken))
    (hle : taken.nanoseconds ≤ limit.nanoseconds) : taken.nanoseconds < limit.nanoseconds := by
  have hne := h 0 (Nat.zero_lt_succ _)
  simp only [Nat.zero_add, List.take_succ_cons, List.take_zero, elapsed_cons, elapsed_nil,
    add_zero, delay_of_reply hreply, ne_eq, Nat.cast_inj] at hne
  omega

theorem Pace.Apart.tail (h : pace.Apart limit (call :: calls))
    (hreply : pace.reply? call = some (reply, taken))
    (hle : taken.nanoseconds ≤ limit.nanoseconds) : pace.Apart (limit.remaining taken) calls := by
  intro n hn
  have hne := h (n + 1) (Nat.succ_lt_succ hn)
  rw [List.take_succ_cons, elapsed_cons, delay_of_reply hreply] at hne
  exact mt (Duration.remaining_compare hle _).2.2.mpr hne

/-- The first call begins, and the others begin in the time that it leaves. -/
theorem Pace.Begins.cons {n : ℕ} (h : pace.Begins (limit.remaining taken) calls n)
    (hreply : pace.reply? call = some (reply, taken))
    (hlt : taken.nanoseconds < limit.nanoseconds) : pace.Begins limit (call :: calls) (n + 1) := by
  intro i hi
  cases i with
  | zero => exact iff_of_true (Nat.zero_lt_succ n) (Or.inl rfl)
  | succ i =>
      rw [List.take_succ_cons, elapsed_cons, delay_of_reply hreply,
        (Duration.remaining_compare hlt.le _).1, Nat.succ_lt_succ_iff,
        h i (Nat.lt_of_succ_lt_succ hi)]
      constructor
      · rintro (rfl | hbefore)
        · refine Or.inr ?_
          simp only [List.take_zero, elapsed_nil, Duration.remaining]
          norm_cast
          omega
        · exact Or.inr hbefore
      · rintro (hzero | hbefore)
        · cases hzero
        · exact Or.inr hbefore

/-- A call that is not replied to in time is the last one. -/
theorem Pace.begins_one (h : (limit.nanoseconds : ℕ∞) ≤ pace.delay call) :
    pace.Begins limit (call :: calls) 1 := by
  intro i hi
  cases i with
  | zero => exact iff_of_true Nat.zero_lt_one (Or.inl rfl)
  | succ i =>
      refine iff_of_false (by omega) ?_
      rintro (hzero | hbefore)
      · cases hzero
      · rw [List.take_succ_cons, elapsed_cons] at hbefore
        exact absurd hbefore (not_lt.mpr (h.trans le_self_add))

end Clock

namespace Task

variable {pace : Pace V C} {x : Task V C α} {limit : Duration} {ds : List (Deed V C.timed)}
  {v : Option (Option α)}

/-- An action makes no call. -/
theorem made_of_action {x : Action V α} {a : α} (h : x.Traces ds a) : made ds = [] := by
  induction h with
  | done => rfl
  | perform _ ih => exact ih

/-- A reply that is missed ends the routine without a value. -/
theorem traces_missed {onDrop : Action V Unit}
    (h : (Task.ofAction onDrop >>= fun _ => .done none : Task V C.timed (Option α)).Traces ds v) :
    v = some none ∧ made ds = [] := by
  obtain ⟨_, cleanup, _, rfl, hcleanup, hdone⟩ := traces_ofAction_bind.mp h
  obtain ⟨rfl, rfl⟩ := traces_done.mp hdone
  rw [List.append_nil]
  exact ⟨rfl, made_of_action hcleanup⟩

/-- If there is time for all of its calls, the routine makes them and comes to its value. -/
theorem within_of_fits (h : (x.within limit).Traces ds v) (hpace : ∀ d ∈ ds, pace.Allows d)
    (hfits : pace.elapsed (x.plan pace) < limit.nanoseconds) :
    made ds = x.plan pace ∧ ∃ a, x.outcome? pace = some a ∧ v = some (some a) := by
  -- For every limit: what follows a reply runs under what the reply has left of it.
  induction x generalizing limit ds with
  | done a =>
      obtain ⟨rfl, rfl⟩ := traces_done.mp h
      exact ⟨rfl, a, rfl, rfl⟩
  | perform c next ih =>
      obtain ⟨r, rest, rfl, hrest⟩ := traces_perform.mp h
      obtain ⟨rfl, hlater⟩ := List.forall_mem_cons.mp hpace
      rw [made_did]
      exact ih (pace.answer c) hrest hlater hfits
  | await c onDrop next ih =>
      rw [within, traces_await] at h
      rcases h with ⟨_ | ⟨r, taken⟩, rest, rfl, hrest⟩ | ⟨rest, rfl, -, -⟩
      · obtain ⟨hmissed, -⟩ := List.forall_mem_cons.mp hpace
        rw [plan, Pace.elapsed_cons] at hfits
        exact absurd hfits (not_lt.mpr (le_add_right hmissed))
      · obtain ⟨⟨hreply, hle⟩, hpace⟩ := List.forall_mem_cons.mp hpace
        simp only [plan, outcome?, Pace.says_of_reply hreply, Pace.elapsed_cons,
          Pace.delay_of_reply hreply] at hfits ⊢
        obtain ⟨hmade, hvalue⟩ :=
          ih r hrest hpace ((Duration.remaining_compare hle _).1.mp hfits)
        exact ⟨by rw [made_heard, hmade], hvalue⟩
      · exact (List.forall_mem_cons.mp hpace).1.elim

/-- If there is not, the limit passes, and the calls that were made begin before it. -/
theorem within_of_late (h : (x.within limit).Traces ds v) (hpace : ∀ d ∈ ds, pace.Allows d)
    (hapart : pace.Apart limit (x.plan pace))
    (hlate : (limit.nanoseconds : ℕ∞) < pace.elapsed (x.plan pace)) :
    v = some none ∧
      ∃ n, made ds = (x.plan pace).take n ∧ pace.Begins limit (x.plan pace) n := by
  induction x generalizing limit ds with
  | done a => cases not_lt_zero hlate
  | perform c next ih =>
      obtain ⟨r, rest, rfl, hrest⟩ := traces_perform.mp h
      obtain ⟨rfl, hlater⟩ := List.forall_mem_cons.mp hpace
      rw [made_did]
      exact ih (pace.answer c) hrest hlater hapart hlate
  | await c onDrop next ih =>
      rw [within, traces_await] at h
      rcases h with ⟨_ | ⟨r, taken⟩, rest, rfl, hrest⟩ | ⟨rest, rfl, -, -⟩
      · obtain ⟨hmissed, -⟩ := List.forall_mem_cons.mp hpace
        obtain ⟨hv, hnone⟩ := traces_missed hrest
        rw [plan]
        refine ⟨hv, 1, ?_, Pace.begins_one hmissed⟩
        rw [made_heard, hnone, List.take_succ_cons, List.take_zero]
      · obtain ⟨⟨hreply, hle⟩, hpace⟩ := List.forall_mem_cons.mp hpace
        simp only [plan, Pace.says_of_reply hreply, Pace.elapsed_cons,
          Pace.delay_of_reply hreply] at hapart hlate ⊢
        obtain ⟨hv, n, hmade, hbegins⟩ := ih r hrest hpace (hapart.tail hreply hle)
          ((Duration.remaining_compare hle _).2.1.mp hlate)
        refine ⟨hv, n + 1, ?_, hbegins.cons hreply (hapart.lt hreply hle)⟩
        rw [made_heard, hmade, List.take_succ_cons]
      · exact (List.forall_mem_cons.mp hpace).1.elim

/-- A routine that the surroundings do not drop has a value. -/
theorem Traces.exists_of_allowed {x : Task V C.timed β} {w : Option β} (h : x.Traces ds w)
    (hpace : ∀ d ∈ ds, pace.Allows d) : ∃ b, w = some b := by
  induction h with
  | done b => exact ⟨b, rfl⟩
  | perform _ ih => exact ih (List.forall_mem_cons.mp hpace).2
  | heard _ ih => exact ih (List.forall_mem_cons.mp hpace).2
  | lost => exact (List.forall_mem_cons.mp hpace).1.elim

theorem exists_action (pace : Pace V C) (x : Action V α) :
    ∃ ds a, x.Traces ds a ∧ ∀ d ∈ ds, pace.Allows d := by
  induction x with
  | done a => exact ⟨[], a, .done a, List.forall_mem_nil _⟩
  | perform c next ih =>
      obtain ⟨ds, a, htraces, hpace⟩ := ih (pace.answer c)
      exact ⟨.did c (pace.answer c) :: ds, a, .perform htraces,
        List.forall_mem_cons.mpr ⟨rfl, hpace⟩⟩

/-- Whatever the surroundings do, the routine comes to its end under the limit. -/
theorem exists_within (pace : Pace V C) (x : Task V C α) (limit : Duration) :
    ∃ ds v, (x.within limit).Traces ds (some v) ∧ ∀ d ∈ ds, pace.Allows d := by
  induction x generalizing limit with
  | done a => exact ⟨[], some a, .done _, List.forall_mem_nil _⟩
  | perform c next ih =>
      obtain ⟨ds, v, htraces, hpace⟩ := ih (pace.answer c) limit
      exact ⟨.did c (pace.answer c) :: ds, v, .perform htraces,
        List.forall_mem_cons.mpr ⟨rfl, hpace⟩⟩
  | await c onDrop next ih =>
      rw [within]
      by_cases hmissed : (limit.nanoseconds : ℕ∞) ≤ pace.delay c
      · obtain ⟨ds, ⟨⟩, htraces, hpace⟩ := exists_action pace onDrop
        refine ⟨.heard (limit, c) none :: ds, none, .heard ?_,
          List.forall_mem_cons.mpr ⟨hmissed, hpace⟩⟩
        exact traces_ofAction_bind.mpr ⟨(), ds, [], (List.append_nil ds).symm, htraces, .done _⟩
      · cases hreply : pace.reply? c with
        | none =>
            rw [Pace.delay, hreply] at hmissed
            exact absurd le_top hmissed
        | some replied =>
            obtain ⟨r, taken⟩ := replied
            obtain ⟨ds, v, htraces, hpace⟩ := ih r (limit.remaining taken)
            rw [Pace.delay_of_reply hreply, not_le, Nat.cast_lt] at hmissed
            exact ⟨.heard (limit, c) (some (r, taken)) :: ds, v, .heard htraces,
              List.forall_mem_cons.mpr ⟨⟨hreply, hmissed.le⟩, hpace⟩⟩

end Task

/-! ## Checks against the clock -/

namespace HealthCheck

variable {app : Jobs} (health : HealthCheck) (pace : Pace Work.vocabulary (Work.calls app))

/-- The calls on a handle: it begins a transaction and runs the query.  If the query succeeds
the transaction is committed, and if it fails, and the transaction is active, it is rolled
back. -/
def stepsOn (handle : Handle) : List (Work.Call app) :=
  .begin handle ::
    match pace.says? (.begin handle) with
    | some (.ok ()) =>
      .execute handle (.nativeQuery health.query) ::
        match pace.says? (.execute handle (.nativeQuery health.query)) with
        | some (.ok _) => [.commit handle]
        | some (.error _) =>
          if pace.answer (.transactionActive handle) then [.rollback handle] else []
        | none => []
    | _ => []

/-- The calls of a validation. -/
def steps : List (Work.Call app) :=
  .create health.factory ::
    match pace.says? (.create health.factory) with
    | some (.ok handle) => health.stepsOn pace handle
    | _ => []

/-- The handle is created, begins a transaction, runs the query and commits. -/
structure Succeeds (handle : Handle) (outcome : Outcome) : Prop where
  created : pace.says? (.create health.factory) = some (.ok handle)
  begun : pace.says? (.begin handle) = some (.ok ())
  queried : pace.says? (.execute handle (.nativeQuery health.query)) = some (.ok outcome)
  committed : pace.says? (.commit handle) = some (.ok ())

/-- The first of these that fails, fails like this. -/
inductive FailsFirst : Failure → Prop where
  | create {failure : Failure}
      (fails : pace.says? (.create health.factory) = some (.error failure)) : FailsFirst failure
  | begin {handle : Handle} {failure : Failure}
      (created : pace.says? (.create health.factory) = some (.ok handle))
      (fails : pace.says? (.begin handle) = some (.error failure)) : FailsFirst failure
  | query {handle : Handle} {failure : Failure}
      (created : pace.says? (.create health.factory) = some (.ok handle))
      (begun : pace.says? (.begin handle) = some (.ok ()))
      (fails : pace.says? (.execute handle (.nativeQuery health.query)) = some (.error failure)) :
      FailsFirst failure
  | commit {handle : Handle} {outcome : Outcome} {failure : Failure}
      (created : pace.says? (.create health.factory) = some (.ok handle))
      (begun : pace.says? (.begin handle) = some (.ok ()))
      (queried : pace.says? (.execute handle (.nativeQuery health.query)) = some (.ok outcome))
      (fails : pace.says? (.commit handle) = some (.error failure)) : FailsFirst failure

variable {health pace} {handle : Handle}

theorem plan_rollbackOn (handle : Handle) : (rollbackOn handle : Work app Unit).plan pace =
    if pace.answer (.transactionActive handle) then [.rollback handle] else [] := by
  rw [rollbackOn, Task.plan_bind]
  simp only [Handle.transactionActive, Task.liftM_eq_ofAction, Task.ofAction_perform,
    Task.ofAction_done, Task.plan, Task.outcome?, Option.elim_some, List.nil_append]
  cases pace.answer (.transactionActive handle) with
  | false => rfl
  | true =>
      simp only [if_true, Handle.rollback, Task.await_bind, Task.done_bind, Task.plan]
      rcases pace.says? (.rollback handle) with _ | _ | _ <;> rfl

theorem plan_validateOn (handle : Handle) :
    (health.validateOn handle).plan pace = health.stepsOn pace handle := by
  simp only [validateOn, Handle.begin, Task.await_bind, Task.done_bind, Task.plan, stepsOn]
  rcases pace.says? (.begin handle) with _ | _ | ⟨⟩
  · rfl
  · rfl
  · simp only [Handle.execute, Task.await_bind, Task.done_bind, Task.plan]
    rcases pace.says? (.execute handle (.nativeQuery health.query)) with _ | failure | outcome
    · rfl
    · simp only [Task.plan_bind, plan_rollbackOn]
      cases (rollbackOn handle : Work app Unit).outcome? pace <;>
        simp only [Option.elim, Task.pure_eq_done, Task.plan, List.append_nil]
    · simp only [Handle.commit, Task.plan]
      cases pace.says? (.commit handle) <;> rfl

/-- The calls that a validation makes are these. -/
theorem plan_validate : health.validate.plan pace = health.steps pace := by
  simp only [validate, FactoryId.createHandle, Task.await_bind, Task.done_bind, Task.plan, steps]
  rcases pace.says? (.create health.factory) with _ | _ | handle
  · rfl
  · rfl
  · simp only [Task.plan_bind, plan_validateOn]
    cases (health.validateOn handle : Work app _).outcome? pace <;>
      simp [Handle.close, Task.plan, Task.outcome?]

/-- What running the query comes to, on the handle that was created. -/
theorem concludes_of_validateOn {handle : Handle} {r : Except Failure Unit}
    (hcreated : pace.says? (.create health.factory) = some (.ok handle))
    (h : (health.validateOn handle : Work app _).outcome? pace = some r) :
    (r = .ok () ∧ ∃ outcome, health.Succeeds pace handle outcome) ∨
      ∃ failure, r = .error failure ∧ health.FailsFirst pace failure := by
  simp only [validateOn, Handle.begin, Task.await_bind, Task.done_bind, Task.outcome?] at h
  rcases hbegun : pace.says? (.begin handle) with _ | failure | ⟨⟩ <;> rw [hbegun] at h
  · cases h
  · cases h
    exact Or.inr ⟨failure, rfl, .begin hcreated hbegun⟩
  · simp only [Handle.execute, Task.await_bind, Task.done_bind, Task.outcome?] at h
    rcases hqueried : pace.says? (.execute handle (.nativeQuery health.query)) with
      _ | failure | outcome <;> rw [hqueried] at h
    · cases h
    · simp only [Task.outcome?_bind] at h
      obtain ⟨_, -, hr⟩ := Option.bind_eq_some_iff.mp h
      cases hr
      exact Or.inr ⟨failure, rfl, .query hcreated hbegun hqueried⟩
    · simp only [Handle.commit, Task.outcome?] at h
      rcases hcommitted : pace.says? (.commit handle) with _ | failure | ⟨⟩ <;>
        rw [hcommitted] at h <;> cases h
      · exact Or.inr ⟨failure, rfl, .commit hcreated hbegun hqueried hcommitted⟩
      · exact Or.inl ⟨rfl, outcome, hcreated, hbegun, hqueried, hcommitted⟩

theorem concludes_of_validate {r : Except Failure Unit}
    (h : (health.validate : Work app _).outcome? pace = some r) :
    (r = .ok () ∧ ∃ handle outcome, health.Succeeds pace handle outcome) ∨
      ∃ failure, r = .error failure ∧ health.FailsFirst pace failure := by
  simp only [validate, FactoryId.createHandle, Task.await_bind, Task.done_bind, Task.outcome?] at h
  rcases hcreated : pace.says? (.create health.factory) with _ | failure | handle <;>
    rw [hcreated] at h
  · cases h
  · cases h
    exact Or.inr ⟨failure, rfl, .create hcreated⟩
  · simp only [Task.outcome?_bind] at h
    obtain ⟨result, hresult, hr⟩ := Option.bind_eq_some_iff.mp h
    cases hr
    rcases concludes_of_validateOn hcreated hresult with ⟨rfl, hsucceeds⟩ | hfails
    · exact Or.inl ⟨rfl, handle, hsucceeds⟩
    · exact Or.inr hfails

/-- Nothing fails where all succeed. -/
theorem Succeeds.not_failsFirst {handle : Handle} {outcome : Outcome}
    (h : health.Succeeds pace handle outcome) (failure : Failure) :
    ¬ health.FailsFirst pace failure := by
  intro hfails
  cases hfails with
  | create hfails =>
      rw [h.created] at hfails
      cases hfails
  | begin hcreated hfails =>
      rw [h.created] at hcreated
      cases hcreated
      rw [h.begun] at hfails
      cases hfails
  | query hcreated hbegun hfails =>
      rw [h.created] at hcreated
      cases hcreated
      rw [h.queried] at hfails
      cases hfails
  | commit hcreated hbegun hqueried hfails =>
      rw [h.created] at hcreated
      cases hcreated
      rw [h.committed] at hfails
      cases hfails

/-! ### What follows the query -/

/-- A commit comes after a query that has succeeded, and a rollback after one that has
failed. -/
def AfterQuery (health : HealthCheck) (earlier : List (WorkDeed app)) : WorkDeed app → Prop
  | .heard (.commit handle) _ | .lost (.commit handle) =>
    ∃ outcome, .heard (.execute handle (.nativeQuery health.query)) (.ok outcome) ∈ earlier
  | .heard (.rollback handle) _ | .lost (.rollback handle) =>
    ∃ failure, .heard (.execute handle (.nativeQuery health.query)) (.error failure) ∈ earlier
  | _ => True

section AfterQuery

variable {handle : Handle} {ds earlier : List (WorkDeed app)}

theorem Undoes.afterQuery {v : Option Unit} (h : Undoes handle ds v) (failure : Failure)
    (hqueried : .heard (.execute handle (.nativeQuery health.query)) (.error failure) ∈ earlier) :
    Each health.AfterQuery earlier ds := by
  have hlater : ∀ more : List (WorkDeed app), ∃ failure,
      .heard (.execute handle (.nativeQuery health.query)) (.error failure) ∈ earlier ++ more :=
    fun more => ⟨failure, List.mem_append_left more hqueried⟩
  cases h with
  | inactive => exact ⟨trivial, trivial⟩
  | dropped => exact ⟨trivial, hlater _, trivial⟩
  | failed => exact ⟨trivial, hlater _, trivial, trivial⟩
  | rolledBack => exact ⟨trivial, hlater _, trivial⟩

theorem Queries.afterQuery {v : Option (Except Failure Unit)} (h : Queries health handle ds v) :
    Each health.AfterQuery earlier ds := by
  cases h with
  | beginDropped | beginFailed => exact ⟨trivial, trivial⟩
  | queryDropped => exact ⟨trivial, trivial, trivial⟩
  | queryFailed failure hundoes =>
      exact ⟨trivial, trivial, hundoes.afterQuery failure (by simp)⟩
  | commitDropped outcome | committed outcome =>
      exact ⟨trivial, trivial, ⟨outcome, by simp⟩, trivial⟩

theorem Validates.afterQuery {v : Option (Except Failure Unit)} (h : Validates health ds v) :
    Each health.AfterQuery [] ds := by
  cases h with
  | createDropped | createFailed => exact ⟨trivial, trivial⟩
  | dropped hqueries => exact ⟨trivial, hqueries.afterQuery⟩
  | validated hqueries =>
      exact ⟨trivial, each_append.mpr ⟨hqueries.afterQuery, trivial, trivial⟩⟩

end AfterQuery

/-! ### The result -/

section Checks

variable {deeds : List (CheckDeed app)} {status : HealthStatus}

/-- What is told makes no call. -/
theorem Tells.made_eq_nil {verdict : Option (Except Failure Unit)}
    (h : health.Tells verdict deeds status) : made deeds = [] := by
  cases h <;> rfl

theorem Tells.allows {verdict : Option (Except Failure Unit)}
    (h : health.Tells verdict deeds status) : ∀ d ∈ deeds, pace.Allows d := by
  cases h with
  | healthy => exact List.forall_mem_nil _
  | failed | timedOut => exact List.forall_mem_singleton.mpr rfl

theorem Tells.afterQuery {verdict : Option (Except Failure Unit)} {earlier : List (WorkDeed app)}
    (h : health.Tells verdict deeds status) :
    Each health.AfterQuery earlier (deeds.map Deed.untimed) := by
  cases h <;> simp [Each, Deed.untimed, AfterQuery]

theorem afterQuery_of_check (h : (health.check : TimedWork app _).Traces deeds (some status)) :
    Each health.AfterQuery [] (deeds.map Deed.untimed) := by
  obtain ⟨verdict, first, told, rfl, hlimited, htells⟩ := traces_check.mp h
  obtain ⟨hvalidates, -, -⟩ := Task.traces_within.mp hlimited
  rw [List.map_append]
  exact each_append.mpr ⟨(traces_validate.mp hvalidates).afterQuery, htells.afterQuery⟩

theorem check_of_fits (h : (health.check : TimedWork app _).Traces deeds (some status))
    (hpace : ∀ d ∈ deeds, pace.Allows d)
    (hfits : pace.elapsed (health.steps pace) < health.limit.nanoseconds) :
    made deeds = health.steps pace ∧
      ((status = .healthy ∧ ∃ handle outcome, health.Succeeds pace handle outcome) ∨
        ∃ failure, status = .failed failure ∧ health.FailsFirst pace failure) := by
  obtain ⟨verdict, first, told, rfl, hlimited, htells⟩ := traces_check.mp h
  obtain ⟨hfirst, -⟩ := List.forall_mem_append.mp hpace
  rw [← plan_validate] at hfits ⊢
  obtain ⟨hmade, result, hresult, hverdict⟩ := Task.within_of_fits hlimited hfirst hfits
  cases hverdict
  refine ⟨by rw [made_append, hmade, htells.made_eq_nil, List.append_nil], ?_⟩
  rcases concludes_of_validate hresult with ⟨rfl, hsucceeds⟩ | ⟨failure, rfl, hfails⟩
  · cases htells
    exact Or.inl ⟨rfl, hsucceeds⟩
  · cases htells
    exact Or.inr ⟨failure, rfl, hfails⟩

theorem check_of_late (h : (health.check : TimedWork app _).Traces deeds (some status))
    (hpace : ∀ d ∈ deeds, pace.Allows d) (hapart : pace.Apart health.limit (health.steps pace))
    (hlate : (health.limit.nanoseconds : ℕ∞) < pace.elapsed (health.steps pace)) :
    status = .timedOut health.limit ∧ ∃ n, made deeds = (health.steps pace).take n ∧
      pace.Begins health.limit (health.steps pace) n := by
  obtain ⟨verdict, first, told, rfl, hlimited, htells⟩ := traces_check.mp h
  obtain ⟨hfirst, -⟩ := List.forall_mem_append.mp hpace
  rw [← plan_validate] at hapart hlate ⊢
  obtain ⟨hverdict, n, hmade, hbegins⟩ := Task.within_of_late hlimited hfirst hapart hlate
  cases hverdict
  refine ⟨?_, n, by rw [made_append, hmade, htells.made_eq_nil, List.append_nil], hbegins⟩
  cases htells
  rfl

theorem exists_check (health : HealthCheck) (pace : Pace Work.vocabulary (Work.calls app)) :
    ∃ deeds status, (health.check : TimedWork app _).Traces deeds (some status) ∧
      ∀ d ∈ deeds, pace.Allows d := by
  obtain ⟨first, verdict, hlimited, hpace⟩ :=
    Task.exists_within pace (health.validate : Work app _) health.limit
  have htold : ∃ (told : List (CheckDeed app)) (status : HealthStatus),
      health.Tells verdict told status := by
    rcases verdict with _ | failure | ⟨⟩
    · exact ⟨_, _, .timedOut⟩
    · exact ⟨_, _, .failed failure⟩
    · exact ⟨_, _, .healthy⟩
  obtain ⟨told, status, htells⟩ := htold
  exact ⟨first ++ told, status, traces_check.mpr ⟨verdict, first, told, rfl, hlimited, htells⟩,
    List.forall_mem_append.mpr ⟨hpace, htells.allows⟩⟩

/-- However the factory and the handle behave, and whatever the limit, a check comes to its
end.  If the calls of a validation take less time than the limit, all of them are made: the
unit is healthy if creating, beginning, the query and committing all succeed, and otherwise
the reason is the first failure among these.  If they take more time, and none of them ends at
the very moment of the limit, the reason is the limit, and the calls that were made are those
that begin before it.  A commit follows a query that has succeeded, and a rollback one that
has failed. -/
theorem check_in_time (health : HealthCheck) (pace : Pace Work.vocabulary (Work.calls app)) :
    (∃ deeds status, (health.check : TimedWork app _).Traces deeds (some status) ∧
      ∀ d ∈ deeds, pace.Allows d) ∧
    ∀ {deeds v}, (health.check : TimedWork app _).Traces deeds v → (∀ d ∈ deeds, pace.Allows d) →
      ∃ status, v = some status ∧
        (pace.elapsed (health.steps pace) < health.limit.nanoseconds →
          made deeds = health.steps pace ∧
          (status.isHealthy = true ↔ ∃ handle outcome, health.Succeeds pace handle outcome) ∧
          (status.isHealthy = false → ∃ failure, health.FailsFirst pace failure ∧
            ∀ names, status.reason? names = some (failure.message names))) ∧
        ((health.limit.nanoseconds : ℕ∞) < pace.elapsed (health.steps pace) →
          pace.Apart health.limit (health.steps pace) →
          status.isHealthy = false ∧
          (∀ names, status.reason? names = some ("timed out after " ++ health.limit.text)) ∧
          ∃ n, made deeds = (health.steps pace).take n ∧
            pace.Begins health.limit (health.steps pace) n) ∧
        Each health.AfterQuery [] (deeds.map Deed.untimed) := by
  refine ⟨health.exists_check pace, ?_⟩
  intro deeds v h hpace
  obtain ⟨status, rfl⟩ := h.exists_of_allowed hpace
  refine ⟨status, rfl, ?_, ?_, afterQuery_of_check h⟩
  · intro hfits
    obtain ⟨hmade, hresult⟩ := check_of_fits h hpace hfits
    refine ⟨hmade, ?_⟩
    rcases hresult with ⟨rfl, hsucceeds⟩ | ⟨failure, rfl, hfails⟩
    · exact ⟨iff_of_true rfl hsucceeds, nofun⟩
    · refine ⟨iff_of_false nofun ?_, fun _ => ⟨failure, hfails, fun _ => rfl⟩⟩
      rintro ⟨handle, outcome, hsucceeds⟩
      exact hsucceeds.not_failsFirst failure hfails
  · intro hlate hapart
    obtain ⟨rfl, hmade⟩ := check_of_late h hpace hapart hlate
    exact ⟨rfl, fun _ => rfl, hmade⟩

/-- Each call takes a third of a second or less, the query fails, and rolling back takes
`last`. -/
def sluggish (last : Option Duration) : Pace Work.vocabulary (Work.calls noJobs) where
  answer
    | .context command => (({} : Workspace).perform command).1
    | .transactionActive _ => true
    | .provides .. => false
    | .close _ | .emit _ => ()
  reply?
    | .create _ => some (.ok ⟨0, ⟨0⟩⟩, .ofMilliseconds 300)
    | .begin _ => some (.ok (), .ofMilliseconds 300)
    | .execute .. => some (.error .handleClosed, .ofMilliseconds 300)
    | .rollback _ => last.map fun taken => (.error (.rollbackFailed "no"), taken)
    | .commit _ | .configure .. | .job _ => none

/-- The calls of a validation whose query fails. -/
def pingCalls : List (Work.Call noJobs) :=
  [.create ⟨0⟩, .begin ⟨0, ⟨0⟩⟩, .execute ⟨0, ⟨0⟩⟩ (.nativeQuery "SELECT 1"), .rollback ⟨0, ⟨0⟩⟩]

theorem steps_sluggish (last : Option Duration) : ping.steps (sluggish last) = pingCalls := rfl

/-- Both checks roll back.  If this leaves a millisecond of the limit, the reason is the
query, and if it never ends, the reason is the limit. -/
theorem ping_rolls_back :
    (∃ deeds status, (ping.check : TimedWork noJobs _).Traces deeds (some status) ∧
      made deeds = pingCalls ∧ ∀ names, status.reason? names = some "Resource handle is closed") ∧
    ∃ deeds status, (ping.check : TimedWork noJobs _).Traces deeds (some status) ∧
      made deeds = pingCalls ∧ ∀ names, status.reason? names = some "timed out after 1s" := by
  constructor
  · obtain ⟨⟨deeds, status, htraces, hpace⟩, hall⟩ :=
      check_in_time ping (sluggish (some (.ofMilliseconds 99)))
    obtain ⟨_, hstatus, hfits, -⟩ := hall htraces hpace
    cases hstatus
    have htotal : (sluggish (some (.ofMilliseconds 99))).elapsed pingCalls = (999000000 : ℕ) := by
      decide
    rw [steps_sluggish, htotal, Nat.cast_lt] at hfits
    obtain ⟨hmade, hhealthy, hfailed⟩ := hfits (by decide)
    have hunhealthy : status.isHealthy = false := by
      refine Bool.eq_false_iff.mpr fun hok => ?_
      obtain ⟨handle, outcome, hsucceeds⟩ := hhealthy.mp hok
      cases hsucceeds.queried
    obtain ⟨failure, hfails, hreason⟩ := hfailed hunhealthy
    have hfailure : failure = .handleClosed := by
      cases hfails with
      | create fails => cases fails
      | begin _ fails => cases fails
      | query _ _ fails => cases fails; rfl
      | commit _ _ queried => cases queried
    rw [hfailure] at hreason
    exact ⟨deeds, status, htraces, hmade, hreason⟩
  · obtain ⟨⟨deeds, status, htraces, hpace⟩, hall⟩ := check_in_time ping (sluggish none)
    obtain ⟨_, hstatus, -, hlate, -⟩ := hall htraces hpace
    cases hstatus
    have htotal : (sluggish none).elapsed pingCalls = ⊤ := by decide
    have hbefore : (sluggish none).elapsed (pingCalls.take 3) = (900000000 : ℕ) := by decide
    have hapart : (sluggish none).Apart ping.limit pingCalls := by
      unfold Pace.Apart
      decide
    rw [steps_sluggish, htotal] at hlate
    obtain ⟨-, hreason, n, hmade, hbegins⟩ := hlate (ENat.natCast_lt_top _) hapart
    have hrolled : 3 < n := by
      refine (hbegins 3 (by decide)).mpr (Or.inr ?_)
      rw [hbefore, Nat.cast_lt]
      decide
    rw [List.take_of_length_le (show pingCalls.length ≤ n from hrolled)] at hmade
    refine ⟨deeds, status, htraces, hmade, fun names => ?_⟩
    rw [hreason names]
    decide +kernel

end Checks

end HealthCheck

end Demarcation
