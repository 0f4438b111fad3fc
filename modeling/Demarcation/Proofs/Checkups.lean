/-
Health checks and their handles.

A health check validates a unit on a handle of its own, under a time limit.  A
limit that passes drops the routine under it, with the cleanup that it owes at
that moment: so a trace under a limit, with the times left out (`Deed.untimed`),
is a trace of the routine itself, and the routine was dropped in it if and only
if the limit has passed (`Task.traces_within`).

A validation closes its handle after its last call, whatever that has come to.
It owes no cleanup on the way.  So a check that returns has closed its handle
exactly once, unless the limit has passed while the handle was in use: then it
has returned, and nobody closes the handle any more.
-/
import Demarcation.HealthCheck
import Demarcation.Proofs.Effects

namespace Demarcation

/-! ## Under a limit -/

section Limits

variable {V : Vocabulary} {C : Calls} {α β : Type}

/-- The deed without its times.  A call whose limit has passed was dropped. -/
def Deed.untimed : Deed V C.timed → Deed V C
  | .did command answer => .did command answer
  | .heard (_, call) (some (reply, _)) => .heard call reply
  | .heard (_, call) none => .lost call
  | .lost (_, call) => .lost call

/-- The call that was pending when the limit passed. -/
def Deed.givenUp? : Deed V C.timed → Option C.Call
  | .heard (_, call) none => some call
  | _ => none

/-- The calls that were pending when a limit passed. -/
def givenUp (deeds : List (Deed V C.timed)) : List C.Call := deeds.filterMap Deed.givenUp?

variable {ds : List (Deed V C.timed)}

/-- The call was dropped. -/
theorem lost_of_givenUp {call : C.Call} (h : call ∈ givenUp ds) :
    .lost call ∈ ds.map Deed.untimed := by
  obtain ⟨d, hd, hcall⟩ := List.mem_filterMap.mp h
  refine List.mem_map.mpr ⟨d, hd, ?_⟩
  rcases d with _ | ⟨_, _ | _⟩ | _
  · cases hcall
  · cases hcall
    rfl
  · cases hcall
  · cases hcall

/-- An action is under no limit. -/
theorem Action.Traces.givenUp_eq_nil {x : Action V α} {a : α} (h : x.Traces ds a) :
    givenUp ds = [] := by
  induction h with
  | done => rfl
  | perform _ ih => exact ih

/-- Each call carries what the calls before it have left of the limit. -/
def Clocked : Duration → List (Deed V C.timed) → Prop
  | _, [] => True
  | limit, .did _ _ :: later => Clocked limit later
  | limit, .heard (left, _) (some (_, taken)) :: later =>
    left = limit ∧ Clocked (limit.remaining taken) later
  | limit, .heard (left, _) none :: _ => left = limit
  | limit, .lost (left, _) :: _ => left = limit

theorem Action.traces_untimed {x : Action V α} {a : α} :
    x.Traces (ds.map Deed.untimed) a ↔ x.Traces ds a := by
  constructor
  · intro h
    induction x generalizing ds with
    | done =>
        obtain ⟨hds, rfl⟩ := traces_done.mp h
        rw [List.map_eq_nil_iff.mp hds]
        exact .done a
    | perform c next ih =>
        obtain ⟨r, _, hds, hrest⟩ := traces_perform.mp h
        obtain ⟨d, rest, rfl, hd, rfl⟩ := List.map_eq_cons_iff.mp hds
        rcases d with _ | ⟨_, _ | _⟩ | _
        · cases hd
          exact .perform (ih _ hrest)
        · cases hd
        · cases hd
        · cases hd
  · intro h
    induction h with
    | done a => exact .done a
    | perform _ ih => exact .perform ih

/-- Under a limit a routine runs as it would without, and is dropped as soon as the
limit has passed. -/
theorem Task.traces_within {x : Task V C α} {limit : Duration} {v : Option (Option α)} :
    (x.within limit).Traces ds v ↔
      x.Traces (ds.map Deed.untimed) v.join ∧ Clocked limit ds ∧
        (v = some none ↔ givenUp ds ≠ []) := by
  induction x generalizing limit ds with
  | done a =>
      rw [within, traces_done, traces_done, List.map_eq_nil_iff]
      constructor
      · rintro ⟨rfl, rfl⟩
        exact ⟨⟨rfl, rfl⟩, trivial, by simp [givenUp]⟩
      · rintro ⟨⟨rfl, hv⟩, -, hpassed⟩
        exact ⟨rfl, Option.join_eq_some_iff.mp hv⟩
  | perform c next ih =>
      rw [within, traces_perform, traces_perform]
      constructor
      · rintro ⟨r, rest, rfl, h⟩
        obtain ⟨htraces, hclocked, hpassed⟩ := (ih r).mp h
        exact ⟨⟨r, _, rfl, htraces⟩, hclocked, hpassed⟩
      · rintro ⟨⟨r, _, hds, htraces⟩, hclocked, hpassed⟩
        obtain ⟨d, rest, rfl, hd, rfl⟩ := List.map_eq_cons_iff.mp hds
        rcases d with _ | ⟨_, _ | _⟩ | _
        · cases hd
          exact ⟨_, rest, rfl, (ih _).mpr ⟨htraces, hclocked, hpassed⟩⟩
        · cases hd
        · cases hd
        · cases hd
  | await c onDrop next ih =>
      rw [within, traces_await, traces_await]
      constructor
      · rintro (⟨_ | ⟨r, taken⟩, rest, rfl, h⟩ | ⟨rest, rfl, rfl, h⟩)
        · obtain ⟨_, cleanup, _, rfl, hcleanup, hdone⟩ := traces_ofAction_bind.mp h
          obtain ⟨rfl, rfl⟩ := traces_done.mp hdone
          rw [List.append_nil]
          exact ⟨Or.inr ⟨_, rfl, rfl, Action.traces_untimed.mpr hcleanup⟩, rfl,
            iff_of_true rfl (List.cons_ne_nil _ _)⟩
        · obtain ⟨htraces, hclocked, hpassed⟩ := (ih r).mp h
          exact ⟨Or.inl ⟨r, _, rfl, htraces⟩, ⟨rfl, hclocked⟩, hpassed⟩
        · refine ⟨Or.inr ⟨_, rfl, rfl, Action.traces_untimed.mpr h⟩, rfl, iff_of_false nofun ?_⟩
          exact not_not_intro h.givenUp_eq_nil
      · rintro ⟨⟨r, _, hds, htraces⟩ | ⟨_, hds, hv, hcleanup⟩, hclocked, hpassed⟩
        · obtain ⟨d, rest, rfl, hd, rfl⟩ := List.map_eq_cons_iff.mp hds
          rcases d with _ | ⟨_, _ | _⟩ | _
          · cases hd
          · cases hd
          · cases hd
            obtain ⟨rfl, hclocked⟩ := hclocked
            exact Or.inl ⟨_, rest, rfl, (ih _).mpr ⟨htraces, hclocked, hpassed⟩⟩
          · cases hd
        · obtain ⟨d, rest, rfl, hd, rfl⟩ := List.map_eq_cons_iff.mp hds
          rw [Action.traces_untimed] at hcleanup
          rcases d with _ | ⟨_, _ | _⟩ | _
          · cases hd
          · cases hd
            obtain rfl := hclocked
            obtain rfl := hpassed.mpr (List.cons_ne_nil _ _)
            refine Or.inl ⟨none, rest, rfl, traces_ofAction_bind.mpr ⟨(), rest, [], ?_⟩⟩
            exact ⟨(List.append_nil rest).symm, hcleanup, .done none⟩
          · cases hd
          · cases hd
            obtain rfl := hclocked
            refine Or.inr ⟨rest, rfl, ?_, hcleanup⟩
            rcases v with _ | _ | a
            · rfl
            · exact absurd hcleanup.givenUp_eq_nil (hpassed.mp rfl)
            · cases hv

end Limits

namespace HealthCheck

variable {app : Jobs}

/-! ## Validations -/

/-- What rolling back after a failed query does. -/
inductive Undoes (handle : Handle) : List (WorkDeed app) → Option Unit → Prop where
  | inactive : Undoes handle [.did (.transactionActive handle) false] (some ())
  | dropped :
      Undoes handle [.did (.transactionActive handle) true, .lost (.rollback handle)] none
  | failed (failure : Failure) :
      Undoes handle [.did (.transactionActive handle) true,
        .heard (.rollback handle) (.error failure),
        .did (.emit (.healthRollbackFailed failure)) ()] (some ())
  | rolledBack :
      Undoes handle [.did (.transactionActive handle) true,
        .heard (.rollback handle) (.ok ())] (some ())

/-- What running the query on a handle does. -/
inductive Queries (health : HealthCheck) (handle : Handle) :
    List (WorkDeed app) → Option (Except Failure Unit) → Prop where
  | beginDropped : Queries health handle [.lost (.begin handle)] none
  | beginFailed (failure : Failure) :
      Queries health handle [.heard (.begin handle) (.error failure)] (some (.error failure))
  | queryDropped :
      Queries health handle [.heard (.begin handle) (.ok ()),
        .lost (.execute handle (.nativeQuery health.query))] none
  | queryFailed (failure : Failure) {undone : List (WorkDeed app)} {v : Option Unit}
      (undoes : Undoes handle undone v) :
      Queries health handle (.heard (.begin handle) (.ok ()) ::
        .heard (.execute handle (.nativeQuery health.query)) (.error failure) :: undone)
        (v.map fun _ => .error failure)
  | commitDropped (outcome : Outcome) :
      Queries health handle [.heard (.begin handle) (.ok ()),
        .heard (.execute handle (.nativeQuery health.query)) (.ok outcome),
        .lost (.commit handle)] none
  | committed (outcome : Outcome) (result : Except Failure Unit) :
      Queries health handle [.heard (.begin handle) (.ok ()),
        .heard (.execute handle (.nativeQuery health.query)) (.ok outcome),
        .heard (.commit handle) result] (some result)

/-- What a validation does. -/
inductive Validates (health : HealthCheck) :
    List (WorkDeed app) → Option (Except Failure Unit) → Prop where
  | createDropped : Validates health [.lost (.create health.factory)] none
  | createFailed (failure : Failure) :
      Validates health [.heard (.create health.factory) (.error failure)] (some (.error failure))
  | dropped {handle : Handle} {queried : List (WorkDeed app)}
      (queries : Queries health handle queried none) :
      Validates health (.heard (.create health.factory) (.ok handle) :: queried) none
  | validated {handle : Handle} {queried : List (WorkDeed app)} {result : Except Failure Unit}
      (queries : Queries health handle queried (some result)) :
      Validates health (.heard (.create health.factory) (.ok handle) ::
        (queried ++ [.did (.close handle) ()])) (some result)

section Validations

variable {health : HealthCheck} {handle : Handle} {ds : List (WorkDeed app)}

theorem traces_rollbackOn {v : Option Unit} :
    (rollbackOn handle : Work app Unit).Traces ds v ↔ Undoes handle ds v := by
  simp only [rollbackOn, Handle.transactionActive, Task.liftM_eq_ofAction, Task.ofAction_perform,
    Task.ofAction_done, Task.perform_bind, Task.done_bind, Task.traces_perform]
  constructor
  · rintro ⟨_ | _, rest, rfl, h⟩
    · obtain ⟨rfl, rfl⟩ := Task.traces_done.mp h
      exact .inactive
    · simp only [if_true, Handle.rollback, Task.await_bind, Task.done_bind, Task.traces_await,
        Action.traces_done] at h
      rcases h with ⟨failure | ⟨⟩, rest, rfl, h⟩ | ⟨_, rfl, rfl, rfl, -⟩
      · obtain ⟨_, rfl, htold⟩ := Task.traces_ofAction.mp h
        obtain rfl := traces_emit.mp htold
        exact .failed failure
      · obtain ⟨rfl, rfl⟩ := Task.traces_done.mp h
        exact .rolledBack
      · exact .dropped
  · intro h
    cases h with
    | inactive => exact ⟨false, [], rfl, .done ()⟩
    | dropped => exact ⟨true, _, rfl, .lost (.done ())⟩
    | failed failure => exact ⟨true, _, rfl, .heard (.perform (.done ()))⟩
    | rolledBack => exact ⟨true, _, rfl, .heard (.done ())⟩

/-- Rolling back, and failing as the query has failed. -/
theorem traces_rollbackOn_bind {failure : Failure} {v : Option (Except Failure Unit)} :
    (rollbackOn handle >>= fun _ => .done (.error failure) :
        Work app (Except Failure Unit)).Traces ds v ↔
      ∃ u, Undoes handle ds u ∧ v = u.map fun _ => .error failure := by
  rw [Task.traces_bind_done (g := fun _ => .error failure) (by intro; rfl)]
  simp only [traces_rollbackOn]

theorem traces_validateOn {v : Option (Except Failure Unit)} :
    (health.validateOn handle : Work app (Except Failure Unit)).Traces ds v ↔
      Queries health handle ds v := by
  simp only [validateOn, Handle.begin, Task.await_bind, Task.done_bind, Task.traces_await,
    Action.traces_done]
  constructor
  · rintro (⟨failure | ⟨⟩, rest, rfl, h⟩ | ⟨_, rfl, rfl, rfl, -⟩)
    · obtain ⟨rfl, rfl⟩ := Task.traces_done.mp h
      exact .beginFailed failure
    · simp only [Handle.execute, Task.await_bind, Task.done_bind, Task.traces_await,
        Action.traces_done] at h
      rcases h with ⟨failure | outcome, rest, rfl, h⟩ | ⟨_, rfl, rfl, rfl, -⟩
      · obtain ⟨v, hundoes, rfl⟩ := traces_rollbackOn_bind.mp h
        exact .queryFailed failure hundoes
      · simp only [Handle.commit, Task.traces_await, Action.traces_done] at h
        rcases h with ⟨result, rest, rfl, h⟩ | ⟨_, rfl, rfl, rfl, -⟩
        · obtain ⟨rfl, rfl⟩ := Task.traces_done.mp h
          exact .committed outcome result
        · exact .commitDropped outcome
      · exact .queryDropped
    · exact .beginDropped
  · intro h
    cases h with
    | beginDropped => exact Or.inr ⟨[], rfl, rfl, rfl, trivial⟩
    | beginFailed failure => exact Or.inl ⟨.error failure, [], rfl, .done _⟩
    | queryDropped => exact Or.inl ⟨.ok (), _, rfl, .lost (.done ())⟩
    | queryFailed failure hundoes =>
        refine Or.inl ⟨.ok (), _, rfl, Task.traces_await.mpr (Or.inl ⟨.error failure, _, rfl, ?_⟩)⟩
        exact traces_rollbackOn_bind.mpr ⟨_, hundoes, rfl⟩
    | commitDropped outcome =>
        refine Or.inl ⟨.ok (), _, rfl, Task.traces_await.mpr (Or.inl ⟨.ok outcome, _, rfl, ?_⟩)⟩
        exact .lost (.done ())
    | committed outcome result =>
        refine Or.inl ⟨.ok (), _, rfl, Task.traces_await.mpr (Or.inl ⟨.ok outcome, _, rfl, ?_⟩)⟩
        exact .heard (.done result)

theorem traces_validate {v : Option (Except Failure Unit)} :
    (health.validate : Work app (Except Failure Unit)).Traces ds v ↔ Validates health ds v := by
  simp only [validate, FactoryId.createHandle, Task.await_bind, Task.done_bind, Task.traces_await,
    Action.traces_done]
  constructor
  · rintro (⟨failure | handle, rest, rfl, h⟩ | ⟨_, rfl, rfl, rfl, -⟩)
    · obtain ⟨rfl, rfl⟩ := Task.traces_done.mp h
      exact .createFailed failure
    · rcases Task.traces_bind.mp h with ⟨result, queried, _, rfl, hqueries, h⟩ | ⟨hqueries, rfl⟩
      · obtain ⟨_, closed, _, rfl, hcloses, hdone⟩ := Task.traces_ofAction_bind.mp h
        obtain rfl := Handle.traces_close.mp hcloses
        obtain ⟨rfl, rfl⟩ := Task.traces_done.mp hdone
        exact .validated (traces_validateOn.mp hqueries)
      · exact .dropped (traces_validateOn.mp hqueries)
    · exact .createDropped
  · intro h
    cases h with
    | createDropped => exact Or.inr ⟨[], rfl, rfl, rfl, trivial⟩
    | createFailed failure => exact Or.inl ⟨.error failure, [], rfl, .done _⟩
    | @dropped handle _ hqueries =>
        refine Or.inl ⟨.ok handle, _, rfl, Task.traces_bind.mpr (Or.inr ⟨?_, rfl⟩)⟩
        exact traces_validateOn.mpr hqueries
    | @validated handle _ result hqueries =>
        refine Or.inl ⟨.ok handle, _, rfl, Task.traces_bind.mpr (Or.inl ⟨result, _, _, rfl, ?_⟩)⟩
        exact ⟨traces_validateOn.mpr hqueries, .perform (.done result)⟩

theorem Undoes.neutral {v : Option Unit} (h : Undoes handle ds v) : Neutral ds := by
  cases h <;> simp [WorkDeed.Neutral]

/-- Running the query obtains nothing and closes nothing. -/
theorem Queries.neutral {v : Option (Except Failure Unit)} (h : Queries health handle ds v) :
    Neutral ds := by
  cases h with
  | queryFailed _ hundoes => simp [WorkDeed.Neutral, hundoes.neutral]
  | _ => simp [WorkDeed.Neutral]

/-- What is dropped while the query is run is a call of the handle. -/
theorem Queries.ne_create {v : Option (Except Failure Unit)} (h : Queries health handle ds v)
    {call : Work.Call app} (hlost : .lost call ∈ ds) (factory : FactoryId) :
    call ≠ .create factory := by
  rintro rfl
  cases h with
  | queryFailed _ hundoes => cases hundoes <;> simp at hlost
  | _ => simp at hlost

/-- A validation that comes to its end has closed the handle that it has obtained. -/
theorem Validates.closings_eq_one {result : Except Failure Unit}
    (h : Validates health ds (some result)) (hmem : handle ∈ handed ds) :
    closings handle ds = 1 := by
  cases h with
  | createFailed => cases hmem
  | @validated own queried _ hqueries =>
      have hhanded : handed (([.heard (.create health.factory) (.ok own)] ++
          (queried ++ [.did (.close own) ()])) : List (WorkDeed app)) = [own] := by
        rw [handed_append, handed_append, hqueries.neutral.handed]
        rfl
      obtain rfl := List.mem_singleton.mp (hhanded ▸ hmem : handle ∈ [own])
      rw [closings_cons, closings_append, hqueries.neutral.closings]
      simp [closings_cons, WorkDeed.closes]

end Validations

/-! ## Checks -/

/-- A deed of a check. -/
abbrev CheckDeed (app : Jobs) : Type := Deed Work.vocabulary (Work.calls app).timed

/-- What a check tells of its validation, which has no verdict if the limit has passed. -/
inductive Tells (health : HealthCheck) :
    Option (Except Failure Unit) → List (CheckDeed app) → HealthStatus → Prop where
  | healthy : Tells health (some (.ok ())) [] .healthy
  | failed (failure : Failure) :
      Tells health (some (.error failure))
        [.did (.emit (.healthCheckFailed health.factory failure)) ()] (.failed failure)
  | timedOut :
      Tells health none [.did (.emit (.healthCheckTimedOut health.factory health.limit)) ()]
        (.timedOut health.limit)

section Checks

variable {health : HealthCheck} {deeds told : List (CheckDeed app)} {status : HealthStatus}

theorem told_of_traces {event : Event} {last : HealthStatus}
    (h : (Task.ofAction (emit event) >>= fun _ => .done last :
      TimedWork app HealthStatus).Traces told (some status)) :
    told = [.did (.emit event) ()] ∧ status = last := by
  obtain ⟨_, _, _, rfl, hemits, hdone⟩ := Task.traces_ofAction_bind.mp h
  obtain ⟨⟨⟩, _, rfl, hend⟩ := Action.traces_perform.mp hemits
  obtain ⟨rfl, -⟩ := Action.traces_done.mp hend
  obtain ⟨rfl, hstatus⟩ := Task.traces_done.mp hdone
  exact ⟨rfl, Option.some.inj hstatus⟩

theorem traces_check :
    (health.check : TimedWork app HealthStatus).Traces deeds (some status) ↔
      ∃ verdict first told, deeds = first ++ told ∧
        (health.validate.within health.limit).Traces first (some verdict) ∧
        health.Tells verdict told status := by
  rw [check, Task.traces_bind]
  constructor
  · rintro (⟨verdict, first, told, rfl, hvalidates, h⟩ | ⟨-, hnone⟩)
    · refine ⟨verdict, first, told, rfl, hvalidates, ?_⟩
      rcases verdict with _ | failure | ⟨⟩
      · obtain ⟨rfl, rfl⟩ := told_of_traces h
        exact .timedOut
      · obtain ⟨rfl, rfl⟩ := told_of_traces h
        exact .failed failure
      · obtain ⟨rfl, hstatus⟩ := Task.traces_done.mp h
        cases hstatus
        exact .healthy
    · cases hnone
  · rintro ⟨verdict, first, told, rfl, hvalidates, htells⟩
    refine Or.inl ⟨verdict, first, told, rfl, hvalidates, ?_⟩
    cases htells with
    | healthy => exact .done _
    | failed failure => exact .perform (.done _)
    | timedOut => exact .perform (.done _)

/-- What is told obtains nothing, closes nothing and is under no limit. -/
theorem Tells.silent {verdict : Option (Except Failure Unit)}
    (h : health.Tells verdict told status) :
    Neutral (told.map Deed.untimed) ∧ givenUp told = [] := by
  cases h <;> simp [Deed.untimed, WorkDeed.Neutral, givenUp, Deed.givenUp?]

/-- When a check returns, every handle that it has obtained has been closed exactly
once, if and only if the limit has not passed while such a handle was in use. -/
theorem check_closes_iff (htraces : (health.check : TimedWork app HealthStatus).Traces deeds
      (some status)) :
    (∀ h ∈ handed (deeds.map Deed.untimed), closings h (deeds.map Deed.untimed) = 1) ↔
      ∀ call ∈ givenUp deeds, call = .create health.factory := by
  obtain ⟨verdict, first, told, rfl, hlimited, htells⟩ := traces_check.mp htraces
  obtain ⟨hneutral, hunlimited⟩ := htells.silent
  obtain ⟨hvalidates, -, hpassed⟩ := Task.traces_within.mp hlimited
  rw [List.map_append, handed_append, hneutral.handed, List.append_nil, givenUp,
    List.filterMap_append, ← givenUp, ← givenUp, hunlimited, List.append_nil]
  simp only [closings_append, hneutral.closings, Nat.add_zero]
  cases verdict with
  | some result =>
      have hnone : givenUp first = [] := not_not.mp (hpassed.not.mp nofun)
      rw [hnone]
      refine iff_of_true ?_ (fun _ hmem => nomatch hmem)
      intro h hmem
      exact (traces_validate.mp hvalidates).closings_eq_one hmem
  | none =>
      have hlost : ∀ call ∈ givenUp first, .lost call ∈ first.map Deed.untimed :=
        fun _ hcall => lost_of_givenUp hcall
      obtain ⟨call, hcall⟩ := List.exists_mem_of_ne_nil _ (hpassed.mp rfl)
      generalize first.map Deed.untimed = ds at hvalidates hlost
      cases traces_validate.mp hvalidates with
      | createDropped =>
          refine iff_of_true (fun _ hmem => nomatch hmem) ?_
          intro call hcall
          simpa using hlost call hcall
      | @dropped handle queried hqueries =>
          have hmem : handle ∈ handed (.heard (.create health.factory) (.ok handle) :: queried) :=
            mem_handed List.mem_cons_self
          have hopen : closings handle (.heard (.create health.factory) (.ok handle) :: queried) =
              0 := hqueries.neutral.closings
          have hinUse : call ≠ .create health.factory := by
            refine hqueries.ne_create ?_ _
            simpa using hlost call hcall
          refine iff_of_false ?_ fun hall => hinUse (hall call hcall)
          intro hall
          have hone := hall handle hmem
          rw [hopen] at hone
          cases hone

/-- A check of the unit of one factory. -/
def ping : HealthCheck := ⟨⟨0⟩, "SELECT 1", .ofSeconds 1⟩

/-- Its limit passes while its handle begins a transaction. -/
def pingGivenUp : List (CheckDeed noJobs) := [
  .heard (.ofSeconds 1, .create ⟨0⟩) (some (.ok ⟨0, ⟨0⟩⟩, .ofMilliseconds 0)),
  .heard (.ofSeconds 1, .begin ⟨0, ⟨0⟩⟩) none,
  .did (.emit (.healthCheckTimedOut ⟨0⟩ (.ofSeconds 1))) ()]

/-- Then it has returned, and its handle is open. -/
theorem pingGivenUp_not_closed :
    ¬ ∀ (health : HealthCheck) (deeds : List (CheckDeed noJobs)) (status : HealthStatus),
      (health.check : TimedWork noJobs HealthStatus).Traces deeds (some status) →
        ∀ h ∈ handed (deeds.map Deed.untimed), closings h (deeds.map Deed.untimed) = 1 := by
  intro hall
  have htraces : (ping.check : TimedWork noJobs HealthStatus).Traces pingGivenUp
      (some (.timedOut (.ofSeconds 1))) := by
    refine traces_check.mpr ⟨none, pingGivenUp.take 2, _, rfl, ?_, .timedOut⟩
    refine Task.traces_within.mpr ⟨traces_validate.mpr ?_, ⟨rfl, rfl⟩, by decide⟩
    exact .dropped .beginDropped
  have hone := hall ping pingGivenUp _ htraces ⟨0, ⟨0⟩⟩ List.mem_cons_self
  cases hone

/-- Its query fails, and so does rolling back. -/
def pingFailed : List (CheckDeed noJobs) := [
  .heard (.ofSeconds 1, .create ⟨0⟩) (some (.ok ⟨0, ⟨0⟩⟩, .ofMilliseconds 300)),
  .heard (.ofMilliseconds 700, .begin ⟨0, ⟨0⟩⟩) (some (.ok (), .ofMilliseconds 300)),
  .heard (.ofMilliseconds 400, .execute ⟨0, ⟨0⟩⟩ (.nativeQuery "SELECT 1"))
    (some (.error .handleClosed, .ofMilliseconds 300)),
  .did (.transactionActive ⟨0, ⟨0⟩⟩) true,
  .heard (.ofMilliseconds 100, .rollback ⟨0, ⟨0⟩⟩)
    (some (.error (.rollbackFailed "no"), .ofMilliseconds 99)),
  .did (.emit (.healthRollbackFailed (.rollbackFailed "no"))) (),
  .did (.close ⟨0, ⟨0⟩⟩) (),
  .did (.emit (.healthCheckFailed ⟨0⟩ .handleClosed)) ()]

/-- It returns in time, and its handle has been closed. -/
theorem pingFailed_closed :
    (ping.check : TimedWork noJobs HealthStatus).Traces pingFailed (some (.failed .handleClosed)) ∧
      ∀ h ∈ handed (pingFailed.map Deed.untimed),
        closings h (pingFailed.map Deed.untimed) = 1 := by
  have htraces : (ping.check : TimedWork noJobs HealthStatus).Traces pingFailed
      (some (.failed .handleClosed)) := by
    refine traces_check.mpr ⟨some (.error .handleClosed), pingFailed.take 7, _, rfl, ?_, .failed _⟩
    refine Task.traces_within.mpr
      ⟨traces_validate.mpr ?_, ⟨rfl, rfl, rfl, rfl, trivial⟩, by decide⟩
    exact .validated (.queryFailed _ (.failed _))
  exact ⟨htraces, (check_closes_iff htraces).mpr fun _ hcall => nomatch hcall⟩

end Checks

end HealthCheck

end Demarcation
