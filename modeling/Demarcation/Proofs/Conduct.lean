/-
How a unit of work is conducted.

For each routine of a demarcator a relation lists what may happen when it runs,
one constructor for each way through it, with every deed in order.  The routine
has exactly these traces: `traces_start`, `traces_complete`, `traces_fail` and
`traces_release` are equivalences.  What is said of units of work elsewhere
goes through these relations and does not open the routines again.
-/
import Demarcation.Demarcator
import Demarcation.Proofs.Trace

namespace Demarcation

/-- A deed of a unit of work. -/
abbrev WorkDeed (app : Jobs) : Type := Deed Work.vocabulary (Work.calls app)

variable {app : Jobs}

/-! ## Steps without an answer -/

theorem traces_emit {e : Event} {ds : List (WorkDeed app)} {u : Unit} :
    (emit e).Traces ds u ↔ ds = [.did (.emit e) ()] := by
  simp only [emit, Action.traces_perform, Action.traces_done]
  constructor
  · rintro ⟨⟨⟩, _, rfl, rfl, -⟩
    rfl
  · rintro rfl
    exact ⟨(), [], rfl, rfl, trivial⟩

theorem Handle.traces_close {h : Handle} {ds : List (WorkDeed app)} {u : Unit} :
    h.close.Traces ds u ↔ ds = [.did (.close h) ()] := by
  simp only [Handle.close, Action.traces_perform, Action.traces_done]
  constructor
  · rintro ⟨⟨⟩, _, rfl, rfl, -⟩
    rfl
  · rintro rfl
    exact ⟨(), [], rfl, rfl, trivial⟩

/-! ## Contexts -/

namespace ContextId

variable (cx : ContextId)

/-- Binding a handle, given the handle that it replaces. -/
def bindDeeds (handle : Handle) (replaced : Option Handle) : List (WorkDeed app) :=
  [.did (.context (.bind cx handle)) replaced,
    .did (.emit (if replaced.isSome then .bindingReplaced cx handle.factory
      else .bound cx handle.factory)) ()]

/-- Removing a binding, given the handle that was bound. -/
def unbindDeeds (factory : FactoryId) (removed : Option Handle) : List (WorkDeed app) :=
  .did (.context (.unbind cx factory)) removed ::
    if removed.isSome then [.did (.emit (.unbound cx factory)) ()] else []

theorem bind_eq (h : Handle) :
    cx.bind h = .perform (.context (.bind cx h)) fun replaced =>
      emit (if replaced.isSome then .bindingReplaced cx h.factory else .bound cx h.factory)
        >>= fun _ => .done replaced := by
  simp only [bind, Action.perform_bind, Action.done_bind]
  congr 1
  funext replaced
  cases replaced <;> rfl

theorem unbind_eq (f : FactoryId) :
    cx.unbind f = .perform (.context (.unbind cx f)) fun removed =>
      (if removed.isSome then emit (.unbound cx f) else .done ()) >>= fun _ => .done removed := by
  simp only [unbind, Action.perform_bind, Action.done_bind]
  congr 1
  funext removed
  cases removed <;> rfl

variable {cx}

theorem traces_bind {h : Handle} {ds : List (WorkDeed app)} {r : Option Handle} :
    (cx.bind h).Traces ds r ↔ ds = cx.bindDeeds h r := by
  simp only [bind_eq, Action.traces_perform, Action.traces_bind, traces_emit, Action.traces_done]
  constructor
  · rintro ⟨replaced, _, rfl, _, _, _, rfl, rfl, rfl, rfl⟩
    rfl
  · rintro rfl
    exact ⟨r, _, rfl, (), _, [], rfl, rfl, rfl, rfl⟩

theorem traces_unbind {f : FactoryId} {ds : List (WorkDeed app)} {r : Option Handle} :
    (cx.unbind f).Traces ds r ↔ ds = cx.unbindDeeds f r := by
  simp only [unbind_eq, Action.traces_perform, Action.traces_bind, Action.traces_done]
  constructor
  · rintro ⟨removed, _, rfl, _, told, _, rfl, htold, rfl, rfl⟩
    cases r with
    | none =>
        obtain ⟨rfl, -⟩ := Action.traces_done.mp htold
        rfl
    | some =>
        obtain rfl := traces_emit.mp htold
        rfl
  · rintro rfl
    refine ⟨r, _, rfl, (), _, [], (List.append_nil _).symm, ?_, rfl, rfl⟩
    cases r with
    | none => exact Action.traces_done.mpr ⟨rfl, rfl⟩
    | some => exact traces_emit.mpr rfl

end ContextId

/-! ## Units of work -/

namespace OpenUnit

variable (work : OpenUnit)

/-- Closing the handle and removing the binding, given the handle that was bound. -/
def releaseDeeds (cx : ContextId) (removed : Option Handle) : List (WorkDeed app) :=
  .did (.close work.handle) () :: (cx.unbindDeeds work.factory removed ++
    [.did (.emit (.released cx work.spec.unit)) ()])

/-- What opening does with a fresh handle. -/
inductive Enters (cx : ContextId) (spec : WorkSpec) (handle : Handle) :
    List (WorkDeed app) → Option (Except Failure Unit) → Prop where
  | configureDropped : Enters cx spec handle [.lost (.configure handle spec.sessionOptions)] none
  | configureFailed (failure : Failure) :
      Enters cx spec handle [.heard (.configure handle spec.sessionOptions) (.error failure)]
        (some (.error failure))
  | bound (replaced : Option Handle) (plain : spec.transactional = false) :
      Enters cx spec handle
        (.heard (.configure handle spec.sessionOptions) (.ok ()) :: cx.bindDeeds handle replaced)
        (some (.ok ()))
  | beginDropped (replaced : Option Handle) (transactional : spec.transactional = true) :
      Enters cx spec handle
        (.heard (.configure handle spec.sessionOptions) (.ok ()) ::
          (cx.bindDeeds handle replaced ++ [.lost (.begin handle)]))
        none
  | begun (replaced : Option Handle) (transactional : spec.transactional = true)
      (reply : Except Failure Unit) :
      Enters cx spec handle
        (.heard (.configure handle spec.sessionOptions) (.ok ()) ::
          (cx.bindDeeds handle replaced ++ [.heard (.begin handle) reply]))
        (some reply)

/-- Whether there is a transaction to be ended: a unit without one does not ask. -/
inductive OwesEnd : List (WorkDeed app) → Bool → Prop where
  | plain (plain : work.spec.transactional = false) : OwesEnd [] false
  | asked (transactional : work.spec.transactional = true) (active : Bool) :
      OwesEnd [.did (.transactionActive work.handle) active] active

/-- What committing does. -/
inductive Commits : List (WorkDeed app) → Option (Except Failure Unit) → Prop where
  | notOwed {asked : List (WorkDeed app)} (owes : work.OwesEnd asked false) :
      Commits asked (some (.ok ()))
  | dropped {asked : List (WorkDeed app)} (owes : work.OwesEnd asked true) :
      Commits (asked ++ [.lost (.commit work.handle)]) none
  | failed {asked : List (WorkDeed app)} (owes : work.OwesEnd asked true) (failure : Failure) :
      Commits (asked ++ [.heard (.commit work.handle) (.error failure)]) (some (.error failure))
  | committed {asked : List (WorkDeed app)} (owes : work.OwesEnd asked true) :
      Commits (asked ++ [.heard (.commit work.handle) (.ok ()),
        .did (.emit (.committed work.spec.unit)) ()]) (some (.ok ()))

/-- What rolling back does. -/
inductive RollsBack : List (WorkDeed app) → Option Unit → Prop where
  | notOwed {asked : List (WorkDeed app)} (owes : work.OwesEnd asked false) :
      RollsBack asked (some ())
  | dropped {asked : List (WorkDeed app)} (owes : work.OwesEnd asked true) :
      RollsBack (asked ++ [.lost (.rollback work.handle)]) none
  | failed {asked : List (WorkDeed app)} (owes : work.OwesEnd asked true) (failure : Failure) :
      RollsBack (asked ++ [.heard (.rollback work.handle) (.error failure),
        .did (.emit (.rollbackFailed work.spec.unit failure)) ()]) (some ())
  | rolledBack {asked : List (WorkDeed app)} (owes : work.OwesEnd asked true) :
      RollsBack (asked ++ [.heard (.rollback work.handle) (.ok ()),
        .did (.emit (.rolledBack work.spec.unit)) ()]) (some ())

variable {work}

theorem traces_release {cx : ContextId} {ds : List (WorkDeed app)} {u : Unit} :
    (work.release cx).Traces ds u ↔ ∃ removed, ds = work.releaseDeeds cx removed := by
  simp only [release, Action.traces_bind, Handle.traces_close, ContextId.traces_unbind, traces_emit]
  constructor
  · rintro ⟨_, _, _, rfl, rfl, removed, _, _, rfl, rfl, rfl⟩
    exact ⟨removed, rfl⟩
  · rintro ⟨removed, rfl⟩
    exact ⟨(), _, _, rfl, rfl, removed, _, _, rfl, rfl, rfl⟩

theorem traces_enter {cx : ContextId} {spec : WorkSpec} {handle : Handle}
    {ds : List (WorkDeed app)} {v : Option (Except Failure Unit)} :
    (enter cx spec handle : Work app (Except Failure Unit)).Traces ds v ↔
      Enters cx spec handle ds v := by
  simp only [enter, Handle.configure, Handle.begin, Task.await_bind, Task.done_bind,
    Task.traces_await, Action.traces_done]
  constructor
  · rintro (⟨failure | ⟨⟩, _, rfl, h⟩ | ⟨_, rfl, rfl, rfl, -⟩)
    · obtain ⟨rfl, rfl⟩ := Task.traces_done.mp h
      exact .configureFailed failure
    · simp only [Task.liftM_eq_ofAction, Task.traces_ofAction_bind, ContextId.traces_bind] at h
      obtain ⟨replaced, _, rest, rfl, rfl, h⟩ := h
      cases htx : spec.transactional with
      | false =>
          simp only [htx, Bool.false_eq_true, if_false, Task.pure_eq_done, Task.traces_done] at h
          obtain ⟨rfl, rfl⟩ := h
          rw [List.append_nil]
          exact .bound replaced htx
      | true =>
          simp only [htx, if_true, Task.traces_await, Task.traces_done, Action.traces_done] at h
          rcases h with ⟨reply, _, rfl, rfl, rfl⟩ | ⟨_, rfl, rfl, rfl, -⟩
          · exact .begun replaced htx reply
          · exact .beginDropped replaced htx
    · exact .configureDropped
  · intro h
    cases h with
    | configureDropped => exact Or.inr ⟨_, rfl, rfl, rfl, trivial⟩
    | configureFailed failure => exact Or.inl ⟨_, _, rfl, .done _⟩
    | bound replaced htx =>
        refine Or.inl ⟨.ok (), _, rfl, ?_⟩
        simp only [Task.liftM_eq_ofAction, Task.traces_ofAction_bind, ContextId.traces_bind, htx]
        exact ⟨replaced, _, [], (List.append_nil _).symm, rfl, .done _⟩
    | beginDropped replaced htx =>
        refine Or.inl ⟨.ok (), _, rfl, ?_⟩
        simp only [Task.liftM_eq_ofAction, Task.traces_ofAction_bind, ContextId.traces_bind, htx]
        exact ⟨replaced, _, _, rfl, rfl, .lost (.done ())⟩
    | begun replaced htx reply =>
        refine Or.inl ⟨.ok (), _, rfl, ?_⟩
        simp only [Task.liftM_eq_ofAction, Task.traces_ofAction_bind, ContextId.traces_bind, htx]
        exact ⟨replaced, _, _, rfl, rfl, .heard (.done reply)⟩

theorem traces_owesEnd {ds : List (WorkDeed app)} {b : Bool} :
    work.owesEnd.Traces ds b ↔ work.OwesEnd ds b := by
  cases htx : work.spec.transactional with
  | false =>
      simp only [owesEnd, htx, Bool.false_eq_true, if_false, Action.pure_eq_done,
        Action.traces_done]
      constructor
      · rintro ⟨rfl, rfl⟩
        exact .plain htx
      · intro h
        cases h with
        | plain => exact ⟨rfl, rfl⟩
        | asked h => rw [htx] at h; cases h
  | true =>
      simp only [owesEnd, htx, if_true, Handle.transactionActive, Action.traces_perform,
        Action.traces_done]
      constructor
      · rintro ⟨active, _, rfl, rfl, rfl⟩
        exact .asked htx b
      · intro h
        cases h with
        | plain h => rw [htx] at h; cases h
        | asked _ active => exact ⟨b, [], rfl, rfl, rfl⟩

theorem traces_commit {ds : List (WorkDeed app)} {v : Option (Except Failure Unit)} :
    (work.commit : Work app (Except Failure Unit)).Traces ds v ↔ work.Commits ds v := by
  simp only [commit, Task.liftM_eq_ofAction, Task.traces_ofAction_bind, traces_owesEnd]
  constructor
  · rintro ⟨_ | _, asked, rest, rfl, howes, h⟩
    · obtain ⟨rfl, rfl⟩ := Task.traces_done.mp h
      rw [List.append_nil]
      exact .notOwed howes
    · simp only [if_true, Handle.commit, Task.await_bind, Task.done_bind, Task.traces_await,
        Action.traces_done] at h
      rcases h with ⟨failure | ⟨⟩, rest, rfl, h⟩ | ⟨_, rfl, rfl, rfl, -⟩
      · obtain ⟨rfl, rfl⟩ := Task.traces_done.mp h
        exact .failed howes failure
      · simp only [Task.traces_ofAction_bind, traces_emit, Task.pure_eq_done,
          Task.traces_done] at h
        obtain ⟨_, _, _, rfl, rfl, rfl, rfl⟩ := h
        exact .committed howes
      · exact .dropped howes
  · intro h
    cases h with
    | notOwed howes => exact ⟨false, _, [], (List.append_nil _).symm, howes, .done _⟩
    | dropped howes => exact ⟨true, _, _, rfl, howes, .lost (.done ())⟩
    | failed howes failure => exact ⟨true, _, _, rfl, howes, .heard (.done _)⟩
    | committed howes => exact ⟨true, _, _, rfl, howes, .heard (.perform (.done _))⟩

theorem traces_rollback {ds : List (WorkDeed app)} {v : Option Unit} :
    (work.rollback : Work app Unit).Traces ds v ↔ work.RollsBack ds v := by
  simp only [rollback, Task.liftM_eq_ofAction, Task.traces_ofAction_bind, traces_owesEnd]
  constructor
  · rintro ⟨_ | _, asked, rest, rfl, howes, h⟩
    · obtain ⟨rfl, rfl⟩ := Task.traces_done.mp h
      rw [List.append_nil]
      exact .notOwed howes
    · simp only [if_true, Handle.rollback, Task.await_bind, Task.done_bind, Task.traces_await,
        Action.traces_done] at h
      rcases h with ⟨failure | ⟨⟩, rest, rfl, h⟩ | ⟨_, rfl, rfl, rfl, -⟩
      · obtain ⟨_, rfl, htold⟩ := Task.traces_ofAction.mp h
        obtain rfl := traces_emit.mp htold
        exact .failed howes failure
      · obtain ⟨_, rfl, htold⟩ := Task.traces_ofAction.mp h
        obtain rfl := traces_emit.mp htold
        exact .rolledBack howes
      · exact .dropped howes
  · intro h
    cases h with
    | notOwed howes => exact ⟨false, _, [], (List.append_nil _).symm, howes, .done _⟩
    | dropped howes => exact ⟨true, _, _, rfl, howes, .lost (.done ())⟩
    | failed howes failure => exact ⟨true, _, _, rfl, howes, .heard (.perform (.done _))⟩
    | rolledBack howes => exact ⟨true, _, _, rfl, howes, .heard (.perform (.done _))⟩

end OpenUnit

/-! ## Demarcators -/

namespace Demarcator

variable (demarcator : Demarcator)

/-- What starting does. -/
inductive Starts (registry : Registry) (cx : ContextId) :
    Option WorkSpec → List (WorkDeed app) → Option (Except Failure Demarcator) → Prop where
  | undeclared : Starts registry cx none [] (some (.ok demarcator))
  | unresolved {spec : WorkSpec} {failure : Failure}
      (resolved : registry.resolve spec.unit = .error failure) :
      Starts registry cx (some spec) [] (some (.error failure))
  | createDropped {spec : WorkSpec} {factory : FactoryId}
      (resolved : registry.resolve spec.unit = .ok factory) :
      Starts registry cx (some spec) [.lost (.create factory)] none
  | createFailed {spec : WorkSpec} {factory : FactoryId}
      (resolved : registry.resolve spec.unit = .ok factory) (failure : Failure) :
      Starts registry cx (some spec) [.heard (.create factory) (.error failure)]
        (some (.error failure))
  | enterDropped {spec : WorkSpec} {factory : FactoryId}
      (resolved : registry.resolve spec.unit = .ok factory) {handle : Handle}
      {entered : List (WorkDeed app)} (enters : OpenUnit.Enters cx spec handle entered none) :
      Starts registry cx (some spec) (.heard (.create factory) (.ok handle) :: entered) none
  | refused {spec : WorkSpec} {factory : FactoryId}
      (resolved : registry.resolve spec.unit = .ok factory) {handle : Handle}
      {entered : List (WorkDeed app)} {failure : Failure}
      (enters : OpenUnit.Enters cx spec handle entered (some (.error failure)))
      (removed : Option Handle) :
      Starts registry cx (some spec)
        (.heard (.create factory) (.ok handle) ::
          (entered ++ .did (.close handle) () :: cx.unbindDeeds factory removed))
        (some (.error failure))
  | opened {spec : WorkSpec} {factory : FactoryId}
      (resolved : registry.resolve spec.unit = .ok factory) {handle : Handle}
      {entered : List (WorkDeed app)}
      (enters : OpenUnit.Enters cx spec handle entered (some (.ok ()))) :
      Starts registry cx (some spec)
        (.heard (.create factory) (.ok handle) ::
          (entered ++ [.did (.emit (.workStarted cx spec.unit spec.transactional)) ()]))
        (some (.ok { demarcator with current := some { spec, handle, factory } }))

/-- What finishing does: an immediate release, or nothing. -/
inductive Finishes (cx : ContextId) (work : OpenUnit) : List (WorkDeed app) → Prop where
  | immediate (mode : demarcator.mode = .immediate) (removed : Option Handle) :
      Finishes cx work (work.releaseDeeds cx removed)
  | deferred (mode : demarcator.mode = .deferred) : Finishes cx work []

/-- What ending in success does. -/
inductive Completes (cx : ContextId) :
    List (WorkDeed app) → Option (Except Failure Unit × Demarcator) → Prop where
  | idle (current : demarcator.current = none) : Completes cx [] (some (.ok (), demarcator))
  | commitDropped {work : OpenUnit} (current : demarcator.current = some work)
      {deeds : List (WorkDeed app)} (commits : work.Commits deeds none) : Completes cx deeds none
  | completed {work : OpenUnit} (current : demarcator.current = some work)
      {deeds finishing : List (WorkDeed app)} (commits : work.Commits deeds (some (.ok ())))
      (finishes : demarcator.Finishes cx work finishing) :
      Completes cx (deeds ++ finishing) (some (.ok (), demarcator.idle))
  | rollbackDropped {work : OpenUnit} (current : demarcator.current = some work)
      {deeds rolling : List (WorkDeed app)} {failure : Failure}
      (commits : work.Commits deeds (some (.error failure))) (rolls : work.RollsBack rolling none) :
      Completes cx (deeds ++ .did (.emit (.commitFailed cx work.spec.unit failure)) () :: rolling)
        none
  | commitFailed {work : OpenUnit} (current : demarcator.current = some work)
      {deeds rolling finishing : List (WorkDeed app)} {failure : Failure}
      (commits : work.Commits deeds (some (.error failure)))
      (rolls : work.RollsBack rolling (some ()))
      (finishes : demarcator.Finishes cx work finishing) :
      Completes cx
        (deeds ++ .did (.emit (.commitFailed cx work.spec.unit failure)) () ::
          (rolling ++ finishing))
        (some (.error failure, demarcator.idle))

/-- What ending in failure does. -/
inductive Fails (cx : ContextId) : List (WorkDeed app) → Option Demarcator → Prop where
  | idle (current : demarcator.current = none) : Fails cx [] (some demarcator)
  | dropped {work : OpenUnit} (current : demarcator.current = some work)
      {rolling : List (WorkDeed app)} (rolls : work.RollsBack rolling none) : Fails cx rolling none
  | failed {work : OpenUnit} (current : demarcator.current = some work)
      {rolling finishing : List (WorkDeed app)} (rolls : work.RollsBack rolling (some ()))
      (finishes : demarcator.Finishes cx work finishing) :
      Fails cx (rolling ++ finishing) (some demarcator.idle)

variable {demarcator}

theorem traces_start {registry : Registry} {cx : ContextId} {spec? : Option WorkSpec}
    {ds : List (WorkDeed app)} {v : Option (Except Failure Demarcator)} :
    (demarcator.start registry cx spec? : Work app (Except Failure Demarcator)).Traces ds v ↔
      demarcator.Starts registry cx spec? ds v := by
  constructor
  · intro h
    cases spec? with
    | none =>
        obtain ⟨rfl, rfl⟩ := Task.traces_done.mp h
        exact .undeclared
    | some spec =>
        cases hres : registry.resolve spec.unit with
        | error failure =>
            simp only [start, hres, Task.pure_eq_done, Task.traces_done] at h
            obtain ⟨rfl, rfl⟩ := h
            exact .unresolved hres
        | ok factory =>
            simp only [start, hres, FactoryId.createHandle, Task.await_bind, Task.done_bind,
              Task.traces_await, Action.traces_done] at h
            rcases h with ⟨failure | handle, rest, rfl, h⟩ | ⟨_, rfl, rfl, rfl, -⟩
            · obtain ⟨rfl, rfl⟩ := Task.traces_done.mp h
              exact .createFailed hres failure
            · simp only [Task.traces_bind, OpenUnit.traces_enter] at h
              rcases h with ⟨failure | ⟨⟩, entered, rest, rfl, henters, h⟩ | ⟨henters, rfl⟩
              · simp only [Task.liftM_eq_ofAction, Task.traces_ofAction_bind, Handle.traces_close,
                  ContextId.traces_unbind, Task.pure_eq_done, Task.traces_done] at h
                obtain ⟨_, _, _, rfl, rfl, removed, _, _, rfl, rfl, rfl, rfl⟩ := h
                rw [List.append_nil]
                exact .refused hres henters removed
              · simp only [Task.liftM_eq_ofAction, Task.traces_ofAction_bind, traces_emit,
                  Task.pure_eq_done, Task.traces_done] at h
                obtain ⟨_, _, _, rfl, rfl, rfl, rfl⟩ := h
                exact .opened hres henters
              · exact .enterDropped hres henters
            · exact .createDropped hres
  · intro h
    cases h with
    | undeclared => exact .done _
    | unresolved hres =>
        simp only [start, hres]
        exact .done _
    | createDropped hres =>
        simp only [start, hres]
        exact .lost (.done ())
    | createFailed hres failure =>
        simp only [start, hres]
        exact .heard (.done _)
    | enterDropped hres henters =>
        simp only [start, hres, FactoryId.createHandle, Task.await_bind, Task.done_bind]
        exact .heard (Task.traces_bind.mpr (Or.inr ⟨OpenUnit.traces_enter.mpr henters, rfl⟩))
    | refused hres henters removed =>
        simp only [start, hres, FactoryId.createHandle, Task.await_bind, Task.done_bind]
        refine .heard (Task.traces_bind.mpr
          (Or.inl ⟨_, _, _, rfl, OpenUnit.traces_enter.mpr henters, ?_⟩))
        simp only [Task.liftM_eq_ofAction, Task.traces_ofAction_bind, Handle.traces_close,
          ContextId.traces_unbind]
        exact ⟨(), _, _, rfl, rfl, removed, _, [], (List.append_nil _).symm, rfl, .done _⟩
    | opened hres henters =>
        simp only [start, hres, FactoryId.createHandle, Task.await_bind, Task.done_bind]
        exact .heard (Task.traces_bind.mpr
          (Or.inl ⟨_, _, _, rfl, OpenUnit.traces_enter.mpr henters, .perform (.done _)⟩))

theorem traces_finish {cx : ContextId} {work : OpenUnit} {ds : List (WorkDeed app)} {u : Unit} :
    (demarcator.finish cx work).Traces ds u ↔ demarcator.Finishes cx work ds := by
  cases hmode : demarcator.mode with
  | immediate =>
      simp only [finish, hmode, OpenUnit.traces_release]
      constructor
      · rintro ⟨removed, rfl⟩
        exact .immediate hmode removed
      · intro h
        cases h with
        | immediate _ removed => exact ⟨removed, rfl⟩
        | deferred h => rw [hmode] at h; cases h
  | deferred =>
      simp only [finish, hmode, Action.pure_eq_done, Action.traces_done, and_true]
      constructor
      · rintro rfl
        exact .deferred hmode
      · intro h
        cases h with
        | immediate h => rw [hmode] at h; cases h
        | deferred => rfl

theorem traces_complete {cx : ContextId} {ds : List (WorkDeed app)}
    {v : Option (Except Failure Unit × Demarcator)} :
    (demarcator.complete cx : Work app (Except Failure Unit × Demarcator)).Traces ds v ↔
      demarcator.Completes cx ds v := by
  cases hcur : demarcator.current with
  | none =>
      simp only [complete, hcur, Task.pure_eq_done, Task.traces_done]
      constructor
      · rintro ⟨rfl, rfl⟩
        exact .idle hcur
      · intro h
        cases h with
        | idle => exact ⟨rfl, rfl⟩
        | commitDropped h => rw [hcur] at h; cases h
        | completed h => rw [hcur] at h; cases h
        | rollbackDropped h => rw [hcur] at h; cases h
        | commitFailed h => rw [hcur] at h; cases h
  | some work =>
      simp only [complete, hcur, Task.traces_bind, OpenUnit.traces_commit]
      constructor
      · rintro (⟨failure | ⟨⟩, deeds, _, rfl, hcommits, h⟩ | ⟨hcommits, rfl⟩)
        · simp only [Task.liftM_eq_ofAction, Task.traces_ofAction_bind, traces_emit] at h
          obtain ⟨_, _, _, rfl, rfl, h⟩ := h
          rw [Task.traces_bind] at h
          simp only [OpenUnit.traces_rollback, Task.traces_ofAction_bind, traces_finish,
            Task.pure_eq_done, Task.traces_done] at h
          rcases h with
            ⟨⟨⟩, rolling, _, rfl, hrolls, ⟨⟩, finishing, _, rfl, hfinishes, rfl, rfl⟩ |
            ⟨hrolls, rfl⟩
          · rw [List.append_nil, List.singleton_append]
            exact .commitFailed hcur hcommits hrolls hfinishes
          · exact .rollbackDropped hcur hcommits hrolls
        · simp only [Task.liftM_eq_ofAction, Task.traces_ofAction_bind, traces_finish,
            Task.pure_eq_done, Task.traces_done] at h
          obtain ⟨_, finishing, _, rfl, hfinishes, rfl, rfl⟩ := h
          rw [List.append_nil]
          exact .completed hcur hcommits hfinishes
        · exact .commitDropped hcur hcommits
      · intro h
        cases h with
        | idle h => rw [hcur] at h; cases h
        | commitDropped h hcommits =>
            obtain rfl := Option.some.inj (h.symm.trans hcur)
            exact Or.inr ⟨hcommits, rfl⟩
        | completed h hcommits hfinishes =>
            obtain rfl := Option.some.inj (h.symm.trans hcur)
            exact Or.inl ⟨_, _, _, rfl, hcommits, Task.traces_ofAction_bind.mpr
              ⟨(), _, [], (List.append_nil _).symm, traces_finish.mpr hfinishes, .done _⟩⟩
        | rollbackDropped h hcommits hrolls =>
            obtain rfl := Option.some.inj (h.symm.trans hcur)
            refine Or.inl ⟨_, _, _, rfl, hcommits, Task.traces_ofAction_bind.mpr
              ⟨(), _, _, rfl, traces_emit.mpr rfl, ?_⟩⟩
            exact Task.traces_bind.mpr (Or.inr ⟨OpenUnit.traces_rollback.mpr hrolls, rfl⟩)
        | commitFailed h hcommits hrolls hfinishes =>
            obtain rfl := Option.some.inj (h.symm.trans hcur)
            refine Or.inl ⟨_, _, _, rfl, hcommits, Task.traces_ofAction_bind.mpr
              ⟨(), _, _, rfl, traces_emit.mpr rfl, ?_⟩⟩
            refine Task.traces_bind.mpr
              (Or.inl ⟨(), _, _, rfl, OpenUnit.traces_rollback.mpr hrolls, ?_⟩)
            exact Task.traces_ofAction_bind.mpr
              ⟨(), _, [], (List.append_nil _).symm, traces_finish.mpr hfinishes, .done _⟩

theorem traces_fail {cx : ContextId} {ds : List (WorkDeed app)} {v : Option Demarcator} :
    (demarcator.fail cx : Work app Demarcator).Traces ds v ↔ demarcator.Fails cx ds v := by
  cases hcur : demarcator.current with
  | none =>
      simp only [fail, hcur, Task.pure_eq_done, Task.traces_done]
      constructor
      · rintro ⟨rfl, rfl⟩
        exact .idle hcur
      · intro h
        cases h with
        | idle => exact ⟨rfl, rfl⟩
        | dropped h => rw [hcur] at h; cases h
        | failed h => rw [hcur] at h; cases h
  | some work =>
      simp only [fail, hcur]
      rw [Task.traces_bind]
      simp only [OpenUnit.traces_rollback, Task.liftM_eq_ofAction, Task.traces_ofAction_bind,
        traces_finish]
      constructor
      · rintro (⟨_, rolling, _, rfl, hrolls, h⟩ | ⟨hrolls, rfl⟩)
        · simp only [Task.pure_eq_done, Task.traces_done] at h
          obtain ⟨_, finishing, _, rfl, hfinishes, rfl, rfl⟩ := h
          rw [List.append_nil]
          exact .failed hcur hrolls hfinishes
        · exact .dropped hcur hrolls
      · intro h
        cases h with
        | idle h => rw [hcur] at h; cases h
        | dropped h hrolls =>
            obtain rfl := Option.some.inj (h.symm.trans hcur)
            exact Or.inr ⟨hrolls, rfl⟩
        | failed h hrolls hfinishes =>
            obtain rfl := Option.some.inj (h.symm.trans hcur)
            exact Or.inl ⟨(), _, _, rfl, hrolls,
              (), _, [], (List.append_nil _).symm, hfinishes, .done _⟩

end Demarcator

end Demarcation
