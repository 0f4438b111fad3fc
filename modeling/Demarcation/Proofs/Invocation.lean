/-
Calls of a component.

A call opens a unit of work, runs its method and concludes.  A dropped call was
dropped in one of the three, and `Drops` keeps what it did before, during and
after its method apart; `Concludes` does the same for a call that returned.

Two questions are settled.  Does a dropped call give its handle back?  It does,
unless it was dropped while the handle was configured or its transaction begun:
then the demarcator does not know of the handle yet.  Does a call leave the
bindings of a shared context as they were?  It removes the binding of its own
factory, so it does if and only if there was none.
-/
import Demarcation.Component
import Demarcation.Proofs.Effects

namespace Demarcation

/-- The routine, if it ends, leaves the context as it is, provided that it found
`bindings` there. -/
def Keeps {app : Jobs} {α : Type} (others : Workspace → Workspace → Prop) (cx : ContextId)
    (bindings : Context) (routine : Work app α) : Prop :=
  ∀ deeds value w w', routine.Traces deeds (some value) → OwnFactory deeds →
    Workspace.Leads others deeds w w' → w.context cx = bindings → w'.context cx = bindings

namespace Component

variable {app : Jobs} {τ ρ ε : Type}

/-! ## The parts of a call -/

section Parts

variable (component : Component τ) (registry : Registry) (ofFailure : Failure → ε)
  (cx : ContextId) (method : String) (call : τ → ContextId → Work app (Except ε ρ))

/-- What a dropped call did before, during and after its method. -/
inductive Drops : (before during after : List (WorkDeed app)) → Prop where
  | opening {before : List (WorkDeed app)}
      (opens : (component.opening registry cx method).Traces before none) : Drops before [] []
  | running {before during after : List (WorkDeed app)} {demarcator : Demarcator}
      (opens : (component.opening registry cx method).Traces before (some (.ok demarcator)))
      (runs : (call component.target cx).Traces during none)
      (releases : (demarcator.releaseAbandoned cx).Traces after ()) : Drops before during after
  | concluding {before during ending after : List (WorkDeed app)} {demarcator : Demarcator}
      {outcome : Except ε ρ}
      (opens : (component.opening registry cx method).Traces before (some (.ok demarcator)))
      (runs : (call component.target cx).Traces during (some outcome))
      (ends : (conclude ofFailure demarcator cx outcome).Traces ending none)
      (releases : (demarcator.releaseAbandoned cx).Traces after ()) :
      Drops before during (ending ++ after)

/-- What a call that opened its unit of work and returned `result` did before,
during and after its method. -/
inductive Concludes : (before during after : List (WorkDeed app)) → (result : Except ε ρ) →
    Prop where
  | concluded {before during after : List (WorkDeed app)} {demarcator : Demarcator}
      {outcome result : Except ε ρ}
      (opens : (component.opening registry cx method).Traces before (some (.ok demarcator)))
      (runs : (call component.target cx).Traces during (some outcome))
      (ends : (conclude ofFailure demarcator cx outcome).Traces after (some result)) :
      Concludes before during after result

end Parts

section Traces

variable {component : Component τ} {registry : Registry} {ofFailure : Failure → ε}
  {cx : ContextId} {method : String} {call : τ → ContextId → Work app (Except ε ρ)}
  {ds : List (WorkDeed app)}

theorem traces_callIn_none :
    (component.callIn registry ofFailure cx method call).Traces ds none ↔
      ∃ before during after, ds = before ++ (during ++ after) ∧
        component.Drops registry ofFailure cx method call before during after := by
  rw [callIn, Task.traces_bind]
  constructor
  · rintro (⟨failure | demarcator, before, rest, rfl, hopens, h⟩ | ⟨hopens, -⟩)
    · obtain ⟨-, hnone⟩ := Task.traces_done.mp h
      cases hnone
    · rw [Task.traces_guarded] at h
      rcases h with ⟨hnone, -⟩ | ⟨-, first, after, rfl, hbody, hreleases⟩
      · exact absurd rfl hnone
      · rw [Task.traces_bind] at hbody
        rcases hbody with ⟨outcome, during, ending, rfl, hruns, hends⟩ | ⟨hruns, -⟩
        · refine ⟨before, during, ending ++ after, ?_, .concluding hopens hruns hends hreleases⟩
          rw [List.append_assoc]
        · exact ⟨before, first, after, rfl, .running hopens hruns hreleases⟩
    · exact ⟨ds, [], [], (List.append_nil ds).symm, .opening hopens⟩
  · rintro ⟨before, during, after, rfl, h⟩
    cases h with
    | opening hopens =>
        rw [List.append_nil, List.append_nil]
        exact Or.inr ⟨hopens, rfl⟩
    | running hopens hruns hreleases =>
        refine Or.inl ⟨_, _, _, rfl, hopens, Task.traces_guarded.mpr (Or.inr ⟨rfl, _, _, rfl, ?_,
          hreleases⟩)⟩
        exact Task.traces_bind.mpr (Or.inr ⟨hruns, rfl⟩)
    | concluding hopens hruns hends hreleases =>
        refine Or.inl ⟨_, _, _, rfl, hopens, Task.traces_guarded.mpr (Or.inr ⟨rfl, _, _,
          (List.append_assoc _ _ _).symm, ?_, hreleases⟩)⟩
        exact Task.traces_bind.mpr (Or.inl ⟨_, _, _, rfl, hruns, hends⟩)

theorem traces_callIn_some {result : Except ε ρ} :
    (component.callIn registry ofFailure cx method call).Traces ds (some result) ↔
      (∃ failure, (component.opening registry cx method).Traces ds (some (.error failure)) ∧
        result = .error (ofFailure failure)) ∨
      ∃ before during after, ds = before ++ (during ++ after) ∧
        component.Concludes registry ofFailure cx method call before during after result := by
  rw [callIn, Task.traces_bind]
  constructor
  · rintro (⟨failure | demarcator, before, rest, rfl, hopens, h⟩ | ⟨-, hnone⟩)
    · obtain ⟨rfl, hresult⟩ := Task.traces_done.mp h
      rw [List.append_nil]
      exact Or.inl ⟨failure, hopens, Option.some.inj hresult⟩
    · rw [Task.traces_guarded] at h
      rcases h with ⟨-, hbody⟩ | ⟨hnone, -⟩
      · rw [Task.traces_bind] at hbody
        rcases hbody with ⟨outcome, during, after, rfl, hruns, hends⟩ | ⟨-, hnone⟩
        · exact Or.inr ⟨before, during, after, rfl, .concluded hopens hruns hends⟩
        · cases hnone
      · cases hnone
    · cases hnone
  · rintro (⟨failure, hopens, rfl⟩ | ⟨before, during, after, rfl, h⟩)
    · exact Or.inl ⟨_, ds, [], (List.append_nil ds).symm, hopens, .done _⟩
    · cases h with
      | concluded hopens hruns hends =>
          refine Or.inl ⟨_, _, _, rfl, hopens, Task.traces_guarded.mpr
            (Or.inl ⟨Option.some_ne_none _, ?_⟩)⟩
          exact Task.traces_bind.mpr (Or.inl ⟨_, _, _, rfl, hruns, hends⟩)

/-- A call in a context of its own is a call in the context that it creates. -/
theorem traces_call {v : Option (Except ε ρ)} :
    (component.call registry ofFailure method call).Traces ds v ↔
      ∃ cx rest, ds = .did (.context .create) cx :: rest ∧
        (component.callIn registry ofFailure cx method call).Traces rest v := by
  simp only [Component.call, ContextId.create, Task.liftM_eq_ofAction, Task.traces_ofAction_bind,
    Action.traces_perform, Action.traces_done]
  constructor
  · rintro ⟨cx, _, rest, rfl, ⟨_, _, rfl, rfl, rfl⟩, h⟩
    exact ⟨cx, rest, rfl, h⟩
  · rintro ⟨cx, rest, rfl, h⟩
    exact ⟨cx, [_], rest, rfl, ⟨cx, [], rfl, rfl, rfl⟩, h⟩

/-- Concluding ends the unit of work, by commit or by rollback. -/
theorem ends_of_traces_conclude {demarcator : Demarcator} {outcome : Except ε ρ}
    {v : Option (Except ε ρ)}
    (h : (conclude ofFailure demarcator cx outcome : Work app (Except ε ρ)).Traces ds v) :
    demarcator.Ends cx ds v.isSome := by
  cases outcome with
  | error e =>
      rw [conclude, Task.traces_bind_done (g := fun _ => .error e) (by intro; rfl)] at h
      obtain ⟨_, hfails, rfl⟩ := h
      rw [Option.isSome_map]
      exact (Demarcator.traces_fail.mp hfails).ends
  | ok value =>
      rw [conclude, Task.traces_bind_done (g := fun r =>
        (r.1.mapError ofFailure).map fun _ => value) (by rintro ⟨_ | _, _⟩ <;> rfl)] at h
      obtain ⟨_, hcompletes, rfl⟩ := h
      rw [Option.isSome_map]
      exact (Demarcator.traces_complete.mp hcompletes).ends

/-! ## A call of the default unit -/

section Keeper

/-- A component whose method "keep" runs in the default unit. -/
def keeper : Component Unit := declare { target := () } "keep" {}

/-- The method "keep", which does nothing. -/
def keep (_ : Unit) (_ : ContextId) : Work noJobs (Except Failure Unit) := .done (.ok ())

theorem keeper_find? : keeper.methods.find? "keep" = some {} := by
  rw [keeper, declare, Table.find?_insert, if_pos rfl]

theorem traces_opening_keeper {ds : List (WorkDeed noJobs)}
    {v : Option (Except Failure Demarcator)} :
    (keeper.opening (.lone ⟨0⟩) ⟨0⟩ "keep").Traces ds v ↔
      Demarcator.Starts { mode := .immediate } (.lone ⟨0⟩) ⟨0⟩ (some {}) ds v := by
  rw [opening, keeper_find?]
  exact Demarcator.traces_start

end Keeper

/-! ## Calls that are dropped -/

section Dropped

variable {others : Workspace → Workspace → Prop} {u w w' : Workspace}
  {before during after : List (WorkDeed app)}

/-- Once a unit of work has been opened, dropping the call closes its handle
and removes the binding. -/
theorem released_of_opened {ending : List (WorkDeed app)} {demarcator : Demarcator}
    (hown : OwnFactory before)
    (hopens : (component.opening registry cx method).Traces before (some (.ok demarcator)))
    (hending : Neutral ending) (hreleases : (demarcator.releaseAbandoned cx).Traces after ())
    (hleads : Workspace.Leads others after u w') :
    ∀ h ∈ handed before, closings h before + closings h (ending ++ after) = 1 ∧
      ¬ (w'.context cx).Binds h := by
  intro h hmem
  rcases (Demarcator.traces_start.mp hopens).of_ok with
    ⟨-, -, rfl⟩ | ⟨spec, work, -, -, rfl, hcreated, hopened⟩
  · cases hmem
  · have hfactory : work.handle.factory = work.factory := hown _ _ hcreated
    rw [hopened.handed] at hmem
    obtain rfl := List.mem_singleton.mp hmem
    obtain ⟨removed, rfl⟩ := (Demarcator.traces_releaseAbandoned rfl).mp hreleases
    constructor
    · rw [hopened.closings, closings_append, hending.closings, closings_cons,
        closings_releaseDeeds, if_pos rfl]
      rfl
    · obtain ⟨_, rfl, hrelease⟩ := hleads
      obtain ⟨-, rfl⟩ := Workspace.leads_releaseDeeds.mp hrelease
      rw [Context.Binds, Workspace.context_set_self, Context.find?_unbind, hfactory, if_pos rfl]
      exact Option.some_ne_none _ ∘ Eq.symm

theorem Drops.closes_iff (hown : OwnFactory before)
    (h : component.Drops registry ofFailure cx method call before during after)
    (hleads : Workspace.Leads others (before ++ (during ++ after)) w w') :
    (∀ h ∈ handed before, closings h before + closings h after = 1 ∧
        ¬ (w'.context cx).Binds h) ↔ ¬ LostEntering before := by
  obtain ⟨_, -, hrest⟩ := follows_append.mp hleads
  obtain ⟨_, -, hafter⟩ := follows_append.mp hrest
  cases h with
  | opening hopens =>
      rcases (Demarcator.traces_start.mp hopens).of_none with
        ⟨hnone, hlost⟩ | ⟨handle, hhanded, hclosings, hlost⟩
      · rw [hnone]
        exact iff_of_true (fun _ hmem => nomatch hmem) hlost
      · have hmem : handle ∈ handed before := by
          rw [hhanded]
          exact List.mem_singleton_self handle
        constructor
        · intro hall
          obtain ⟨hone, -⟩ := hall handle hmem
          rw [hclosings] at hone
          cases hone
        · intro hnot
          exact absurd hlost hnot
  | running hopens hruns hreleases =>
      have hlost : ¬ LostEntering before := not_lostEntering_of_traces hopens
      exact iff_of_true (released_of_opened hown hopens neutral_nil hreleases hafter) hlost
  | concluding hopens hruns hends hreleases =>
      have hlost : ¬ LostEntering before := not_lostEntering_of_traces hopens
      obtain ⟨_, -, hlast⟩ := follows_append.mp hafter
      have hending : Neutral _ := (ends_of_traces_conclude hends).neutral_of_dropped
      exact iff_of_true (released_of_opened hown hopens hending hreleases hlast) hlost

/-- A dropped call closes its handle exactly once and leaves it unbound, if and
only if it was not dropped while it configured the handle or began the
transaction.  What the method itself closes is not counted. -/
theorem dropped_releases_iff {deeds : List (WorkDeed app)}
    (hdropped : (component.callIn registry ofFailure cx method call).Traces deeds none ∨
      (component.call registry ofFailure method call).Traces
        (.did (.context .create) cx :: deeds) none)
    (hown : OwnFactory deeds) (hleads : Workspace.Leads others deeds w w') :
    (∃ before during after, deeds = before ++ (during ++ after) ∧
        component.Drops registry ofFailure cx method call before during after) ∧
      ∀ before during after, deeds = before ++ (during ++ after) →
        component.Drops registry ofFailure cx method call before during after →
        ((∀ h ∈ handed before, closings h before + closings h after = 1 ∧
            ¬ (w'.context cx).Binds h) ↔ ¬ LostEntering before) := by
  have hcall : (component.callIn registry ofFailure cx method call).Traces deeds none := by
    rcases hdropped with hin | hown
    · exact hin
    · obtain ⟨_, _, hdeeds, h⟩ := traces_call.mp hown
      cases hdeeds
      exact h
  refine ⟨traces_callIn_none.mp hcall, ?_⟩
  rintro before during after rfl hdrops
  exact hdrops.closes_iff hown.left hleads

/-- Dropped while the transaction is begun, a call leaves its handle open and
bound. -/
theorem dropped_beginning_keeps_handle :
    ¬ ∀ (deeds : List (WorkDeed noJobs)) (w w' : Workspace),
      (keeper.callIn (.lone ⟨0⟩) id ⟨0⟩ "keep" keep).Traces deeds none →
        OwnFactory deeds → Workspace.Leads Eq deeds w w' →
        ∀ h ∈ handed deeds, closings h deeds = 1 ∧ ¬ (w'.context ⟨0⟩).Binds h := by
  intro hall
  have htraces : (keeper.callIn (.lone ⟨0⟩) id ⟨0⟩ "keep" keep).Traces
      (defaultEntered 0 none ++ [.lost (.begin ⟨0, ⟨0⟩⟩)]) none := by
    refine traces_callIn_none.mpr ⟨_, [], [], (List.append_nil _).symm, .opening ?_⟩
    exact traces_opening_keeper.mpr
      (.enterDropped (Registry.resolve_lone _) (.beginDropped none rfl))
  have hown : OwnFactory (defaultEntered 0 none ++ [.lost (.begin ⟨0, ⟨0⟩⟩)]) :=
    ownFactory_defaultEntered.append (ownFactory_of_handed_nil rfl)
  have hleads : Workspace.Leads Eq (defaultEntered 0 none ++ [.lost (.begin ⟨0, ⟨0⟩⟩)]) {} _ :=
    follows_append.mpr ⟨_, leads_defaultEntered.mpr ⟨rfl, rfl⟩, _, rfl, rfl⟩
  obtain ⟨hone, -⟩ := hall _ {} _ htraces hown hleads ⟨0, ⟨0⟩⟩ List.mem_cons_self
  cases hone

/-- Dropping the call while its transaction is committed. -/
def keeperDropped (n : Nat) : List (WorkDeed noJobs) :=
  [.did (.transactionActive ⟨n, ⟨0⟩⟩) true, .lost (.commit ⟨n, ⟨0⟩⟩)] ++
    .did (.emit (.workCancelled ⟨0⟩ defaultUnitName)) () ::
      (defaultWork n).releaseDeeds ⟨0⟩ (some ⟨n, ⟨0⟩⟩)

/-- Dropped there, a call gives its handle back. -/
theorem dropped_committing_releases :
    ∃ w', Workspace.Leads Eq (defaultOpened 0 none ++ ([] ++ keeperDropped 0)) {} w' ∧
      ∀ h ∈ handed (defaultOpened 0 none),
        closings h (defaultOpened 0 none) + closings h (keeperDropped 0) = 1 ∧
          ¬ (w'.context ⟨0⟩).Binds h := by
  have hdrops : keeper.Drops (.lone ⟨0⟩) id ⟨0⟩ "keep" keep
      (defaultOpened 0 none) [] (keeperDropped 0) := by
    have hruns : (keep keeper.target ⟨0⟩).Traces [] (some (.ok ())) := .done _
    have hcur : ({ mode := .immediate, current := some (defaultWork 0) } :
        Demarcator).current = some (defaultWork 0) := rfl
    refine .concluding (traces_opening_keeper.mpr starts_defaultOpened) hruns ?_
      ((Demarcator.traces_releaseAbandoned hcur).mpr ⟨_, rfl⟩)
    exact Task.traces_bind.mpr (Or.inr
      ⟨Demarcator.traces_complete.mpr (.commitDropped hcur (.dropped (.asked rfl true))), rfl⟩)
  have hown : OwnFactory (defaultOpened 0 none ++ ([] ++ keeperDropped 0)) :=
    ownFactory_defaultOpened.append (ownFactory_of_handed_nil rfl)
  have hleads : Workspace.Leads Eq
      (defaultOpened 0 none ++ ([] ++ keeperDropped 0)) {} _ :=
    follows_append.mpr ⟨_, leads_defaultOpened.mpr ⟨rfl, rfl⟩, _, rfl, _, rfl, _, rfl,
      Workspace.leads_releaseDeeds.mpr ⟨rfl, rfl⟩⟩
  have hcall := traces_callIn_none.mpr ⟨_, _, _, rfl, hdrops⟩
  exact ⟨_, hleads, ((dropped_releases_iff (Or.inl hcall) hown hleads).2 _ _ _ rfl hdrops).mpr
    (not_lostEntering_of_traces (traces_opening_keeper.mpr starts_defaultOpened))⟩

end Dropped

/-! ## Calls that return -/

section Returned

variable {others : Workspace → Workspace → Prop} {w w' : Workspace} {spec : WorkSpec}
  {factory : FactoryId} {result : Except ε ρ}

/-- A call that concludes was not refused. -/
theorem Concludes.not_refused {before during after : List (WorkDeed app)}
    (h : component.Concludes registry ofFailure cx method call before during after result)
    (failure : Failure) :
    ¬ (component.opening registry cx method).Traces (before ++ (during ++ after))
      (some (.error failure)) := by
  intro hrefused
  cases h with
  | concluded hopens =>
      obtain ⟨-, hresult⟩ := hopens.eq_of_append hrefused
      cases hresult

/-- Concluding an opened call removes the binding of its factory and does
nothing else to the context. -/
theorem Concludes.context {before during after : List (WorkDeed app)}
    (hspec : component.methods.find? method = some spec)
    (hfactory : registry.resolve spec.unit = .ok factory)
    (hown : OwnFactory (before ++ (during ++ after))) (hspares : Workspace.Spares others cx)
    (hkeeps : ∀ handle : Handle, handle.factory = factory →
      Keeps others cx ((w.context cx).bind handle).2 (call component.target cx))
    (h : component.Concludes registry ofFailure cx method call before during after result)
    (hleads : Workspace.Leads others (before ++ (during ++ after)) w w') :
    w'.context cx = ((w.context cx).unbind factory).2 := by
  cases h with
  | concluded hopens hruns hends =>
      obtain ⟨u, hbefore, hrest⟩ := follows_append.mp hleads
      obtain ⟨v, hduring, hafter⟩ := follows_append.mp hrest
      rcases (Demarcator.traces_start.mp hopens).of_ok with
        ⟨hnone, -⟩ | ⟨_, work, hsome, hresolved, rfl, hcreated, hopened⟩
      · rw [hspec] at hnone
        cases hnone
      · obtain rfl := Option.some.inj (hspec.symm.trans hsome)
        obtain rfl : work.factory = factory := Except.ok.inj (hresolved.symm.trans hfactory)
        have hhandle : work.handle.factory = work.factory := hown.left _ _ hcreated
        have hentered : u.context cx = ((w.context cx).bind work.handle).2 :=
          hopened.context hspares hbefore
        have hreturned : v.context cx = u.context cx := by
          rw [hentered]
          exact hkeeps work.handle hhandle _ _ u v hruns hown.right.left hduring hentered
        obtain ⟨ending, removed, hneutral, rfl⟩ :=
          (ends_of_traces_conclude hends).release_of_immediate rfl rfl
        obtain ⟨t, hending, hrelease⟩ := follows_append.mp hafter
        obtain ⟨-, rfl⟩ := Workspace.leads_releaseDeeds.mp hrelease
        calc (Workspace.set t cx ((t.context cx).unbind work.factory).2).context cx
            = ((t.context cx).unbind work.factory).2 := Workspace.context_set_self t cx _
          _ = (((w.context cx).bind work.handle).2.unbind work.handle.factory).2 := by
              rw [hneutral.context hspares hending, hreturned, hentered, hhandle]
          _ = ((w.context cx).unbind work.factory).2 := by
              rw [Context.unbind_bind, hhandle]

/-- A call keeps the bindings of a context in which nothing is bound for its
factory, whether it opens its unit of work or not. -/
theorem keeps_callIn {bindings : Context}
    (hspec : component.methods.find? method = some spec)
    (hfactory : registry.resolve spec.unit = .ok factory) (hspares : Workspace.Spares others cx)
    (hbindings : bindings.bindings ≠ some .empty) (hfree : bindings.find? factory = none)
    (hkeeps : ∀ handle : Handle, handle.factory = factory →
      Keeps others cx (bindings.bind handle).2 (call component.target cx)) :
    Keeps others cx bindings (component.callIn registry ofFailure cx method call) := by
  intro deeds result w w' htraces hown hleads hentry
  subst hentry
  rcases traces_callIn_some.mp htraces with
    ⟨failure, hfailed, -⟩ | ⟨before, during, after, rfl, hconcludes⟩
  · rcases (Demarcator.traces_start.mp hfailed).of_error hown with
      hquiet | ⟨_, handle, hsome, hresolved, hrefused⟩
    · exact hquiet.context hspares hleads
    · obtain rfl := Option.some.inj (hspec.symm.trans hsome)
      obtain rfl : handle.factory = factory := Except.ok.inj (hresolved.symm.trans hfactory)
      rw [hrefused.context hspares hleads, Context.unbind_eq_self hbindings hfree]
  · rw [hconcludes.context hspec hfactory hown hspares hkeeps hleads,
      Context.unbind_eq_self hbindings hfree]

/-- Calls on units of different factories may be nested in one context. -/
theorem keeps_nested_callIn {υ : Type} {inner : Component υ} {innerRegistry : Registry}
    {innerMethod : String} {innerSpec : WorkSpec} {innerFactory : FactoryId}
    {innerCall : υ → ContextId → Work app (Except ε ρ)} {bindings : Context}
    (hspec : component.methods.find? method = some spec)
    (hfactory : registry.resolve spec.unit = .ok factory)
    (hinnerSpec : inner.methods.find? innerMethod = some innerSpec)
    (hinnerFactory : innerRegistry.resolve innerSpec.unit = .ok innerFactory)
    (hne : factory ≠ innerFactory) (hspares : Workspace.Spares others cx)
    (hbindings : bindings.bindings ≠ some .empty) (hfree : bindings.find? factory = none)
    (hinnerFree : bindings.find? innerFactory = none)
    (hkeeps : ∀ outer handle : Handle, outer.factory = factory → handle.factory = innerFactory →
      Keeps others cx ((bindings.bind outer).2.bind handle).2 (innerCall inner.target cx)) :
    Keeps others cx bindings (component.callIn registry ofFailure cx method fun _ cx =>
      inner.callIn innerRegistry ofFailure cx innerMethod innerCall) := by
  refine keeps_callIn hspec hfactory hspares hbindings hfree ?_
  intro outer houter
  have hinner : (bindings.bind outer).2.find? innerFactory = none := by
    rw [Context.find?_bind, houter, if_neg hne]
    exact hinnerFree
  refine keeps_callIn hinnerSpec hinnerFactory hspares
    (Context.bindings_bind_ne_empty bindings outer) hinner ?_
  intro handle hhandle
  exact hkeeps outer handle houter hhandle

/-- A call that opened its unit of work and returned has removed the binding of
its factory.  So the bindings are what they were if and only if there was no
such binding; a handle of the same factory that was bound before is lost to the
context. -/
theorem returned_context {deeds : List (WorkDeed app)}
    (hspec : component.methods.find? method = some spec)
    (hfactory : registry.resolve spec.unit = .ok factory)
    (hreturned : (component.callIn registry ofFailure cx method call).Traces deeds (some result))
    (hopened : ∀ failure,
      ¬ (component.opening registry cx method).Traces deeds (some (.error failure)))
    (hown : OwnFactory deeds) (hspares : Workspace.Spares others cx)
    (hkeeps : ∀ handle : Handle, handle.factory = factory →
      Keeps others cx ((w.context cx).bind handle).2 (call component.target cx))
    (hleads : Workspace.Leads others deeds w w') :
    w'.context cx = ((w.context cx).unbind factory).2 ∧
      ((∀ f, (w'.context cx).find? f = (w.context cx).find? f) ↔
        (w.context cx).find? factory = none) := by
  rcases traces_callIn_some.mp hreturned with
    ⟨failure, hfailed, -⟩ | ⟨before, during, after, rfl, hconcludes⟩
  · exact absurd hfailed (hopened failure)
  · have hcontext : w'.context cx = ((w.context cx).unbind factory).2 :=
      hconcludes.context hspec hfactory hown hspares hkeeps hleads
    refine ⟨hcontext, ?_⟩
    rw [hcontext]
    constructor
    · intro hsame
      rw [← hsame factory, Context.find?_unbind, if_pos rfl]
    · intro hnone f
      rw [Context.find?_unbind]
      by_cases hf : factory = f
      · rw [if_pos hf, ← hf, hnone]
      · rw [if_neg hf]

/-- Concluding the call of "keep". -/
def keeperConcludes (n : Nat) : List (WorkDeed noJobs) :=
  [.did (.transactionActive ⟨n, ⟨0⟩⟩) true, .heard (.commit ⟨n, ⟨0⟩⟩) (.ok ()),
    .did (.emit (.committed defaultUnitName)) ()] ++
    (defaultWork n).releaseDeeds ⟨0⟩ (some ⟨n, ⟨0⟩⟩)

theorem concludes_keeper (n : Nat) (replaced : Option Handle) :
    keeper.Concludes (.lone ⟨0⟩) id ⟨0⟩ "keep" keep (defaultOpened n replaced) []
      (keeperConcludes n) (.ok ()) := by
  have hruns : (keep keeper.target ⟨0⟩).Traces [] (some (.ok ())) := .done _
  have hcur : ({ mode := .immediate, current := some (defaultWork n) } :
      Demarcator).current = some (defaultWork n) := rfl
  refine .concluded (traces_opening_keeper.mpr starts_defaultOpened) hruns ?_
  have hcompletes : Demarcator.Completes { mode := .immediate, current := some (defaultWork n) } ⟨0⟩
      (keeperConcludes n) (some (.ok (), { mode := .immediate })) :=
    .completed hcur (.committed (.asked rfl true)) (.immediate rfl _)
  exact Task.traces_bind.mpr (Or.inl ⟨_, _, [], (List.append_nil _).symm,
    Demarcator.traces_complete.mpr hcompletes, .done _⟩)

theorem leads_keeper (n : Nat) (w : Workspace) :
    ∃ w', Workspace.Leads Eq
      (defaultOpened n ((w.context ⟨0⟩).find? ⟨0⟩) ++ ([] ++ keeperConcludes n)) w w' := by
  refine ⟨_, follows_append.mpr ⟨_, leads_defaultOpened.mpr ⟨rfl, rfl⟩, _, rfl, _, rfl, _, rfl,
    Workspace.leads_releaseDeeds.mpr ⟨?_, rfl⟩⟩⟩
  rw [Workspace.context_set_self, Context.find?_bind]
  exact (if_pos rfl).symm

theorem ownFactory_keeper (n : Nat) (replaced : Option Handle) :
    OwnFactory (defaultOpened n replaced ++ ([] ++ keeperConcludes n)) :=
  ownFactory_defaultOpened.append (ownFactory_of_handed_nil rfl)

/-- Called in a context that already holds a handle of its factory, "keep"
leaves the context without one. -/
theorem returned_unbinds_outer_handle :
    ¬ ∀ (deeds : List (WorkDeed noJobs)) (w w' : Workspace) (result : Except Failure Unit),
      (keeper.callIn (.lone ⟨0⟩) id ⟨0⟩ "keep" keep).Traces deeds (some result) →
        (∀ failure, ¬ (keeper.opening (.lone ⟨0⟩) ⟨0⟩ "keep").Traces deeds
          (some (.error failure))) →
        OwnFactory deeds → Workspace.Leads Eq deeds w w' →
        ∀ f, (w'.context ⟨0⟩).find? f = (w.context ⟨0⟩).find? f := by
  intro hall
  let w : Workspace := ({} : Workspace).set ⟨0⟩ (Context.empty.bind ⟨0, ⟨0⟩⟩).2
  obtain ⟨w', hleads⟩ := leads_keeper 1 w
  have hconcludes := concludes_keeper 1 (some ⟨0, ⟨0⟩⟩)
  have hreturned := traces_callIn_some.mpr (Or.inr ⟨_, _, _, rfl, hconcludes⟩)
  have hsame := hall _ w w' _ hreturned hconcludes.not_refused (ownFactory_keeper 1 _) hleads ⟨0⟩
  have hgone : (w'.context ⟨0⟩).find? ⟨0⟩ = none := by
    obtain ⟨_, -, _, -, _, -, _, -, hrelease⟩ := follows_append.mp hleads
    obtain ⟨-, rfl⟩ := Workspace.leads_releaseDeeds.mp hrelease
    rw [Workspace.context_set_self]
    exact Context.find?_unbind _ _ _
  rw [hgone] at hsame
  cases hsame

/-- Called in an empty context, it leaves the bindings as they were. -/
theorem returned_keeps_empty_context :
    ∃ w', Workspace.Leads Eq (defaultOpened 0 none ++ ([] ++ keeperConcludes 0)) {} w' ∧
      ∀ f, (w'.context ⟨0⟩).find? f = (({} : Workspace).context ⟨0⟩).find? f := by
  obtain ⟨w', hleads⟩ := leads_keeper 0 {}
  have hconcludes := concludes_keeper 0 none
  have hreturned := traces_callIn_some.mpr (Or.inr ⟨_, _, _, rfl, hconcludes⟩)
  have hkeeps : ∀ handle : Handle, handle.factory = ⟨0⟩ →
      Keeps Eq ⟨0⟩ ((({} : Workspace).context ⟨0⟩).bind handle).2 (keep keeper.target ⟨0⟩) := by
    intro handle _ deeds value w w' htraces _ hleads hentry
    obtain ⟨rfl, -⟩ := Task.traces_done.mp htraces
    rw [follows_nil.mp hleads, hentry]
  exact ⟨w', hleads, (returned_context keeper_find? (Registry.resolve_lone _) hreturned
    hconcludes.not_refused (ownFactory_keeper 0 none) Workspace.spares_eq hkeeps hleads).2.mpr rfl⟩

end Returned

end Traces

end Component

end Demarcation
