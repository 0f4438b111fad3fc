/-
What units of work do to handles and to their context.

A trace is `Quiet` when it obtains no handle, closes none and leaves the context
as it is.  A trace that `Opens` a handle obtains it and leaves it bound; one that
`Refuses` a handle obtains it, closes it and leaves nothing bound for its
factory.  Starting a unit of work is one of the three (`Starts.of_ok`,
`Starts.of_error`), and `Ends` says what completing and failing have in common:
neutral deeds, and then a release if there is to be one at once.

The context is spared throughout: only the routine itself gives commands to it.
-/
import Demarcation.Proofs.Custody

namespace Demarcation

variable {app : Jobs}

/-! ## Three effects -/

section

variable (cx : ContextId) (ds : List (WorkDeed app))

/-- Nothing happens to any handle or to the context. -/
structure Quiet : Prop where
  handed : handed ds = []
  closings : ∀ h, closings h ds = 0
  context : ∀ {others : Workspace → Workspace → Prop} {w w' : Workspace},
    Workspace.Spares others cx → Workspace.Leads others ds w w' →
      w'.context cx = w.context cx

/-- `handle` is obtained and bound. -/
structure Opens (handle : Handle) : Prop where
  handed : handed ds = [handle]
  closings : ∀ h, closings h ds = 0
  context : ∀ {others : Workspace → Workspace → Prop} {w w' : Workspace},
    Workspace.Spares others cx → Workspace.Leads others ds w w' →
      w'.context cx = ((w.context cx).bind handle).2

/-- `handle` is obtained and closed, and nothing stays bound for its factory. -/
structure Refuses (handle : Handle) : Prop where
  handed : handed ds = [handle]
  closings : ∀ h, closings h ds = if handle = h then 1 else 0
  context : ∀ {others : Workspace → Workspace → Prop} {w w' : Workspace},
    Workspace.Spares others cx → Workspace.Leads others ds w w' →
      w'.context cx = ((w.context cx).unbind handle.factory).2

end

variable {cx : ContextId} {ds : List (WorkDeed app)}

theorem Neutral.quiet (hds : Neutral ds) : Quiet cx ds where
  handed := hds.handed
  closings := fun _ => hds.closings
  context := fun hspares hleads => hds.context hspares hleads

/-! ## Opening -/

/-- A handle was being configured, or its transaction begun, when the routine
was dropped. -/
def LostEntering (deeds : List (WorkDeed app)) : Prop :=
  ∃ handle, (∃ options, .lost (.configure handle options) ∈ deeds) ∨ .lost (.begin handle) ∈ deeds

theorem not_lostEntering_of_traces {α : Type} {routine : Work app α} {value : α}
    (h : routine.Traces ds (some value)) : ¬ LostEntering ds := by
  rintro ⟨handle, ⟨options, hmem⟩ | hmem⟩
  · exact h.lost_notMem (Option.some_ne_none _) _ hmem
  · exact h.lost_notMem (Option.some_ne_none _) _ hmem

namespace OpenUnit

variable {others : Workspace → Workspace → Prop} {w w' : Workspace} {spec : WorkSpec}
  {handle : Handle} {v : Option (Except Failure Unit)}

theorem Enters.handed (h : Enters cx spec handle ds v) : handed ds = [] := by
  cases h <;> rfl

theorem Enters.closings (h : Enters cx spec handle ds v) (x : Handle) : closings x ds = 0 := by
  cases h <;> rfl

theorem Enters.lostEntering (h : Enters cx spec handle ds none) : LostEntering ds := by
  cases h with
  | configureDropped => exact ⟨handle, Or.inl ⟨_, List.mem_cons_self⟩⟩
  | beginDropped => exact ⟨handle, Or.inr (by simp)⟩

/-- What can happen to the context: the handle is bound, or nothing. -/
theorem Enters.context (hspares : Workspace.Spares others cx) (h : Enters cx spec handle ds v)
    (hleads : Workspace.Leads others ds w w') :
    w'.context cx = ((w.context cx).bind handle).2 ∨
      (v ≠ some (.ok ()) ∧ w'.context cx = w.context cx) := by
  have hconfigured : Neutral
      ([.heard (.configure handle spec.sessionOptions) (.ok ())] : List (WorkDeed app)) := by
    simp [WorkDeed.Neutral]
  cases h with
  | configureDropped =>
      obtain ⟨u, hother, rfl⟩ := hleads
      exact Or.inr ⟨(Option.some_ne_none _).symm, hspares _ _ hother⟩
  | configureFailed failure =>
      obtain ⟨u, hother, rfl⟩ := hleads
      have hfailed : some (.error failure) ≠ some (.ok () : Except Failure Unit) := by
        intro hsame
        cases hsame
      exact Or.inr ⟨hfailed, hspares _ _ hother⟩
  | bound replaced =>
      rw [← List.append_nil (cx.bindDeeds handle replaced)] at hleads
      exact Or.inl (context_of_bindDeeds hconfigured neutral_nil hspares hleads)
  | beginDropped =>
      have hbegin : Neutral ([.lost (.begin handle)] : List (WorkDeed app)) := by
        simp [WorkDeed.Neutral]
      exact Or.inl (context_of_bindDeeds hconfigured hbegin hspares hleads)
  | begun _ _ reply =>
      have hbegin : Neutral ([.heard (.begin handle) reply] : List (WorkDeed app)) := by
        simp [WorkDeed.Neutral]
      exact Or.inl (context_of_bindDeeds hconfigured hbegin hspares hleads)

end OpenUnit

namespace Demarcator

variable {demarcator next : Demarcator} {registry : Registry} {spec? : Option WorkSpec}

/-- A start that succeeds opens the unit of work that is declared, if any. -/
theorem Starts.of_ok (h : demarcator.Starts registry cx spec? ds (some (.ok next))) :
    (spec? = none ∧ next = demarcator ∧ ds = []) ∨
      ∃ spec work, spec? = some spec ∧ registry.resolve spec.unit = .ok work.factory ∧
        next = { demarcator with current := some work } ∧
        .heard (.create work.factory) (.ok work.handle) ∈ ds ∧ Opens cx ds work.handle := by
  cases h with
  | undeclared => exact Or.inl ⟨rfl, rfl, rfl⟩
  | @opened spec factory hres handle entered henters =>
      refine Or.inr ⟨spec, _, rfl, hres, rfl, List.mem_cons_self, ?_⟩
      constructor
      · show handle :: handed (entered ++ _) = _
        rw [handed_append, henters.handed]
        rfl
      · intro x
        show closings x (_ :: _) = 0
        rw [closings_cons, closings_append, henters.closings]
        rfl
      · intro others w w' hspares hleads
        obtain ⟨u, hother, hrest⟩ := hleads
        obtain ⟨t, hentered, s, rfl, rfl⟩ := follows_append.mp hrest
        rcases henters.context hspares hentered with hbound | ⟨hv, -⟩
        · rw [hbound, hspares w u hother]
        · exact absurd rfl hv

/-- A start that fails obtains no handle, or closes the handle that it obtained. -/
theorem Starts.of_error {failure : Failure} (hown : OwnFactory ds)
    (h : demarcator.Starts registry cx spec? ds (some (.error failure))) :
    Quiet cx ds ∨ ∃ spec handle, spec? = some spec ∧
      registry.resolve spec.unit = .ok handle.factory ∧ Refuses cx ds handle := by
  cases h with
  | unresolved => exact Or.inl (Neutral.quiet neutral_nil)
  | createFailed =>
      refine Or.inl ⟨rfl, fun _ => rfl, ?_⟩
      intro others w w' hspares hleads
      obtain ⟨u, hother, rfl⟩ := hleads
      exact hspares _ _ hother
  | @refused spec factory hres handle entered _ henters removed =>
      have hfactory : handle.factory = factory := hown _ _ List.mem_cons_self
      refine Or.inr ⟨spec, handle, rfl, hfactory ▸ hres, ?_⟩
      constructor
      · show handle :: handed (entered ++ _) = _
        rw [handed_append, henters.handed]
        show [handle] ++ handed (cx.unbindDeeds factory removed) = _
        rw [handed_unbindDeeds]
        rfl
      · intro x
        rw [closings_cons, closings_append, henters.closings, closings_cons,
          closings_unbindDeeds]
        simp [WorkDeed.closes]
      · intro others w w' hspares hleads
        obtain ⟨u, hother, hrest⟩ := hleads
        obtain ⟨t, hentered, _, rfl, hunbind⟩ := follows_append.mp hrest
        obtain ⟨-, rfl⟩ := Workspace.leads_unbindDeeds.mp hunbind
        rw [Workspace.context_set_self, ← hfactory, ← hspares w u hother]
        -- a handle that was bound before the failure goes with the binding it replaced
        rcases henters.context hspares hentered with hbound | ⟨-, hkept⟩
        · rw [hbound, Context.unbind_bind]
        · rw [hkept]

/-- A start that is dropped has obtained no handle yet, or it leaves its handle
unclosed. -/
theorem Starts.of_none (h : demarcator.Starts registry cx spec? ds none) :
    (handed ds = [] ∧ ¬ LostEntering ds) ∨
      ∃ handle, handed ds = [handle] ∧ closings handle ds = 0 ∧ LostEntering ds := by
  cases h with
  | createDropped =>
      refine Or.inl ⟨rfl, ?_⟩
      rintro ⟨handle, ⟨options, hmem⟩ | hmem⟩
      · cases List.mem_singleton.mp hmem
      · cases List.mem_singleton.mp hmem
  | @enterDropped _ _ _ handle entered henters =>
      have hlost : LostEntering entered := henters.lostEntering
      refine Or.inr ⟨handle, ?_, henters.closings handle, ?_⟩
      · show handle :: handed entered = _
        rw [henters.handed]
      · obtain ⟨x, ⟨options, hmem⟩ | hmem⟩ := hlost
        · exact ⟨x, Or.inl ⟨options, List.mem_cons_of_mem _ hmem⟩⟩
        · exact ⟨x, Or.inr (List.mem_cons_of_mem _ hmem)⟩

/-! ## Ending -/

/-- What ends a unit of work; the flag says whether it went to its end. -/
inductive Ends (demarcator : Demarcator) (cx : ContextId) : List (WorkDeed app) → Bool → Prop where
  | idle (current : demarcator.current = none) : Ends demarcator cx [] true
  | dropped {pending : List (WorkDeed app)} (neutral : Neutral pending) :
      Ends demarcator cx pending false
  | ended {work : OpenUnit} (current : demarcator.current = some work)
      {ending finishing : List (WorkDeed app)} (neutral : Neutral ending)
      (finishes : demarcator.Finishes cx work finishing) :
      Ends demarcator cx (ending ++ finishing) true

theorem Completes.ends {v : Option (Except Failure Unit × Demarcator)}
    (h : demarcator.Completes cx ds v) : demarcator.Ends cx ds v.isSome := by
  cases h with
  | idle hcur => exact .idle hcur
  | commitDropped _ hcommits => exact .dropped hcommits.neutral
  | completed hcur hcommits hfinishes => exact .ended hcur hcommits.neutral hfinishes
  | rollbackDropped _ hcommits hrolls =>
      exact .dropped (neutral_append.mpr
        ⟨hcommits.neutral, neutral_cons.mpr ⟨trivial, hrolls.neutral⟩⟩)
  | commitFailed hcur hcommits hrolls hfinishes =>
      rw [← List.cons_append, ← List.append_assoc]
      exact .ended hcur (neutral_append.mpr
        ⟨hcommits.neutral, neutral_cons.mpr ⟨trivial, hrolls.neutral⟩⟩) hfinishes

theorem Fails.ends {v : Option Demarcator} (h : demarcator.Fails cx ds v) :
    demarcator.Ends cx ds v.isSome := by
  cases h with
  | idle hcur => exact .idle hcur
  | dropped _ hrolls => exact .dropped hrolls.neutral
  | failed hcur hrolls hfinishes => exact .ended hcur hrolls.neutral hfinishes

/-- After it has been completed, no unit of work is in progress. -/
theorem Completes.current_eq_none {reply : Except Failure Unit}
    (h : demarcator.Completes cx ds (some (reply, next))) : next.current = none := by
  cases h with
  | idle hcur => exact hcur
  | completed => rfl
  | commitFailed => rfl

theorem Fails.current_eq_none (h : demarcator.Fails cx ds (some next)) : next.current = none := by
  cases h with
  | idle hcur => exact hcur
  | failed => rfl

theorem Completes.mode_eq {reply : Except Failure Unit}
    (h : demarcator.Completes cx ds (some (reply, next))) : next.mode = demarcator.mode := by
  cases h with
  | idle => rfl
  | completed => rfl
  | commitFailed => rfl

theorem Fails.mode_eq (h : demarcator.Fails cx ds (some next)) : next.mode = demarcator.mode := by
  cases h with
  | idle => rfl
  | failed => rfl

theorem Ends.handed {b : Bool} (h : demarcator.Ends cx ds b) : handed ds = [] := by
  cases h with
  | idle => rfl
  | dropped hneutral => exact hneutral.handed
  | ended _ hneutral hfinishes =>
      have hfinishing := handed_of_action ((traces_finish (u := ())).mpr hfinishes)
      rw [handed_append, hneutral.handed, hfinishing]
      rfl

theorem Ends.neutral_of_dropped (h : demarcator.Ends cx ds false) : Neutral ds := by
  cases h with
  | dropped hneutral => exact hneutral

/-- Where the release is left to others, ending is neutral. -/
theorem Ends.neutral_of_deferred {b : Bool} (hmode : demarcator.mode = .deferred)
    (h : demarcator.Ends cx ds b) : Neutral ds := by
  cases h with
  | idle => exact neutral_nil
  | dropped hneutral => exact hneutral
  | ended _ hneutral hfinishes =>
      cases hfinishes with
      | immediate himmediate => rw [hmode] at himmediate; cases himmediate
      | deferred => exact neutral_append.mpr ⟨hneutral, neutral_nil⟩

/-- Where the release is immediate, it is the last that is done. -/
theorem Ends.release_of_immediate {work : OpenUnit} (hmode : demarcator.mode = .immediate)
    (hcur : demarcator.current = some work) (h : demarcator.Ends cx ds true) :
    ∃ ending removed, Neutral ending ∧ ds = ending ++ work.releaseDeeds cx removed := by
  cases h with
  | idle hnone => rw [hcur] at hnone; cases hnone
  | ended hcur' hneutral hfinishes =>
      obtain rfl := Option.some.inj (hcur.symm.trans hcur')
      cases hfinishes with
      | immediate _ removed => exact ⟨_, removed, hneutral, rfl⟩
      | deferred hdeferred => rw [hmode] at hdeferred; cases hdeferred

theorem traces_releaseAbandoned {work : OpenUnit} (hcur : demarcator.current = some work)
    {u : Unit} :
    (demarcator.releaseAbandoned cx).Traces ds u ↔
      ∃ removed, ds = .did (.emit (.workCancelled cx work.spec.unit)) () ::
        work.releaseDeeds cx removed := by
  simp only [releaseAbandoned, hcur, Action.traces_bind, traces_emit, OpenUnit.traces_release]
  constructor
  · rintro ⟨⟨⟩, _, _, rfl, rfl, removed, rfl⟩
    exact ⟨removed, rfl⟩
  · rintro ⟨removed, rfl⟩
    exact ⟨(), _, _, rfl, rfl, removed, rfl⟩

end Demarcator

/-! ## A unit of work on the default unit -/

section Default

/-- An application that awaits nothing but handles. -/
def noJobs : Jobs where
  Job := Empty
  Result := Empty.elim

/-- The first shared handle of a process, for the default unit. -/
def SharedHandle.lone (factory : FactoryId) : SharedHandle := ⟨⟨0⟩, defaultUnitName, factory⟩

/-- The registry whose only unit is the default one. -/
def Registry.lone (factory : FactoryId) : Registry where
  units := Table.empty.insert defaultUnitName ⟨factory, .lone factory⟩

theorem Registry.resolve_lone (factory : FactoryId) :
    (Registry.lone factory).resolve defaultUnitName = .ok factory := by
  simp [resolve, lone, Table.find?_insert]

/-- A unit of work with the handle of this number. -/
def defaultWork (n : Nat) : OpenUnit := ⟨{}, ⟨n, ⟨0⟩⟩, ⟨0⟩⟩

/-- Obtaining, configuring and binding its handle. -/
def defaultEntered (n : Nat) (replaced : Option Handle) : List (WorkDeed noJobs) :=
  .heard (.create ⟨0⟩) (.ok ⟨n, ⟨0⟩⟩) ::
    (.heard (.configure ⟨n, ⟨0⟩⟩ ({} : WorkSpec).sessionOptions) (.ok ()) ::
      ContextId.bindDeeds ⟨0⟩ ⟨n, ⟨0⟩⟩ replaced)

/-- Opening it. -/
def defaultOpened (n : Nat) (replaced : Option Handle) : List (WorkDeed noJobs) :=
  defaultEntered n replaced ++ [.heard (.begin ⟨n, ⟨0⟩⟩) (.ok ()),
    .did (.emit (.workStarted ⟨0⟩ defaultUnitName true)) ()]

variable {n : Nat} {replaced : Option Handle} {w w' : Workspace}

theorem starts_defaultOpened {demarcator : Demarcator} :
    demarcator.Starts (.lone ⟨0⟩) ⟨0⟩ (some {}) (defaultOpened n replaced)
      (some (.ok { demarcator with current := some (defaultWork n) })) :=
  .opened (Registry.resolve_lone _) (.begun replaced rfl (.ok ()))

theorem leads_defaultEntered :
    Workspace.Leads Eq (defaultEntered n replaced) w w' ↔
      replaced = (w.context ⟨0⟩).find? ⟨0⟩ ∧
        w' = w.set ⟨0⟩ ((w.context ⟨0⟩).bind ⟨n, ⟨0⟩⟩).2 := by
  constructor
  · rintro ⟨_, rfl, _, rfl, hbind⟩
    exact Workspace.leads_bindDeeds.mp hbind
  · intro h
    exact ⟨w, rfl, w, rfl, Workspace.leads_bindDeeds.mpr h⟩

theorem leads_defaultOpened :
    Workspace.Leads Eq (defaultOpened n replaced) w w' ↔
      replaced = (w.context ⟨0⟩).find? ⟨0⟩ ∧
        w' = w.set ⟨0⟩ ((w.context ⟨0⟩).bind ⟨n, ⟨0⟩⟩).2 := by
  rw [defaultOpened, Workspace.Leads, follows_append]
  constructor
  · rintro ⟨_, hentered, _, rfl, _, rfl, rfl⟩
    exact leads_defaultEntered.mp hentered
  · intro h
    exact ⟨w', leads_defaultEntered.mpr h, w', rfl, w', rfl, rfl⟩

theorem ownFactory_defaultEntered : OwnFactory (defaultEntered n replaced) := by
  intro f h hmem
  rcases List.mem_cons.mp hmem with hcreated | hmem
  · cases hcreated
    rfl
  · have hhanded : h ∈ handed _ := mem_handed hmem
    cases hhanded

theorem ownFactory_defaultOpened : OwnFactory (defaultOpened n replaced) :=
  ownFactory_defaultEntered.append (ownFactory_of_handed_nil rfl)

end Default

end Demarcation
