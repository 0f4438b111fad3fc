/-
What applications do with contexts and handles.

Application code is given a context and passes it to shared handles; it does not
bind or unbind anything and closes no handle.  `SharedOnly cx` is the code that
does no more than this, in one context.  An `Application` does it in any
contexts, creates contexts, and calls components whose methods are applications
again, in the contexts that it has at hand or in contexts of their own.

Code that is `SharedOnly` leaves its context and all handles alone: it looks
bindings up and never changes one.
-/
import Demarcation.Component
import Demarcation.Proofs.Effects

namespace Demarcation

variable {app : Jobs} {α β : Type} {cx : ContextId} {ds es : List (WorkDeed app)}

/-! ## Shared handles only -/

/-- The routine uses `cx` and the handles through operations of shared handles.
What else it awaits is none of their business. -/
inductive SharedOnly (cx : ContextId) : Work app α → Prop where
  | done (value : α) : SharedOnly cx (.done value)
  | invoke (shared : SharedHandle) (operation : Operation)
      {next : Except Failure Outcome → Work app α} (rest : ∀ reply, SharedOnly cx (next reply)) :
      SharedOnly cx (shared.invoke cx operation >>= next)
  | unwrap (shared : SharedHandle) (target : Option ObjectType)
      {next : Except Failure Unwrapped → Work app α} (rest : ∀ reply, SharedOnly cx (next reply)) :
      SharedOnly cx (Task.ofAction (shared.unwrap cx target) >>= next)
  | close (shared : SharedHandle) {next : Unit → Work app α}
      (rest : ∀ reply, SharedOnly cx (next reply)) :
      SharedOnly cx (Task.ofAction shared.close >>= next)
  | job (job : app.Job) {next : app.Result job → Work app α}
      (rest : ∀ result, SharedOnly cx (next result)) :
      SharedOnly cx (.await (.job job) (.done ()) next)

/-- Each of the typed calls of a shared handle is one of its operations. -/
theorem SharedOnly.invokeFor (shared : SharedHandle) (operation : Operation)
    (result : Outcome → Except Failure α) :
    SharedOnly cx (shared.invokeFor cx operation result : Work app (Except Failure α)) := by
  refine .invoke shared operation ?_
  rintro (failure | outcome)
  · exact .done _
  · exact .done _

/-- A body that looks up a row of the default unit. -/
def lookUp (_ : Unit) (cx : ContextId) : Work noJobs (Except Failure (Option Record)) :=
  (SharedHandle.lone ⟨0⟩).find cx ⟨"row", ⟨0⟩⟩

theorem sharedOnly_lookUp (target : Unit) (cx : ContextId) : SharedOnly cx (lookUp target cx) :=
  .invokeFor _ _ _

/-! ## Applications -/

/-- The routine reaches contexts and handles through shared handles and through
the calls of components, and in no other way. -/
inductive Application : {α : Type} → Work app α → Prop where
  | done {α : Type} (value : α) : Application (.done value)
  | shared {α β : Type} {cx : ContextId} {piece : Work app α} {next : α → Work app β}
      (uses : SharedOnly cx piece) (rest : ∀ value, Application (next value)) :
      Application (piece >>= next)
  | create {α : Type} {next : ContextId → Work app α} (rest : ∀ cx, Application (next cx)) :
      Application (Task.ofAction ContextId.create >>= next)
  | callIn {α τ ε ρ : Type} (component : Component τ) (registry : Registry)
      (ofFailure : Failure → ε) (cx : ContextId) (method : String)
      {call : τ → ContextId → Work app (Except ε ρ)} {next : Except ε ρ → Work app α}
      (body : Application (call component.target cx)) (rest : ∀ result, Application (next result)) :
      Application (component.callIn registry ofFailure cx method call >>= next)

theorem SharedOnly.application {x : Work app α} (hx : SharedOnly cx x) : Application x := by
  rw [← Task.bind_done x]
  exact .shared hx .done

namespace Application

theorem bind {x : Work app α} {f : α → Work app β} (hx : Application x)
    (hf : ∀ a, Application (f a)) : Application (x >>= f) := by
  induction hx with
  | done a => exact hf a
  | shared huses _ ih =>
      rw [Task.bind_assoc]
      exact .shared huses fun value => ih value hf
  | create _ ih =>
      rw [Task.bind_assoc]
      exact .create fun cx => ih cx hf
  | callIn component registry ofFailure cx method hbody _ _ ih =>
      rw [Task.bind_assoc]
      exact .callIn component registry ofFailure cx method hbody fun result => ih result hf

section Calls

variable {τ ε ρ : Type} (component : Component τ) (registry : Registry) (ofFailure : Failure → ε)
  (method : String) {call : τ → ContextId → Work app (Except ε ρ)}

theorem of_callIn (hbody : Application (call component.target cx)) :
    Application (component.callIn registry ofFailure cx method call) := by
  rw [← Task.bind_done (component.callIn registry ofFailure cx method call)]
  exact .callIn component registry ofFailure cx method hbody .done

/-- Calls in contexts of their own are part of applications too. -/
theorem of_call (hbody : ∀ cx, Application (call component.target cx)) :
    Application (component.call registry ofFailure method call) := by
  refine .create ?_
  intro cx
  exact of_callIn component registry ofFailure method (hbody cx)

end Calls

end Application

/-! ## Looking things up -/

/-- The command looks something up or tells of something, and changes nothing. -/
def Work.Command.Reads : Work.Command → Prop
  | .context (.find ..) => True
  | .context (.isEmpty _) => True
  | .context _ => False
  | .close _ => False
  | _ => True

namespace Action

/-- Every command of the action reads only. -/
def Reads : Step α → Prop
  | .done _ => True
  | .perform command next => command.Reads ∧ ∀ answer, (next answer).Reads

theorem Reads.bind {x : Step α} {f : α → Step β} (hx : x.Reads) (hf : ∀ a, (f a).Reads) :
    (x >>= f).Reads := by
  induction x with
  | done a => exact hf a
  | perform command next ih => exact ⟨hx.1, fun answer => ih answer (hx.2 answer)⟩

/-- A trace of such an action lists commands that read. -/
theorem Reads.of_traces {x : Step α} {a : α} (hx : x.Reads) (htraces : x.Traces ds a) :
    ∀ d ∈ ds, ∃ command answer, d = .did command answer ∧ command.Reads := by
  induction htraces with
  | done => exact fun _ hmem => nomatch hmem
  | perform _ ih =>
      intro d hmem
      rcases List.mem_cons.mp hmem with rfl | hmem
      · exact ⟨_, _, rfl, hx.1⟩
      · exact ih (hx.2 _) d hmem

end Action

theorem ContextId.reads_current (factory : FactoryId) : (cx.current factory).Reads := by
  refine ⟨trivial, ?_⟩
  rintro (_ | _)
  · trivial
  · trivial

namespace SharedHandle

variable (shared : SharedHandle)

theorem reads_close : shared.close.Reads := ⟨trivial, fun _ => trivial⟩

theorem reads_unwrap (target : Option ObjectType) : (shared.unwrap cx target).Reads := by
  rcases target with _ | type
  · refine .bind (ContextId.reads_current shared.factory) ?_
    rintro (_ | h)
    · trivial
    · trivial
  · cases type with
    | sharedHandle => trivial
    | _ =>
        refine .bind (ContextId.reads_current shared.factory) ?_
        rintro (_ | h)
        · trivial
        · refine ⟨trivial, ?_⟩
          rintro (_ | _)
          · trivial
          · trivial

end SharedHandle

/-! ## Nothing changes -/

namespace Quiet

theorem nil : Quiet cx ([] : List (WorkDeed app)) := neutral_nil.quiet

theorem append (hds : Quiet cx ds) (hes : Quiet cx es) : Quiet cx (ds ++ es) where
  handed := by rw [handed_append, hds.handed, hes.handed]; rfl
  closings := by
    intro h
    rw [closings_append, hds.closings, hes.closings]
  context := by
    intro others w w' hspares hleads
    obtain ⟨u, hfirst, hrest⟩ := follows_append.mp hleads
    rw [hes.context hspares hrest, hds.context hspares hfirst]

/-- A command that reads changes nothing. -/
theorem of_reads {command : Work.Command} (hreads : command.Reads) (answer : Work.Answer command) :
    Quiet cx ([.did command answer] : List (WorkDeed app)) := by
  cases command with
  | context command =>
      refine ⟨rfl, fun _ => rfl, ?_⟩
      rintro others w w' - ⟨u, hstep, rfl⟩
      cases command with
      | find cx' factory => exact congrArg (·.context cx) (Prod.mk.inj hstep).2.symm
      | isEmpty cx' => exact congrArg (·.context cx) (Prod.mk.inj hstep).2.symm
      | _ => cases hreads
  | close handle => cases hreads
  | _ => exact Neutral.quiet (by simp [WorkDeed.Neutral])

end Quiet

/-- However it goes, the routine leaves the context and every handle alone. -/
def LeavesAlone (cx : ContextId) (routine : Work app α) : Prop :=
  ∀ deeds result, routine.Traces deeds result → Quiet cx deeds

namespace LeavesAlone

theorem done (a : α) : LeavesAlone cx (.done a : Work app α) := by
  intro deeds result htraces
  obtain ⟨rfl, -⟩ := Task.traces_done.mp htraces
  exact .nil

theorem await {c : Work.Call app} {next : Work.Reply c → Work app α}
    (hheard : ∀ r, Neutral ([.heard c r] : List (WorkDeed app)))
    (hlost : Neutral ([.lost c] : List (WorkDeed app))) (hnext : ∀ r, LeavesAlone cx (next r)) :
    LeavesAlone cx (.await c (.done ()) next : Work app α) := by
  intro deeds result htraces
  rcases Task.traces_await.mp htraces with ⟨r, rest, rfl, hrest⟩ | ⟨rest, rfl, -, hcleanup⟩
  · exact (hheard r).quiet.append (hnext r rest result hrest)
  · obtain ⟨rfl, -⟩ := Action.traces_done.mp hcleanup
    exact hlost.quiet

theorem ofAction_bind {x : Step α} {f : α → Work app β} (hx : x.Reads)
    (hf : ∀ a, LeavesAlone cx (f a)) : LeavesAlone cx (Task.ofAction x >>= f) := by
  induction x with
  | done a => exact hf a
  | perform command next ih =>
      intro deeds result htraces
      obtain ⟨answer, rest, rfl, hrest⟩ := Task.traces_perform.mp htraces
      exact (Quiet.of_reads hx.1 answer).append (ih answer (hx.2 answer) rest result hrest)

theorem bind {x : Work app α} {f : α → Work app β} (hx : LeavesAlone cx x)
    (hf : ∀ a, LeavesAlone cx (f a)) : LeavesAlone cx (x >>= f) := by
  intro deeds result htraces
  rcases Task.traces_bind.mp htraces with ⟨a, first, rest, rfl, hfirst, hrest⟩ | ⟨hfirst, -⟩
  · exact (hx first _ hfirst).append (hf a rest result hrest)
  · exact hx deeds _ hfirst

end LeavesAlone

theorem SharedHandle.leavesAlone_invoke (shared : SharedHandle) (operation : Operation) :
    LeavesAlone cx (shared.invoke cx operation : Work app (Except Failure Outcome)) := by
  have hexecute : ∀ h : Handle, LeavesAlone cx (h.execute operation : Work app _) := by
    intro h
    refine .await ?_ ?_ .done
    · simp [WorkDeed.Neutral]
    · simp [WorkDeed.Neutral]
  refine .ofAction_bind (ContextId.reads_current shared.factory) ?_
  rintro (failure | h)
  · exact .done _
  · dsimp only
    cases operation.kind with
    | read => exact hexecute h
    | mutating =>
        refine .ofAction_bind (x := h.transactionActive) ⟨trivial, fun _ => trivial⟩ ?_
        rintro (_ | _)
        · exact .done _
        · exact hexecute h

/-- Code that uses shared handles only leaves its context and every handle alone. -/
theorem SharedOnly.leavesAlone {x : Work app α} (hx : SharedOnly cx x) : LeavesAlone cx x := by
  induction hx with
  | done a => exact .done a
  | invoke shared operation _ ih => exact .bind (shared.leavesAlone_invoke operation) ih
  | unwrap shared target _ ih => exact .ofAction_bind (shared.reads_unwrap target) ih
  | close shared _ ih => exact .ofAction_bind shared.reads_close ih
  | job job _ ih =>
      refine .await ?_ ?_ ih
      · simp [WorkDeed.Neutral]
      · simp [WorkDeed.Neutral]

end Demarcation
