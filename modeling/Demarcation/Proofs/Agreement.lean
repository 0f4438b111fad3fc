/-
Calls and requests agree.

The same method may be called on a component, or it may be the handler of a
request that passes through the pipeline.  Two routines then conduct its unit of
work: the call releases the handle at the end of the unit of work, the request
leaves it bound and closes it when the response has been written.

Here both are run in the same `World`: the same contexts, and factories and
handles that answer as a `Provider` says, whatever that is.  They ask the same of
factories and handles, in the same order; the body runs in the same way; every
handle is closed once and nothing stays bound.  They end in the same failure too,
except that a request wraps the failure of a commit.

A world keeps a record of all deeds, and `Provider.Ran` says how a routine took it
from one state to another, and by which deeds.
-/
import Demarcation.Proofs.Applications
import Demarcation.Proofs.Invocation
import Demarcation.Proofs.Lifetime

namespace Demarcation

variable {app : Jobs} {α β γ ε ρ τ : Type}

/-! ## What is asked of factories and handles -/

/-- The deed asks something of a factory, of a handle or of a job. -/
def WorkDeed.asks : WorkDeed app → Bool
  | .did (.context _) _ => false
  | .did (.emit _) _ => false
  | _ => true

/-- What is asked, with the answers, in order. -/
def asked (deeds : List (WorkDeed app)) : List (WorkDeed app) := deeds.filter WorkDeed.asks

section Asked

variable {ds es : List (WorkDeed app)} {h : Handle}

@[simp] theorem asked_append : asked (ds ++ es) = asked ds ++ asked es := List.filter_append ds es

theorem handed_asked : handed (asked ds) = handed ds := by
  rw [handed, asked, List.filterMap_filter, handed]
  congr 1
  funext d
  rcases d with ⟨_ | _ | _ | _ | _, _⟩ | ⟨_, _⟩ | _ <;> rfl

theorem closings_asked : closings h (asked ds) = closings h ds := by
  rw [closings, asked, List.countP_filter, closings]
  congr 1
  funext d
  rcases d with ⟨_ | _ | _ | _ | _, _⟩ | ⟨_, _⟩ | _ <;> simp [WorkDeed.asks, WorkDeed.closes]

end Asked

/-! ## Worlds -/

/-- Factories, handles and jobs, as a machine that answers. -/
structure Provider (app : Jobs) (β : Type) where
  transactionActive : Handle → StateM β Bool
  close : Handle → StateM β Unit
  provides : Handle → ObjectType → StateM β Bool
  reply : (call : Work.Call app) → StateM β (Work.Reply call)

/-- The contexts, the state of the provider, and a record of all deeds. -/
structure World (app : Jobs) (β : Type) where
  workspace : Workspace
  provider : β
  record : List (WorkDeed app) := []

namespace Provider

variable (p : Provider app β)

/-- Every handle reports the factory that hands it out. -/
def OwnFactories : Prop :=
  ∀ factory b handle, ((p.reply (.create factory)).run b).1 = .ok handle → handle.factory = factory

/-- Answer a command. -/
def answer : (c : Work.Command) → StateM (World app β) (Work.Answer c)
  | .context c => fun s =>
    let r := s.workspace.perform c
    (r.1, { s with workspace := r.2, record := s.record ++ [.did (.context c) r.1] })
  | .transactionActive h => fun s =>
    let r := (p.transactionActive h).run s.provider
    (r.1, { s with provider := r.2, record := s.record ++ [.did (.transactionActive h) r.1] })
  | .close h => fun s =>
    let r := (p.close h).run s.provider
    (r.1, { s with provider := r.2, record := s.record ++ [.did (.close h) r.1] })
  | .provides h type => fun s =>
    let r := (p.provides h type).run s.provider
    (r.1, { s with provider := r.2, record := s.record ++ [.did (.provides h type) r.1] })
  | .emit e => fun s => ((), { s with record := s.record ++ [.did (.emit e) ()] })

/-- Reply to a call. -/
def hear (c : Work.Call app) : StateM (World app β) (Work.Reply c) := fun s =>
  let r := (p.reply c).run s.provider
  (r.1, { s with provider := r.2, record := s.record ++ [.heard c r.1] })

/-- Every call is replied to. -/
def around : Surroundings Work.vocabulary (Work.calls app) (StateM (World app β)) where
  answer := p.answer
  reply? c := some <$> p.hear c

/-- What a deed makes of the state of the provider. -/
def after (b : β) : WorkDeed app → β
  | .did (.transactionActive h) _ => ((p.transactionActive h).run b).2
  | .did (.close h) _ => ((p.close h).run b).2
  | .did (.provides h type) _ => ((p.provides h type).run b).2
  | .heard c _ => ((p.reply c).run b).2
  | _ => b

/-- Run in the world `s`, the routine ends in `a` and leaves the world `t`. -/
def Runs (x : Work app α) (s : World app β) (a : α) (t : World app β) : Prop :=
  (x.run p.around).run s = (some a, t)

/-- The same, with the deeds that led from the one to the other. -/
structure Ran (x : Work app α) (s : World app β) (ds : List (WorkDeed app)) (a : α)
    (t : World app β) : Prop where
  runs : p.Runs x s a t
  traces : x.Traces ds (some a)
  record : t.record = s.record ++ ds
  provider : t.provider = ds.foldl p.after s.provider
  leads : Workspace.Leads Eq ds s.workspace t.workspace
  own : p.OwnFactories → OwnFactory ds

variable {p} {x : Work app α} {f : α → Work app γ} {s t u : World app β} {a : α} {c : γ}
  {ds es : List (WorkDeed app)}

/-! ## Running a routine -/

theorem runs_done {b : α} : p.Runs (.done a) s b t ↔ b = a ∧ t = s := by
  constructor
  · intro h
    cases h
    exact ⟨rfl, rfl⟩
  · rintro ⟨rfl, rfl⟩
    rfl

theorem runs_await {c : Work.Call app} {onDrop : Step Unit} {next : Work.Reply c → Work app α} :
    p.Runs (.await c onDrop next) s a t ↔
      p.Runs (next ((p.hear c).run s).1) ((p.hear c).run s).2 a t := by
  rw [Runs, Task.run]
  exact Iff.rfl

theorem runs_bind :
    p.Runs (x >>= f) s c u ↔ ∃ a t, p.Runs x s a t ∧ p.Runs (f a) t c u := by
  induction x generalizing s with
  | done b =>
      rw [Task.done_bind]
      constructor
      · intro h
        exact ⟨b, s, runs_done.mpr ⟨rfl, rfl⟩, h⟩
      · rintro ⟨a, t, hdone, h⟩
        obtain ⟨rfl, rfl⟩ := runs_done.mp hdone
        exact h
  | perform command next ih => exact ih _
  | await call onDrop next ih =>
      rw [Task.await_bind, runs_await, ih]
      simp only [runs_await]

/-- No routine is dropped, so no cleanup runs. -/
theorem runs_guarded {cleanup : Step Unit} : p.Runs (x.guarded cleanup) s a t ↔ p.Runs x s a t := by
  induction x generalizing s with
  | done b => exact Iff.rfl
  | perform command next ih => exact ih _
  | await call onDrop next ih =>
      rw [Task.guarded, runs_await, runs_await]
      exact ih _

theorem exists_runs (x : Work app α) (s : World app β) : ∃ a t, p.Runs x s a t := by
  induction x generalizing s with
  | done a => exact ⟨a, s, rfl⟩
  | perform command next ih => exact ih _ _
  | await call onDrop next ih =>
      simp only [runs_await]
      exact ih _ _

/-! ## Deeds of a run -/

variable (p) in
/-- What a deed makes of a world. -/
structure Passes (s : World app β) (d : WorkDeed app) (t : World app β) : Prop where
  record : t.record = s.record ++ [d]
  provider : t.provider = p.after s.provider d
  workspace : Workspace.Step Eq s.workspace d t.workspace
  own : p.OwnFactories → OwnFactory [d]

theorem answersBy_passes : AnswersBy p.Passes p.around.answer := by
  intro command s
  have hown : ∀ r, OwnFactory ([.did command r] : List (WorkDeed app)) := fun r =>
    ownFactory_of_handed_nil rfl
  cases command with
  | context command => exact ⟨rfl, rfl, rfl, fun _ => hown _⟩
  | transactionActive h => exact ⟨rfl, rfl, rfl, fun _ => hown _⟩
  | close h => exact ⟨rfl, rfl, rfl, fun _ => hown _⟩
  | provides h type => exact ⟨rfl, rfl, rfl, fun _ => hown _⟩
  | emit e => exact ⟨rfl, rfl, rfl, fun _ => hown _⟩

theorem repliesBy_passes : RepliesBy p.Passes p.around.reply? := by
  intro call s
  refine ⟨rfl, rfl, rfl, ?_⟩
  intro hown factory handle hmem
  have hheard : (.heard (.create factory) (.ok handle) : WorkDeed app) =
      .heard call ((p.reply call).run s.provider).1 := List.mem_singleton.mp hmem
  cases call with
  | create f =>
      obtain ⟨rfl, hreply⟩ :
          factory = f ∧ .ok handle = ((p.reply (.create f)).run s.provider).1 := by
        simpa using hheard
      exact hown factory s.provider handle hreply.symm
  | _ => cases hheard

theorem of_follows (h : Follows p.Passes ds s t) :
    t.record = s.record ++ ds ∧ t.provider = ds.foldl p.after s.provider ∧
      Workspace.Leads Eq ds s.workspace t.workspace ∧ (p.OwnFactories → OwnFactory ds) := by
  induction ds generalizing s with
  | nil =>
      obtain rfl := follows_nil.mp h
      exact ⟨(List.append_nil _).symm, rfl, rfl, fun _ => ownFactory_of_handed_nil rfl⟩
  | cons d ds ih =>
      obtain ⟨u, hstep, hrest⟩ := h
      obtain ⟨hrecord, hprovider, hleads, hown⟩ := ih hrest
      refine ⟨?_, ?_, ⟨u.workspace, hstep.workspace, hleads⟩, ?_⟩
      · rw [hrecord, hstep.record, List.append_assoc]
        rfl
      · rw [hprovider, hstep.provider]
        rfl
      · intro hfactories
        exact (hstep.own hfactories).append (hown hfactories)

/-- Every routine runs to its end, by deeds that are on record. -/
theorem exists_ran (x : Work app α) (s : World app β) : ∃ ds a t, p.Ran x s ds a t := by
  obtain ⟨a, t, hruns⟩ := exists_runs (p := p) x s
  obtain ⟨ds, htraces, hfollows⟩ :=
    Task.exists_traces_of_run answersBy_passes repliesBy_passes x s
  rw [hruns] at htraces hfollows
  obtain ⟨hrecord, hprovider, hleads, hown⟩ := of_follows hfollows
  exact ⟨ds, a, t, hruns, htraces, hrecord, hprovider, hleads, hown⟩

namespace Ran

theorem done (a : α) (s : World app β) : p.Ran (.done a) s [] a s where
  runs := rfl
  traces := .done a
  record := (List.append_nil _).symm
  provider := rfl
  leads := rfl
  own := fun _ => ownFactory_of_handed_nil rfl

theorem bind (hx : p.Ran x s ds a t) (hf : p.Ran (f a) t es c u) :
    p.Ran (x >>= f) s (ds ++ es) c u where
  runs := runs_bind.mpr ⟨a, t, hx.runs, hf.runs⟩
  traces := Task.traces_bind.mpr (Or.inl ⟨a, ds, es, rfl, hx.traces, hf.traces⟩)
  record := by rw [hf.record, hx.record, List.append_assoc]
  provider := by rw [hf.provider, hx.provider, List.foldl_append]
  leads := follows_append.mpr ⟨t.workspace, hx.leads, hf.leads⟩
  own := fun hown => (hx.own hown).append (hf.own hown)

/-- A second part that only turns the value into another one. -/
theorem bind_done (hx : p.Ran x s ds a t) (hf : f a = .done c) : p.Ran (x >>= f) s ds c t := by
  have hdone : p.Ran (f a) t [] c t := by
    rw [hf]
    exact done c t
  have hbind := hx.bind hdone
  rwa [List.append_nil] at hbind

theorem guarded (hx : p.Ran x s ds a t) (cleanup : Step Unit) :
    p.Ran (x.guarded cleanup) s ds a t where
  runs := runs_guarded.mpr hx.runs
  traces := Task.traces_guarded.mpr (Or.inl ⟨Option.some_ne_none a, hx.traces⟩)
  record := hx.record
  provider := hx.provider
  leads := hx.leads
  own := hx.own

end Ran

/-- The state of the provider depends on what it is asked, and on nothing else. -/
theorem foldl_after (b : β) (ds : List (WorkDeed app)) :
    ds.foldl p.after b = (asked ds).foldl p.after b := by
  induction ds generalizing b with
  | nil => rfl
  | cons d ds ih =>
      cases hd : d.asks with
      | true =>
          rw [asked, List.filter_cons_of_pos hd]
          exact ih _
      | false =>
          have hsame : p.after b d = b := by
            rcases d with ⟨_ | _ | _ | _ | _, _⟩ | ⟨_, _⟩ | _ <;> first | rfl | cases hd
          rw [asked, List.filter_cons_of_neg (by simp [hd]), List.foldl_cons, hsame]
          exact ih b

end Provider

/-! ## The two ways -/

namespace Demarcator

variable (registry : Registry) (cx : ContextId) (demarcator : Demarcator)

/-- Release the handle of the unit of work in progress, if there is one. -/
def letGo : Step Unit :=
  match demarcator.current with
  | none => return ()
  | some work => work.release cx

/-- Starting does not depend on when the handle is released. -/
theorem start_mode (m m' : ReleaseMode) (spec? : Option WorkSpec) :
    (({ mode := m' } : Demarcator).start registry cx spec? : Work app _) =
      ({ mode := m } : Demarcator).start registry cx spec? >>= fun r =>
        .done (r.map fun next => { next with mode := m' }) := by
  cases spec? with
  | none => rfl
  | some spec =>
      cases hres : registry.resolve spec.unit with
      | error failure => simp only [start, hres]; rfl
      | ok factory =>
          simp only [start, hres, Task.bind_assoc]
          congr 1
          funext r
          rcases r with failure | handle
          · rfl
          · simp only [Task.bind_assoc]
            congr 1
            funext r
            rcases r with failure | ⟨⟩
            · simp only [Task.bind_assoc]; rfl
            · simp only [Task.bind_assoc]; rfl

theorem fail_immediate (hmode : demarcator.mode = .immediate) :
    (demarcator.fail cx : Work app Demarcator) =
      { demarcator with mode := .deferred }.fail cx >>= fun _ =>
        Task.ofAction (demarcator.letGo cx) >>= fun _ => .done demarcator.idle := by
  obtain ⟨mode, _ | work⟩ := demarcator
  · rfl
  · cases hmode
    simp only [fail, finish, letGo, Task.bind_assoc]
    rfl

theorem complete_immediate (hmode : demarcator.mode = .immediate) :
    (demarcator.complete cx : Work app (Except Failure Unit × Demarcator)) =
      { demarcator with mode := .deferred }.complete cx >>= fun r =>
        Task.ofAction (demarcator.letGo cx) >>= fun _ => .done (r.1, demarcator.idle) := by
  obtain ⟨mode, _ | work⟩ := demarcator
  · rfl
  · cases hmode
    simp only [complete, finish, letGo, Task.bind_assoc]
    congr 1
    funext r
    rcases r with failure | ⟨⟩
    · simp only [Task.bind_assoc]; rfl
    · rfl

end Demarcator

/-- How a request went that passed through the pipeline. -/
inductive Verdict (ε ρ : Type) where
  /-- The unit of work could not be opened. -/
  | refused (failure : Failure)
  /-- The method failed. -/
  | failed (error : ε)
  /-- The response could not be prepared. -/
  | unprepared (failure : Failure)
  | served (value : ρ)
deriving DecidableEq

namespace Request

variable (request : Request) (registry : Registry) (declarations : Declarations)

/-- Tell the request that something failed, and finish it. -/
def giveUp : Work app Unit := do
  let (_, request) ← request.deliver registry declarations .exception
  let _ ← request.deliver registry declarations .finished
  return ()

/-- Deliver what is left to be delivered when the method has ended in this outcome. -/
def conclude : Except ε ρ → Work app (Verdict ε ρ)
  | .error e => do
    request.giveUp registry declarations
    return .failed e
  | .ok value => do
    match ← request.deliver registry declarations .responseFiltersStart with
    | (.error failure, request) =>
      request.giveUp registry declarations
      return .unprepared failure
    | (.ok (), request) =>
      let _ ← request.deliver registry declarations .finished
      return .served value

/-- Pass a request for `method` through the pipeline: its start, its body, the
response or the exception, and the end. -/
def passThrough (method : String) (body : ContextId → Work app (Except ε ρ)) :
    Work app (Verdict ε ρ) := do
  let request ← create
  match ← request.deliver registry declarations (.methodStart method) with
  | (.error failure, request) =>
    request.giveUp registry declarations
    return .refused failure
  | (.ok (), request) =>
    let outcome ← body request.context
    request.conclude registry declarations outcome

end Request

/-! ## The last step -/

section Closing

variable {p : Provider app β} {s t t' : World app β} {cx : ContextId} {ds es : List (WorkDeed app)}
  {demarcator : Demarcator} {request : Request}

/-- The handle of the unit of work in progress, if there is one. -/
def Demarcator.handles (demarcator : Demarcator) : List Handle :=
  (demarcator.current.map OpenUnit.handle).toList

theorem Demarcator.count_handles (demarcator : Demarcator) {h : Handle}
    (hmem : h ∈ demarcator.handles) : demarcator.handles.count h = 1 := by
  obtain ⟨mode, _ | work⟩ := demarcator
  · cases hmem
  · obtain rfl := List.mem_singleton.mp hmem
    exact List.count_singleton_self

/-- Nothing but the handle of the unit of work in progress is bound, and it is
bound under its own factory. -/
def Demarcator.Holds (demarcator : Demarcator) (bindings : Context) : Prop :=
  match demarcator.current with
  | none => bindings = .empty
  | some work => work.handle.factory = work.factory ∧ bindings = (Context.empty.bind work.handle).2

/-- What was opened in an empty context is all that it holds. -/
theorem holds_of_started {registry : Registry} {spec? : Option WorkSpec}
    (hown : p.OwnFactories) (hempty : s.workspace.context cx = .empty)
    (hstart : p.Ran (({ mode := .immediate } : Demarcator).start registry cx spec?) s ds
      (.ok demarcator) t) :
    demarcator.mode = .immediate ∧ demarcator.Holds (t.workspace.context cx) ∧
      handed ds = demarcator.handles ∧ ∀ h, closings h ds = 0 := by
  rcases (Demarcator.traces_start.mp hstart.traces).of_ok with
    ⟨-, rfl, rfl⟩ | ⟨_, work, -, -, rfl, hcreated, hopens⟩
  · have hsame : t.workspace = s.workspace := hstart.leads
    refine ⟨rfl, ?_, rfl, fun _ => rfl⟩
    show t.workspace.context cx = .empty
    rw [hsame, hempty]
  · refine ⟨rfl, ⟨hstart.own hown _ _ hcreated, ?_⟩, hopens.handed, hopens.closings⟩
    rw [hopens.context Workspace.spares_eq hstart.leads, hempty]

/-- What was refused in an empty context is closed, and nothing is bound. -/
theorem closed_of_refused {registry : Registry} {spec? : Option WorkSpec} {failure : Failure}
    (hown : p.OwnFactories) (hempty : s.workspace.context cx = .empty)
    (hstart : p.Ran (({ mode := .immediate } : Demarcator).start registry cx spec?) s ds
      (.error failure) t) :
    t.workspace.context cx = .empty ∧ ∀ h ∈ handed ds, closings h ds = 1 := by
  rcases (Demarcator.traces_start.mp hstart.traces).of_error (hstart.own hown) with
    hquiet | ⟨_, handle, -, -, hrefused⟩
  · constructor
    · rw [hquiet.context Workspace.spares_eq hstart.leads, hempty]
    · rw [hquiet.handed]
      exact fun _ hmem => nomatch hmem
  · constructor
    · rw [hrefused.context Workspace.spares_eq hstart.leads, hempty]
      rfl
    · rw [hrefused.handed]
      intro h hmem
      obtain rfl := List.mem_singleton.mp hmem
      rw [hrefused.closings, if_pos rfl]

theorem letGo_of_holds (hholds : demarcator.Holds (s.workspace.context cx))
    (hran : p.Ran (Task.ofAction (demarcator.letGo cx)) s ds () t) :
    asked ds = ContextId.closeDeeds demarcator.handles ∧ t.workspace.context cx = .empty := by
  have htraces : (demarcator.letGo cx).Traces ds () := by
    obtain ⟨_, -, h⟩ := Task.traces_ofAction.mp hran.traces
    exact h
  obtain ⟨mode, _ | work⟩ := demarcator
  · obtain ⟨rfl, -⟩ := Action.traces_done.mp htraces
    have hsame : t.workspace = s.workspace := hran.leads
    rw [hsame]
    exact ⟨rfl, hholds⟩
  · obtain ⟨hfactory, hbound⟩ := hholds
    obtain ⟨removed, rfl⟩ := OpenUnit.traces_release.mp htraces
    obtain ⟨-, hworkspace⟩ := Workspace.leads_releaseDeeds.mp hran.leads
    constructor
    · cases removed <;> rfl
    · rw [hworkspace, Workspace.context_set_self, hbound, ← hfactory, Context.unbind_bind]
      rfl

theorem handles_of_holds {bindings : Context} (hholds : demarcator.Holds bindings) :
    bindings.handles = demarcator.handles := by
  obtain ⟨mode, _ | work⟩ := demarcator
  · cases hholds
    rfl
  · obtain ⟨-, rfl⟩ := hholds
    rfl

theorem finish_of_holds (request : Request) (hidle : request.demarcator.current = none)
    (hholds : demarcator.Holds (s.workspace.context request.context)) {next : Request}
    (hran : p.Ran (Task.ofAction request.finish) s ds next t) :
    asked ds = ContextId.closeDeeds demarcator.handles ∧
      t.workspace.context request.context = .empty := by
  obtain ⟨_, -, htraces⟩ := Task.traces_ofAction.mp hran.traces
  have hforget : request.demarcator.abandon = .done request.demarcator := by
    rw [Demarcator.abandon, hidle]
    rfl
  rw [Request.finish, hforget, Action.done_bind, Action.traces_bind] at htraces
  obtain ⟨_, _, _, rfl, hunbind, hdone⟩ := htraces
  obtain ⟨rfl, -⟩ := Action.traces_done.mp hdone
  obtain ⟨found, rfl⟩ := ContextId.traces_unbindAll.mp hunbind
  rw [List.append_nil] at hran ⊢
  obtain ⟨rfl, hworkspace⟩ := leads_emptyDeeds.mp hran.leads
  have hasked : ∀ handles, asked (ContextId.closeDeeds handles : List (WorkDeed app)) =
      ContextId.closeDeeds handles := by
    intro handles
    refine List.filter_eq_self.mpr ?_
    intro d hd
    obtain ⟨h, -, rfl⟩ := List.mem_map.mp hd
    rfl
  constructor
  · rw [← handles_of_holds hholds, Context.handles]
    cases (s.workspace.context request.context).bindings with
    | none => rfl
    | some table => exact hasked table.values
  · rw [hworkspace, Workspace.context_set_self]

end Closing

/-! ## Side by side -/

section Accord

variable {p : Provider app β} {s t t' : World app β} {cx : ContextId} {ds es : List (WorkDeed app)}
  {demarcator : Demarcator} {request : Request} {registry : Registry} {declarations : Declarations}
  {ofFailure : Failure → ε}

theorem handed_closeDeeds (handles : List Handle) :
    handed (ContextId.closeDeeds handles : List (WorkDeed app)) = [] :=
  handed_of_action ((ContextId.traces_releaseEach (u := ())).mpr rfl)

theorem ran_finished {next : Request}
    (hfinish : p.Ran (Task.ofAction request.finish) s ds next t) :
    p.Ran (request.deliver registry declarations .finished) s ds (.ok (), next) t :=
  hfinish.bind_done rfl

/-- A request without a unit of work is given up by finishing it. -/
theorem ran_giveUp {next : Request} (hidle : request.demarcator.current = none)
    (hfinish : p.Ran (Task.ofAction request.finish) s ds next t) :
    p.Ran (request.giveUp registry declarations) s ds () t := by
  have hfail : (request.deliver registry declarations .exception : Work app _) =
      .done (.ok (), request) := by
    simp only [Request.deliver, Demarcator.fail, hidle]
    rfl
  rw [Request.giveUp, hfail, Task.done_bind]
  exact (ran_finished hfinish).bind_done (by rfl)

/-- What a method that ended in `outcome` comes to: the result of the call, and
the verdict on the request.  Only the failure of a commit is wrapped. -/
inductive Concluded (ofFailure : Failure → ε) :
    (outcome result : Except ε ρ) → Verdict ε ρ → Prop where
  | failed (e : ε) : Concluded ofFailure (.error e) (.error e) (.failed e)
  | uncommitted (value : ρ) (failure : Failure) :
      Concluded ofFailure (.ok value) (.error (ofFailure failure))
        (.unprepared (.mappable failure))
  | served (value : ρ) : Concluded ofFailure (.ok value) (.ok value) (.served value)

/-- When the transaction has been ended, the call lets its handle go and the request
finishes.  Both close the handle. -/
theorem exists_closed (ending : List (WorkDeed app)) {next : Demarcator}
    (hidle : next.current = none)
    (hholds : demarcator.Holds (s.workspace.context request.context)) :
    ∃ ds t es r t', p.Ran (Task.ofAction (demarcator.letGo request.context)) s ds () t ∧
      p.Ran (Task.ofAction { request with demarcator := next }.finish) s es r t' ∧
      asked (ending ++ ds) = asked ending ++ ContextId.closeDeeds demarcator.handles ∧
      asked (ending ++ es) = asked ending ++ ContextId.closeDeeds demarcator.handles ∧
      t.workspace.context request.context = .empty ∧
      t'.workspace.context request.context = .empty := by
  obtain ⟨ds, ⟨⟩, t, hlet⟩ := Provider.exists_ran (p := p)
    (Task.ofAction (demarcator.letGo request.context)) s
  obtain ⟨es, r, t', hfinish⟩ := Provider.exists_ran (p := p)
    (Task.ofAction { request with demarcator := next }.finish) s
  obtain ⟨hds, hempty⟩ := letGo_of_holds hholds hlet
  obtain ⟨hes, hempty'⟩ :=
    finish_of_holds { request with demarcator := next } hidle hholds hfinish
  refine ⟨ds, t, es, r, t', hlet, hfinish, ?_, ?_, hempty, hempty'⟩
  · rw [asked_append, hds]
  · rw [asked_append, hes]

/-- After the same body, the call and the request ask the same: they end the
transaction, and then they close the handle. -/
theorem exists_concluded (registry : Registry) (declarations : Declarations)
    (ofFailure : Failure → ε) (request : Request) (hmode : demarcator.mode = .immediate)
    (hholds : demarcator.Holds (s.workspace.context request.context))
    (hdemarcator : request.demarcator = { demarcator with mode := .deferred })
    (outcome : Except ε ρ) :
    ∃ ending ds result t es verdict t', Neutral ending ∧
      asked ds = asked ending ++ ContextId.closeDeeds demarcator.handles ∧
      asked es = asked ending ++ ContextId.closeDeeds demarcator.handles ∧
      p.Ran (Component.conclude ofFailure demarcator request.context outcome) s ds result t ∧
      p.Ran (request.conclude registry declarations outcome) s es verdict t' ∧
      t.workspace.context request.context = .empty ∧
      t'.workspace.context request.context = .empty ∧
      Concluded ofFailure outcome result verdict := by
  have hstill : ∀ {ending : List (WorkDeed app)} {u : World app β}, Neutral ending →
      Workspace.Leads Eq ending s.workspace u.workspace →
      demarcator.Holds (u.workspace.context request.context) := by
    intro ending u hneutral hleads
    rw [hneutral.context Workspace.spares_eq hleads]
    exact hholds
  cases outcome with
  | error e =>
      obtain ⟨ending, next, u, hfail⟩ := Provider.exists_ran (p := p)
        ({ demarcator with mode := .deferred }.fail request.context) s
      have hfails := Demarcator.traces_fail.mp hfail.traces
      have hneutral : Neutral ending := hfails.ends.neutral_of_deferred rfl
      obtain ⟨ds, t, es, r, t', hlet, hfinish, hds, hes, hempty, hempty'⟩ :=
        exists_closed (p := p) ending hfails.current_eq_none (hstill hneutral hfail.leads)
      refine ⟨ending, ending ++ ds, _, t, ending ++ es, _, t', hneutral, hds, hes, ?_, ?_, hempty,
        hempty', .failed e⟩
      · rw [Component.conclude, Demarcator.fail_immediate _ _ hmode]
        exact (hfail.bind (hlet.bind_done (by rfl))).bind_done rfl
      · have hexception : p.Ran (request.deliver registry declarations .exception) s ending
            (.ok (), { request with demarcator := next }) u := by
          rw [Request.deliver, hdemarcator]
          exact hfail.bind_done rfl
        exact (hexception.bind ((ran_finished hfinish).bind_done (by rfl))).bind_done rfl
  | ok value =>
      obtain ⟨ending, ⟨reply, next⟩, u, hcomplete⟩ := Provider.exists_ran (p := p)
        ({ demarcator with mode := .deferred }.complete request.context) s
      have hcompletes := Demarcator.traces_complete.mp hcomplete.traces
      have hneutral : Neutral ending := hcompletes.ends.neutral_of_deferred rfl
      obtain ⟨ds, t, es, r, t', hlet, hfinish, hds, hes, hempty, hempty'⟩ :=
        exists_closed (p := p) ending hcompletes.current_eq_none
          (hstill hneutral hcomplete.leads)
      have hcall : p.Ran (demarcator.complete request.context) s (ending ++ ds)
          (reply, demarcator.idle) t := by
        rw [Demarcator.complete_immediate _ _ hmode]
        exact hcomplete.bind (hlet.bind_done rfl)
      cases reply with
      | error failure =>
          refine ⟨ending, ending ++ ds, _, t, ending ++ es, _, t', hneutral, hds, hes,
            hcall.bind_done rfl, ?_, hempty, hempty', .uncommitted value failure⟩
          have hresponse : p.Ran (request.deliver registry declarations .responseFiltersStart) s
              ending (.error (.mappable failure), { request with demarcator := next }) u := by
            rw [Request.deliver, hdemarcator]
            exact hcomplete.bind_done rfl
          exact hresponse.bind ((ran_giveUp hcompletes.current_eq_none hfinish).bind_done rfl)
      | ok =>
          refine ⟨ending, ending ++ ds, _, t, ending ++ es, _, t', hneutral, hds, hes,
            hcall.bind_done rfl, ?_, hempty, hempty', .served value⟩
          have hresponse : p.Ran (request.deliver registry declarations .responseFiltersStart) s
              ending (.ok (), { request with demarcator := next }) u := by
            rw [Request.deliver, hdemarcator]
            exact hcomplete.bind_done rfl
          exact hresponse.bind ((ran_finished hfinish).bind_done (by rfl))

/-- In both records the body ran in the same way, and ended in `outcome`. -/
def SameBody (body : Work app (Except ε ρ)) (ds es : List (WorkDeed app))
    (outcome : Except ε ρ) : Prop :=
  ∃ before during after after', ds = before ++ (during ++ after) ∧
    es = before ++ (during ++ after') ∧ body.Traces during (some outcome)

/-- What a call and a request have in common that did the deeds `ds` and `es`. -/
structure Accord (ofFailure : Failure → ε) (cx : ContextId) (body : Work app (Except ε ρ))
    (ds : List (WorkDeed app)) (result : Except ε ρ) (t : World app β)
    (es : List (WorkDeed app)) (verdict : Verdict ε ρ) (t' : World app β) : Prop where
  /-- Factories, handles and jobs are asked the same, and answer the same. -/
  asked : asked ds = asked es
  provider : t.provider = t'.provider
  /-- Every handle is closed once. -/
  closed : ∀ h ∈ handed ds, closings h ds = 1
  closed' : ∀ h ∈ handed es, closings h es = 1
  /-- Nothing stays bound. -/
  emptied : t.workspace.context cx = .empty
  emptied' : t'.workspace.context cx = .empty
  /-- Both fail to open the unit of work, or the same body comes to the same. -/
  course : (∃ failure, result = .error (ofFailure failure) ∧ verdict = .refused failure) ∨
    ∃ outcome, SameBody body ds es outcome ∧ Concluded ofFailure outcome result verdict

/-- Where the same is asked, the providers end up in the same state, and the same
handles are closed. -/
theorem accord_of_asked {x : Work app (Except ε ρ)} {y : Work app (Verdict ε ρ)}
    {body : Work app (Except ε ρ)} {result : Except ε ρ} {verdict : Verdict ε ρ}
    (hx : p.Ran x s ds result t) (hy : p.Ran y s es verdict t') (hasked : asked ds = asked es)
    (hclosed : ∀ h ∈ handed ds, closings h ds = 1) (hempty : t.workspace.context cx = .empty)
    (hempty' : t'.workspace.context cx = .empty)
    (hcourse : (∃ failure, result = .error (ofFailure failure) ∧ verdict = .refused failure) ∨
      ∃ outcome, SameBody body ds es outcome ∧ Concluded ofFailure outcome result verdict) :
    Accord ofFailure cx body ds result t es verdict t' := by
  refine ⟨hasked, ?_, hclosed, ?_, hempty, hempty', hcourse⟩
  · rw [hx.provider, hy.provider, Provider.foldl_after, hasked, ← Provider.foldl_after]
  · intro h hmem
    rw [← handed_asked, ← hasked, handed_asked] at hmem
    rw [← closings_asked, ← hasked, closings_asked]
    exact hclosed h hmem

theorem ran_create (s : World app β) :
    ∃ t, p.Ran (Task.ofAction ContextId.create) s
      [.did (.context .create) ⟨s.workspace.opened⟩] ⟨s.workspace.opened⟩ t ∧
        t.workspace.contexts = s.workspace.contexts := by
  refine ⟨_, ⟨rfl, .perform (.done _), rfl, rfl, ⟨_, rfl, rfl⟩, ?_⟩, rfl⟩
  exact fun _ => ownFactory_of_handed_nil rfl

/-- After a start that is refused everything is closed, and giving the request up does
nothing more. -/
theorem exists_givenUp {spec? : Option WorkSpec} {failure : Failure} (registry : Registry)
    (declarations : Declarations) (hown : p.OwnFactories)
    (hempty : s.workspace.context cx = .empty)
    (hstart : p.Ran (({ mode := .immediate } : Demarcator).start registry cx spec?) s ds
      (.error failure) t) :
    ∃ es t', p.Ran (({ context := cx } : Request).giveUp registry declarations) t es () t' ∧
      asked es = [] ∧ (∀ h ∈ handed ds, closings h ds = 1) ∧
      t.workspace.context cx = .empty ∧ t'.workspace.context cx = .empty := by
  obtain ⟨hempty₁, hclosed⟩ := closed_of_refused hown hempty hstart
  obtain ⟨es, next, t', hfinish⟩ := Provider.exists_ran (p := p)
    (Task.ofAction ({ context := cx } : Request).finish) t
  have hholds : ({ mode := .deferred } : Demarcator).Holds (t.workspace.context cx) := hempty₁
  obtain ⟨hasked, hempty₂⟩ := finish_of_holds { context := cx } rfl hholds hfinish
  exact ⟨es, t', ran_giveUp rfl hfinish, hasked, hclosed, hempty₁, hempty₂⟩

/-- After a start that succeeds the body runs, and then the call and the request
conclude it. -/
theorem exists_served {spec? : Option WorkSpec} {body : Work app (Except ε ρ)}
    (registry : Registry) (declarations : Declarations) (ofFailure : Failure → ε)
    (hown : p.OwnFactories) (hempty : s.workspace.context cx = .empty)
    (hshared : SharedOnly cx body)
    (hstart : p.Ran (({ mode := .immediate } : Demarcator).start registry cx spec?) s ds
      (.ok demarcator) t) :
    ∃ during outcome u after result v after' verdict v', p.Ran body t during outcome u ∧
      p.Ran (Component.conclude ofFailure demarcator cx outcome) u after result v ∧
      p.Ran (({ context := cx, demarcator := { demarcator with mode := .deferred } } :
        Request).conclude registry declarations outcome) u after' verdict v' ∧
      asked after = asked after' ∧
      (∀ h ∈ handed (ds ++ (during ++ after)), closings h (ds ++ (during ++ after)) = 1) ∧
      v.workspace.context cx = .empty ∧ v'.workspace.context cx = .empty ∧
      Concluded ofFailure outcome result verdict := by
  obtain ⟨hmode, hholds, hhanded, hclosings⟩ := holds_of_started hown hempty hstart
  obtain ⟨during, outcome, u, hbody⟩ := Provider.exists_ran (p := p) body t
  have hquiet : Quiet cx during := hshared.leavesAlone during _ hbody.traces
  have hheld : demarcator.Holds (u.workspace.context cx) := by
    rw [hquiet.context Workspace.spares_eq hbody.leads]
    exact hholds
  obtain ⟨ending, after, result, v, after', verdict, v', hneutral, hafter, hafter', hconclude,
    hconclude', hempty', hempty'', hconcluded⟩ := exists_concluded (p := p) registry declarations
    ofFailure { context := cx, demarcator := { demarcator with mode := .deferred } } hmode hheld
    rfl outcome
  refine ⟨during, outcome, u, after, result, v, after', verdict, v', hbody, hconclude, hconclude',
    hafter.trans hafter'.symm, ?_, hempty', hempty'', hconcluded⟩
  have hafterHanded : handed after = [] := by
    rw [← handed_asked, hafter, handed_append, handed_asked, hneutral.handed, handed_closeDeeds]
    rfl
  have hafterClosings : ∀ h, closings h after = demarcator.handles.count h := by
    intro h
    rw [← closings_asked, hafter, closings_append, closings_asked, hneutral.closings,
      closings_closeDeeds, Nat.zero_add]
  intro h hmem
  simp only [handed_append, hhanded, hquiet.handed, hafterHanded, List.append_nil] at hmem
  simp only [closings_append, hclosings, hquiet.closings, hafterClosings, Nat.zero_add]
  exact demarcator.count_handles hmem

/-- A call in a context of its own and a request for the same method agree,
whatever factories, handles and the body do.  Nothing is bound in a context before
it is created. -/
theorem Component.call_agrees (component : Component τ) (registry : Registry)
    (declarations : Declarations) (ofFailure : Failure → ε) (method : String)
    {call : τ → ContextId → Work app (Except ε ρ)} (hown : p.OwnFactories)
    (hdeclared : declarations.find? method = component.methods.find? method)
    (hshared : ∀ cx, SharedOnly cx (call component.target cx))
    (hempty : s.workspace.context ⟨s.workspace.opened⟩ = .empty) :
    ∃ ds result t es verdict t',
      p.Ran (component.call registry ofFailure method call) s ds result t ∧
      p.Ran (Request.passThrough registry declarations method (call component.target))
        s es verdict t' ∧
      Accord ofFailure ⟨s.workspace.opened⟩ (call component.target ⟨s.workspace.opened⟩)
        ds result t es verdict t' := by
  obtain ⟨s₀, hcreate, hcontexts⟩ := ran_create (p := p) s
  generalize hcx : (⟨s.workspace.opened⟩ : ContextId) = cx at *
  have hempty₀ : s₀.workspace.context cx = .empty := by
    rw [Workspace.context, hcontexts]
    exact hempty
  have hrequest : p.Ran (Task.ofAction Request.create) s [.did (.context .create) cx]
      { context := cx } s₀ := by
    rw [Request.create, Task.ofAction_bind]
    exact hcreate.bind_done rfl
  obtain ⟨before, opened, s₁, hstart⟩ := Provider.exists_ran (p := p)
    (({ mode := .immediate } : Demarcator).start registry cx (component.methods.find? method)) s₀
  -- the request starts in the same way
  have hstart' : p.Ran (({ mode := .deferred } : Demarcator).start registry cx
      (declarations.find? method)) s₀ before
      (opened.map fun next => { next with mode := .deferred }) s₁ := by
    rw [hdeclared, Demarcator.start_mode registry cx .immediate]
    exact hstart.bind_done rfl
  cases opened with
  | error failure =>
      obtain ⟨ending, t', hgivenUp, hnothing, hclosed, hempty₁, hempty'⟩ :=
        exists_givenUp registry declarations hown hempty₀ hstart
      have hcall : p.Ran (component.call registry ofFailure method call) s
          ([.did (.context .create) cx] ++ before) (.error (ofFailure failure)) s₁ :=
        hcreate.bind (hstart.bind_done rfl)
      have hmethod : p.Ran (({ context := cx } : Request).deliver registry declarations
          (.methodStart method)) s₀ before (.error failure, { context := cx }) s₁ :=
        hstart'.bind_done rfl
      have hpassed : p.Ran (Request.passThrough registry declarations method
          (call component.target)) s ([.did (.context .create) cx] ++ (before ++ ending))
          (.refused failure) t' :=
        hrequest.bind (hmethod.bind (hgivenUp.bind_done (by rfl)))
      have hsame : asked ([.did (.context .create) cx] ++ before) =
          asked ([.did (.context .create) cx] ++ (before ++ ending)) := by
        simp only [asked_append, hnothing, List.append_nil]
      exact ⟨_, _, _, _, _, _, hcall, hpassed, accord_of_asked hcall hpassed hsame hclosed hempty₁
        hempty' (Or.inl ⟨failure, rfl, rfl⟩)⟩
  | ok demarcator =>
      obtain ⟨during, outcome, s₂, after, result, t, after', verdict, t', hbody, hconclude,
        hconclude', hafter, hclosed, hempty', hempty'', hconcluded⟩ :=
        exists_served registry declarations ofFailure hown hempty₀ (hshared cx) hstart
      have hcall : p.Ran (component.call registry ofFailure method call) s
          ([.did (.context .create) cx] ++ (before ++ (during ++ after))) result t :=
        hcreate.bind (hstart.bind ((hbody.bind hconclude).guarded _))
      have hmethod : p.Ran (({ context := cx } : Request).deliver registry declarations
          (.methodStart method)) s₀ before
          (.ok (), { context := cx, demarcator := { demarcator with mode := .deferred } }) s₁ :=
        hstart'.bind_done rfl
      have hpassed : p.Ran (Request.passThrough registry declarations method
          (call component.target)) s
          ([.did (.context .create) cx] ++ (before ++ (during ++ after'))) verdict t' :=
        hrequest.bind (hmethod.bind (hbody.bind hconclude'))
      have hsame : asked ([.did (.context .create) cx] ++ (before ++ (during ++ after))) =
          asked ([.did (.context .create) cx] ++ (before ++ (during ++ after'))) := by
        simp only [asked_append, hafter]
      refine ⟨_, _, _, _, _, _, hcall, hpassed, accord_of_asked hcall hpassed hsame hclosed hempty'
        hempty'' (Or.inr ⟨outcome, ?_, hconcluded⟩)⟩
      exact ⟨_, during, after, after', (List.append_assoc _ _ _).symm,
        (List.append_assoc _ _ _).symm, hbody.traces⟩

/-- A provider that opens everything and commits nothing. -/
def reluctant : Provider noJobs Unit where
  transactionActive _ := pure true
  close _ := pure ()
  provides _ _ := pure false
  reply
    | .create factory => pure (.ok ⟨0, factory⟩)
    | .configure .. | .begin _ | .rollback _ => pure (.ok ())
    | .commit _ => pure (.error (.commitFailed "refused"))
    | .execute .. => pure (.ok (.found none))
    | .job job => nomatch job

/-- Declared for the pipeline, "keep" runs in the default unit as it does in `keeper`. -/
def keepDeclared : Declarations := { methods := Table.empty.insert "keep" {} }

/-- Where the commit is refused, the request wraps the failure of the call. -/
theorem reluctant_call_agrees :
    ∃ ds t es t',
      reluctant.Ran (Component.keeper.call (.lone ⟨0⟩) id "keep" lookUp) ⟨{}, (), []⟩ ds
        (.error (.commitFailed "refused")) t ∧
      reluctant.Ran (Request.passThrough (.lone ⟨0⟩) keepDeclared "keep" (lookUp ()))
        ⟨{}, (), []⟩ es (.unprepared (.mappable (.commitFailed "refused"))) t' ∧
      Accord id ⟨0⟩ (lookUp () ⟨0⟩) ds (.error (.commitFailed "refused")) t es
        (.unprepared (.mappable (.commitFailed "refused"))) t' := by
  have hown : reluctant.OwnFactories := by
    intro factory b handle hreply
    cases hreply
    rfl
  obtain ⟨ds, result, t, es, verdict, t', hcall, hpassed, haccord⟩ :=
    Component.call_agrees (s := ⟨{}, (), []⟩) Component.keeper (.lone ⟨0⟩) keepDeclared id "keep"
      hown rfl (sharedOnly_lookUp ()) rfl
  have hresult : result = .error (.commitFailed "refused") := by
    have hvalue : (((Component.keeper.call (.lone ⟨0⟩) id "keep" lookUp).run
        reluctant.around).run ⟨{}, (), []⟩).1 = some (.error (.commitFailed "refused")) := by
      decide +kernel
    rw [hcall.runs] at hvalue
    exact Option.some.inj hvalue
  have hverdict : verdict = .unprepared (.mappable (.commitFailed "refused")) := by
    have hvalue : (((Request.passThrough (.lone ⟨0⟩) keepDeclared "keep" (lookUp ())).run
        reluctant.around).run ⟨{}, (), []⟩).1 =
          some (.unprepared (.mappable (.commitFailed "refused"))) := by
      decide +kernel
    rw [hpassed.runs] at hvalue
    exact Option.some.inj hvalue
  subst hresult hverdict
  exact ⟨ds, t, es, t', hcall, hpassed, haccord⟩

end Accord

end Demarcation
