/-
Requests that share the declared methods.

A `Pipeline` has the tables that its requests share, the contexts and the requests.  Its
moves come in any order: methods are declared, units are registered, requests arrive and
leave, and events are delivered to them.  What is done about an event goes on deed by deed,
and others may move in between.  Whatever else there is in the process may change the
contexts at any moment.

A request looks at the declarations when a method starts, and not again: `Task.Advances`
says what is left of a routine after each deed, and the specification is in what is left.
So `declarations_stand` tells, of any state that a pipeline comes to, which declaration a
method has, and what a request does that starts the method there and then.
-/
import Mathlib.Logic.Function.Basic
import Demarcation.Proofs.Declaring
import Demarcation.Proofs.Deliveries
import Demarcation.Proofs.Refusals

namespace Demarcation

/-! ## Deed by deed -/

section Advances

variable {V : Vocabulary} {C : Calls} {α : Type}

namespace Task

/-- What is left of a routine after a deed.  When it is dropped its cleanup is left, and
there will be no result. -/
inductive Advances : Task V C (Option α) → Deed V C → Task V C (Option α) → Prop where
  | did {command : V.Command} {next : V.Answer command → Task V C (Option α)}
      (answer : V.Answer command) :
      Advances (.perform command next) (.did command answer) (next answer)
  | heard {call : C.Call} {onDrop : Action V Unit} {next : C.Reply call → Task V C (Option α)}
      (reply : C.Reply call) : Advances (.await call onDrop next) (.heard call reply) (next reply)
  | lost {call : C.Call} {onDrop : Action V Unit} {next : C.Reply call → Task V C (Option α)} :
      Advances (.await call onDrop next) (.lost call) (ofAction onDrop >>= fun _ => .done none)

/-- The routine with its result, if it comes to one. -/
def droppable (routine : Task V C α) : Task V C (Option α) := routine >>= fun a => .done (some a)

variable {ds : List (Deed V C)} {v w : Option α}

theorem advances_done {rest : Task V C (Option α)} :
    Follows Advances ds (.done v) rest ↔ ds = [] ∧ rest = .done v := by
  cases ds with
  | nil => exact (and_iff_right rfl).symm
  | cons d ds =>
      constructor
      · rintro ⟨_, hadvances, -⟩
        cases hadvances
      · rintro ⟨hnil, -⟩
        cases hnil

theorem advances_perform {c : V.Command} {next : V.Answer c → Task V C (Option α)} :
    Follows Advances ds (.perform c next) (.done v) ↔
      ∃ r rest, ds = .did c r :: rest ∧ Follows Advances rest (next r) (.done v) := by
  constructor
  · intro h
    cases ds with
    | nil => cases h
    | cons d ds =>
        obtain ⟨_, hadvances, hrest⟩ := h
        cases hadvances with
        | did r => exact ⟨r, ds, rfl, hrest⟩
  · rintro ⟨r, rest, rfl, hrest⟩
    exact ⟨_, .did r, hrest⟩

theorem advances_await {c : C.Call} {onDrop : Action V Unit}
    {next : C.Reply c → Task V C (Option α)} :
    Follows Advances ds (.await c onDrop next) (.done v) ↔
      (∃ r rest, ds = .heard c r :: rest ∧ Follows Advances rest (next r) (.done v)) ∨
      ∃ rest, ds = .lost c :: rest ∧
        Follows Advances rest (ofAction onDrop >>= fun _ => .done none) (.done v) := by
  constructor
  · intro h
    cases ds with
    | nil => cases h
    | cons d ds =>
        obtain ⟨_, hadvances, hrest⟩ := h
        cases hadvances with
        | heard r => exact Or.inl ⟨r, ds, rfl, hrest⟩
        | lost => exact Or.inr ⟨ds, rfl, hrest⟩
  · rintro (⟨r, rest, rfl, hrest⟩ | ⟨rest, rfl, hrest⟩)
    · exact ⟨_, .heard r, hrest⟩
    · exact ⟨_, .lost, hrest⟩

theorem advances_cleanup {cleanup : Action V Unit} :
    Follows Advances ds (ofAction cleanup >>= fun _ => .done none) (.done v) ↔
      v = none ∧ cleanup.Traces ds () := by
  induction cleanup generalizing ds with
  | done u =>
      rw [ofAction_done, done_bind, advances_done, Action.traces_done, Task.done.injEq]
      exact ⟨fun h => ⟨h.2, h.1, rfl⟩, fun h => ⟨h.2.1, h.1⟩⟩
  | perform c next ih =>
      rw [ofAction_perform, perform_bind, advances_perform, Action.traces_perform]
      simp only [ih]
      constructor
      · rintro ⟨r, rest, rfl, rfl, hrest⟩
        exact ⟨rfl, r, rest, rfl, hrest⟩
      · rintro ⟨rfl, r, rest, rfl, hrest⟩
        exact ⟨r, rest, rfl, rfl, hrest⟩

/-- Deed by deed a routine does what its traces say. -/
theorem traces_iff_advances {routine : Task V C α} :
    routine.Traces ds v ↔ Follows Advances ds routine.droppable (.done v) := by
  induction routine generalizing ds with
  | done a =>
      rw [droppable, done_bind, advances_done, traces_done, Task.done.injEq]
  | perform c next ih =>
      rw [droppable, perform_bind, advances_perform, traces_perform]
      simp only [ih, droppable]
  | await c onDrop next ih =>
      rw [droppable, await_bind, advances_await, traces_await]
      simp only [ih, droppable, advances_cleanup]

/-- A routine that was dropped has lost the call that it waited for. -/
theorem Traces.exists_lost {routine : Task V C α} (h : routine.Traces ds v) (hv : v = none) :
    ∃ call, .lost call ∈ ds := by
  induction h with
  | done => cases hv
  | perform _ ih | heard _ ih =>
      obtain ⟨call, hmem⟩ := ih hv
      exact ⟨call, List.mem_cons_of_mem _ hmem⟩
  | lost => exact ⟨_, List.mem_cons_self⟩

end Task

end Advances

variable {app : Jobs}

/-! ## The start of a method -/

/-- Opening a unit of work, given the handle that was bound before. -/
def ContextId.openingDeeds (cx : ContextId) (spec : WorkSpec) (factory : FactoryId)
    (handle : Handle) (replaced : Option Handle) : List (WorkDeed app) :=
  .heard (.create factory) (.ok handle) ::
    .heard (.configure handle spec.sessionOptions) (.ok ()) ::
    (cx.bindDeeds handle replaced ++
      (if spec.transactional then [.heard (.begin handle) (.ok ())] else []) ++
      [.did (.emit (.workStarted cx spec.unit spec.transactional)) ()])

/-- Opening a unit of work leaves its handle bound. -/
theorem Workspace.leads_openingDeeds {cx : ContextId} {spec : WorkSpec} {factory : FactoryId}
    {handle : Handle} (w : Workspace) :
    Leads Eq (cx.openingDeeds spec factory handle ((w.context cx).find? handle.factory) :
      List (WorkDeed app)) w (w.set cx ((w.context cx).bind handle).2) := by
  have hbegin : ∀ v : Workspace, Leads Eq (if spec.transactional then
      [.heard (.begin handle) (.ok ())] else [] : List (WorkDeed app)) v v := by
    intro v
    cases spec.transactional with
    | false => exact rfl
    | true => exact ⟨v, rfl, rfl⟩
  have hbind : Leads Eq (cx.bindDeeds handle ((w.context cx).find? handle.factory) :
      List (WorkDeed app)) w (w.set cx ((w.context cx).bind handle).2) :=
    leads_bindDeeds.mpr ⟨rfl, rfl⟩
  exact ⟨w, rfl, w, rfl, follows_append.mpr
    ⟨_, follows_append.mpr ⟨_, hbind, hbegin _⟩, _, rfl, rfl⟩⟩

/-- What has been done when a handle has been entered. -/
theorem OpenUnit.Enters.of_ok {cx : ContextId} {spec : WorkSpec} {handle : Handle}
    {ds : List (WorkDeed app)} (h : Enters cx spec handle ds (some (.ok ()))) :
    ∃ replaced, ds = .heard (.configure handle spec.sessionOptions) (.ok ()) ::
      (cx.bindDeeds handle replaced ++
        if spec.transactional then [.heard (.begin handle) (.ok ())] else []) := by
  cases h with
  | bound replaced hplain =>
      refine ⟨replaced, ?_⟩
      rw [hplain, if_neg Bool.false_ne_true, List.append_nil]
  | begun replaced htransactional =>
      refine ⟨replaced, ?_⟩
      rw [htransactional, if_pos rfl]

namespace Request

variable {request : Request} {registry : Registry} {declarations : Declarations}
  {method : String} {spec : WorkSpec} {deeds : List (WorkDeed app)}

/-- The request with this unit of work in progress. -/
def working (request : Request) (work : OpenUnit) : Request :=
  { request with demarcator := { request.demarcator with current := some work } }

/-- What the start of a method comes to that has been declared to need `spec`.  A unit of
work is opened with just this specification, unless something fails or the start is
dropped; then the request is what it was. -/
inductive StartsWith (request : Request) (registry : Registry) (spec : WorkSpec) :
    List (WorkDeed app) → Option (Except Failure Unit) → Request → Prop where
  | opened {factory : FactoryId} {handle : Handle} (replaced : Option Handle)
      (resolved : registry.resolve spec.unit = .ok factory) :
      StartsWith request registry spec
        (request.context.openingDeeds spec factory handle replaced) (some (.ok ()))
        (request.working { spec, handle, factory })
  | failed {deeds : List (WorkDeed app)} {failure : Failure}
      (failed : (deeds = [] ∧ registry.resolve spec.unit = .error failure) ∨
        failures deeds = [failure]) :
      StartsWith request registry spec deeds (some (.error failure)) request
  | dropped {deeds : List (WorkDeed app)} {call : Work.Call app} (lost : .lost call ∈ deeds) :
      StartsWith request registry spec deeds none request

/-- A method without a declaration starts at once, and nothing is done. -/
theorem deliver_of_undeclared (hundeclared : declarations.find? method = none) :
    (request.deliver registry declarations (.methodStart method) : Work app _) =
      .done (.ok (), request) := by
  rw [deliver, hundeclared]
  rfl

theorem startsWith_of_traces {v : Option (Except Failure Unit × Request)}
    (hdeclared : declarations.find? method = some spec)
    (h : (request.deliver registry declarations (.methodStart method)).Traces deeds v) :
    request.StartsWith registry spec deeds (v.map Prod.fst) ((v.map Prod.snd).getD request) := by
  cases hv : v with
  | none =>
      obtain ⟨call, hmem⟩ := h.exists_lost hv
      exact .dropped hmem
  | some result =>
      rw [hv] at h
      cases traces_deliver.mp h with
      | startFailed hstarts =>
          rw [hdeclared] at hstarts
          refine .failed ?_
          rcases hstarts.failures with ⟨hnone, _, ⟨⟩, hres⟩ | hfailed
          · exact Or.inl ⟨hnone, hres⟩
          · exact Or.inr hfailed
      | started hstarts =>
          rw [hdeclared] at hstarts
          cases hstarts with
          | opened hres henters =>
              obtain ⟨replaced, rfl⟩ := henters.of_ok
              exact .opened replaced hres

/-- The unit of work is opened if the registry has its unit, and the factory and the handle
do what they are asked. -/
theorem traces_opening {factory : FactoryId} {handle : Handle} (replaced : Option Handle)
    (hdeclared : declarations.find? method = some spec)
    (hresolved : registry.resolve spec.unit = .ok factory) :
    (request.deliver registry declarations (.methodStart method) : Work app _).Traces
      (request.context.openingDeeds spec factory handle replaced)
      (some (.ok (), request.working { spec, handle, factory })) := by
  have henters : OpenUnit.Enters request.context spec handle
      (.heard (.configure handle spec.sessionOptions) (.ok ()) ::
        (request.context.bindDeeds handle replaced ++
          if spec.transactional then [.heard (.begin handle) (.ok ())] else []) :
        List (WorkDeed app)) (some (.ok ())) := by
    cases htransactional : spec.transactional with
    | false =>
        rw [if_neg Bool.false_ne_true, List.append_nil]
        exact .bound replaced htransactional
    | true => exact .begun replaced htransactional (.ok ())
  refine traces_deliver.mpr (.started ?_)
  rw [hdeclared]
  exact .opened hresolved henters

/-- Tables of declarations that answer alike are the same to a request. -/
theorem deliver_congr {others : Declarations}
    (hsame : ∀ method, others.find? method = declarations.find? method) (event : RequestEvent) :
    (request.deliver registry others event : Work app _) =
      request.deliver registry declarations event := by
  cases event with
  | methodStart method => rw [deliver, deliver, hsame]
  | responseFiltersStart | exception | finished => rfl

end Request

/-! ## Pipelines -/

/-- A request that has not been dropped. -/
inductive LiveRequest (app : Jobs) where
  /-- Nothing is delivered to it at the moment. -/
  | waiting (request : Request)
  /-- An event is being delivered to it, and this is left to be done. -/
  | serving (request : Request) (rest : Work app (Option (Except Failure Unit × Request)))

/-- The requests of a process, and what they share. -/
structure Pipeline (app : Jobs) where
  tables : Setup.Tables
  workspace : Workspace
  requests : ℕ → Option (LiveRequest app) := fun _ => none

namespace Pipeline

/-- Something that happens in a pipeline. -/
inductive Move (app : Jobs) where
  | declared (announcement : Announcement)
  | registered (registration : Registration)
  | arrived (i : ℕ)
  | delivered (i : ℕ) (event : RequestEvent)
  | did (i : ℕ) (deed : WorkDeed app)
  /-- The delivery is over; there is no reply if it was dropped. -/
  | replied (i : ℕ) (reply : Option (Except Failure Unit))
  | left (i : ℕ)
  /-- Something else in the process changes contexts. -/
  | elsewhere

/-- The pipeline after request `i` has gone on. -/
def put (p : Pipeline app) (i : ℕ) (workspace : Workspace) (live : Option (LiveRequest app)) :
    Pipeline app :=
  { p with workspace, requests := Function.update p.requests i live }

/-- What is to be done about an event, with the tables of this moment.  The declarations
are looked at before the registry: a registration in between touches no declaration, and is
one that came before the event. -/
def routine (p : Pipeline app) (request : Request) (event : RequestEvent) :
    Work app (Option (Except Failure Unit × Request)) :=
  (request.deliver p.tables.registry p.tables.declarations event).droppable

/-- What a move makes of a pipeline. -/
inductive Moves (p : Pipeline app) : Move app → Pipeline app → Prop where
  | declared {a : Announcement} {tables : Setup.Tables} (declares : p.tables.Declares a tables) :
      Moves p (.declared a) { p with tables }
  | registered {r : Registration} {tables : Setup.Tables}
      (registers : p.tables.Registers r tables) : Moves p (.registered r) { p with tables }
  | arrived {i : ℕ} {request : Request} {workspace : Workspace} (free : p.requests i = none)
      (creates : Request.create.Reaches (C := Work.calls app) (Workspace.Step Eq) p.workspace
        request workspace) :
      Moves p (.arrived i) (p.put i workspace (some (.waiting request)))
  | delivered {i : ℕ} {request : Request} (event : RequestEvent)
      (waiting : p.requests i = some (.waiting request)) :
      Moves p (.delivered i event)
        (p.put i p.workspace (some (.serving request (p.routine request event))))
  | did {i : ℕ} {request : Request} {deed : WorkDeed app}
      {rest rest' : Work app (Option (Except Failure Unit × Request))} {workspace : Workspace}
      (serving : p.requests i = some (.serving request rest)) (advances : rest.Advances deed rest')
      (step : Workspace.Step Eq p.workspace deed workspace) :
      Moves p (.did i deed) (p.put i workspace (some (.serving request rest')))
  | replied {i : ℕ} {request : Request} {result : Option (Except Failure Unit × Request)}
      (serving : p.requests i = some (.serving request (.done result))) :
      Moves p (.replied i (result.map Prod.fst))
        (p.put i p.workspace (some (.waiting ((result.map Prod.snd).getD request))))
  | left {i : ℕ} {request : Request} {workspace : Workspace}
      (waiting : p.requests i = some (.waiting request))
      (drops : request.drop.Reaches (C := Work.calls app) (Workspace.Step Eq) p.workspace ()
        workspace) :
      Moves p (.left i) (p.put i workspace none)
  | elsewhere (workspace : Workspace) : Moves p .elsewhere { p with workspace }

variable {p q t : Pipeline app} {m : Move app} {i : ℕ} {request : Request}
  {rest : Work app (Option (Except Failure Unit × Request))} {record : List (Move app)}
  {method : String} {spec : WorkSpec} {w w' : Workspace} {x y : Option (LiveRequest app)}

theorem workspace_put : (p.put i w x).workspace = w := rfl

theorem requests_put_self : (p.put i w x).requests i = x := Function.update_self ..

theorem requests_put_of_ne {j : ℕ} (hne : i ≠ j) : (p.put j w x).requests i = p.requests i :=
  Function.update_of_ne hne ..

theorem put_put : (p.put i w x).put i w' y = p.put i w' y := by
  simp only [put, Function.update_idem]

theorem put_self : p.put i p.workspace (p.requests i) = p := by
  simp only [put, Function.update_eq_self]

theorem put_comm {j : ℕ} (hne : i ≠ j) :
    (p.put i w x).put j w' y = (p.put j w y).put i w' x := by
  simp only [put, Function.update_comm hne]

/-! ## Declarations -/

/-- The move is a call that has been accepted, and gives the method this declaration. -/
def Move.Settles (method : String) (spec : WorkSpec) : Move app → Prop
  | .declared a => a.Settles method spec
  | _ => False

/-- The first call for the method that has been accepted gives it this declaration. -/
def FirstDeclared (record : List (Move app)) (method : String) (spec : WorkSpec) : Prop :=
  ∃ earlier m later, record = earlier ++ m :: later ∧ m.Settles method spec ∧
    ∀ e ∈ earlier, ∀ other, ¬ e.Settles method other

theorem Move.Settles.unique {other : WorkSpec} (h : m.Settles method spec)
    (hother : m.Settles method other) : spec = other := by
  cases m with
  | declared a => exact h.2.1.unique hother.2.1
  | registered | arrived | delivered | did | replied | left | elsewhere => cases h

theorem firstDeclared_cons :
    FirstDeclared (m :: record) method spec ↔
      m.Settles method spec ∨
        (∀ other, ¬ m.Settles method other) ∧ FirstDeclared record method spec := by
  constructor
  · rintro ⟨_ | ⟨_, earlier⟩, first, later, hsplit, hsettles, hearlier⟩
    · obtain ⟨rfl, rfl⟩ := List.cons.inj hsplit
      exact Or.inl hsettles
    · obtain ⟨rfl, rfl⟩ := List.cons.inj hsplit
      obtain ⟨hm, hearlier⟩ := List.forall_mem_cons.mp hearlier
      exact Or.inr ⟨hm, earlier, first, later, rfl, hsettles, hearlier⟩
  · rintro (hsettles | ⟨hm, earlier, first, later, rfl, hsettles, hearlier⟩)
    · exact ⟨[], m, record, rfl, hsettles, fun _ hmem => nomatch hmem⟩
    · exact ⟨m :: earlier, first, later, rfl, hsettles, List.forall_mem_cons.mpr ⟨hm, hearlier⟩⟩

/-- A move gives the method its declaration, if it has none, or it changes nothing about
the method. -/
theorem Moves.needs? (h : p.Moves m q) (method : String) :
    (∃ spec, m.Settles method spec ∧ p.tables.needs? method = none ∧
      q.tables.needs? method = some spec) ∨
    ((∀ spec, ¬ m.Settles method spec) ∧ q.tables.needs? method = p.tables.needs? method) := by
  cases h with
  | @declared a tables hdeclares =>
      rcases hdeclares.adds_or_leaves with ⟨spec, hsettles, hfree, rfl⟩ | ⟨hnot, rfl⟩
      · by_cases hmethod : a.declaration.method = method
        · subst hmethod
          refine Or.inl ⟨spec, hsettles, hfree, ?_⟩
          rw [Setup.Tables.needs?_declaring, if_pos rfl]
        · exact Or.inr ⟨fun _ hother => hmethod hother.1, hdeclares.needs?_of_ne hmethod⟩
      · exact Or.inr ⟨hnot method, rfl⟩
  | registered hregisters =>
      exact Or.inr ⟨fun _ => id, Setup.Tables.needs?_of_registers hregisters⟩
  | arrived | delivered | did | replied | left | elsewhere => exact Or.inr ⟨fun _ => id, rfl⟩

/-- A method keeps its declaration, and if it has none it is given the first one that is
accepted. -/
theorem needs?_of_follows (h : Follows Moves record p q) :
    q.tables.needs? method = some spec ↔
      p.tables.needs? method = some spec ∨
        p.tables.needs? method = none ∧ FirstDeclared record method spec := by
  induction record generalizing p with
  | nil =>
      rw [follows_nil.mp h]
      refine (or_iff_left ?_).symm
      rintro ⟨-, _ | _, _, _, hsplit, -⟩ <;> cases hsplit
  | cons m record ih =>
      obtain ⟨u, hmove, hrest⟩ := h
      rw [ih hrest, firstDeclared_cons]
      rcases hmove.needs? method with ⟨given, hsettles, hfree, hgiven⟩ | ⟨hnot, hsame⟩
      · have hsole : m.Settles method spec ↔ given = spec := by
          constructor
          · exact hsettles.unique
          · rintro rfl
            exact hsettles
        have hnot : ¬ ∀ other, ¬ m.Settles method other := fun hnone => hnone given hsettles
        simp [hfree, hgiven, hsole, hnot]
      · simp [hnot, hsame]

/-! ## Calls that change places -/

/-- Nothing tells the one pipeline from the other but the order in which methods have been
declared. -/
structure Alike (p q : Pipeline app) : Prop where
  tables : p.tables.Alike q.tables
  workspace : q.workspace = p.workspace
  requests : q.requests = p.requests

/-- Pipelines that are alike can do the same, and stay alike. -/
theorem Alike.moves {p' : Pipeline app} (halike : p.Alike q) (h : p.Moves m p') :
    ∃ q', q.Moves m q' ∧ p'.Alike q' := by
  obtain ⟨tables, workspace, requests⟩ := q
  obtain ⟨htables, rfl, rfl⟩ := halike
  cases h with
  | declared hdeclares =>
      obtain ⟨after, hafter, halike⟩ := htables.declares hdeclares
      exact ⟨_, .declared hafter, halike, rfl, rfl⟩
  | registered hregisters =>
      obtain ⟨after, hafter, halike⟩ := htables.registers hregisters
      exact ⟨_, .registered hafter, halike, rfl, rfl⟩
  | arrived hfree hcreates => exact ⟨_, .arrived hfree hcreates, htables, rfl, rfl⟩
  | @delivered i request event hwaiting =>
      have hroutine : Pipeline.routine ⟨tables, p.workspace, p.requests⟩ request event =
          p.routine request event := by
        rw [routine, routine, htables.registry, Request.deliver_congr htables.needs?]
      refine ⟨_, .delivered event hwaiting, htables, rfl, ?_⟩
      rw [hroutine]
      rfl
  | did hserving hadvances hstep =>
      exact ⟨_, .did hserving hadvances hstep, htables, rfl, rfl⟩
  | replied hserving => exact ⟨_, .replied hserving, htables, rfl, rfl⟩
  | left hwaiting hdrops => exact ⟨_, .left hwaiting hdrops, htables, rfl, rfl⟩
  | elsewhere workspace => exact ⟨_, .elsewhere workspace, htables, rfl, rfl⟩

theorem Alike.follows {p' : Pipeline app} (halike : p.Alike q) (h : Follows Moves record p p') :
    ∃ q', Follows Moves record q q' ∧ p'.Alike q' := by
  induction record generalizing p q with
  | nil =>
      rw [follows_nil.mp h]
      exact ⟨q, rfl, halike⟩
  | cons m record ih =>
      obtain ⟨u, hmove, hrest⟩ := h
      obtain ⟨v, hmove', halike⟩ := halike.moves hmove
      obtain ⟨q', hrest', halike⟩ := ih halike hrest
      exact ⟨q', ⟨v, hmove', hrest'⟩, halike⟩

/-- Two calls for distinct methods, one right after the other, may change places, and
everything goes on as before. -/
theorem swap_declared {a b : Announcement} {later : List (Move app)}
    (hne : a.declaration.method ≠ b.declaration.method)
    (h : Follows Moves (.declared a :: .declared b :: later) p q) :
    ∃ q', Follows Moves (.declared b :: .declared a :: later) p q' ∧ q.Alike q' := by
  obtain ⟨_, hfirst, u, hsecond, hlater⟩ := h
  cases hfirst with
  | declared hfirst =>
      cases hsecond with
      | @declared _ tables hsecond =>
          obtain ⟨between, after, hb, ha, halike⟩ := hfirst.swap hsecond hne
          have halike : Alike { p with tables } { p with tables := after } := ⟨halike, rfl, rfl⟩
          obtain ⟨q', hlater', halike⟩ := halike.follows hlater
          exact ⟨q', ⟨_, .declared hb, _, .declared ha, hlater'⟩, halike⟩

/-! ## Deliveries among other moves -/

/-- The move is one of request `i`. -/
def Move.Concerns (i : ℕ) : Move app → Prop
  | .arrived j | .delivered j _ | .did j _ | .replied j _ | .left j => j = i
  | .declared _ | .registered _ | .elsewhere => False

/-- The deed of request `i` that the move is. -/
def Move.deedOf? (i : ℕ) : Move app → Option (WorkDeed app)
  | .did j deed => if j = i then some deed else none
  | _ => none

/-- The deeds of request `i`, in order. -/
def doneBy (i : ℕ) (record : List (Move app)) : List (WorkDeed app) :=
  record.filterMap (Move.deedOf? i)

theorem deedOf?_of_not_concerns (hm : ¬ m.Concerns i) : m.deedOf? i = none := by
  cases m with
  | did j deed => exact if_neg hm
  | declared | registered | arrived | delivered | replied | left | elsewhere => rfl

theorem doneBy_cons_did {deed : WorkDeed app} :
    doneBy i (.did i deed :: record) = deed :: doneBy i record :=
  List.filterMap_cons_some (if_pos rfl)

theorem doneBy_of_not_concerns (h : ∀ m ∈ record, ¬ m.Concerns i) : doneBy i record = [] :=
  List.filterMap_eq_nil_iff.mpr fun m hm => deedOf?_of_not_concerns (h m hm)

/-- A move that is none of request `i` would be the same if this request had come to
something else. -/
theorem Moves.put (h : p.Moves m q) (hm : ¬ m.Concerns i) (x : Option (LiveRequest app)) :
    (p.put i p.workspace x).Moves m (q.put i q.workspace x) := by
  have hkept : ∀ {j : ℕ} {live : Option (LiveRequest app)}, j ≠ i → p.requests j = live →
      (p.put i p.workspace x).requests j = live := by
    intro j live hne hlive
    rw [requests_put_of_ne hne, hlive]
  have hput : ∀ {j : ℕ} {w : Workspace} {live : Option (LiveRequest app)}, j ≠ i →
      (p.put i p.workspace x).Moves m ((p.put i p.workspace x).put j w live) →
      (p.put i p.workspace x).Moves m ((p.put j w live).put i w x) := by
    intro j w live hne hmoves
    rwa [put_comm hne.symm] at hmoves
  cases h with
  | declared hdeclares => exact .declared hdeclares
  | registered hregisters => exact .registered hregisters
  | elsewhere workspace => exact .elsewhere workspace
  | arrived hfree hcreates => exact hput hm (.arrived (hkept hm hfree) hcreates)
  | delivered event hwaiting => exact hput hm (.delivered event (hkept hm hwaiting))
  | did hserving hadvances hstep => exact hput hm (.did (hkept hm hserving) hadvances hstep)
  | replied hserving => exact hput hm (.replied (hkept hm hserving))
  | left hwaiting hdrops => exact hput hm (.left (hkept hm hwaiting) hdrops)

theorem follows_put (h : Follows Moves record p q) (hnone : ∀ m ∈ record, ¬ m.Concerns i)
    (x : Option (LiveRequest app)) :
    Follows Moves record (p.put i p.workspace x) (q.put i q.workspace x) := by
  induction record generalizing p with
  | nil =>
      rw [follows_nil.mp h]
      rfl
  | cons m record ih =>
      obtain ⟨u, hmove, hrest⟩ := h
      obtain ⟨hm, hnone⟩ := List.forall_mem_cons.mp hnone
      exact ⟨_, hmove.put hm x, ih hrest hnone⟩

theorem Moves.requests_eq (h : p.Moves m q) (hm : ¬ m.Concerns i) :
    q.requests i = p.requests i := by
  cases h with
  | declared | registered | elsewhere => rfl
  | arrived | delivered | did | replied | left => exact requests_put_of_ne (Ne.symm hm)

/-- As long as there is no reply, a request that is served goes on with what is left to be
done, and has no other move. -/
theorem Moves.advances (h : p.Moves m q) (hserving : p.requests i = some (.serving request rest))
    (hm : m.Concerns i) (hreply : ∀ reply, m ≠ .replied i reply) :
    ∃ deed rest', m = .did i deed ∧ rest.Advances deed rest' ∧
      q.requests i = some (.serving request rest') := by
  cases h with
  | declared | registered | elsewhere => cases hm
  | arrived hfree =>
      obtain rfl := hm
      rw [hserving] at hfree
      cases hfree
  | delivered _ hwaiting =>
      obtain rfl := hm
      rw [hserving] at hwaiting
      cases hwaiting
  | left hwaiting =>
      obtain rfl := hm
      rw [hserving] at hwaiting
      cases hwaiting
  | replied =>
      obtain rfl := hm
      exact absurd rfl (hreply _)
  | did hserving' hadvances =>
      obtain rfl := hm
      rw [hserving] at hserving'
      cases hserving'
      exact ⟨_, _, rfl, hadvances, requests_put_self⟩

/-- Whatever else moves in between: until there is a reply, what a request does and what is
left to be done make up what there was to be done. -/
theorem serving_of_follows (hserving : p.requests i = some (.serving request rest))
    (h : Follows Moves record p q) (hreply : ∀ reply, .replied i reply ∉ record) :
    ∃ rest', q.requests i = some (.serving request rest') ∧
      Follows Task.Advances (doneBy i record) rest rest' := by
  induction record generalizing p rest with
  | nil =>
      rw [follows_nil.mp h]
      exact ⟨rest, hserving, rfl⟩
  | cons m record ih =>
      obtain ⟨u, hmove, hlater⟩ := h
      have hlast : ∀ reply, .replied i reply ∉ record :=
        fun reply hmem => hreply reply (List.mem_cons_of_mem m hmem)
      by_cases hm : m.Concerns i
      · have hhead : ∀ reply, m ≠ .replied i reply := by
          rintro reply rfl
          exact hreply reply List.mem_cons_self
        obtain ⟨deed, between, rfl, hadvances, hbetween⟩ := hmove.advances hserving hm hhead
        obtain ⟨rest', hrest', hfollows⟩ := ih hbetween hlater hlast
        refine ⟨rest', hrest', ?_⟩
        rw [doneBy_cons_did]
        exact ⟨between, hadvances, hfollows⟩
      · rw [← hmove.requests_eq hm] at hserving
        rw [doneBy, List.filterMap_cons_none (deedOf?_of_not_concerns hm)]
        exact ih hserving hlater hlast

/-- A request with nothing left to be done does nothing until it replies. -/
theorem not_concerns_of_done {result : Option (Except Failure Unit × Request)}
    (hserving : p.requests i = some (.serving request (.done result)))
    (h : Follows Moves record p q) (hreply : ∀ reply, .replied i reply ∉ record) :
    ∀ m ∈ record, ¬ m.Concerns i := by
  induction record generalizing p with
  | nil => exact fun _ hmem => nomatch hmem
  | cons m record ih =>
      obtain ⟨u, hmove, hlater⟩ := h
      have hm : ¬ m.Concerns i := by
        intro hm
        have hhead : ∀ reply, m ≠ .replied i reply := by
          rintro reply rfl
          exact hreply reply List.mem_cons_self
        obtain ⟨_, _, -, hadvances, -⟩ := hmove.advances hserving hm hhead
        cases hadvances
      rw [← hmove.requests_eq hm] at hserving
      exact List.forall_mem_cons.mpr ⟨hm, ih hserving hlater
        fun reply hmem => hreply reply (List.mem_cons_of_mem m hmem)⟩

/-- A request that is served does one deed after the other, if nobody else moves. -/
theorem follows_did {deeds : List (WorkDeed app)}
    {rest' : Work app (Option (Except Failure Unit × Request))}
    (hserving : p.requests i = some (.serving request rest))
    (hadvances : Follows Task.Advances deeds rest rest')
    (hleads : Workspace.Leads Eq deeds p.workspace w) :
    Follows Moves (deeds.map (.did i)) p (p.put i w (some (.serving request rest'))) := by
  induction deeds generalizing p rest with
  | nil =>
      rw [follows_nil.mp hadvances, follows_nil.mp hleads, ← hserving]
      exact put_self
  | cons deed deeds ih =>
      obtain ⟨between, hdeed, hadvances⟩ := hadvances
      obtain ⟨workspace, hstep, hleads⟩ := hleads
      have hrest := ih (p := p.put i workspace (some (.serving request between)))
        requests_put_self hadvances hleads
      rw [put_put] at hrest
      exact ⟨_, .did hserving hdeed hstep, hrest⟩

/-- A delivery during which nobody else moves. -/
theorem follows_delivered {event : RequestEvent} {deeds : List (WorkDeed app)}
    {result : Option (Except Failure Unit × Request)}
    (hwaiting : p.requests i = some (.waiting request))
    (htraces : (request.deliver p.tables.registry p.tables.declarations event : Work app _).Traces
      deeds result)
    (hleads : Workspace.Leads Eq deeds p.workspace w) :
    Follows Moves (.delivered i event :: deeds.map (.did i)) p
      (p.put i w (some (.serving request (.done result)))) := by
  have hdone := follows_did
    (p := p.put i p.workspace (some (.serving request (p.routine request event))))
    requests_put_self (Task.traces_iff_advances.mp htraces) hleads
  rw [put_put] at hdone
  exact ⟨_, .delivered event hwaiting, hdone⟩

/-! ## The start of a method among other moves -/

/-- What is left to be done when an event has been delivered. -/
theorem follows_of_delivered {event : RequestEvent}
    (hwaiting : p.requests i = some (.waiting request))
    (h : Follows Moves (.delivered i event :: record) p q) :
    Follows Moves record
      (p.put i p.workspace (some (.serving request (p.routine request event)))) q := by
  obtain ⟨_, hdelivered, hlater⟩ := h
  cases hdelivered with
  | delivered _ hwaiting' =>
      rw [hwaiting] at hwaiting'
      cases hwaiting'
      exact hlater

/-- The request starts the method as it is declared at this moment. -/
structure Starts (p : Pipeline app) (i : ℕ) (request : Request) (method : String) : Prop where
  /-- Without a declaration it does nothing, and has only to reply.  What others do until
  then leads to where it would have led without the start. -/
  undeclared : p.tables.needs? method = none → ∀ later t,
    Follows Moves (.delivered i (.methodStart method) :: later) p t →
      (∀ reply, .replied i reply ∉ later) → (∀ m ∈ later, ¬ m.Concerns i) ∧
        ∃ q, Follows Moves later p q ∧
          ∀ reply q', t.Moves (.replied i reply) q' ↔ reply = some (.ok ()) ∧ q' = q
  /-- With a declaration it does what the declaration says, whatever is declared later. -/
  declared : ∀ spec, p.tables.needs? method = some spec → ∀ later t,
    Follows Moves (.delivered i (.methodStart method) :: later) p t →
      (∀ reply, .replied i reply ∉ later) → ∀ reply q, t.Moves (.replied i reply) q →
        ∃ next, q.requests i = some (.waiting next) ∧
          request.StartsWith p.tables.registry spec (doneBy i later) reply next
  /-- It opens the unit of work if the factory hands out a handle and the handle does what
  it is asked. -/
  opens : ∀ spec factory handle, p.tables.needs? method = some spec →
    p.tables.registry.resolve spec.unit = .ok factory → ∃ replaced t q,
      Follows Moves (.delivered i (.methodStart method) ::
        (request.context.openingDeeds spec factory handle replaced).map (.did i)) p t ∧
      t.Moves (.replied i (some (.ok ()))) q ∧
      q.requests i = some (.waiting (request.working { spec, handle, factory }))

theorem starts_of_waiting (hwaiting : p.requests i = some (.waiting request)) :
    p.Starts i request method where
  undeclared hundeclared later t hlater hpending := by
    have hfollows := follows_of_delivered hwaiting hlater
    rw [routine, Request.deliver_of_undeclared hundeclared] at hfollows
    have hnone := not_concerns_of_done requests_put_self hfollows hpending
    have hback : ∀ x, (p.put i p.workspace x).put i p.workspace (some (.waiting request)) = p := by
      intro x
      rw [put_put, ← hwaiting, put_self]
    -- the moves of the others, if nothing had been delivered
    have hwithout := follows_put hfollows hnone (some (.waiting request))
    rw [workspace_put, hback] at hwithout
    obtain ⟨rest, hrest, hdone⟩ := serving_of_follows requests_put_self hfollows hpending
    rw [doneBy_of_not_concerns hnone] at hdone
    obtain rfl := follows_nil.mp hdone
    refine ⟨hnone, _, hwithout, fun reply q' => ⟨?_, ?_⟩⟩
    · intro hreply
      cases hreply with
      | replied hserving =>
          rw [hrest] at hserving
          cases hserving
          exact ⟨rfl, rfl⟩
    · rintro ⟨rfl, rfl⟩
      exact .replied hrest
  declared spec hdeclared later t hlater hpending reply q hreply := by
    have hfollows := follows_of_delivered hwaiting hlater
    obtain ⟨rest, hrest, hdone⟩ := serving_of_follows requests_put_self hfollows hpending
    cases hreply with
    | replied hrest' =>
        rw [hrest] at hrest'
        cases hrest'
        exact ⟨_, requests_put_self,
          Request.startsWith_of_traces hdeclared (Task.traces_iff_advances.mpr hdone)⟩
  opens spec factory handle hdeclared hresolved := by
    have hdone := follows_delivered hwaiting
      (Request.traces_opening ((p.workspace.context request.context).find? handle.factory)
        hdeclared hresolved)
      (Workspace.leads_openingDeeds p.workspace)
    exact ⟨_, _, _, hdone, .replied requests_put_self, requests_put_self⟩

/-! ## Declarations stand -/

/-- Whatever is declared in a pipeline, and whenever requests arrive: a call is refused if
it has two specifications, or one for a method that has its declaration; it adds what it
has otherwise.  The first accepted call for a method decides for ever.  Calls for distinct
methods may change places.  And a request that starts a method, whenever it has arrived,
opens a unit of work with just the specification that is declared at this moment, or does
nothing if there is none. -/
theorem declarations_stand {start : Pipeline app} (hstart : start.tables.declarations = {})
    (hrecord : Follows Moves record start p) :
    (∀ d reply tables, p.tables.Declares ⟨d, reply⟩ tables ↔
      ((d.Doubled ∨ (∃ spec, d.Offers spec) ∧ p.tables.needs? d.method ≠ none) ∧
        reply = .error (.conflictingDeclaration d.method) ∧ tables = p.tables) ∨
      (d.Blank ∧ reply = .ok () ∧ tables = p.tables) ∨
      ∃ spec, d.Offers spec ∧ p.tables.needs? d.method = none ∧ reply = .ok () ∧
        tables = p.tables.declaring d.method spec) ∧
    (∀ method spec, p.tables.needs? method = some spec ↔ FirstDeclared record method spec) ∧
    (∀ later q, Follows Moves later p q → ∀ method spec,
      p.tables.needs? method = some spec → q.tables.needs? method = some spec) ∧
    (∀ a b later q, a.declaration.method ≠ b.declaration.method →
      Follows Moves (.declared a :: .declared b :: later) p q →
        ∃ q', Follows Moves (.declared b :: .declared a :: later) p q' ∧ q.Alike q') ∧
    ∀ i request method, p.requests i = some (.waiting request) → p.Starts i request method := by
  refine ⟨?calls, ?first, ?ever, ?places, ?starts⟩
  case calls =>
    intro d reply tables
    exact Setup.Tables.declares_iff
  case first =>
    intro method spec
    have hnone : start.tables.needs? method = none := by
      rw [Setup.Tables.needs?, hstart]
      rfl
    rw [needs?_of_follows hrecord, hnone, and_iff_right rfl]
    exact or_iff_right nofun
  case ever =>
    intro later q hlater method spec hdeclared
    exact (needs?_of_follows hlater).mpr (Or.inl hdeclared)
  case places =>
    intro a b later q hne hcalls
    exact swap_declared hne hcalls
  case starts =>
    intro i request method hwaiting
    exact starts_of_waiting hwaiting

/-- A request arrives, and its method is declared after that. -/
def keepLate : List (Move noJobs) := [
  .arrived 0,
  .declared ⟨{ method := "keep", handler := some {} }, .ok ()⟩]

/-- The request starts the method.  Before anything is done, the method is declared again,
which is refused. -/
def keepAgain : List (Move noJobs) :=
  .delivered 0 (.methodStart "keep") ::
    .declared ⟨{ method := "keep", definition := some { readOnly := true } },
      .error (.conflictingDeclaration "keep")⟩ ::
    (defaultOpened 0 none).map (.did 0)

/-- The request works with the declaration that was not there when it arrived, and the
method keeps it. -/
theorem keep_declared_late :
    ∃ start p t q : Pipeline noJobs, start.tables.declarations = {} ∧
      Follows Moves keepLate start p ∧ Follows Moves keepAgain p t ∧
      t.Moves (.replied 0 (some (.ok ()))) q ∧ t.tables.needs? "keep" = some {} ∧
      ∃ next work, q.requests 0 = some (.waiting next) ∧
        next.demarcator.current = some work ∧ work.spec = {} := by
  let start : Pipeline noJobs := { tables := { registry := .lone ⟨0⟩ }, workspace := {} }
  let arrived := start.put 0 { opened := 1 } (some (.waiting { context := ⟨0⟩ }))
  let p := { arrived with tables := start.tables.declaring "keep" {} }
  have hlate : Follows Moves keepLate start p := by
    refine ⟨arrived, .arrived rfl ?_, p, .declared (Setup.Tables.declares_iff.mpr ?_), rfl⟩
    · exact ⟨[.did (.context .create) ⟨0⟩], .perform (.done _), _, rfl, rfl⟩
    · exact Or.inr (Or.inr ⟨{}, Or.inr ⟨rfl, rfl⟩, rfl, rfl, rfl⟩)
  obtain ⟨hcalls, -, hever, -, hstarts⟩ := declarations_stand rfl hlate
  have hdeclared : p.tables.needs? "keep" = some {} := by
    rw [Setup.Tables.needs?_declaring, if_pos rfl]
  have hrefused := (hcalls { method := "keep", definition := some { readOnly := true } } _ _).mpr
    (Or.inl ⟨Or.inr ⟨⟨_, Or.inl ⟨rfl, rfl⟩⟩, by simp [hdeclared]⟩, rfl, rfl⟩)
  have hwaiting : p.requests 0 = some (.waiting { context := ⟨0⟩ }) := by
    show arrived.requests 0 = _
    exact requests_put_self
  have htraces : (Request.deliver { context := ⟨0⟩ } p.tables.registry p.tables.declarations
      (.methodStart "keep")).Traces (defaultOpened 0 none) (some (.ok (), Request.keepRequest 0)) :=
    Request.traces_opening none hdeclared (Registry.resolve_lone _)
  have hdone : Follows Moves ((defaultOpened 0 none).map (.did 0))
      (p.put 0 p.workspace
        (some (.serving { context := ⟨0⟩ }
          (p.routine { context := ⟨0⟩ } (.methodStart "keep"))))) _ :=
    follows_did requests_put_self (Task.traces_iff_advances.mp htraces)
      (leads_defaultOpened.mpr ⟨rfl, rfl⟩)
  have hagain : Follows Moves keepAgain p _ :=
    ⟨_, .delivered _ hwaiting, _, .declared hrefused, hdone⟩
  obtain ⟨next, hnext, hstarted⟩ := (hstarts 0 _ "keep" hwaiting).declared {} hdeclared _ _ hagain
    (by simp) _ _ (.replied requests_put_self)
  refine ⟨start, p, _, _, rfl, hlate, hagain, .replied requests_put_self,
    hever _ _ hagain _ _ hdeclared, next, ?_⟩
  cases hstarted with
  | opened replaced hresolved => exact ⟨_, hnext, rfl, rfl⟩

end Pipeline

end Demarcation
