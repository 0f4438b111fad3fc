/-
Many calls and requests at once.

A `System` runs any number of processes on the same contexts and handles:
applications with the calls that they make, and requests with the events that are
delivered to them.  A process goes on until it waits, and then any process may go
on.  A reply may be any reply that the call has; a process that waits may be
dropped instead, and its cleanup runs then.  A call that may be dropped by itself
is a process of its own, also when it is made inside another or in the same
context.

In every state that a system reaches, a handle that is bound is bound under the
factory that it reports, in one context, and has not been closed.  So no operation
is forwarded to a handle that has been closed.  This rests on the applications,
which use contexts and handles through shared handles only, and on the factories,
which open new handles.
-/
import Demarcation.Proofs.Discipline
import Demarcation.Proofs.Invocation

namespace Demarcation

variable {app : Jobs} {α β : Type} {i j : Nat} {s t : Account}

/-! ## From one wait to the next -/

/-- The routine goes on until it waits or ends. -/
inductive Task.Settles : Work app α → Scene → Work app α → Scene → Prop where
  | done {value : α} {scene : Scene} : Settles (.done value) scene (.done value) scene
  | await {call : Work.Call app} {onDrop : Step Unit} {next : Work.Reply call → Work app α}
      {scene : Scene} : Settles (.await call onDrop next) scene (.await call onDrop next) scene
  | perform {command : Work.Command} {answer : Work.Answer command}
      {next : Work.Answer command → Work app α} {rest : Work app α} {before between after : Scene}
      (step : before.Step (.did command answer : WorkDeed app) between)
      (settles : Settles (next answer) between rest after) :
      Settles (.perform command next) before rest after

/-- Where a routine that abides has come to. -/
def Task.Rests (i : Nat) : Work app α → (α → Account → Prop) → Account → Prop
  | .done a, post, s => post a s
  | .perform .., _, _ => False
  | .await c onDrop next, post, s =>
    ∀ t : Account, t.Sound → s.ledger.Keeps (Fate.Owned i) t.ledger →
      Tidy app onDrop t ∧
      ∀ r scene, t.scene.Step (.heard c r : WorkDeed app) scene →
        (next r).Abides i post ⟨scene, t.ledger⟩

/-- The routine waits for a reply to this call. -/
def Task.Awaits (call : Work.Call app) : Work app α → Prop
  | .await c _ _ => c = call
  | _ => False

variable {x y : Work app α} {post : α → Account → Prop}

/-- A routine that abides leaves a sound account when it waits or ends, and the
call that it has made is admitted. -/
theorem Task.Abides.rests {before after : Scene} {ledger : Ledger}
    (hpost : ∀ a t, post a t → t.Sound) (hx : x.Abides i post ⟨before, ledger⟩)
    (hsettles : x.Settles before y after) :
    ∃ next, ledger.Keeps (Fate.Foreign i) next ∧ Account.Sound ⟨after, next⟩ ∧
      y.Rests i post ⟨after, next⟩ ∧ ∀ call, y.Awaits call → after.Admits call := by
  induction hsettles with
  | done =>
      obtain ⟨next, hkeeps, ha⟩ := hx
      exact ⟨next, hkeeps, hpost _ _ ha, ha, fun _ hcall => nomatch hcall⟩
  | await =>
      obtain ⟨next, hkeeps, hsound, hadmits, hrest⟩ := hx
      refine ⟨next, hkeeps, hsound, hrest, ?_⟩
      rintro _ rfl
      exact hadmits
  | perform hstep _ ih => exact ih (hx _ _ hstep)

/-- What others do makes no difference to a routine that waits or has ended. -/
theorem Task.Rests.stable (hpost : ∀ a, post a s → post a t) (hx : x.Rests i post s)
    (hkeeps : s.ledger.Keeps (Fate.Owned i) t.ledger) : x.Rests i post t := by
  cases x with
  | done a => exact hpost a hx
  | perform c next => exact hx
  | await c onDrop next =>
      intro u hu hlater
      exact hx u hu (hkeeps.trans hlater)

/-! ## Systems -/

/-- One of many things that go on. -/
inductive Process (app : Jobs) where
  /-- A routine.  When it ends or is dropped it may leave a request behind. -/
  | running (rest : Work app (Option Request)) (request : Option Request)
  /-- A request that nothing is delivered to at the moment. -/
  | waiting (request : Request)

/-- The processes, and what they share. -/
structure System (app : Jobs) where
  scene : Scene := {}
  processes : Nat → Option (Process app) := fun _ => none

namespace System

/-- The system after process `i` has gone on. -/
def put (s : System app) (i : Nat) (scene : Scene) (process : Option (Process app)) :
    System app :=
  { scene, processes := Function.update s.processes i process }

theorem processes_put_self (s : System app) (i : Nat) (scene : Scene)
    (process : Option (Process app)) : (s.put i scene process).processes i = process := by
  show Function.update s.processes i process i = process
  rw [Function.update_self]

theorem processes_put_of_ne (s : System app) {i j : Nat} (hne : i ≠ j) (scene : Scene)
    (process : Option (Process app)) :
    (s.put j scene process).processes i = s.processes i := by
  show Function.update s.processes j process i = s.processes i
  rw [Function.update_of_ne hne]

theorem put_put (s : System app) (i : Nat) (before after : Scene)
    (first second : Option (Process app)) :
    (s.put i before first).put i after second = s.put i after second := by
  show (⟨after, Function.update (Function.update s.processes i first) i second⟩ : System app) = _
  rw [Function.update_idem]
  rfl

/-- Process `i` waits for a reply to this call. -/
def Awaits (s : System app) (i : Nat) (call : Work.Call app) : Prop :=
  ∃ rest request, s.processes i = some (.running rest request) ∧ rest.Awaits call

/-- Process `i` goes on, or begins, or is dropped. -/
inductive Moves (s : System app) (i : Nat) : System app → Prop where
  /-- An application begins. -/
  | launch {program : Work app Unit} {rest : Work app (Option Request)} {scene : Scene}
      (free : s.processes i = none) (application : Application program)
      (settles : (program >>= fun _ => .done none).Settles s.scene rest scene) :
      Moves s i (s.put i scene (some (.running rest none)))
  /-- A request begins. -/
  | receive {rest : Work app (Option Request)} {scene : Scene} (free : s.processes i = none)
      (settles : (Task.ofAction Request.create >>= fun request => .done (some request)).Settles
        s.scene rest scene) :
      Moves s i (s.put i scene (some (.running rest none)))
  /-- An event is delivered to a request. -/
  | deliver {request : Request} {rest : Work app (Option Request)} {scene : Scene}
      (waiting : s.processes i = some (.waiting request)) (registry : Registry)
      (declarations : Declarations) (event : RequestEvent)
      (settles : (request.deliver registry declarations event >>= fun r =>
        .done (some r.2)).Settles s.scene rest scene) :
      Moves s i (s.put i scene (some (.running rest (some request))))
  /-- A call is replied to. -/
  | reply {call : Work.Call app} {onDrop : Step Unit}
      {next : Work.Reply call → Work app (Option Request)} {request : Option Request}
      {answer : Work.Reply call} {rest : Work app (Option Request)} {between scene : Scene}
      (running : s.processes i = some (.running (.await call onDrop next) request))
      (step : s.scene.Step (.heard call answer : WorkDeed app) between)
      (settles : (next answer).Settles between rest scene) :
      Moves s i (s.put i scene (some (.running rest request)))
  /-- A routine is dropped. -/
  | interrupt {call : Work.Call app} {onDrop : Step Unit}
      {next : Work.Reply call → Work app (Option Request)} {request : Option Request}
      {deeds : List (WorkDeed app)} {scene : Scene}
      (running : s.processes i = some (.running (.await call onDrop next) request))
      (cleanup : onDrop.Traces deeds ()) (follows : Follows Scene.Step deeds s.scene scene) :
      Moves s i (s.put i scene (request.map .waiting))
  /-- A routine has ended. -/
  | conclude {request : Option Request} {left : Option Request}
      (running : s.processes i = some (.running (.done left) request)) :
      Moves s i (s.put i s.scene (left.map .waiting))
  /-- A request is dropped. -/
  | drop {request : Request} {deeds : List (WorkDeed app)} {scene : Scene}
      (waiting : s.processes i = some (.waiting request)) (drops : request.drop.Traces deeds ())
      (follows : Follows Scene.Step deeds s.scene scene) :
      Moves s i (s.put i scene none)

/-- The states that a system may come to. -/
def Reachable (s : System app) : Prop :=
  Relation.ReflTransGen (fun before after : System app => ∃ i, before.Moves i after) {} s

end System

/-! ## What holds in every state -/

/-- A routine that ends leaves a sound account, and a request that never releases a
handle at once. -/
def Request.Left (left : Option Request) (s : Account) : Prop :=
  s.Sound ∧ ∀ request, left = some request → request.demarcator.mode = .deferred

/-- The process abides. -/
def Process.Orderly (i : Nat) (s : Account) : Process app → Prop
  | .running rest request =>
    rest.Rests i Request.Left s ∧
      ∀ request', request = some request' → request'.demarcator.mode = .deferred
  | .waiting request => request.demarcator.mode = .deferred

theorem Process.Orderly.stable {p : Process app} (hp : p.Orderly i s) (ht : t.Sound)
    (hkeeps : s.ledger.Keeps (Fate.Owned i) t.ledger) : p.Orderly i t := by
  cases p with
  | running rest request =>
      obtain ⟨hrests, hdeferred⟩ := hp
      exact ⟨hrests.stable (fun left hleft => ⟨ht, hleft.2⟩) hkeeps, hdeferred⟩
  | waiting request => exact hp

namespace System

/-- Some ledger is true to the scene, and every process abides by it. -/
def Orderly (s : System app) : Prop :=
  ∃ ledger, Account.Sound ⟨s.scene, ledger⟩ ∧
    ∀ i p, s.processes i = some p → p.Orderly i ⟨s.scene, ledger⟩

variable {s t : System app}

theorem orderly_init : ({} : System app).Orderly := by
  refine ⟨fun _ => none, ⟨?_, nofun, nofun, nofun⟩, nofun⟩
  intro cx f h hfound
  cases hfound

/-- When one process has gone on, all others are where they were. -/
theorem orderly_put {ledger after : Ledger} {scene : Scene} {process : Option (Process app)}
    (hs : ∀ i p, s.processes i = some p → p.Orderly i ⟨s.scene, ledger⟩)
    (hkeeps : ledger.Keeps (Fate.Foreign j) after) (hsound : Account.Sound ⟨scene, after⟩)
    (hprocess : ∀ p, process = some p → p.Orderly j ⟨scene, after⟩) :
    (s.put j scene process).Orderly := by
  refine ⟨after, hsound, ?_⟩
  intro i p hp
  by_cases hij : i = j
  · subst hij
    rw [processes_put_self] at hp
    exact hprocess p hp
  · rw [processes_put_of_ne s hij] at hp
    exact (hs i p hp).stable hsound (hkeeps.owned_of_foreign hij)

/-- A process that abides, and goes on until it waits. -/
theorem orderly_running {ledger : Ledger} {between scene : Scene}
    {x rest : Work app (Option Request)} {request : Option Request}
    (hs : ∀ i p, s.processes i = some p → p.Orderly i ⟨s.scene, ledger⟩)
    (hx : x.Abides j Request.Left ⟨between, ledger⟩) (hsettles : x.Settles between rest scene)
    (hrequest : ∀ request', request = some request' → request'.demarcator.mode = .deferred) :
    (s.put j scene (some (.running rest request))).Orderly ∧
      ∀ call, (s.put j scene (some (.running rest request))).Awaits j call → scene.Admits call := by
  obtain ⟨after, hkeeps, hsound, hrests, hadmits⟩ := hx.rests (fun _ _ hleft => hleft.1) hsettles
  constructor
  · refine orderly_put hs hkeeps hsound ?_
    rintro _ ⟨⟩
    exact ⟨hrests, hrequest⟩
  · rintro call ⟨rest', request', hprocess, hawaits⟩
    rw [processes_put_self] at hprocess
    cases hprocess
    exact hadmits call hawaits

/-- A process that leaves at most a request behind. -/
theorem orderly_leaving {ledger : Ledger} {scene : Scene} (left : Option Request)
    (hs : ∀ i p, s.processes i = some p → p.Orderly i ⟨s.scene, ledger⟩)
    (hsound : Account.Sound ⟨scene, ledger⟩)
    (hleft : ∀ request, left = some request → request.demarcator.mode = .deferred) :
    (s.put j scene (left.map .waiting)).Orderly ∧
      ∀ call, (s.put j scene (left.map .waiting)).Awaits j call → scene.Admits call := by
  constructor
  · refine orderly_put hs (.refl _) hsound ?_
    intro p hp
    obtain ⟨request, hrequest, rfl⟩ := Option.map_eq_some_iff.mp hp
    exact hleft request hrequest
  · rintro call ⟨rest, request, hprocess, -⟩
    rw [processes_put_self] at hprocess
    cases left <;> cases hprocess

/-- Every move leads from order to order, and the call that it ends in is admitted. -/
theorem Moves.orderly (hmove : s.Moves j t) (hs : s.Orderly) :
    t.Orderly ∧ ∀ call, t.Awaits j call → t.scene.Admits call := by
  obtain ⟨ledger, hsound, hprocesses⟩ := hs
  cases hmove with
  | launch free happlication hsettles =>
      refine orderly_running hprocesses (.bind (.mono (happlication.abides hsound) ?_))
        hsettles nofun
      intro _ u hu
      exact ⟨_, .refl _, hu, nofun⟩
  | receive free hsettles =>
      rw [Request.create, Task.ofAction_bind, Task.bind_assoc] at hsettles
      refine orderly_running hprocesses (ContextId.abides_create hsound ?_) hsettles nofun
      intro cx scene hscene
      refine ⟨_, .refl _, hscene, ?_⟩
      rintro _ ⟨⟩
      rfl
  | @deliver request _ _ hwaiting registry declarations event hsettles =>
      have hmode : request.demarcator.mode = .deferred := hprocesses j _ hwaiting
      refine orderly_running hprocesses (.bind (.mono (Request.abides_deliver hsound hmode) ?_))
        hsettles ?_
      · rintro r u ⟨hu, hdeferred⟩
        refine ⟨_, .refl _, hu, ?_⟩
        rintro _ ⟨⟩
        exact hdeferred
      · rintro _ ⟨⟩
        exact hmode
  | reply hrunning hstep hsettles =>
      obtain ⟨hrests, hrequest⟩ := hprocesses j _ hrunning
      obtain ⟨-, hnext⟩ := hrests ⟨s.scene, ledger⟩ hsound (.refl _)
      exact orderly_running hprocesses (hnext _ _ hstep) hsettles hrequest
  | interrupt hrunning hcleanup hfollows =>
      obtain ⟨hrests, hrequest⟩ := hprocesses j _ hrunning
      obtain ⟨htidy, -⟩ := hrests ⟨s.scene, ledger⟩ hsound (.refl _)
      exact orderly_leaving _ hprocesses (htidy _ _ hcleanup hfollows) hrequest
  | conclude hrunning =>
      obtain ⟨⟨-, hdeferred⟩, -⟩ := hprocesses j _ hrunning
      exact orderly_leaving _ hprocesses hsound hdeferred
  | drop hwaiting hdrops hfollows =>
      have hdropped := Request.sound_drop (s := ⟨s.scene, ledger⟩) hsound hdrops hfollows
      exact orderly_leaving none hprocesses hdropped nofun

/-- Every system that is reached is in order. -/
theorem Reachable.orderly (hreach : s.Reachable) : s.Orderly := by
  induction hreach with
  | refl => exact orderly_init
  | tail _ hmoves ih =>
      obtain ⟨i, hmove⟩ := hmoves
      exact (hmove.orderly ih).1

/-- Whatever is bound is bound under the factory that it reports, in one context,
and open.  And whenever a process goes on and ends in an operation, the handle of
that operation is bound and open. -/
theorem Reachable.bound_open (hreach : s.Reachable) :
    (∀ cx, (s.scene.workspace.context cx).Keyed) ∧
    (∀ cx h, (s.scene.workspace.context cx).Binds h → h ∉ s.scene.closed ∧
      ∀ other, (s.scene.workspace.context other).Binds h → other = cx) ∧
    ∀ i t, s.Moves i t → ∀ h operation, t.Awaits i (.execute h operation) →
      h ∉ t.scene.closed ∧ ∃ cx, (t.scene.workspace.context cx).Binds h := by
  obtain ⟨ledger, hsound, hprocesses⟩ := hreach.orderly
  refine ⟨hsound.keyed, ?_, ?_⟩
  · intro cx h hbinds
    obtain ⟨-, hplaced, hopen⟩ := hsound.bound hbinds
    refine ⟨hopen, ?_⟩
    intro other hother
    obtain ⟨-, hplaced', -⟩ := hsound.bound hother
    cases hplaced.symm.trans hplaced'
    rfl
  · intro i t hmove h operation hawaits
    obtain ⟨hbound, hopen⟩ := (hmove.orderly ⟨ledger, hsound, hprocesses⟩).2 _ hawaits
    exact ⟨hopen, hbound⟩

/-- An application that calls "keep", with a body that looks up a row. -/
def lookingUp : Work noJobs Unit :=
  Component.keeper.callIn (.lone ⟨0⟩) id ⟨0⟩ "keep" lookUp >>= fun _ => .done ()

/-- Its handle has been obtained. -/
def lookUpObtained : Scene := { obtained := [⟨0, ⟨0⟩⟩] }

/-- Its handle is bound. -/
def lookUpBound : Scene :=
  { lookUpObtained with workspace := ({} : Workspace).set ⟨0⟩ (Context.empty.bind ⟨0, ⟨0⟩⟩).2 }

/-- It waits for its handle to be obtained, configured, begun and used. -/
theorem settles_lookingUp :
    ∃ creating, (lookingUp >>= fun _ => .done (none : Option Request)).Settles {}
        (.await (.create ⟨0⟩) (.done ()) creating) {} ∧
      ∃ configuring, (creating (.ok ⟨0, ⟨0⟩⟩)).Settles lookUpObtained
        (.await (.configure ⟨0, ⟨0⟩⟩ {}) (.done ()) configuring) lookUpObtained ∧
      ∃ beginning, (configuring (.ok ())).Settles lookUpObtained
        (.await (.begin ⟨0, ⟨0⟩⟩) (.done ()) beginning) lookUpBound ∧
      ∃ executing, (beginning (.ok ())).Settles lookUpBound executing lookUpBound ∧
        executing.Awaits (.execute ⟨0, ⟨0⟩⟩ (.find ⟨"row", ⟨0⟩⟩)) := by
  have htold : ∀ (scene : Scene) (e : Event),
      scene.Step (.did (.emit e) () : WorkDeed noJobs) scene := fun _ _ => ⟨rfl, rfl, rfl, nofun⟩
  have hanswered : ∀ (scene : Scene) (command : ContextCommand),
      scene.Step (.did (.context command) (scene.workspace.perform command).1 : WorkDeed noJobs)
        { scene with workspace := (scene.workspace.perform command).2 } :=
    fun _ _ => ⟨rfl, rfl, rfl, nofun⟩
  refine ⟨?_, ?create, ?_, ?configure, ?_, ?begin, ?_, ?execute, ?_⟩
  case create =>
    rw [lookingUp, Component.callIn, Component.opening, Component.keeper_find?, Demarcator.start]
    simp only [Registry.resolve_lone]
    exact .await
  case configure => exact .await
  case begin =>
    refine .perform (hanswered _ _) ?_
    refine .perform (htold _ _) ?_
    exact (.await : Task.Settles _ lookUpBound _ lookUpBound)
  case execute =>
    refine .perform (htold _ _) ?_
    refine .perform (hanswered _ _) ?_
    exact (.await : Task.Settles _ lookUpBound _ lookUpBound)
  exact rfl

/-- One process that has come to this. -/
def alone (scene : Scene) (rest : Work noJobs (Option Request)) : System noJobs :=
  ({} : System noJobs).put 0 scene (some (.running rest none))

theorem alone_moves {call : Work.Call noJobs}
    {next : Work.Reply call → Work noJobs (Option Request)} {answer : Work.Reply call}
    {rest : Work noJobs (Option Request)} {before between after : Scene}
    (hstep : before.Step (.heard call answer : WorkDeed noJobs) between)
    (hsettles : (next answer).Settles between rest after) :
    (alone before (.await call (.done ()) next)).Moves 0 (alone after rest) := by
  have hmove := Moves.reply (s := alone before (.await call (.done ()) next))
    (processes_put_self _ 0 before _) hstep hsettles
  rwa [alone, put_put] at hmove

/-- Begun on its own, it comes to forward its operation to a handle that is open. -/
theorem lookingUp_forwards_to_open :
    ∃ s t : System noJobs, s.Reachable ∧ s.Moves 0 t ∧
      t.Awaits 0 (.execute ⟨0, ⟨0⟩⟩ (.find ⟨"row", ⟨0⟩⟩)) ∧
      ⟨0, ⟨0⟩⟩ ∉ t.scene.closed ∧ ∃ cx, (t.scene.workspace.context cx).Binds ⟨0, ⟨0⟩⟩ := by
  obtain ⟨creating, hcreate, configuring, hconfigure, beginning, hbegin, executing, hexecute,
    hawaits⟩ := settles_lookingUp
  have happlication : Application lookingUp :=
    .bind (.of_callIn _ _ _ _ (sharedOnly_lookUp () ⟨0⟩).application) fun _ => .done ()
  have hobtains : Scene.Step {} (.heard (.create ⟨0⟩) (.ok ⟨0, ⟨0⟩⟩) : WorkDeed noJobs)
      lookUpObtained := by
    refine ⟨rfl, rfl, rfl, ?_⟩
    rintro _ _ ⟨⟩
    exact ⟨rfl, List.not_mem_nil⟩
  have hconfigures : lookUpObtained.Step
      (.heard (.configure ⟨0, ⟨0⟩⟩ {}) (.ok ()) : WorkDeed noJobs) lookUpObtained :=
    ⟨rfl, rfl, rfl, nofun⟩
  have hbegins : lookUpBound.Step (.heard (.begin ⟨0, ⟨0⟩⟩) (.ok ()) : WorkDeed noJobs)
      lookUpBound :=
    ⟨rfl, rfl, rfl, nofun⟩
  have hlaunched : Moves {} 0 (alone {} _) := .launch rfl happlication hcreate
  have hbegun := alone_moves hbegins hexecute
  have hreach : (alone lookUpBound _).Reachable :=
    ((Relation.ReflTransGen.single ⟨0, hlaunched⟩).tail ⟨0, alone_moves hobtains hconfigure⟩).tail
      ⟨0, alone_moves hconfigures hbegin⟩
  have hforwards : (alone lookUpBound executing).Awaits 0
      (.execute ⟨0, ⟨0⟩⟩ (.find ⟨"row", ⟨0⟩⟩)) :=
    ⟨executing, none, processes_put_self _ _ _ _, hawaits⟩
  exact ⟨_, _, hreach, hbegun, hforwards, hreach.bound_open.2.2 0 _ hbegun _ _ hforwards⟩

end System

end Demarcation
