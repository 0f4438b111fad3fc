/-
The discipline of handles.

`Task.Abides` says of a routine that it leaves a sound account wherever it waits,
provided that the others do, and that the others leave the entries alone that it
owns: what is pending for it, and what is placed.  It says too that the routine
leaves theirs alone, and that it forwards operations only to handles that are bound
and open.

Every routine of a demarcator abides, and so do calls of components if their
methods do, requests whatever is delivered to them, and applications.
-/
import Demarcation.Proofs.Ledger

namespace Demarcation

variable {app : Jobs} {α β : Type}

/-! ## Routines that abide -/

section Abides

variable (i : Nat)

/-- The cleanup leaves a sound account. -/
def Tidy (app : Jobs) (cleanup : Step Unit) (s : Account) : Prop :=
  ∀ (ds : List (WorkDeed app)) scene, cleanup.Traces ds () →
    Follows Scene.Step ds s.scene scene → Account.Sound ⟨scene, s.ledger⟩

/-- Run by process `i`, the routine leaves a sound account wherever it waits, and
only forwards operations that the scene admits, provided that whenever it goes on
it finds a sound account again with the entries that it owns.  It ends as `post`
says.  The ledger is brought up to date where the routine waits or ends. -/
def Task.Abides : Work app α → (α → Account → Prop) → Account → Prop
  | .done a, post, s =>
    ∃ ledger, s.ledger.Keeps (Fate.Foreign i) ledger ∧ post a ⟨s.scene, ledger⟩
  | .perform c next, post, s =>
    ∀ r scene, s.scene.Step (.did c r : WorkDeed app) scene →
      (next r).Abides post ⟨scene, s.ledger⟩
  | .await c onDrop next, post, s =>
    ∃ ledger, s.ledger.Keeps (Fate.Foreign i) ledger ∧ Account.Sound ⟨s.scene, ledger⟩ ∧
      s.scene.Admits c ∧
      ∀ t : Account, t.Sound → ledger.Keeps (Fate.Owned i) t.ledger →
        Tidy app onDrop t ∧
        ∀ r scene, t.scene.Step (.heard c r : WorkDeed app) scene →
          (next r).Abides post ⟨scene, t.ledger⟩

variable {i : Nat} {s : Account} {cleanup : Step Unit} {x : Work app α} {f : α → Work app β}
  {post : α → Account → Prop} {last : β → Account → Prop}

theorem tidy_done (hs : s.Sound) : Tidy app (.done ()) s := by
  intro ds scene htraces hfollows
  obtain ⟨rfl, -⟩ := Action.traces_done.mp htraces
  rw [follows_nil.mp hfollows]
  exact hs

namespace Task.Abides

/-- The ledger may be brought up to date at any time. -/
theorem update {ledger : Ledger} (hkeeps : s.ledger.Keeps (Fate.Foreign i) ledger)
    (hx : x.Abides i post ⟨s.scene, ledger⟩) : x.Abides i post s := by
  induction x generalizing s ledger with
  | done a =>
      obtain ⟨next, hnext, hpost⟩ := hx
      exact ⟨next, hkeeps.trans hnext, hpost⟩
  | perform c next ih =>
      intro r scene hstep
      exact ih r (s := ⟨scene, s.ledger⟩) hkeeps (hx r scene hstep)
  | await c onDrop next _ =>
      obtain ⟨last, hlast, hrest⟩ := hx
      exact ⟨last, hkeeps.trans hlast, hrest⟩

theorem mono {weaker : α → Account → Prop} (hx : x.Abides i post s)
    (hpost : ∀ a t, post a t → weaker a t) : x.Abides i weaker s := by
  induction x generalizing s with
  | done a =>
      obtain ⟨ledger, hkeeps, ha⟩ := hx
      exact ⟨ledger, hkeeps, hpost a _ ha⟩
  | perform c next ih =>
      intro r scene hstep
      exact ih r (hx r scene hstep)
  | await c onDrop next ih =>
      obtain ⟨ledger, hkeeps, hsound, hadmits, hrest⟩ := hx
      refine ⟨ledger, hkeeps, hsound, hadmits, ?_⟩
      intro t ht howned
      obtain ⟨htidy, hnext⟩ := hrest t ht howned
      exact ⟨htidy, fun r scene hstep => ih r (hnext r scene hstep)⟩

/-- A sequence abides if its second part does wherever the first one ends. -/
theorem bind (hx : x.Abides i (fun a t => (f a).Abides i last t) s) :
    (x >>= f).Abides i last s := by
  induction x generalizing s with
  | done a =>
      obtain ⟨ledger, hkeeps, ha⟩ := hx
      exact update hkeeps ha
  | perform c next ih =>
      intro r scene hstep
      exact ih r (hx r scene hstep)
  | await c onDrop next ih =>
      obtain ⟨ledger, hkeeps, hsound, hadmits, hrest⟩ := hx
      refine ⟨ledger, hkeeps, hsound, hadmits, ?_⟩
      intro t ht howned
      obtain ⟨htidy, hnext⟩ := hrest t ht howned
      exact ⟨htidy, fun r scene hstep => ih r (hnext r scene hstep)⟩

/-- What is placed stays placed. -/
theorem remember (hx : x.Abides i post s) :
    x.Abides i (fun a t => post a t ∧ s.ledger.Keeps Fate.Settled t.ledger) s := by
  suffices h : ∀ before : Ledger, before.Keeps Fate.Settled s.ledger →
      x.Abides i (fun a t => post a t ∧ before.Keeps Fate.Settled t.ledger) s from
    h s.ledger (.refl _)
  intro before hbefore
  induction x generalizing s with
  | done a =>
      obtain ⟨ledger, hkeeps, ha⟩ := hx
      exact ⟨ledger, hkeeps, ha, hbefore.trans hkeeps.settled_of_foreign⟩
  | perform c next ih =>
      intro r scene hstep
      exact ih r (hx r scene hstep) hbefore
  | await c onDrop next ih =>
      obtain ⟨ledger, hkeeps, hsound, hadmits, hrest⟩ := hx
      refine ⟨ledger, hkeeps, hsound, hadmits, ?_⟩
      intro t ht howned
      obtain ⟨htidy, hnext⟩ := hrest t ht howned
      refine ⟨htidy, fun r scene hstep => ih r (hnext r scene hstep) ?_⟩
      exact hbefore.trans (hkeeps.settled_of_foreign.trans howned.settled_of_owned)

/-- A cleanup that is tidy as long as what is placed stays placed may be owed
wherever the routine waits. -/
theorem guarded (hx : x.Abides i post s)
    (hcleanup : ∀ t : Account, t.Sound → s.ledger.Keeps Fate.Settled t.ledger →
      Tidy app cleanup t) : (x.guarded cleanup).Abides i post s := by
  induction x generalizing s with
  | done a => exact hx
  | perform c next ih =>
      intro r scene hstep
      exact ih r (hx r scene hstep) hcleanup
  | await c onDrop next ih =>
      obtain ⟨ledger, hkeeps, hsound, hadmits, hrest⟩ := hx
      refine ⟨ledger, hkeeps, hsound, hadmits, ?_⟩
      intro t ht howned
      obtain ⟨htidy, hnext⟩ := hrest t ht howned
      have hsettled : s.ledger.Keeps Fate.Settled t.ledger :=
        hkeeps.settled_of_foreign.trans howned.settled_of_owned
      constructor
      · intro ds scene htraces hfollows
        obtain ⟨_, first, rest, rfl, hfirst, hrest⟩ := Action.traces_bind.mp htraces
        obtain ⟨between, hbefore, hafter⟩ := follows_append.mp hfollows
        have hbetween := htidy first between hfirst hbefore
        exact hcleanup ⟨between, t.ledger⟩ hbetween hsettled rest scene hrest hafter
      · intro r scene hstep
        refine ih r (hnext r scene hstep) ?_
        intro u hu hlater
        exact hcleanup u hu (hsettled.trans hlater)

/-- An action abides if what it leads to does. -/
theorem ofAction_bind {y : Step α} (hy : ∀ (ds : List (WorkDeed app)) a scene, y.Traces ds a →
    Follows Scene.Step ds s.scene scene → (f a).Abides i last ⟨scene, s.ledger⟩) :
    (Task.ofAction y >>= f).Abides i last s := by
  induction y generalizing s with
  | done a => exact hy [] a s.scene (.done a) rfl
  | perform c next ih =>
      intro r scene hstep
      refine ih r ?_
      intro ds a final htraces hfollows
      exact hy _ a final (.perform htraces) ⟨scene, hstep, hfollows⟩

/-- Telling of something, and going on. -/
theorem emit {e : Event} {f : Unit → Work app β} (hf : (f ()).Abides i last s) :
    (Task.ofAction (Demarcation.emit e) >>= f).Abides i last s := by
  refine ofAction_bind ?_
  intro ds _ scene htraces hfollows
  obtain rfl := traces_emit.mp htraces
  rw [Scene.eq_of_neutral (by simp [WorkDeed.Neutral]) hfollows]
  exact hf

/-- Waiting for anything but a new handle. -/
theorem await {c : Work.Call app} {next : Work.Reply c → Work app α} (hs : s.Sound)
    (hadmits : s.scene.Admits c) (hc : ∀ r, WorkDeed.Neutral (.heard c r : WorkDeed app))
    (hnext : ∀ r (t : Account), t.Sound → s.ledger.Keeps (Fate.Owned i) t.ledger →
      (next r).Abides i post t) : (Task.await c (.done ()) next).Abides i post s := by
  refine ⟨s.ledger, .refl _, hs, hadmits, ?_⟩
  intro t ht howned
  refine ⟨tidy_done ht, ?_⟩
  intro r scene hstep
  rw [hstep.eq_of_neutral (hc r)]
  exact hnext r t ht howned

end Task.Abides

/-! ## The routines of a demarcator -/

section Demarcators

variable {cx : ContextId} {spec : WorkSpec} {h : Handle} {work : OpenUnit}
  {demarcator : Demarcator} {registry : Registry} {spec? : Option WorkSpec}

/-- A handle that is entered is placed, whether it could be bound or not. -/
theorem OpenUnit.abides_enter (hs : s.Sound) (hentry : s.ledger h = some (.pending i)) :
    (OpenUnit.enter cx spec h : Work app (Except Failure Unit)).Abides i
      (fun _ t => t.Sound ∧ t.ledger h = some (.placed cx)) s := by
  refine .await hs trivial (fun _ => trivial) ?_
  rintro (failure | ⟨⟩) t ht howned
  · obtain ⟨hkeeps, hplaced⟩ := ht.place (howned h _ hentry rfl) cx
    exact ⟨_, hkeeps, hplaced, Ledger.put_self⟩
  · obtain ⟨hkeeps, hplaced⟩ := ht.place (howned h _ hentry rfl) cx
    refine .update hkeeps (.ofAction_bind ?_)
    intro ds replaced scene htraces hfollows
    obtain rfl := ContextId.traces_bind.mp htraces
    have hbound := hplaced.bind Ledger.put_self (ht.pending (howned h _ hentry rfl)) hfollows
    cases spec.transactional with
    | false => exact ⟨_, .refl _, hbound, Ledger.put_self⟩
    | true =>
        refine .await hbound trivial (fun _ => trivial) ?_
        intro reply u hu hlater
        exact ⟨_, .refl _, hu, hlater h _ Ledger.put_self trivial⟩

/-- The handle of the unit of work in progress, if there is one, is placed in the
context. -/
def Demarcator.Knows (demarcator : Demarcator) (cx : ContextId) (ledger : Ledger) : Prop :=
  ∀ work, demarcator.current = some work →
    ledger work.handle = some (.placed cx) ∧ work.handle.factory = work.factory

theorem Demarcator.Knows.keeps {l m : Ledger} (hknows : demarcator.Knows cx l)
    (hkeeps : l.Keeps Fate.Settled m) : demarcator.Knows cx m := by
  intro work hcur
  obtain ⟨hplaced, hfactory⟩ := hknows work hcur
  exact ⟨hkeeps _ _ hplaced trivial, hfactory⟩

theorem Demarcator.abides_start (hs : s.Sound) :
    (demarcator.start registry cx spec? : Work app (Except Failure Demarcator)).Abides i
      (fun r t => t.Sound ∧ ∀ next, r = .ok next → next.mode = demarcator.mode ∧
        (demarcator.Knows cx t.ledger → next.Knows cx t.ledger)) s := by
  cases spec? with
  | none =>
      refine ⟨_, .refl _, hs, ?_⟩
      rintro _ ⟨⟩
      exact ⟨rfl, id⟩
  | some spec =>
      cases hres : registry.resolve spec.unit with
      | error failure =>
          rw [start]
          simp only [hres]
          refine ⟨_, .refl _, hs, ?_⟩
          rintro _ ⟨⟩
      | ok factory =>
          rw [start]
          simp only [hres]
          refine ⟨_, .refl _, hs, trivial, ?_⟩
          intro t ht howned
          refine ⟨tidy_done ht, ?_⟩
          rintro (failure | handle) scene hstep
          · rw [hstep.eq_of_idle rfl rfl hstep.workspace.symm]
            refine ⟨_, .refl _, ht, ?_⟩
            rintro _ ⟨⟩
          · obtain ⟨hfactory, hkeeps, hobtained⟩ := ht.obtain (i := i) hstep
            refine .update hkeeps (.bind (x := OpenUnit.enter cx spec handle)
              (.mono (OpenUnit.abides_enter hobtained Ledger.put_self) ?_))
            rintro (failure | ⟨⟩) u ⟨hu, hplaced⟩
            · -- closing and unbinding are one release
              refine .ofAction_bind ?_
              intro ds _ between hclose hbefore
              refine .ofAction_bind ?_
              intro es removed after hunbind hafter
              obtain rfl := Handle.traces_close.mp hclose
              obtain rfl := ContextId.traces_unbind.mp hunbind
              rw [← hfactory] at hafter
              have hreleased := hu.release hplaced (follows_append.mpr ⟨_, hbefore, hafter⟩)
              refine ⟨_, .refl _, hreleased, ?_⟩
              rintro _ ⟨⟩
            · refine .emit ⟨_, .refl _, hu, ?_⟩
              rintro _ ⟨⟩
              refine ⟨rfl, fun _ => ?_⟩
              rintro work ⟨⟩
              exact ⟨hplaced, hfactory⟩

theorem OpenUnit.abides_owesEnd {f : Bool → Work app α} (hf : ∀ owed, (f owed).Abides i post s) :
    (Task.ofAction work.owesEnd >>= f).Abides i post s := by
  refine .ofAction_bind ?_
  intro ds owed scene htraces hfollows
  rw [Scene.eq_of_neutral (OpenUnit.traces_owesEnd.mp htraces).neutral hfollows]
  exact hf owed

theorem OpenUnit.abides_commit (hs : s.Sound) :
    (work.commit : Work app (Except Failure Unit)).Abides i (fun _ t => t.Sound) s := by
  refine abides_owesEnd ?_
  rintro (_ | _)
  · exact ⟨_, .refl _, hs⟩
  · refine .await hs trivial (fun _ => trivial) ?_
    rintro (failure | ⟨⟩) t ht -
    · exact ⟨_, .refl _, ht⟩
    · exact .emit ⟨_, .refl _, ht⟩

theorem OpenUnit.abides_rollback (hs : s.Sound) :
    (work.rollback : Work app Unit).Abides i (fun _ t => t.Sound) s := by
  refine abides_owesEnd ?_
  rintro (_ | _)
  · exact ⟨_, .refl _, hs⟩
  · refine .await hs trivial (fun _ => trivial) ?_
    rintro (failure | ⟨⟩) t ht -
    · exact .emit (f := .done) ⟨_, .refl _, ht⟩
    · exact .emit (f := .done) ⟨_, .refl _, ht⟩

/-- Finishing closes the handle only where it is released at once. -/
theorem Demarcator.abides_finish {f : Unit → Work app α} (hs : s.Sound)
    (hcur : demarcator.current = some work)
    (hknows : demarcator.mode = .immediate → demarcator.Knows cx s.ledger)
    (hf : ∀ scene, Account.Sound ⟨scene, s.ledger⟩ → (f ()).Abides i post ⟨scene, s.ledger⟩) :
    (Task.ofAction (demarcator.finish cx work) >>= f).Abides i post s := by
  refine .ofAction_bind ?_
  intro ds _ scene htraces hfollows
  refine hf scene ?_
  cases traces_finish.mp htraces with
  | immediate hmode removed =>
      obtain ⟨hplaced, hfactory⟩ := hknows hmode work hcur
      exact hs.releaseDeeds hplaced hfactory hfollows
  | deferred =>
      rw [follows_nil.mp hfollows]
      exact hs

theorem Demarcator.abides_complete (hs : s.Sound)
    (hknows : demarcator.mode = .immediate → demarcator.Knows cx s.ledger) :
    (demarcator.complete cx : Work app (Except Failure Unit × Demarcator)).Abides i
      (fun r t => t.Sound ∧ r.2.mode = demarcator.mode) s := by
  rw [complete]
  cases hcur : demarcator.current with
  | none => exact ⟨_, .refl _, hs, rfl⟩
  | some work =>
      refine .bind (.mono (.remember (OpenUnit.abides_commit hs)) ?_)
      rintro (failure | ⟨⟩) t ⟨ht, hkeeps⟩
      · refine .emit (.bind (.mono (.remember (OpenUnit.abides_rollback ht)) ?_))
        rintro ⟨⟩ u ⟨hu, hlater⟩
        refine abides_finish hu hcur (fun hmode => (hknows hmode).keeps (hkeeps.trans hlater)) ?_
        intro scene hscene
        exact ⟨_, .refl _, hscene, rfl⟩
      · refine abides_finish ht hcur (fun hmode => (hknows hmode).keeps hkeeps) ?_
        intro scene hscene
        exact ⟨_, .refl _, hscene, rfl⟩

theorem Demarcator.abides_fail (hs : s.Sound)
    (hknows : demarcator.mode = .immediate → demarcator.Knows cx s.ledger) :
    (demarcator.fail cx : Work app Demarcator).Abides i
      (fun next t => t.Sound ∧ next.mode = demarcator.mode) s := by
  rw [fail]
  cases hcur : demarcator.current with
  | none => exact ⟨_, .refl _, hs, rfl⟩
  | some work =>
      refine .bind (.mono (.remember (OpenUnit.abides_rollback hs)) ?_)
      rintro ⟨⟩ t ⟨ht, hkeeps⟩
      refine abides_finish ht hcur (fun hmode => (hknows hmode).keeps hkeeps) ?_
      intro scene hscene
      exact ⟨_, .refl _, hscene, rfl⟩

theorem Demarcator.tidy_releaseAbandoned (hs : s.Sound) (hknows : demarcator.Knows cx s.ledger) :
    Tidy app (demarcator.releaseAbandoned cx) s := by
  intro ds scene htraces hfollows
  cases hcur : demarcator.current with
  | none =>
      rw [releaseAbandoned, hcur] at htraces
      exact tidy_done hs ds scene htraces hfollows
  | some work =>
      obtain ⟨removed, rfl⟩ := (traces_releaseAbandoned hcur).mp htraces
      obtain ⟨between, htold, hrelease⟩ := hfollows
      obtain rfl : between = s.scene := htold.eq_of_neutral trivial
      obtain ⟨hplaced, hfactory⟩ := hknows work hcur
      exact hs.releaseDeeds hplaced hfactory hrelease

end Demarcators

/-! ## Calls and applications -/

/-- A call abides if its method does. -/
theorem Component.abides_callIn {τ ε ρ : Type} {component : Component τ} {registry : Registry}
    {ofFailure : Failure → ε} {cx : ContextId} {method : String}
    {call : τ → ContextId → Work app (Except ε ρ)} (hs : s.Sound)
    (hbody : ∀ t : Account, t.Sound →
      (call component.target cx).Abides i (fun _ u => u.Sound) t) :
    (component.callIn registry ofFailure cx method call).Abides i (fun _ t => t.Sound) s := by
  refine .bind (.mono (Demarcator.abides_start hs) ?_)
  rintro (failure | demarcator) t ⟨ht, hstarted⟩
  · exact ⟨_, .refl _, ht⟩
  · obtain ⟨-, hknows⟩ := hstarted demarcator rfl
    have hknown : demarcator.Knows cx t.ledger := hknows nofun
    refine .guarded (.bind (.mono (.remember (hbody t ht)) ?_)) ?_
    · rintro outcome u ⟨hu, hkeeps⟩
      have hstill : demarcator.Knows cx u.ledger := hknown.keeps hkeeps
      cases outcome with
      | error e =>
          refine .bind (.mono (Demarcator.abides_fail hu fun _ => hstill) ?_)
          rintro next v ⟨hv, -⟩
          exact ⟨_, .refl _, hv⟩
      | ok value =>
          refine .bind (.mono (Demarcator.abides_complete hu fun _ => hstill) ?_)
          rintro ⟨_ | _, next⟩ v ⟨hv, -⟩
          · exact ⟨_, .refl _, hv⟩
          · exact ⟨_, .refl _, hv⟩
    · intro u hu hkeeps
      exact Demarcator.tidy_releaseAbandoned hu (hknown.keeps hkeeps)

theorem Task.Abides.of_reads {y : Step α} {f : α → Work app β} (hy : y.Reads)
    (hf : ∀ a, (f a).Abides i last s) : (Task.ofAction y >>= f).Abides i last s := by
  refine .ofAction_bind ?_
  intro ds a scene htraces hfollows
  rw [Scene.eq_of_reads hy htraces hfollows]
  exact hf a

/-- What is looked up is bound at that moment. -/
theorem ContextId.find?_of_current {cx : ContextId} {factory : FactoryId} {h : Handle}
    {ds : List (WorkDeed app)} {scene : Scene} (htraces : (cx.current factory).Traces ds (.ok h))
    (hfollows : Follows Scene.Step ds s.scene scene) :
    (s.scene.workspace.context cx).find? factory = some h := by
  obtain ⟨found, rest, rfl, hrest⟩ := Action.traces_perform.mp htraces
  obtain ⟨between, hstep, -⟩ := hfollows
  obtain ⟨hfound, -⟩ := Prod.mk.inj hstep.workspace
  cases found with
  | none => cases (Action.traces_done.mp hrest).2
  | some x =>
      cases (Action.traces_done.mp hrest).2
      exact hfound

/-- A shared handle forwards an operation to what it finds bound at that moment. -/
theorem SharedHandle.abides_invoke {shared : SharedHandle} {cx : ContextId}
    {operation : Operation} (hs : s.Sound) :
    (shared.invoke cx operation : Work app (Except Failure Outcome)).Abides i
      (fun _ t => t.Sound) s := by
  refine .ofAction_bind ?_
  intro ds reply scene htraces hfollows
  have hsame : scene = s.scene :=
    Scene.eq_of_reads (ContextId.reads_current shared.factory) htraces hfollows
  subst hsame
  cases reply with
  | error failure => exact ⟨_, .refl _, hs⟩
  | ok h =>
      have hfound := ContextId.find?_of_current htraces hfollows
      obtain ⟨hfactory, -, hopen⟩ := hs.bound hfound
      have hadmits : s.scene.Admits (.execute h operation : Work.Call app) := by
        refine ⟨⟨cx, ?_⟩, hopen⟩
        rw [Context.Binds, hfactory]
        exact hfound
      have hexecute : (h.execute operation : Work app _).Abides i (fun _ t => t.Sound) s :=
        .await hs hadmits (fun _ => trivial) fun _ t ht _ => ⟨_, .refl _, ht⟩
      dsimp only
      cases operation.kind with
      | read => exact hexecute
      | mutating =>
          refine .of_reads (y := h.transactionActive) ⟨trivial, fun _ => trivial⟩ ?_
          rintro (_ | _)
          · exact ⟨_, .refl _, hs⟩
          · exact hexecute

theorem SharedOnly.abides {cx : ContextId} (hx : SharedOnly cx x) (hs : s.Sound) :
    x.Abides i (fun _ t => t.Sound) s := by
  induction hx generalizing s with
  | done a => exact ⟨_, .refl _, hs⟩
  | invoke shared operation _ ih =>
      exact .bind (.mono (SharedHandle.abides_invoke hs) fun reply t ht => ih reply ht)
  | unwrap shared target _ ih =>
      exact .of_reads (shared.reads_unwrap target) fun reply => ih reply hs
  | close shared _ ih => exact .of_reads shared.reads_close fun reply => ih reply hs
  | job job _ ih =>
      exact .await hs trivial (fun _ => trivial) fun result t ht _ => ih result ht

/-- Creating a context changes none. -/
theorem ContextId.abides_create {f : ContextId → Work app β} (hs : s.Sound)
    (hf : ∀ cx scene, Account.Sound ⟨scene, s.ledger⟩ → (f cx).Abides i last ⟨scene, s.ledger⟩) :
    (Task.ofAction ContextId.create >>= f).Abides i last s := by
  intro cx scene hstep
  refine hf cx scene ?_
  have hobtained : scene.obtained = s.scene.obtained := hstep.obtained
  have hclosed : scene.closed = s.scene.closed := hstep.closed
  have hworkspace : scene.workspace =
      { s.scene.workspace with opened := s.scene.workspace.opened + 1 } :=
    (Prod.mk.inj hstep.workspace).2.symm
  refine hs.shrink hobtained ?_ ?_
  · intro cx' f x hfound
    have hbefore : (s.scene.workspace.context cx').find? f = some x := by
      rw [hworkspace] at hfound
      exact hfound
    exact ⟨hbefore, hclosed ▸ (hs.bound hbefore).2.2⟩
  · intro x hx
    exact Or.inl (hclosed ▸ hx)

/-- Applications abide. -/
theorem Application.abides (hx : Application x) (hs : s.Sound) :
    x.Abides i (fun _ t => t.Sound) s := by
  induction hx generalizing s with
  | done a => exact ⟨_, .refl _, hs⟩
  | shared huses _ ih =>
      exact .bind (.mono (huses.abides hs) fun value t ht => ih value ht)
  | create _ ih => exact ContextId.abides_create hs fun cx scene hscene => ih cx hscene
  | callIn component registry ofFailure cx method _ _ ihbody ih =>
      refine .bind (.mono (Component.abides_callIn hs fun t ht => ihbody ht) ?_)
      intro result t ht
      exact ih result ht

/-! ## Requests -/

namespace Request

variable {request : Request} {registry : Registry} {declarations : Declarations}
  {event : RequestEvent}

theorem sound_finish {next : Request} {ds : List (WorkDeed app)} {scene : Scene} (hs : s.Sound)
    (htraces : request.finish.Traces ds next) (hfollows : Follows Scene.Step ds s.scene scene) :
    Account.Sound ⟨scene, s.ledger⟩ := by
  obtain ⟨-, first, found, hneutral, rfl⟩ := finishes_of_traces htraces
  obtain ⟨between, hfirst, hempty⟩ := follows_append.mp hfollows
  obtain rfl := Scene.eq_of_neutral hneutral hfirst
  exact hs.emptyDeeds hempty

/-- A request abides, whatever is delivered to it, since it never releases a handle
at once. -/
theorem abides_deliver (hs : s.Sound) (hmode : request.demarcator.mode = .deferred) :
    (request.deliver registry declarations event : Work app _).Abides i
      (fun r t => t.Sound ∧ r.2.demarcator.mode = .deferred) s := by
  have hnever : request.demarcator.mode = .immediate →
      request.demarcator.Knows request.context s.ledger := by
    intro himmediate
    rw [hmode] at himmediate
    cases himmediate
  cases event with
  | methodStart method =>
      refine .bind (.mono (Demarcator.abides_start hs) ?_)
      rintro (failure | demarcator) t ⟨ht, hstarted⟩
      · exact ⟨_, .refl _, ht, hmode⟩
      · exact ⟨_, .refl _, ht, (hstarted demarcator rfl).1.trans hmode⟩
  | responseFiltersStart =>
      refine .bind (.mono (Demarcator.abides_complete hs hnever) ?_)
      rintro ⟨_ | _, demarcator⟩ t ⟨ht, hsame⟩
      · exact ⟨_, .refl _, ht, hsame.trans hmode⟩
      · exact ⟨_, .refl _, ht, hsame.trans hmode⟩
  | exception =>
      refine .bind (.mono (Demarcator.abides_fail hs hnever) ?_)
      rintro demarcator t ⟨ht, hsame⟩
      exact ⟨_, .refl _, ht, hsame.trans hmode⟩
  | finished =>
      refine .ofAction_bind ?_
      intro ds next scene htraces hfollows
      obtain ⟨rfl, -⟩ := finishes_of_traces htraces
      exact ⟨_, .refl _, sound_finish (s := s) hs htraces hfollows, hmode⟩

theorem sound_drop {ds : List (WorkDeed app)} {scene : Scene} (hs : s.Sound)
    (htraces : request.drop.Traces ds ()) (hfollows : Follows Scene.Step ds s.scene scene) :
    Account.Sound ⟨scene, s.ledger⟩ := by
  cases drops_of_traces htraces with
  | finished =>
      rw [follows_nil.mp hfollows]
      exact hs
  | nothingBound =>
      obtain ⟨between, hasked, hrest⟩ := hfollows
      rw [follows_nil.mp hrest, hasked.eq_of_reads trivial]
      exact hs
  | finishing _ hfinishes =>
      obtain ⟨u, hasked, v, htold, hrest⟩ := hfollows
      obtain rfl := hasked.eq_of_reads trivial
      obtain rfl := htold.eq_of_neutral trivial
      exact sound_finish hs hfinishes hrest

end Request

end Abides

end Demarcation
