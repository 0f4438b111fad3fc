/-
What is done while units are connected.

A process connects its units, and whoever connects one waits for its pool and only then
looks whether the name is free.  Meanwhile others connect units, register factories or
close units.  A `Startup` has the shared tables, the pools, and the errands that have been
started; an errand goes on until it waits, and then any other errand may go on.

What an errand does in one go is one of eleven `Turn`s (`Moves.turn`), and each of them is
possible (`moves_of_turn`).  Registering is one of them, or a part of one, so nobody comes
between the look at the registry and its change.

It is assumed of the database that a pool is open when it is handed out, that its factory
is new then, and that closing closes it.
-/
import Mathlib.Logic.Function.Basic
import Demarcation.ConnectedUnit
import Demarcation.Proofs.Enrolment

namespace Demarcation

/-! ## From one wait to the next -/

section GoesTo

variable {V : Vocabulary} {C : Calls} {α β σ : Type}

/-- The routine goes on until it waits or ends. -/
inductive Task.GoesTo (step : σ → Deed V C → σ → Prop) :
    Task V C α → σ → Task V C α → σ → Prop where
  | done {value : α} {s : σ} : GoesTo step (.done value) s (.done value) s
  | await {call : C.Call} {onDrop : Action V Unit} {next : C.Reply call → Task V C α} {s : σ} :
      GoesTo step (.await call onDrop next) s (.await call onDrop next) s
  | perform {command : V.Command} {answer : V.Answer command}
      {next : V.Answer command → Task V C α} {rest : Task V C α} {before between after : σ}
      (did : step before (.did command answer) between)
      (goes : GoesTo step (next answer) between rest after) :
      GoesTo step (.perform command next) before rest after

variable {step : σ → Deed V C → σ → Prop} {s t : σ} {rest : Task V C α}

namespace Task

@[simp] theorem goesTo_done {a : α} :
    (Task.done a).GoesTo step s rest t ↔ rest = .done a ∧ t = s := by
  constructor
  · intro h
    cases h with
    | done => exact ⟨rfl, rfl⟩
  · rintro ⟨rfl, rfl⟩
    exact .done

@[simp] theorem goesTo_await {call : C.Call} {onDrop : Action V Unit}
    {next : C.Reply call → Task V C α} :
    (Task.await call onDrop next).GoesTo step s rest t ↔
      rest = .await call onDrop next ∧ t = s := by
  constructor
  · intro h
    cases h with
    | await => exact ⟨rfl, rfl⟩
  · rintro ⟨rfl, rfl⟩
    exact .await

@[simp] theorem goesTo_perform {command : V.Command} {next : V.Answer command → Task V C α} :
    (Task.perform command next).GoesTo step s rest t ↔
      ∃ answer u, step s (.did command answer) u ∧ (next answer).GoesTo step u rest t := by
  constructor
  · intro h
    cases h with
    | perform did goes => exact ⟨_, _, did, goes⟩
  · rintro ⟨answer, u, did, goes⟩
    exact .perform did goes

/-- An action is over before there is a wait. -/
theorem goesTo_ofAction_bind {x : Action V β} {f : β → Task V C α} :
    (ofAction x >>= f).GoesTo step s rest t ↔
      ∃ b u, x.Reaches step s b u ∧ (f b).GoesTo step u rest t := by
  induction x generalizing s with
  | done b =>
      simp only [ofAction_done, done_bind, Action.reaches_done]
      constructor
      · intro h
        exact ⟨b, s, ⟨rfl, rfl⟩, h⟩
      · rintro ⟨_, _, ⟨rfl, rfl⟩, h⟩
        exact h
  | perform command next ih =>
      simp only [ofAction_perform, perform_bind, goesTo_perform, Action.reaches_perform, ih]
      constructor
      · rintro ⟨answer, v, hdid, b, u, hreaches, h⟩
        exact ⟨b, u, ⟨answer, v, hdid, hreaches⟩, h⟩
      · rintro ⟨b, u, ⟨answer, v, hdid, hreaches⟩, h⟩
        exact ⟨answer, v, hdid, b, u, hreaches, h⟩

end Task

end GoesTo

/-! ## Tables and pools -/

/-- What has become of the pool of a factory. -/
inductive Pool where
  | absent
  | opened
  | closed
deriving DecidableEq

/-- The pool after it has been told to close. -/
def Pool.close : Pool → Pool
  | .absent => .absent
  | .opened | .closed => .closed

/-- What the parts of a process share while it is set up. -/
structure Premises where
  tables : Setup.Tables
  pools : FactoryId → Pool

namespace Premises

/-- The pool of a factory becomes another one. -/
def withPool (p : Premises) (factory : FactoryId) (pool : Pool) : Premises :=
  { p with pools := Function.update p.pools factory pool }

/-- The pool of a factory is closed. -/
def closing (p : Premises) (factory : FactoryId) : Premises :=
  p.withPool factory (p.pools factory).close

/-- What a deed of a setup routine makes of the premises.  A pool that is handed out is
open, and its factory is new.  When nobody waits any more for a pool to close, it may have
been closed or not. -/
def Step (p : Premises) : Deed Setup.vocabulary Setup.calls → Premises → Prop
  | .did command answer, p' => p.tables.Step (.did command answer) p'.tables ∧ p'.pools = p.pools
  | .heard (.openPool _) (.ok factory), p' =>
    p.pools factory = .absent ∧ p' = p.withPool factory .opened
  | .heard (.openPool _) (.error _), p' | .lost (.openPool _), p' => p' = p
  | .heard (.closePool factory) (), p' => p' = p.closing factory
  | .lost (.closePool factory), p' => p' = p ∨ p' = p.closing factory

variable {p p' : Premises} {factory : FactoryId} {α : Type}

theorem pools_closing_self : (p.closing factory).pools factory = (p.pools factory).close :=
  Function.update_self ..

theorem pools_closing_of_ne {other : FactoryId} (hne : other ≠ factory) :
    (p.closing factory).pools other = p.pools other :=
  Function.update_of_ne hne ..

/-- There is no pool to close. -/
theorem pools_closing_eq_absent {other : FactoryId} (h : p.pools other = .absent) :
    (p.closing factory).pools other = .absent := by
  by_cases hsame : other = factory
  · rw [← hsame, pools_closing_self, h]
    rfl
  · rw [pools_closing_of_ne hsame, h]

/-- An action reaches the tables only. -/
theorem reaches_iff {x : Action Setup.vocabulary α} {a : α} :
    x.Reaches Step p a p' ↔
      x.Reaches (C := Setup.calls) Setup.Tables.Step p.tables a p'.tables ∧ p'.pools = p.pools := by
  induction x generalizing p with
  | done b =>
      simp only [Action.reaches_done]
      constructor
      · rintro ⟨rfl, rfl⟩
        exact ⟨⟨rfl, rfl⟩, rfl⟩
      · rintro ⟨⟨rfl, htables⟩, hpools⟩
        cases p'
        cases p
        cases htables
        cases hpools
        exact ⟨rfl, rfl⟩
  | perform command next ih =>
      simp only [Action.reaches_perform, ih]
      constructor
      · rintro ⟨answer, u, ⟨hstep, hsame⟩, hreaches, hpools⟩
        exact ⟨⟨answer, u.tables, hstep, hreaches⟩, hpools.trans hsame⟩
      · rintro ⟨⟨answer, tables, hstep, hreaches⟩, hpools⟩
        exact ⟨answer, ⟨tables, p.pools⟩, ⟨hstep, rfl⟩, hreaches, hpools⟩

end Premises

/-- A registration that is refused changes nothing. -/
theorem Setup.Tables.eq_of_refused {tables tables' : Setup.Tables} {name : String}
    {factory : FactoryId} {failure : Failure}
    (h : tables.Registers ⟨name, factory, .error failure⟩ tables') : tables' = tables := by
  rcases Setup.Tables.registers_iff.mp h with ⟨-, hmade, -⟩ | ⟨-, -, hsame⟩
  · cases hmade
  · exact hsame

/-- A registration that is made adds its name, which was free. -/
theorem Setup.Tables.eq_of_made {tables tables' : Setup.Tables} {name : String}
    {factory : FactoryId} {shared : SharedHandle}
    (h : tables.Registers ⟨name, factory, .ok shared⟩ tables') :
    tables.registry.units.find? name = none ∧ shared = tables.newShared name factory ∧
      tables' = tables.registering name factory := by
  rcases Setup.Tables.registers_iff.mp h with ⟨hfree, hmade, htables⟩ | ⟨-, hrefused, -⟩
  · exact ⟨hfree, Except.ok.inj hmade, htables⟩
  · cases hrefused

/-! ## Errands -/

/-- What somebody may do while units are connected. -/
inductive Errand where
  | connect (settings : UnitSettings)
  | register (name : String) (factory : FactoryId)
  | close (unit : ConnectedUnit)

namespace Errand

/-- What an errand returns. -/
abbrev Reply : Errand → Type
  | connect _ => Except Failure ConnectedUnit
  | register _ _ => Except Failure SharedHandle
  | close _ => Unit

def routine : (e : Errand) → Setup e.Reply
  | connect settings => ConnectedUnit.connect settings
  | register name factory => Task.ofAction (Setup.register name factory)
  | close unit => unit.close

/-- Only a pool that there is can be closed. -/
def Possible (p : Premises) : Errand → Prop
  | connect _ | register _ _ => True
  | close unit => p.pools unit.factory ≠ .absent

/-- How far an errand has come: what is left of it, or nothing if it was dropped. -/
abbrev Progress (e : Errand) : Type := Option (Setup e.Reply)

/-- Connecting has failed; the pool is closed before the failure is returned. -/
def undoing (factory : FactoryId) (failure : Failure) : Setup (Except Failure ConnectedUnit) := do
  Setup.closePool factory
  return .error failure

/-- The unit that connecting returns. -/
def unit (settings : UnitSettings) (factory : FactoryId) (shared : SharedHandle) :
    ConnectedUnit where
  name := settings.name
  factory := factory
  shared := shared
  health := {
    factory
    query := settings.validationQuery
    limit := settings.validationTimeout }

/-- What an errand may do in one go.  There is no progress before it begins. -/
inductive Turn : (e : Errand) → Option e.Progress → Premises → e.Progress → Premises → Prop where
  /-- It waits for a pool. -/
  | asks {settings : UnitSettings} {p : Premises} :
      Turn (connect settings) none p (some (ConnectedUnit.connect settings)) p
  /-- There is no pool. -/
  | unreachable {settings : UnitSettings} {p : Premises} {failure : DatabaseFailure} :
      Turn (connect settings) (some (some (ConnectedUnit.connect settings))) p
        (some (.done (.error (.database failure)))) p
  /-- There is a pool, and the name is free. -/
  | made {settings : UnitSettings} {p : Premises} {factory : FactoryId} {shared : SharedHandle}
      {tables : Setup.Tables} (new : p.pools factory = .absent)
      (registers : p.tables.Registers ⟨settings.name, factory, .ok shared⟩ tables) :
      Turn (connect settings) (some (some (ConnectedUnit.connect settings))) p
        (some (.done (.ok (unit settings factory shared))))
        { p.withPool factory .opened with tables }
  /-- There is a pool, and the name is taken. -/
  | refused {settings : UnitSettings} {p : Premises} {factory : FactoryId} {failure : Failure}
      (new : p.pools factory = .absent)
      (refuses : p.tables.Registers ⟨settings.name, factory, .error failure⟩ p.tables) :
      Turn (connect settings) (some (some (ConnectedUnit.connect settings))) p
        (some (undoing factory failure)) (p.withPool factory .opened)
  /-- The pool is closed again. -/
  | undone {settings : UnitSettings} {p : Premises} {factory : FactoryId} {failure : Failure} :
      Turn (connect settings) (some (some (undoing factory failure))) p
        (some (.done (.error failure))) (p.closing factory)
  /-- Nobody waits for the pool any more. -/
  | abandoned {settings : UnitSettings} {p : Premises} :
      Turn (connect settings) (some (some (ConnectedUnit.connect settings))) p none p
  | halfUndone {settings : UnitSettings} {p p' : Premises} {factory : FactoryId}
      {failure : Failure} (closes : p' = p ∨ p' = p.closing factory) :
      Turn (connect settings) (some (some (undoing factory failure))) p none p'
  /-- A factory is registered, or not. -/
  | registers {name : String} {factory : FactoryId} {p : Premises}
      {reply : Except Failure SharedHandle} {tables : Setup.Tables}
      (registers : p.tables.Registers ⟨name, factory, reply⟩ tables) :
      Turn (register name factory) none p (some (.done reply)) { p with tables }
  /-- It waits for a pool to close. -/
  | closes {unit : ConnectedUnit} {p : Premises} : Turn (close unit) none p (some unit.close) p
  | closed {unit : ConnectedUnit} {p : Premises} :
      Turn (close unit) (some (some unit.close)) p (some (.done ())) (p.closing unit.factory)
  | halfClosed {unit : ConnectedUnit} {p p' : Premises}
      (closes : p' = p ∨ p' = p.closing unit.factory) :
      Turn (close unit) (some (some unit.close)) p none p'

end Errand

/-- An errand that has been started. -/
structure Started where
  errand : Errand
  progress : errand.Progress

/-- A process while its units are connected. -/
structure Startup where
  premises : Premises
  errands : ℕ → Option Started := fun _ => none

namespace Startup

/-- Errand `i` has come so far. -/
def put (s : Startup) (i : ℕ) (started : Started) (premises : Premises) : Startup where
  premises := premises
  errands := Function.update s.errands i (some started)

theorem errands_put_self (s : Startup) (i : ℕ) (started : Started) (premises : Premises) :
    (s.put i started premises).errands i = some started :=
  Function.update_self ..

theorem errands_put_of_ne (s : Startup) {i j : ℕ} (hne : j ≠ i) (started : Started)
    (premises : Premises) : (s.put i started premises).errands j = s.errands j :=
  Function.update_of_ne hne ..

/-- Errand `i` begins, goes on, or is dropped. -/
inductive Moves (s : Startup) (i : ℕ) : Startup → Prop where
  | begins {e : Errand} {rest : Setup e.Reply} {premises : Premises} (free : s.errands i = none)
      (possible : e.Possible s.premises)
      (goes : e.routine.GoesTo Premises.Step s.premises rest premises) :
      Moves s i (s.put i ⟨e, some rest⟩ premises)
  | hears {e : Errand} {call : Setup.Call} {onDrop : Action Setup.vocabulary Unit}
      {next : Setup.Reply call → Setup e.Reply} {reply : Setup.Reply call} {rest : Setup e.Reply}
      {between premises : Premises} (waits : s.errands i = some ⟨e, some (.await call onDrop next)⟩)
      (step : s.premises.Step (.heard call reply) between)
      (goes : (next reply).GoesTo Premises.Step between rest premises) :
      Moves s i (s.put i ⟨e, some rest⟩ premises)
  | dropped {e : Errand} {call : Setup.Call} {onDrop : Action Setup.vocabulary Unit}
      {next : Setup.Reply call → Setup e.Reply} {between premises : Premises}
      (waits : s.errands i = some ⟨e, some (.await call onDrop next)⟩)
      (step : s.premises.Step (.lost call) between)
      (cleanup : onDrop.Reaches (C := Setup.calls) Premises.Step between () premises) :
      Moves s i (s.put i ⟨e, none⟩ premises)

end Startup

/-! ## What an errand does in one go -/

namespace Errand

variable {settings : UnitSettings} {factory : FactoryId} {failure : Failure} {p p' : Premises}

/-- Connecting, once there is a reply about the pool. -/
def afterPool (settings : UnitSettings) :
    Except DatabaseFailure FactoryId → Setup (Except Failure ConnectedUnit)
  | .error failure => .done (.error (.database failure))
  | .ok factory => Task.ofAction (Setup.register settings.name factory) >>= fun reply =>
    match reply with
    | .error failure => undoing factory failure
    | .ok shared =>
      Task.ofAction (Setup.emit (.unitReady settings.name settings.maxConnections)) >>= fun () =>
        .done (.ok (unit settings factory shared))

theorem connect_eq : ConnectedUnit.connect settings =
    .await (.openPool settings) (.done ()) (afterPool settings) := by
  show Task.await _ _ _ = _
  congr 1
  funext reply
  cases reply <;> rfl

theorem undoing_eq : undoing factory failure =
    .await (.closePool factory) (.done ()) fun () =>
      Task.ofAction (Setup.emit (.poolClosed factory)) >>= fun () => .done (.error failure) := rfl

theorem undoing_inj {other : FactoryId} {failure' : Failure}
    (h : undoing factory failure = undoing other failure') : factory = other := by
  rw [undoing_eq, undoing_eq] at h
  injection h with hcall
  exact Setup.Call.closePool.inj hcall

theorem close_eq {unit : ConnectedUnit} : unit.close =
    .await (.closePool unit.factory) (.done ()) fun () =>
      Task.ofAction (Setup.emit (.poolClosed unit.factory)) := rfl

/-- An event changes nothing. -/
theorem reaches_emit {event : Event} :
    (Setup.emit event).Reaches (C := Setup.calls) Premises.Step p () p' ↔ p' = p := by
  rw [Premises.reaches_iff, Setup.emit, Action.reaches_perform]
  constructor
  · rintro ⟨⟨_, _, hsame, hdone⟩, hpools⟩
    have htables := (Action.reaches_done.mp hdone).2.trans hsame
    cases p'
    cases p
    cases htables
    cases hpools
    rfl
  · rintro rfl
    exact ⟨⟨(), _, rfl, Action.reaches_done.mpr ⟨rfl, rfl⟩⟩, rfl⟩

/-- How far an errand may have come. -/
inductive Phase : (e : Errand) → e.Progress → Prop where
  | opening {settings : UnitSettings} :
      Phase (connect settings) (some (ConnectedUnit.connect settings))
  | undoing {settings : UnitSettings} {factory : FactoryId} {failure : Failure} :
      Phase (connect settings) (some (Errand.undoing factory failure))
  | closing {unit : ConnectedUnit} : Phase (close unit) (some unit.close)
  | returned {e : Errand} {reply : e.Reply} : Phase e (some (.done reply))
  | dropped {e : Errand} : Phase e none

theorem Turn.phase {e : Errand} {before : Option e.Progress} {progress : e.Progress}
    (h : e.Turn before p progress p') : e.Phase progress := by
  cases h with
  | asks => exact .opening
  | unreachable | made | undone | registers | closed => exact .returned
  | refused => exact .undoing
  | closes => exact .closing
  | abandoned | halfUndone | halfClosed => exact .dropped

theorem turn_of_begins {e : Errand} {rest : Setup e.Reply}
    (h : e.routine.GoesTo Premises.Step p rest p') : e.Turn none p (some rest) p' := by
  cases e with
  | connect settings =>
      rw [routine, connect_eq, Task.goesTo_await, ← connect_eq] at h
      obtain ⟨rfl, rfl⟩ := h
      exact .asks
  | register name factory =>
      rw [routine, ← Task.bind_done (Task.ofAction _), Task.goesTo_ofAction_bind] at h
      obtain ⟨reply, u, hreaches, hdone⟩ := h
      obtain ⟨rfl, rfl⟩ := Task.goesTo_done.mp hdone
      obtain ⟨hregisters, hpools⟩ := Premises.reaches_iff.mp hreaches
      obtain ⟨tables, pools⟩ := p'
      cases hpools
      exact .registers hregisters
  | close unit =>
      rw [routine, close_eq, Task.goesTo_await, ← close_eq] at h
      obtain ⟨rfl, rfl⟩ := h
      exact .closes

theorem turn_of_pool {reply : Except DatabaseFailure FactoryId} {between : Premises}
    {rest : Setup (Except Failure ConnectedUnit)}
    (hstep : p.Step (.heard (.openPool settings) reply) between)
    (h : (afterPool settings reply).GoesTo Premises.Step between rest p') :
    Turn (connect settings) (some (some (ConnectedUnit.connect settings))) p (some rest) p' := by
  cases reply with
  | error failure =>
      obtain rfl : between = p := hstep
      obtain ⟨rfl, rfl⟩ := Task.goesTo_done.mp h
      exact .unreachable
  | ok factory =>
      obtain ⟨hnew, rfl⟩ := hstep
      obtain ⟨registered, u, hreaches, h⟩ := Task.goesTo_ofAction_bind.mp h
      obtain ⟨hregisters, hpools⟩ := Premises.reaches_iff.mp hreaches
      obtain ⟨tables, pools⟩ := u
      cases hpools
      cases registered with
      | error failure =>
          obtain rfl : tables = p.tables := Setup.Tables.eq_of_refused hregisters
          have hrest : (undoing factory failure).GoesTo Premises.Step _ rest p' := h
          rw [undoing_eq, Task.goesTo_await, ← undoing_eq] at hrest
          obtain ⟨rfl, rfl⟩ := hrest
          exact .refused hnew hregisters
      | ok shared =>
          obtain ⟨_, v, hemit, hdone⟩ := Task.goesTo_ofAction_bind.mp h
          obtain rfl := reaches_emit.mp hemit
          obtain ⟨rfl, rfl⟩ := Task.goesTo_done.mp hdone
          exact .made hnew hregisters

/-- A routine that waits may hear a reply. -/
theorem turn_of_hears {e : Errand} {call : Setup.Call} {onDrop : Action Setup.vocabulary Unit}
    {next : Setup.Reply call → Setup e.Reply} {reply : Setup.Reply call} {between : Premises}
    {rest x : Setup e.Reply} (hphase : e.Phase (some x)) (hx : x = .await call onDrop next)
    (hstep : p.Step (.heard call reply) between)
    (h : (next reply).GoesTo Premises.Step between rest p') :
    e.Turn (some (some x)) p (some rest) p' := by
  cases hphase with
  | opening =>
      rw [connect_eq] at hx
      cases hx
      exact turn_of_pool hstep h
  | undoing =>
      rw [undoing_eq] at hx
      cases hx
      obtain rfl : between = p.closing _ := hstep
      obtain ⟨_, v, hemit, hdone⟩ := Task.goesTo_ofAction_bind.mp h
      obtain rfl := reaches_emit.mp hemit
      obtain ⟨rfl, rfl⟩ := Task.goesTo_done.mp hdone
      exact .undone
  | closing =>
      rw [close_eq] at hx
      cases hx
      obtain rfl : between = p.closing _ := hstep
      rw [← Task.bind_done (Task.ofAction _), Task.goesTo_ofAction_bind] at h
      obtain ⟨_, v, hemit, hdone⟩ := h
      obtain rfl := reaches_emit.mp hemit
      obtain ⟨rfl, rfl⟩ := Task.goesTo_done.mp hdone
      exact .closed
  | returned => cases hx

/-- A routine that waits may be dropped. -/
theorem turn_of_dropped {e : Errand} {call : Setup.Call} {onDrop : Action Setup.vocabulary Unit}
    {next : Setup.Reply call → Setup e.Reply} {between : Premises} {x : Setup e.Reply}
    (hphase : e.Phase (some x)) (hx : x = .await call onDrop next)
    (hstep : p.Step (.lost call) between)
    (hcleanup : onDrop.Reaches (C := Setup.calls) Premises.Step between () p') :
    e.Turn (some (some x)) p none p' := by
  cases hphase with
  | opening =>
      rw [connect_eq] at hx
      cases hx
      obtain ⟨-, rfl⟩ := Action.reaches_done.mp hcleanup
      obtain rfl : p' = p := hstep
      exact .abandoned
  | undoing =>
      rw [undoing_eq] at hx
      cases hx
      obtain ⟨-, rfl⟩ := Action.reaches_done.mp hcleanup
      exact .halfUndone hstep
  | closing =>
      rw [close_eq] at hx
      cases hx
      obtain ⟨-, rfl⟩ := Action.reaches_done.mp hcleanup
      exact .halfClosed hstep
  | returned => cases hx

end Errand

namespace Startup

variable {s t : Startup} {i : ℕ}

/-- What a move is: an errand has its turn. -/
theorem Moves.turn (hphase : ∀ e progress, s.errands i = some ⟨e, progress⟩ → e.Phase progress)
    (h : s.Moves i t) : ∃ (e : Errand) (before : Option e.Progress) (progress : e.Progress)
      (premises : Premises), s.errands i = before.map (Started.mk e) ∧
        (before = none → e.Possible s.premises) ∧
        e.Turn before s.premises progress premises ∧ t = s.put i ⟨e, progress⟩ premises := by
  cases h with
  | @begins e _ _ hfree hpossible hgoes =>
      exact ⟨e, none, _, _, hfree, fun _ => hpossible, Errand.turn_of_begins hgoes, rfl⟩
  | @hears e _ _ _ _ _ _ _ hwaits hstep hgoes =>
      exact ⟨e, some _, _, _, hwaits, nofun,
        Errand.turn_of_hears (hphase _ _ hwaits) rfl hstep hgoes, rfl⟩
  | @dropped e _ _ _ _ _ hwaits hstep hcleanup =>
      exact ⟨e, some _, _, _, hwaits, nofun,
        Errand.turn_of_dropped (hphase _ _ hwaits) rfl hstep hcleanup, rfl⟩

/-- Every turn may be taken. -/
theorem moves_of_turn {e : Errand} {before : Option e.Progress} {progress : e.Progress}
    {premises : Premises} (h : e.Turn before s.premises progress premises)
    (hi : s.errands i = before.map (Started.mk e))
    (hpossible : before = none → e.Possible s.premises) :
    s.Moves i (s.put i ⟨e, progress⟩ premises) := by
  cases h with
  | @asks settings =>
      refine .begins hi (hpossible rfl) ?_
      rw [Errand.routine, Errand.connect_eq]
      exact .await
  | @registers _ _ _ reply tables hregisters =>
      refine .begins hi (hpossible rfl) ?_
      rw [Errand.routine, ← Task.bind_done (Task.ofAction _), Task.goesTo_ofAction_bind]
      exact ⟨reply, { s.premises with tables },
        Premises.reaches_iff.mpr ⟨hregisters, rfl⟩, .done⟩
  | closes =>
      refine .begins hi (hpossible rfl) ?_
      rw [Errand.routine, Errand.close_eq]
      exact .await
  | @unreachable settings _ failure =>
      rw [Errand.connect_eq] at hi
      have hstep : s.premises.Step (.heard (.openPool settings) (.error failure)) s.premises := rfl
      exact .hears hi hstep .done
  | @made settings _ factory shared tables hnew hregisters =>
      rw [Errand.connect_eq] at hi
      have hstep : s.premises.Step (.heard (.openPool settings) (.ok factory))
        (s.premises.withPool factory .opened) := ⟨hnew, rfl⟩
      refine .hears hi hstep (Task.goesTo_ofAction_bind.mpr
        ⟨.ok shared, { s.premises.withPool factory .opened with tables },
          Premises.reaches_iff.mpr ⟨hregisters, rfl⟩, ?_⟩)
      exact Task.goesTo_ofAction_bind.mpr ⟨(), _, Errand.reaches_emit.mpr rfl, .done⟩
  | @refused settings _ factory failure hnew hrefuses =>
      rw [Errand.connect_eq] at hi
      have hstep : s.premises.Step (.heard (.openPool settings) (.ok factory))
        (s.premises.withPool factory .opened) := ⟨hnew, rfl⟩
      exact .hears hi hstep (Task.goesTo_ofAction_bind.mpr
        ⟨.error failure, s.premises.withPool factory .opened,
          Premises.reaches_iff.mpr ⟨hrefuses, rfl⟩, .await⟩)
  | @undone settings _ factory failure =>
      rw [Errand.undoing_eq] at hi
      have hstep : s.premises.Step (.heard (.closePool factory) ()) (s.premises.closing factory) :=
        rfl
      exact .hears hi hstep
        (Task.goesTo_ofAction_bind.mpr ⟨(), _, Errand.reaches_emit.mpr rfl, .done⟩)
  | @closed unit =>
      rw [Errand.close_eq] at hi
      have hstep : s.premises.Step (.heard (.closePool unit.factory) ())
        (s.premises.closing unit.factory) := rfl
      refine .hears hi hstep ?_
      rw [← Task.bind_done (Task.ofAction _), Task.goesTo_ofAction_bind]
      exact ⟨(), _, Errand.reaches_emit.mpr rfl, .done⟩
  | abandoned =>
      rw [Errand.connect_eq] at hi
      exact .dropped hi rfl (Action.reaches_done.mpr ⟨rfl, rfl⟩)
  | halfUndone hcloses =>
      rw [Errand.undoing_eq] at hi
      exact .dropped hi hcloses (Action.reaches_done.mpr ⟨rfl, rfl⟩)
  | halfClosed hcloses =>
      rw [Errand.close_eq] at hi
      exact .dropped hi hcloses (Action.reaches_done.mpr ⟨rfl, rfl⟩)

end Startup

/-! ## What a turn keeps -/

/-- The errand has registered a unit under a name. -/
inductive Started.Registered : Started → String → RegisteredUnit → Prop where
  | connected {settings : UnitSettings} {unit : ConnectedUnit} :
      Registered ⟨.connect settings, some (.done (.ok unit))⟩ settings.name
        ⟨unit.factory, unit.shared⟩
  | registered {name : String} {factory : FactoryId} {shared : SharedHandle} :
      Registered ⟨.register name factory, some (.done (.ok shared))⟩ name ⟨factory, shared⟩

/-- The errand has returned, or was dropped. -/
inductive Started.Over : Started → Prop where
  | returned {e : Errand} {reply : e.Reply} : Over ⟨e, some (.done reply)⟩
  | dropped {e : Errand} : Over ⟨e, none⟩

/-- The errand has opened the pool of a factory, and answers for it. -/
inductive Started.Holds : Started → FactoryId → Prop where
  | connected {settings : UnitSettings} {unit : ConnectedUnit} :
      Holds ⟨.connect settings, some (.done (.ok unit))⟩ unit.factory
  | undoing {settings : UnitSettings} {factory : FactoryId} {failure : Failure} :
      Holds ⟨.connect settings, some (Errand.undoing factory failure)⟩ factory

namespace Errand.Turn

variable {e : Errand} {before : Option e.Progress} {progress : e.Progress} {p p' : Premises}
  {name : String} {factory : FactoryId} {entry : RegisteredUnit}

/-- Only a registration that is made changes the tables. -/
theorem tables (h : e.Turn before p progress p') :
    p'.tables = p.tables ∨ ∃ name factory shared,
      p.tables.Registers ⟨name, factory, .ok shared⟩ p'.tables := by
  cases h with
  | asks | unreachable | refused | undone | abandoned | closes | closed => exact Or.inl rfl
  | halfUndone hcloses | halfClosed hcloses =>
      left
      rcases hcloses with rfl | rfl <;> rfl
  | made _ hregisters => exact Or.inr ⟨_, _, _, hregisters⟩
  | @registers _ _ _ reply _ hregisters =>
      cases reply with
      | error failure => exact Or.inl (Setup.Tables.eq_of_refused hregisters)
      | ok shared => exact Or.inr ⟨_, _, _, hregisters⟩

/-- What is registered stays as it is. -/
theorem find? (h : e.Turn before p progress p')
    (hfound : p.tables.registry.units.find? name = some entry) :
    p'.tables.registry.units.find? name = some entry := by
  rcases h.tables with hsame | ⟨other, _, _, hmade⟩
  · rw [hsame, hfound]
  · obtain ⟨hfree, -, htables⟩ := Setup.Tables.eq_of_made hmade
    have hne : other ≠ name := by
      rintro rfl
      rw [hfree] at hfound
      cases hfound
    rw [htables]
    exact (Table.find?_insert ..).trans ((if_neg hne).trans hfound)

/-- A name that is registered was free. -/
theorem registered (h : e.Turn before p progress p')
    (hregistered : Started.Registered ⟨e, progress⟩ name entry) :
    p.tables.registry.units.find? name = none ∧
      p'.tables.registry.units.find? name = some entry := by
  have hmade : ∀ {factory shared tables}, p.tables.Registers ⟨name, factory, .ok shared⟩ tables →
      p.tables.registry.units.find? name = none ∧
        tables.registry.units.find? name = some ⟨factory, shared⟩ := by
    intro factory shared tables hregisters
    obtain ⟨hfree, rfl, rfl⟩ := Setup.Tables.eq_of_made hregisters
    exact ⟨hfree, (Table.find?_insert ..).trans (if_pos rfl)⟩
  cases hregistered with
  | connected =>
      cases h with
      | made _ hregisters => exact hmade hregisters
  | registered =>
      cases h with
      | registers hregisters => exact hmade hregisters

/-- The unit that connecting returns is the one that has been registered. -/
theorem connected {settings : UnitSettings} {unit : ConnectedUnit}
    {before : Option (Errand.connect settings).Progress}
    (h : (Errand.connect settings).Turn before p (some (.done (.ok unit))) p') :
    unit.name = settings.name ∧
      p.tables.Registers ⟨settings.name, unit.factory, .ok unit.shared⟩ p'.tables := by
  cases h with
  | made _ hregisters => exact ⟨rfl, hregisters⟩

/-- Connecting changes the tables when it returns a unit, and at no other time. -/
theorem tables_of_connect {settings : UnitSettings}
    {before : Option (Errand.connect settings).Progress}
    {progress : (Errand.connect settings).Progress}
    (h : (Errand.connect settings).Turn before p progress p') :
    p'.tables = p.tables ∨ ∃ unit, progress = some (.done (.ok unit)) := by
  cases h with
  | asks | unreachable | refused | undone | abandoned => exact Or.inl rfl
  | made => exact Or.inr ⟨_, rfl⟩
  | halfUndone hcloses =>
      left
      rcases hcloses with rfl | rfl <;> rfl

/-- After a failed registration the pool is closed, or nobody waits for it any more. -/
theorem of_undoing {settings : UnitSettings} {failure : Failure}
    {progress : (Errand.connect settings).Progress}
    (h : (Errand.connect settings).Turn (some (some (undoing factory failure))) p progress p') :
    progress = none ∨
      ∃ failure', progress = some (.done (.error failure')) ∧ p' = p.closing factory := by
  generalize hrest : undoing factory failure = rest at h
  cases h with
  | unreachable | made | refused =>
      rw [undoing_eq, connect_eq] at hrest
      cases hrest
  | undone =>
      obtain rfl := undoing_inj hrest
      exact Or.inr ⟨_, rfl, rfl⟩
  | abandoned | halfUndone => exact Or.inl rfl

/-- A pool that an errand comes to hold is new, and open. -/
theorem holds (h : e.Turn before p progress p') (hholds : Started.Holds ⟨e, progress⟩ factory) :
    p.pools factory = .absent ∧ p'.pools factory = .opened := by
  cases hholds with
  | connected =>
      cases h with
      | made hnew => exact ⟨hnew, Function.update_self ..⟩
  | undoing =>
      generalize hrest : undoing factory _ = rest at h
      cases h with
      | asks =>
          rw [undoing_eq, connect_eq] at hrest
          cases hrest
      | refused hnew =>
          obtain rfl := undoing_inj hrest
          exact ⟨hnew, Function.update_self ..⟩
      | unreachable | made | undone =>
          rw [undoing_eq] at hrest
          cases hrest

/-- A pool is opened if it is new, and closed by its holder or on purpose. -/
theorem pools (h : e.Turn before p progress p') :
    p'.pools = p.pools ∨
      (∃ factory, p.pools factory = .absent ∧
        p'.pools = Function.update p.pools factory .opened) ∨
      ∃ factory, p'.pools = Function.update p.pools factory (p.pools factory).close ∧
        ((∃ x, before = some x ∧ Started.Holds ⟨e, x⟩ factory) ∨
          ∃ unit, e = .close unit ∧ unit.factory = factory) := by
  cases h with
  | asks | unreachable | abandoned | registers | closes => exact Or.inl rfl
  | made hnew | refused hnew => exact Or.inr (Or.inl ⟨_, hnew, rfl⟩)
  | undone => exact Or.inr (Or.inr ⟨_, rfl, Or.inl ⟨_, rfl, .undoing⟩⟩)
  | closed => exact Or.inr (Or.inr ⟨_, rfl, Or.inr ⟨_, rfl, rfl⟩⟩)
  | halfUndone hcloses =>
      rcases hcloses with rfl | rfl
      · exact Or.inl rfl
      · exact Or.inr (Or.inr ⟨_, rfl, Or.inl ⟨_, rfl, .undoing⟩⟩)
  | halfClosed hcloses =>
      rcases hcloses with rfl | rfl
      · exact Or.inl rfl
      · exact Or.inr (Or.inr ⟨_, rfl, Or.inr ⟨_, rfl, rfl⟩⟩)

/-- Connecting returns the factory whose pool it has opened, or closes the pool. -/
theorem pools_of_connect {settings : UnitSettings}
    {before : Option (Errand.connect settings).Progress}
    {progress : (Errand.connect settings).Progress}
    (h : (Errand.connect settings).Turn before p progress p')
    (habsent : p.pools factory = .absent) (hpresent : p'.pools factory ≠ .absent) :
    (∃ unit, progress = some (.done (.ok unit))) ∨
      ∃ failure, progress = some (undoing factory failure) := by
  cases h with
  | asks | unreachable | abandoned => exact absurd habsent hpresent
  | made => exact Or.inl ⟨_, rfl⟩
  | @refused _ _ other =>
      by_cases hsame : factory = other
      · subst hsame
        exact Or.inr ⟨_, rfl⟩
      · exact absurd ((Function.update_of_ne hsame ..).trans habsent) hpresent
  | undone => exact absurd (Premises.pools_closing_eq_absent habsent) hpresent
  | halfUndone hcloses =>
      rcases hcloses with rfl | rfl
      · exact absurd habsent hpresent
      · exact absurd (Premises.pools_closing_eq_absent habsent) hpresent

/-- A pool that is open stays open, unless its holder or somebody who closes it has the
turn. -/
theorem opened (h : e.Turn before p progress p') (hopened : p.pools factory = .opened) :
    p'.pools factory = .opened ∨ (∃ x, before = some x ∧ Started.Holds ⟨e, x⟩ factory) ∨
      ∃ unit, e = .close unit ∧ unit.factory = factory := by
  rcases h.pools with hsame | ⟨other, hnew, hpools⟩ | ⟨other, hpools, hcloser⟩
  · exact Or.inl (hsame ▸ hopened)
  · left
    have hne : factory ≠ other := by
      rintro rfl
      rw [hopened] at hnew
      cases hnew
    rw [hpools, Function.update_of_ne hne, hopened]
  · by_cases hsame : factory = other
    · exact Or.inr (hsame ▸ hcloser)
    · left
      rw [hpools, Function.update_of_ne hsame, hopened]

/-- What becomes of a pool that has been opened. -/
theorem present (h : e.Turn before p progress p') (hpresent : p.pools factory ≠ .absent) :
    p'.pools factory = p.pools factory ∨ p'.pools factory = .closed := by
  rcases h.pools with hsame | ⟨other, hnew, hpools⟩ | ⟨other, hpools, -⟩
  · exact Or.inl (congrFun hsame factory)
  · have hne : factory ≠ other := by
      rintro rfl
      exact hpresent hnew
    exact Or.inl (by rw [hpools, Function.update_of_ne hne])
  · by_cases hsame : factory = other
    · right
      rw [hpools, ← hsame, Function.update_self]
      cases hpool : p.pools factory with
      | absent => exact absurd hpool hpresent
      | opened | closed => rfl
    · exact Or.inl (by rw [hpools, Function.update_of_ne hsame])

theorem ne_absent (h : e.Turn before p progress p') (hpresent : p.pools factory ≠ .absent) :
    p'.pools factory ≠ .absent := by
  rcases h.present hpresent with hsame | hclosed
  · exact ne_of_eq_of_ne hsame hpresent
  · exact ne_of_eq_of_ne hclosed nofun

end Errand.Turn

end Demarcation
