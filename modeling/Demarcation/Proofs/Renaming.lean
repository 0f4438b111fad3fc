/-
Renaming handles.

A handle is known by a number, and which numbers the factories give out depends
on everybody who asks them.  So what a routine does is to be compared up to a
renaming of handles.  A renaming is a function on handles; wherever it matters,
it leaves every handle with its factory.

Renaming here is of deeds.  `Task.Renames ρ f x y` says that `y` does what `x`
does under other names, and ends in what `f` makes of the value; for the value
may hold a handle as well.  The routines of units of work pass handles on and
never look at their numbers, so each of them renames to itself, applied to the
renamed arguments.
-/
import Demarcation.Component
import Demarcation.Proofs.Deliveries
import Demarcation.Proofs.Forwarding

namespace Demarcation

variable {app : Jobs} {α β γ : Type}

/-! ## The operation -/

namespace Table

variable {κ : Type}

/-- The table with other values under its keys. -/
def mapValues (f : α → β) (t : Table κ α) : Table κ β where
  entries := t.entries.map fun e => (e.1, f e.2)
  nodup := by
    rw [List.map_map]
    exact t.nodup

variable {f : α → β} {t : Table κ α}

theorem values_mapValues : (t.mapValues f).values = t.values.map f := by
  simp [values, mapValues]

theorem size_mapValues : (t.mapValues f).size = t.size := by
  simp [size, mapValues]

theorem isEmpty_mapValues : (t.mapValues f).isEmpty = t.isEmpty := by
  simp [isEmpty, mapValues]

variable [DecidableEq κ]

theorem erase_mapValues (k : κ) : (t.mapValues f).erase k = (t.erase k).mapValues f := by
  simp [erase, mapValues, List.filter_map, Function.comp_def]

theorem insert_mapValues (k : κ) (v : α) :
    (t.mapValues f).insert k (f v) = (t.insert k v).mapValues f := by
  have herase := congrArg Table.entries (erase_mapValues (f := f) (t := t) k)
  simp only [insert, mapValues, List.map_cons, Table.mk.injEq] at herase ⊢
  rw [herase]

end Table

section Rename

variable (ρ : Handle → Handle)

/-- The same handles under other names. -/
def Context.rename (cx : Context) : Context where
  bindings := cx.bindings.map (Table.mapValues ρ)

def ContextCommand.rename : ContextCommand → ContextCommand
  | .bind cx h => .bind cx (ρ h)
  | .create => .create
  | .unbind cx f => .unbind cx f
  | .unbindAll cx => .unbindAll cx
  | .find cx f => .find cx f
  | .isEmpty cx => .isEmpty cx

def ContextCommand.renameAnswer : (c : ContextCommand) → c.Answer → (c.rename ρ).Answer
  | .bind .., replaced => Option.map ρ replaced
  | .create, cx => cx
  | .unbind .., removed => Option.map ρ removed
  | .unbindAll _, table => Option.map (Table.mapValues ρ) table
  | .find .., found => Option.map ρ found
  | .isEmpty _, nothing => nothing

def Work.Command.rename : Work.Command → Work.Command
  | .context c => .context (c.rename ρ)
  | .transactionActive h => .transactionActive (ρ h)
  | .close h => .close (ρ h)
  | .provides h type => .provides (ρ h) type
  | .emit event => .emit event

def Work.Command.renameAnswer : (c : Work.Command) → Work.Answer c → Work.Answer (c.rename ρ)
  | .context c, answer => c.renameAnswer ρ answer
  | .transactionActive _, active => active
  | .close _, _ => ()
  | .provides .., provided => provided
  | .emit _, _ => ()

def Work.Call.rename : Work.Call app → Work.Call app
  | .create f => .create f
  | .configure h options => .configure (ρ h) options
  | .begin h => .begin (ρ h)
  | .commit h => .commit (ρ h)
  | .rollback h => .rollback (ρ h)
  | .execute h operation => .execute (ρ h) operation
  | .job j => .job j

def Work.Call.renameReply : (c : Work.Call app) → Work.Reply c → Work.Reply (c.rename ρ)
  | .create _, reply => Except.map ρ reply
  | .configure .., reply => reply
  | .begin _, reply => reply
  | .commit _, reply => reply
  | .rollback _, reply => reply
  | .execute .., reply => reply
  | .job _, result => result

def WorkDeed.rename : WorkDeed app → WorkDeed app
  | .did c answer => .did (c.rename ρ) (c.renameAnswer ρ answer)
  | .heard c reply => .heard (c.rename ρ) (c.renameReply ρ reply)
  | .lost c => .lost (c.rename ρ)

/-- The deeds under other names. -/
def renamed (deeds : List (WorkDeed app)) : List (WorkDeed app) := deeds.map (WorkDeed.rename ρ)

def OpenUnit.rename (work : OpenUnit) : OpenUnit := { work with handle := ρ work.handle }

def Demarcator.rename (demarcator : Demarcator) : Demarcator :=
  { demarcator with current := demarcator.current.map (OpenUnit.rename ρ) }

def Request.rename (request : Request) : Request :=
  { request with demarcator := request.demarcator.rename ρ }

def Unwrapped.rename : Unwrapped → Unwrapped
  | .shared handle => .shared handle
  | .delegate handle => .delegate (ρ handle)

end Rename

section Contexts

variable {ρ : Handle → Handle} {cx : Context}

theorem Context.isEmpty_rename : (cx.rename ρ).isEmpty = cx.isEmpty := by
  simp [isEmpty, rename]

theorem Context.bind_rename {h : Handle} (hfactory : (ρ h).factory = h.factory) :
    ((cx.rename ρ).bind (ρ h)).2 = (cx.bind h).2.rename ρ := by
  cases hb : cx.bindings with
  | none =>
      simp only [bind, rename, hb, hfactory, Option.map_none, Option.getD_none, Option.map_some]
      rw [← Table.insert_mapValues]
      rfl
  | some table =>
      simp only [bind, rename, hb, hfactory, Option.map_some, Option.getD_some]
      rw [← Table.insert_mapValues]

theorem Context.unbind_rename (f : FactoryId) :
    ((cx.rename ρ).unbind f).2 = (cx.unbind f).2.rename ρ := by
  cases hb : cx.bindings with
  | none => simp [unbind, rename, hb]
  | some table =>
      simp only [unbind, rename, hb, Option.map_some, Table.erase_mapValues,
        Table.isEmpty_mapValues]
      cases (table.erase f).isEmpty <;> rfl

end Contexts

section Deeds

variable {ρ : Handle → Handle} {ds es : List (WorkDeed app)} {h : Handle}

@[simp] theorem renamed_nil : renamed ρ ([] : List (WorkDeed app)) = [] := rfl

@[simp] theorem renamed_cons {d : WorkDeed app} :
    renamed ρ (d :: ds) = d.rename ρ :: renamed ρ ds := rfl

@[simp] theorem renamed_append : renamed ρ (ds ++ es) = renamed ρ ds ++ renamed ρ es :=
  List.map_append

theorem handed_renamed : handed (renamed ρ ds) = (handed ds).map ρ := by
  rw [handed, renamed, List.filterMap_map, handed, List.map_filterMap]
  congr 1
  funext d
  cases d with
  | did => rfl
  | lost => rfl
  | heard call reply =>
      cases call with
      | create =>
          cases reply with
          | error => rfl
          | ok => rfl
      | _ => rfl

end Deeds

theorem ContextCommand.renameAnswer_id {c : ContextCommand} {answer : c.Answer} :
    (Deed.did (.context (c.rename id)) (c.renameAnswer id answer) : WorkDeed app) =
      .did (.context c) answer := by
  cases c with
  | create => rfl
  | isEmpty => rfl
  | bind => exact congrArg _ (Option.map_id_apply)
  | unbind => exact congrArg _ (Option.map_id_apply)
  | find => exact congrArg _ (Option.map_id_apply)
  | unbindAll =>
      refine congrArg _ ?_
      cases answer with
      | none => rfl
      | some table => exact congrArg some (by simp [Table.mapValues])

theorem renamed_id : renamed id ds = ds := by
  refine (List.map_congr_left fun d _ => ?_).trans (List.map_id ds)
  rcases d with ⟨c, answer⟩ | ⟨c, reply⟩ | c
  · cases c with
    | context => exact ContextCommand.renameAnswer_id
    | _ => rfl
  · cases c with
    | create => cases reply <;> rfl
    | _ => rfl
  · cases c <;> rfl

/-! ## Routines under other names -/

namespace Task

/-- The routine `y` does under other names what `x` does, and ends in what `f` makes
of the value. -/
def Renames (ρ : Handle → Handle) (f : α → β) (x : Work app α) (y : Work app β) : Prop :=
  ∀ ds v, x.Traces ds v → y.Traces (renamed ρ ds) (v.map f)

/-- The names of handles mean nothing to the routine. -/
def BlindTo (ρ : Handle → Handle) (x : Work app α) : Prop := Renames ρ id x x

variable {ρ : Handle → Handle} {f : α → β}

/-- Under their own names, handles may mean something. -/
theorem blindTo_id {x : Work app α} : BlindTo id x := by
  intro ds v htraces
  rw [renamed_id, Option.map_id]
  exact htraces

theorem renames_done {a : α} {b : β} (hvalue : f a = b) :
    Renames ρ f (.done a : Work app α) (.done b) := by
  intro ds v htraces
  obtain ⟨rfl, rfl⟩ := traces_done.mp htraces
  rw [← hvalue]
  exact .done (f a)

theorem renames_perform {c : Work.Command} {k : Work.Answer c → Work app α}
    {l : Work.Answer (c.rename ρ) → Work app β}
    (hnext : ∀ answer, Renames ρ f (k answer) (l (c.renameAnswer ρ answer))) :
    Renames ρ f (.perform c k) (.perform (c.rename ρ) l) := by
  intro ds v htraces
  obtain ⟨answer, rest, rfl, hrest⟩ := traces_perform.mp htraces
  exact .perform (hnext answer rest v hrest)

theorem renames_await {c : Work.Call app} {k : Work.Reply c → Work app α}
    {l : Work.Reply (c.rename ρ) → Work app β}
    (hnext : ∀ reply, Renames ρ f (k reply) (l (c.renameReply ρ reply))) :
    Renames ρ f (.await c (.done ()) k) (.await (c.rename ρ) (.done ()) l) := by
  intro ds v htraces
  rcases traces_await.mp htraces with ⟨reply, rest, rfl, hrest⟩ | ⟨rest, rfl, rfl, hcleanup⟩
  · exact .heard (hnext reply rest v hrest)
  · obtain ⟨rfl, -⟩ := Action.traces_done.mp hcleanup
    exact .lost (.done ())

theorem Renames.bind {x : Work app α} {y : Work app β} {δ : Type} {k : α → Work app γ}
    {l : β → Work app δ} {g : γ → δ} (hx : Renames ρ f x y)
    (hnext : ∀ a, Renames ρ g (k a) (l (f a))) : Renames ρ g (x >>= k) (y >>= l) := by
  intro ds v htraces
  rcases traces_bind.mp htraces with ⟨a, first, rest, rfl, hfirst, hrest⟩ | ⟨hfirst, rfl⟩
  · rw [renamed_append]
    exact traces_bind.mpr (Or.inl ⟨f a, _, _, rfl, hx first _ hfirst, hnext a rest v hrest⟩)
  · exact traces_bind.mpr (Or.inr ⟨hx ds _ hfirst, rfl⟩)

theorem Renames.bind_ofAction {x : Step α} {y : Step β} {δ : Type} {k : α → Step γ}
    {l : β → Step δ} {g : γ → δ}
    (hx : Renames ρ f (ofAction x : Work app α) (ofAction y))
    (hnext : ∀ a, Renames ρ g (ofAction (k a) : Work app γ) (ofAction (l (f a)))) :
    Renames ρ g (ofAction (x >>= k) : Work app γ) (ofAction (y >>= l)) := by
  rw [ofAction_bind, ofAction_bind]
  exact hx.bind hnext

theorem Renames.guarded {x : Work app α} {y : Work app β} {c d : Step Unit} (hx : Renames ρ f x y)
    (hcleanup : Renames ρ id (ofAction c : Work app Unit) (ofAction d)) :
    Renames ρ f (x.guarded c) (y.guarded d) := by
  intro ds v htraces
  rcases traces_guarded.mp htraces with ⟨hv, hx'⟩ | ⟨rfl, first, last, rfl, hfirst, hlast⟩
  · refine traces_guarded.mpr (Or.inl ⟨?_, hx ds v hx'⟩)
    rwa [Ne, Option.map_eq_none_iff]
  · rw [renamed_append]
    obtain ⟨⟨⟩, -, hd⟩ :=
      traces_ofAction.mp (hcleanup last _ (traces_ofAction.mpr ⟨(), rfl, hlast⟩))
    exact traces_guarded.mpr (Or.inr ⟨rfl, _, _, rfl, hx first none hfirst, hd⟩)

end Task

/-! ## The routines of units of work -/

section Routines

variable {ρ : Handle → Handle} {cx : ContextId}

open Demarcation.Task

theorem renames_emit (event : Event) :
    Renames ρ id (ofAction (emit event) : Work app Unit) (ofAction (emit event)) :=
  renames_perform fun _ => renames_done rfl

namespace ContextId

theorem renames_bind {h : Handle} (hfactory : (ρ h).factory = h.factory) :
    Renames ρ (Option.map ρ) (ofAction (cx.bind h) : Work app _) (ofAction (cx.bind (ρ h))) := by
  refine renames_perform ?_
  rintro (_ | replaced)
  · rw [← hfactory]
    exact renames_perform fun _ => renames_done rfl
  · rw [← hfactory]
    exact renames_perform fun _ => renames_done rfl

theorem renames_unbind (f : FactoryId) :
    Renames ρ (Option.map ρ) (ofAction (cx.unbind f) : Work app _) (ofAction (cx.unbind f)) := by
  refine renames_perform ?_
  rintro (_ | removed)
  · exact renames_done rfl
  · exact renames_perform fun _ => renames_done rfl

theorem renames_releaseEach (handles : List Handle) :
    Renames ρ id (ofAction (releaseEach Handle.close handles) : Work app Unit)
      (ofAction (releaseEach Handle.close (handles.map ρ))) := by
  induction handles with
  | nil => exact renames_done rfl
  | cons h handles ih => exact renames_perform fun _ => ih

theorem renames_unbindAll :
    Renames ρ id (ofAction (cx.unbindAll Handle.close) : Work app Unit)
      (ofAction (cx.unbindAll Handle.close)) := by
  refine renames_perform ?_
  rintro (_ | table)
  · exact renames_done rfl
  · have hrelease : Renames ρ id
        (ofAction (releaseEach Handle.close table.values) : Work app Unit)
        (ofAction (releaseEach Handle.close (table.mapValues ρ).values)) := by
      rw [Table.values_mapValues]
      exact renames_releaseEach table.values
    have htold : Renames ρ id
        (ofAction (emit (.unbindingAll cx table.size)) : Work app Unit)
        (ofAction (emit (.unbindingAll cx (table.mapValues ρ).size))) := by
      rw [Table.size_mapValues]
      exact renames_emit _
    exact htold.bind_ofAction (k := fun _ => releaseEach Handle.close table.values)
      (l := fun _ => releaseEach Handle.close (table.mapValues ρ).values) fun _ => hrelease

end ContextId

namespace OpenUnit

theorem renames_enter {spec : WorkSpec} {h : Handle} (hfactory : (ρ h).factory = h.factory) :
    Renames ρ id (enter cx spec h : Work app _) (enter cx spec (ρ h)) := by
  refine renames_await ?_
  rintro (failure | ⟨⟩)
  · exact renames_done rfl
  · refine (ContextId.renames_bind hfactory).bind fun _ => ?_
    cases spec.transactional with
    | false => exact renames_done rfl
    | true => exact renames_await fun _ => renames_done rfl

variable {work : OpenUnit}

theorem renames_owesEnd :
    Renames ρ id (ofAction work.owesEnd : Work app Bool) (ofAction (work.rename ρ).owesEnd) := by
  cases htransactional : work.spec.transactional with
  | false =>
      simp only [owesEnd, rename, htransactional]
      exact renames_done rfl
  | true =>
      simp only [owesEnd, rename, htransactional]
      exact renames_perform fun _ => renames_done rfl

theorem renames_commit :
    Renames ρ id (work.commit : Work app _) (work.rename ρ).commit := by
  refine renames_owesEnd.bind ?_
  rintro (_ | _)
  · exact renames_done rfl
  · refine renames_await ?_
    rintro (failure | ⟨⟩)
    · exact renames_done rfl
    · exact (renames_emit _).bind fun _ => renames_done rfl

theorem renames_rollback :
    Renames ρ id (work.rollback : Work app _) (work.rename ρ).rollback := by
  refine renames_owesEnd.bind ?_
  rintro (_ | _)
  · exact renames_done rfl
  · refine renames_await ?_
    rintro (failure | ⟨⟩)
    · exact renames_emit _
    · exact renames_emit _

theorem renames_release :
    Renames ρ id (ofAction (work.release cx) : Work app Unit)
      (ofAction ((work.rename ρ).release cx)) := by
  refine Renames.bind_ofAction (f := id) (renames_perform fun _ => renames_done rfl) fun _ => ?_
  exact (ContextId.renames_unbind _).bind_ofAction fun _ => renames_emit _

end OpenUnit

namespace Demarcator

variable {demarcator : Demarcator}

theorem renames_start {registry : Registry} {spec? : Option WorkSpec}
    (hfactory : ∀ h, (ρ h).factory = h.factory) :
    Renames ρ (Except.map (rename ρ)) (demarcator.start registry cx spec? : Work app _)
      ((demarcator.rename ρ).start registry cx spec?) := by
  cases spec? with
  | none => exact renames_done rfl
  | some spec =>
      simp only [start]
      cases registry.resolve spec.unit with
      | error failure => exact renames_done rfl
      | ok factory =>
          refine renames_await ?_
          rintro (failure | h)
          · exact renames_done rfl
          · refine (OpenUnit.renames_enter (hfactory h)).bind ?_
            rintro (failure | ⟨⟩)
            · refine renames_perform fun _ => ?_
              exact (ContextId.renames_unbind _).bind fun _ => renames_done rfl
            · exact (renames_emit _).bind fun _ => renames_done rfl

theorem renames_finish {work : OpenUnit} :
    Renames ρ id (ofAction (demarcator.finish cx work) : Work app Unit)
      (ofAction ((demarcator.rename ρ).finish cx (work.rename ρ))) := by
  cases hmode : demarcator.mode with
  | immediate =>
      simp only [finish, rename, hmode]
      exact OpenUnit.renames_release
  | deferred =>
      simp only [finish, rename, hmode]
      exact renames_done rfl

theorem renames_complete :
    Renames ρ (Prod.map id (rename ρ)) (demarcator.complete cx : Work app _)
      ((demarcator.rename ρ).complete cx) := by
  cases hcurrent : demarcator.current with
  | none =>
      simp only [complete, rename, hcurrent]
      exact renames_done (Prod.ext rfl (by simp [rename, hcurrent]))
  | some work =>
      simp only [complete, hcurrent, rename, Option.map_some]
      refine OpenUnit.renames_commit.bind ?_
      rintro (failure | ⟨⟩)
      · refine (renames_emit _).bind fun _ => OpenUnit.renames_rollback.bind fun _ => ?_
        exact renames_finish.bind fun _ => renames_done rfl
      · exact renames_finish.bind fun _ => renames_done rfl

theorem renames_fail :
    Renames ρ (rename ρ) (demarcator.fail cx : Work app _) ((demarcator.rename ρ).fail cx) := by
  cases hcurrent : demarcator.current with
  | none =>
      simp only [fail, rename, hcurrent]
      exact renames_done (by simp [rename, hcurrent])
  | some work =>
      simp only [fail, hcurrent, rename, Option.map_some]
      refine OpenUnit.renames_rollback.bind fun _ => ?_
      exact renames_finish.bind fun _ => renames_done rfl

theorem renames_releaseAbandoned :
    Renames ρ id (ofAction (demarcator.releaseAbandoned cx) : Work app Unit)
      (ofAction ((demarcator.rename ρ).releaseAbandoned cx)) := by
  cases hcurrent : demarcator.current with
  | none =>
      simp only [releaseAbandoned, rename, hcurrent]
      exact renames_done rfl
  | some work =>
      simp only [releaseAbandoned, rename, hcurrent]
      exact (renames_emit _).bind_ofAction fun _ => OpenUnit.renames_release

theorem renames_abandon :
    Renames ρ (rename ρ) (ofAction demarcator.abandon : Work app _)
      (ofAction (demarcator.rename ρ).abandon) := by
  cases hcurrent : demarcator.current with
  | none =>
      simp only [abandon, rename, hcurrent]
      exact renames_done (by simp [rename, hcurrent])
  | some work =>
      simp only [abandon, rename, hcurrent]
      refine renames_perform ?_
      rintro (_ | _)
      · exact renames_done rfl
      · exact renames_perform fun _ => renames_done rfl

end Demarcator

namespace Request

variable {request : Request}

theorem renames_finish :
    Renames ρ (rename ρ) (ofAction request.finish : Work app _)
      (ofAction (request.rename ρ).finish) := by
  refine Demarcator.renames_abandon.bind_ofAction fun _ => ?_
  exact ContextId.renames_unbindAll.bind_ofAction fun _ => renames_done rfl

theorem renames_deliver {registry : Registry} {declarations : Declarations} {event : RequestEvent}
    (hfactory : ∀ h, (ρ h).factory = h.factory) :
    Renames ρ (Prod.map id (rename ρ)) (request.deliver registry declarations event : Work app _)
      ((request.rename ρ).deliver registry declarations event) := by
  cases event with
  | methodStart method =>
      refine (Demarcator.renames_start hfactory).bind ?_
      rintro (failure | demarcator)
      · exact renames_done rfl
      · exact renames_done rfl
  | responseFiltersStart =>
      refine Demarcator.renames_complete.bind ?_
      rintro ⟨failure | ⟨⟩, demarcator⟩
      · exact renames_done rfl
      · exact renames_done rfl
  | exception => exact Demarcator.renames_fail.bind fun _ => renames_done rfl
  | finished => exact renames_finish.bind fun _ => renames_done rfl

theorem renames_drop :
    Renames ρ id (ofAction request.drop : Work app Unit) (ofAction (request.rename ρ).drop) := by
  cases hfinished : request.finished with
  | true =>
      simp only [drop, rename, hfinished]
      exact renames_done rfl
  | false =>
      simp only [drop, rename, hfinished]
      refine renames_perform ?_
      rintro (_ | _)
      · refine (renames_emit _).bind_ofAction fun _ => ?_
        exact renames_finish.bind_ofAction fun _ => renames_done rfl
      · exact renames_done rfl

end Request

namespace Component

variable {τ σ ε : Type} {component : Component τ} {registry : Registry} {ofFailure : Failure → ε}
  {method : String} {call : τ → ContextId → Work app (Except ε σ)}

theorem renames_conclude {demarcator : Demarcator} {outcome : Except ε σ} :
    Renames ρ id (conclude ofFailure demarcator cx outcome : Work app _)
      (conclude ofFailure (demarcator.rename ρ) cx outcome) := by
  cases outcome with
  | error e => exact Demarcator.renames_fail.bind fun _ => renames_done rfl
  | ok value =>
      refine Demarcator.renames_complete.bind ?_
      rintro ⟨failure | ⟨⟩, _⟩
      · exact renames_done rfl
      · exact renames_done rfl

/-- A call is blind to a renaming if its method is. -/
theorem blindTo_callIn (hfactory : ∀ h, (ρ h).factory = h.factory)
    (hbody : BlindTo ρ (call component.target cx)) :
    BlindTo ρ (component.callIn registry ofFailure cx method call) := by
  refine (Demarcator.renames_start hfactory).bind ?_
  rintro (failure | demarcator)
  · exact renames_done rfl
  · exact (hbody.bind fun _ => renames_conclude).guarded Demarcator.renames_releaseAbandoned

end Component

namespace SharedHandle

variable {shared : SharedHandle}

theorem renames_current (f : FactoryId) :
    Renames ρ (Except.map ρ) (ofAction (cx.current f) : Work app _) (ofAction (cx.current f)) := by
  refine renames_perform ?_
  rintro (_ | h)
  · exact renames_done rfl
  · exact renames_done rfl

/-- The names of handles mean nothing to a shared handle. -/
theorem blindTo_invoke (operation : Operation) :
    BlindTo ρ (shared.invoke cx operation : Work app (Except Failure Outcome)) := by
  refine (renames_current _).bind ?_
  rintro (failure | h)
  · exact renames_done rfl
  · dsimp only [Except.map]
    cases operation.kind with
    | read => exact renames_await fun _ => renames_done rfl
    | mutating =>
        refine renames_perform ?_
        rintro (_ | _)
        · exact renames_done rfl
        · exact renames_await fun _ => renames_done rfl

/-- So is each of the typed calls of a shared handle. -/
theorem blindTo_invokeFor {operation : Operation} {result : Outcome → Except Failure α} :
    BlindTo ρ (shared.invokeFor cx operation result : Work app (Except Failure α)) := by
  refine (blindTo_invoke operation).bind ?_
  rintro (failure | outcome)
  · exact renames_done rfl
  · exact renames_done rfl

theorem renames_unwrap (target : Option ObjectType) :
    Renames ρ (Except.map (Unwrapped.rename ρ)) (ofAction (shared.unwrap cx target) : Work app _)
      (ofAction (shared.unwrap cx target)) := by
  rcases target with _ | type
  · refine (renames_current _).bind_ofAction ?_
    rintro (failure | h)
    · exact renames_done rfl
    · exact renames_done rfl
  · cases type with
    | sharedHandle => exact renames_done rfl
    | _ =>
        refine (renames_current _).bind_ofAction ?_
        rintro (failure | h)
        · exact renames_done rfl
        · refine renames_perform ?_
          rintro (_ | _)
          · exact renames_done rfl
          · exact renames_done rfl

end SharedHandle

end Routines

end Demarcation
