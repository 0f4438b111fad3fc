/-
Execution contexts: the resource handles of one logical operation.

A context belongs to one request or one call and is passed along explicitly.
It binds at most one handle for each factory, under the factory that the handle
reports.  Its table comes into being with the first binding and goes away with
the last one, so that an empty table never exists.

`Workspace` holds all contexts of a process.  `ContextCommand` lists what may
be asked of it, and `Workspace.perform` answers.
-/
import Demarcation.Identity
import Demarcation.Table

namespace Demarcation

/-- The bindings of an execution context; no table when nothing is bound. -/
structure Context where
  bindings : Option (Table FactoryId Handle) := none
deriving DecidableEq

namespace Context

def empty : Context := {}

/-- The handle that is bound for `factory`. -/
def find? (cx : Context) (factory : FactoryId) : Option Handle :=
  cx.bindings.bind (·.find? factory)

/-- Whether there is no table. -/
def isEmpty (cx : Context) : Bool := cx.bindings.isNone

/-- Bind `handle` under its factory; the answer is the handle it replaces. -/
def bind (cx : Context) (handle : Handle) : Option Handle × Context :=
  let table := cx.bindings.getD .empty
  (table.find? handle.factory, { bindings := some (table.insert handle.factory handle) })

/-- Remove the binding of `factory`; the answer is the handle that was bound. -/
def unbind (cx : Context) (factory : FactoryId) : Option Handle × Context :=
  match cx.bindings with
  | none => (none, cx)
  | some table =>
    let rest := table.erase factory
    (table.find? factory, { bindings := if rest.isEmpty then none else some rest })

theorem find?_empty (f : FactoryId) : empty.find? f = none := rfl

theorem find?_bind (cx : Context) (h : Handle) (f : FactoryId) :
    (cx.bind h).2.find? f = if h.factory = f then some h else cx.find? f := by
  cases hb : cx.bindings <;> simp [find?, bind, hb, Table.find?_insert]

theorem fst_bind (cx : Context) (h : Handle) : (cx.bind h).1 = cx.find? h.factory := by
  cases hb : cx.bindings <;> simp [find?, bind, hb]

theorem fst_unbind (cx : Context) (f : FactoryId) : (cx.unbind f).1 = cx.find? f := by
  cases hb : cx.bindings <;> simp [find?, unbind, hb]

theorem find?_unbind (cx : Context) (f g : FactoryId) :
    (cx.unbind f).2.find? g = if f = g then none else cx.find? g := by
  cases hb : cx.bindings with
  | none => simp [find?, unbind, hb]
  | some table =>
    have he := Table.find?_erase table f g
    by_cases hr : (table.erase f).isEmpty = true
    · have hn : (table.erase f).find? g = none := by
        have : (table.erase f).entries = [] := List.isEmpty_iff.1 hr
        simp [Table.find?, this]
      simp only [find?, unbind, hb, hr, if_true, Option.bind_none, Option.bind_some]
      rw [← he, hn]
    · simp [find?, unbind, hb, hr, he]

end Context

/-- All contexts of a process. -/
structure Workspace where
  contexts : Table ContextId Context := .empty
  /-- How many contexts have been opened. -/
  opened : Nat := 0

/-- What may be asked of the contexts. -/
inductive ContextCommand where
  | create
  | bind (context : ContextId) (handle : Handle)
  | unbind (context : ContextId) (factory : FactoryId)
  | unbindAll (context : ContextId)
  | find (context : ContextId) (factory : FactoryId)
  | isEmpty (context : ContextId)

/-- The answer to a command: a fresh context; the handle that was replaced,
removed or found; the whole table; or whether there is one. -/
abbrev ContextCommand.Answer : ContextCommand → Type
  | .create => ContextId
  | .bind .. | .unbind .. | .find .. => Option Handle
  | .unbindAll _ => Option (Table FactoryId Handle)
  | .isEmpty _ => Bool

namespace Workspace

/-- The bindings of a context. -/
def context (w : Workspace) (cx : ContextId) : Context := (w.contexts.find? cx).getD .empty

def set (w : Workspace) (cx : ContextId) (bindings : Context) : Workspace :=
  { w with contexts := w.contexts.insert cx bindings }

/-- Answer a command. -/
def perform (w : Workspace) : (c : ContextCommand) → c.Answer × Workspace
  | .create => (⟨w.opened⟩, { w with opened := w.opened + 1 })
  | .bind cx handle =>
    let (replaced, bindings) := (w.context cx).bind handle
    (replaced, w.set cx bindings)
  | .unbind cx factory =>
    let (removed, bindings) := (w.context cx).unbind factory
    (removed, w.set cx bindings)
  | .unbindAll cx => ((w.context cx).bindings, w.set cx .empty)
  | .find cx factory => ((w.context cx).find? factory, w)
  | .isEmpty cx => ((w.context cx).isEmpty, w)

theorem context_set (w : Workspace) (cx other : ContextId) (bindings : Context) :
    (w.set cx bindings).context other = if cx = other then bindings else w.context other := by
  by_cases h : cx = other <;> simp [context, set, Table.find?_insert, h]

end Workspace

end Demarcation
