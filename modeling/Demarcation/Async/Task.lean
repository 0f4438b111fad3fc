/-
Routines that wait, as data.

A routine of this library opens handles, binds them, commits and releases, and
between two such steps it may have to wait for somebody else: for a factory,
for a handle, for a database server.  While it waits it may be dropped, and
then it never goes on.  To say what happens in every such case, a routine is a
tree: at each node it either ends, performs a command that is answered at
once, or awaits a call.  An awaited call carries the cleanup that runs when the
routine is dropped right there.

`Action` is the fragment without waiting; it can not be interrupted, and
cleanups are made of it.  `Task.guarded` adds a cleanup to every wait of a
routine.  `Task.run` executes a tree in any monad that knows how to answer its
commands and calls; the routine itself is never looked into again, so what is
proved of the tree holds of every run.
-/

namespace Demarcation

/-- The commands of a routine.  A command is answered at once. -/
structure Vocabulary where
  Command : Type
  Answer : Command → Type

/-- The calls of a routine.  A call is awaited, and its caller may be dropped in
the meantime. -/
structure Calls where
  Call : Type
  Reply : Call → Type

/-- A routine that never waits. -/
inductive Action (V : Vocabulary) (α : Type) : Type where
  | done (value : α)
  | perform (command : V.Command) (next : V.Answer command → Action V α)

/-- A routine that may wait.  `onDrop` is the cleanup that is owed when the
routine is dropped while the call is pending. -/
inductive Task (V : Vocabulary) (C : Calls) (α : Type) : Type where
  | done (value : α)
  | perform (command : V.Command) (next : V.Answer command → Task V C α)
  | await (call : C.Call) (onDrop : Action V Unit) (next : C.Reply call → Task V C α)

variable {V : Vocabulary} {C : Calls} {α β γ : Type}

/-! ## Actions -/

namespace Action

/-- Run `first`, then what `next` makes of its value. -/
def andThen (first : Action V α) (next : α → Action V β) : Action V β :=
  match first with
  | .done value => next value
  | .perform command rest => .perform command fun answer => (rest answer).andThen next

instance : Monad (Action V) where
  pure := .done
  bind := andThen

@[simp] theorem pure_eq_done (a : α) : (pure a : Action V α) = .done a := rfl

@[simp] theorem done_bind (a : α) (f : α → Action V β) : (Action.done a >>= f) = f a := rfl

@[simp] theorem perform_bind (c : V.Command) (k : V.Answer c → Action V α)
    (f : α → Action V β) : (Action.perform c k >>= f) = .perform c fun r => k r >>= f := rfl

theorem bind_done (x : Action V α) : (x >>= Action.done) = x := by
  induction x with
  | done a => rfl
  | perform c k ih => simp only [perform_bind]; congr 1; funext r; exact ih r

theorem bind_assoc (x : Action V α) (f : α → Action V β) (g : β → Action V γ) :
    (x >>= f >>= g) = x >>= fun a => f a >>= g := by
  induction x with
  | done a => rfl
  | perform c k ih => simp only [perform_bind]; congr 1; funext r; exact ih r

instance : LawfulMonad (Action V) :=
  LawfulMonad.mk' _ bind_done (fun _ _ => rfl) bind_assoc

/-- Execute an action in a monad that answers commands. -/
def run {m : Type → Type} [Monad m] (answer : (c : V.Command) → m (V.Answer c)) :
    Action V α → m α
  | .done value => pure value
  | .perform command next => do
    let r ← answer command
    (next r).run answer

end Action

/-! ## Tasks -/

namespace Task

/-- Run `first`, then what `next` makes of its value. -/
def andThen (first : Task V C α) (next : α → Task V C β) : Task V C β :=
  match first with
  | .done value => next value
  | .perform command rest => .perform command fun answer => (rest answer).andThen next
  | .await call onDrop rest => .await call onDrop fun reply => (rest reply).andThen next

instance : Monad (Task V C) where
  pure := .done
  bind := andThen

/-- An action as a routine that happens not to wait. -/
def ofAction : Action V α → Task V C α
  | .done value => .done value
  | .perform command next => .perform command fun answer => ofAction (next answer)

instance : MonadLift (Action V) (Task V C) where
  monadLift := ofAction

/-- `routine`, with `cleanup` owed wherever it waits.  The cleanups that
`routine` already owes come first: what was opened last is undone first. -/
def guarded (routine : Task V C α) (cleanup : Action V Unit) : Task V C α :=
  match routine with
  | .done value => .done value
  | .perform command next => .perform command fun answer => (next answer).guarded cleanup
  | .await call onDrop next =>
    .await call (onDrop >>= fun _ => cleanup) fun reply => (next reply).guarded cleanup

@[simp] theorem pure_eq_done (a : α) : (pure a : Task V C α) = .done a := rfl

@[simp] theorem done_bind (a : α) (f : α → Task V C β) : (Task.done a >>= f) = f a := rfl

@[simp] theorem perform_bind (c : V.Command) (k : V.Answer c → Task V C α) (f : α → Task V C β) :
    (Task.perform c k >>= f) = .perform c fun r => k r >>= f := rfl

@[simp] theorem await_bind (c : C.Call) (d : Action V Unit) (k : C.Reply c → Task V C α)
    (f : α → Task V C β) : (Task.await c d k >>= f) = .await c d fun r => k r >>= f := rfl

theorem bind_done (x : Task V C α) : (x >>= Task.done) = x := by
  induction x with
  | done a => rfl
  | perform c k ih => simp only [perform_bind]; congr 1; funext r; exact ih r
  | await c d k ih => simp only [await_bind]; congr 1; funext r; exact ih r

theorem bind_assoc (x : Task V C α) (f : α → Task V C β) (g : β → Task V C γ) :
    (x >>= f >>= g) = x >>= fun a => f a >>= g := by
  induction x with
  | done a => rfl
  | perform c k ih => simp only [perform_bind]; congr 1; funext r; exact ih r
  | await c d k ih => simp only [await_bind]; congr 1; funext r; exact ih r

instance : LawfulMonad (Task V C) :=
  LawfulMonad.mk' _ bind_done (fun _ _ => rfl) bind_assoc

@[simp] theorem liftM_eq_ofAction (x : Action V α) :
    (liftM x : Task V C α) = ofAction x := rfl

@[simp] theorem ofAction_done (a : α) : (ofAction (.done a) : Task V C α) = .done a := rfl

@[simp] theorem ofAction_perform (c : V.Command) (k : V.Answer c → Action V α) :
    (ofAction (.perform c k) : Task V C α) = .perform c fun r => ofAction (k r) := rfl

@[simp] theorem ofAction_bind (x : Action V α)
    (f : α → Action V β) :
    (ofAction (x >>= f) : Task V C β) = ofAction x >>= fun a => ofAction (f a) := by
  induction x with
  | done a => rfl
  | perform c k ih => simp only [Action.perform_bind, ofAction, perform_bind, ih]

/-- A cleanup does not change a routine that never waits. -/
@[simp] theorem ofAction_guarded (x : Action V α) (cleanup : Action V Unit) :
    (ofAction x : Task V C α).guarded cleanup = ofAction x := by
  induction x with
  | done a => rfl
  | perform c k ih => simp only [ofAction, guarded, ih]

theorem bind_guarded (x : Task V C α) (f : α → Task V C β) (cleanup : Action V Unit) :
    (x >>= f).guarded cleanup = x.guarded cleanup >>= fun a => (f a).guarded cleanup := by
  induction x with
  | done a => rfl
  | perform c k ih => simp only [perform_bind, guarded, ih]
  | await c d k ih => simp only [await_bind, guarded, ih]

end Task

/-! ## Execution -/

/-- How commands and calls are answered in a monad.  A call without a reply is
one that its caller was dropped in. -/
structure Surroundings (V : Vocabulary) (C : Calls) (m : Type → Type) where
  answer : (c : V.Command) → m (V.Answer c)
  reply? : (c : C.Call) → m (Option (C.Reply c))

/-- Execute a routine.  There is no value when it was dropped; its cleanup has
run then. -/
def Task.run {m : Type → Type} [Monad m] (around : Surroundings V C m) :
    Task V C α → m (Option α)
  | .done value => pure (some value)
  | .perform command next => do
    let r ← around.answer command
    (next r).run around
  | .await call onDrop next => do
    match ← around.reply? call with
    | some r => (next r).run around
    | none =>
      onDrop.run around.answer
      pure none

end Demarcation
