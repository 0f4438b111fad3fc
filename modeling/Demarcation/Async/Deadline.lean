/-
Routines under a time limit.

`Task.within limit` turns a routine into one that gives up after `limit`.  The
calls of that one carry the time that is left, and a reply comes with the time
that it took; no reply means that the limit passed first.  Then the pending call
is dropped with the cleanup it owes, and the routine has no value.
-/
import Demarcation.Async.Task
import Demarcation.Duration

namespace Demarcation

/-- The calls `C`, where each carries the time that is left for it, and each
reply the time that it took. -/
@[reducible] def Calls.timed (C : Calls) : Calls where
  Call := Duration × C.Call
  Reply c := Option (C.Reply c.2 × Duration)

/-- `routine`, given up when `limit` has passed.  Commands take no time. -/
def Task.within {V : Vocabulary} {C : Calls} {α : Type} (limit : Duration)
    (routine : Task V C α) : Task V C.timed (Option α) :=
  match routine with
  | .done value => .done (some value)
  | .perform command next => .perform command fun answer => (next answer).within limit
  | .await call onDrop next =>
    .await (limit, call) onDrop fun
      | some (reply, taken) => (next reply).within (limit.remaining taken)
      | none => Task.ofAction onDrop >>= fun _ => .done none

end Demarcation
