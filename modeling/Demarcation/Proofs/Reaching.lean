/-
From one state to another.

A trace tells every deed of a routine.  Often nothing matters but where the
routine comes from and where it goes: `Task.Reaches step routine before result
after` says that the routine may run from the one state to the other and end in
`result`, by deeds that are steps.  There is no result when it was dropped.

Each shape of a routine has its equivalence here, so that a routine is opened by
rewriting, one piece after the other, without a word on the list of its deeds.
-/
import Demarcation.Proofs.Trace

namespace Demarcation

variable {V : Vocabulary} {C : Calls} {α β σ : Type}

/-- The action may lead from one state to the other and end in `value`. -/
def Action.Reaches (step : σ → Deed V C → σ → Prop) (action : Action V α) (before : σ)
    (value : α) (after : σ) : Prop :=
  ∃ deeds, action.Traces deeds value ∧ Follows step deeds before after

/-- The routine may lead from one state to the other and end in `result`. -/
def Task.Reaches (step : σ → Deed V C → σ → Prop) (routine : Task V C α) (before : σ)
    (result : Option α) (after : σ) : Prop :=
  ∃ deeds, routine.Traces deeds result ∧ Follows step deeds before after

variable {step : σ → Deed V C → σ → Prop} {s t : σ}

namespace Action

variable {a b : α}

@[simp] theorem reaches_done : (Action.done a).Reaches step s b t ↔ b = a ∧ t = s := by
  constructor
  · rintro ⟨ds, htraces, hfollows⟩
    obtain ⟨rfl, rfl⟩ := traces_done.mp htraces
    exact ⟨rfl, follows_nil.mp hfollows⟩
  · rintro ⟨rfl, rfl⟩
    exact ⟨[], .done b, rfl⟩

@[simp] theorem reaches_perform {c : V.Command} {next : V.Answer c → Action V α} :
    (Action.perform c next).Reaches step s b t ↔
      ∃ r u, step s (.did c r) u ∧ (next r).Reaches step u b t := by
  constructor
  · rintro ⟨ds, htraces, hfollows⟩
    obtain ⟨r, rest, rfl, hrest⟩ := traces_perform.mp htraces
    obtain ⟨u, hstep, hlater⟩ := hfollows
    exact ⟨r, u, hstep, rest, hrest, hlater⟩
  · rintro ⟨r, u, hstep, rest, hrest, hlater⟩
    exact ⟨.did c r :: rest, .perform hrest, u, hstep, hlater⟩

theorem reaches_bind {x : Action V α} {f : α → Action V β} {b : β} :
    (x >>= f).Reaches step s b t ↔
      ∃ a u, x.Reaches step s a u ∧ (f a).Reaches step u b t := by
  constructor
  · rintro ⟨ds, htraces, hfollows⟩
    obtain ⟨a, first, rest, rfl, hfirst, hrest⟩ := traces_bind.mp htraces
    obtain ⟨u, hbefore, hafter⟩ := follows_append.mp hfollows
    exact ⟨a, u, ⟨first, hfirst, hbefore⟩, rest, hrest, hafter⟩
  · rintro ⟨a, u, ⟨first, hfirst, hbefore⟩, rest, hrest, hafter⟩
    exact ⟨first ++ rest, traces_bind.mpr ⟨a, first, rest, rfl, hfirst, hrest⟩,
      follows_append.mpr ⟨u, hbefore, hafter⟩⟩

end Action

namespace Task

variable {a : α} {v : Option α} {x : Task V C α}

@[simp] theorem reaches_done : (Task.done a).Reaches step s v t ↔ v = some a ∧ t = s := by
  constructor
  · rintro ⟨ds, htraces, hfollows⟩
    obtain ⟨rfl, rfl⟩ := traces_done.mp htraces
    exact ⟨rfl, follows_nil.mp hfollows⟩
  · rintro ⟨rfl, rfl⟩
    exact ⟨[], .done a, rfl⟩

@[simp] theorem reaches_perform {c : V.Command} {next : V.Answer c → Task V C α} :
    (Task.perform c next).Reaches step s v t ↔
      ∃ r u, step s (.did c r) u ∧ (next r).Reaches step u v t := by
  constructor
  · rintro ⟨ds, htraces, hfollows⟩
    obtain ⟨r, rest, rfl, hrest⟩ := traces_perform.mp htraces
    obtain ⟨u, hstep, hlater⟩ := hfollows
    exact ⟨r, u, hstep, rest, hrest, hlater⟩
  · rintro ⟨r, u, hstep, rest, hrest, hlater⟩
    exact ⟨.did c r :: rest, .perform hrest, u, hstep, hlater⟩

@[simp] theorem reaches_await {c : C.Call} {onDrop : Action V Unit}
    {next : C.Reply c → Task V C α} :
    (Task.await c onDrop next).Reaches step s v t ↔
      (∃ r u, step s (.heard c r) u ∧ (next r).Reaches step u v t) ∨
      (v = none ∧ ∃ u, step s (.lost c) u ∧ onDrop.Reaches step u () t) := by
  constructor
  · rintro ⟨ds, htraces, hfollows⟩
    rcases traces_await.mp htraces with ⟨r, rest, rfl, hrest⟩ | ⟨rest, rfl, rfl, hrest⟩
    · obtain ⟨u, hstep, hlater⟩ := hfollows
      exact Or.inl ⟨r, u, hstep, rest, hrest, hlater⟩
    · obtain ⟨u, hstep, hlater⟩ := hfollows
      exact Or.inr ⟨rfl, u, hstep, rest, hrest, hlater⟩
  · rintro (⟨r, u, hstep, rest, hrest, hlater⟩ | ⟨rfl, u, hstep, rest, hrest, hlater⟩)
    · exact ⟨.heard c r :: rest, .heard hrest, u, hstep, hlater⟩
    · exact ⟨.lost c :: rest, .lost hrest, u, hstep, hlater⟩

/-- A sequence goes through its first part and then through its second part, or is
dropped in the first part. -/
theorem reaches_bind {f : α → Task V C β} {w : Option β} :
    (x >>= f).Reaches step s w t ↔
      (∃ a u, x.Reaches step s (some a) u ∧ (f a).Reaches step u w t) ∨
      (w = none ∧ x.Reaches step s none t) := by
  constructor
  · rintro ⟨ds, htraces, hfollows⟩
    rcases traces_bind.mp htraces with ⟨a, first, rest, rfl, hfirst, hrest⟩ | ⟨hfirst, rfl⟩
    · obtain ⟨u, hbefore, hafter⟩ := follows_append.mp hfollows
      exact Or.inl ⟨a, u, ⟨first, hfirst, hbefore⟩, rest, hrest, hafter⟩
    · exact Or.inr ⟨rfl, ds, hfirst, hfollows⟩
  · rintro (⟨a, u, ⟨first, hfirst, hbefore⟩, rest, hrest, hafter⟩ | ⟨rfl, ds, hfirst, hfollows⟩)
    · exact ⟨first ++ rest, traces_bind.mpr (Or.inl ⟨a, first, rest, rfl, hfirst, hrest⟩),
        follows_append.mpr ⟨u, hbefore, hafter⟩⟩
    · exact ⟨ds, traces_bind.mpr (Or.inr ⟨hfirst, rfl⟩), hfollows⟩

/-- A second part that only turns the value into another one. -/
theorem reaches_bind_done {f : α → Task V C β} {g : α → β} (hf : ∀ a, f a = .done (g a))
    {w : Option β} :
    (x >>= f).Reaches step s w t ↔ ∃ r, x.Reaches step s r t ∧ w = r.map g := by
  simp only [Reaches, traces_bind_done hf]
  constructor
  · rintro ⟨ds, ⟨r, htraces, rfl⟩, hfollows⟩
    exact ⟨r, ⟨ds, htraces, hfollows⟩, rfl⟩
  · rintro ⟨r, ⟨ds, htraces, hfollows⟩, rfl⟩
    exact ⟨ds, ⟨r, htraces, rfl⟩, hfollows⟩

/-- A cleanup follows where the routine was dropped, and nowhere else. -/
theorem reaches_guarded {cleanup : Action V Unit} :
    (x.guarded cleanup).Reaches step s v t ↔
      (v ≠ none ∧ x.Reaches step s v t) ∨
      (v = none ∧ ∃ u, x.Reaches step s none u ∧ cleanup.Reaches step u () t) := by
  constructor
  · rintro ⟨ds, htraces, hfollows⟩
    rcases traces_guarded.mp htraces with ⟨hv, htraces⟩ | ⟨rfl, first, last, rfl, hfirst, hlast⟩
    · exact Or.inl ⟨hv, ds, htraces, hfollows⟩
    · obtain ⟨u, hbefore, hafter⟩ := follows_append.mp hfollows
      exact Or.inr ⟨rfl, u, ⟨first, hfirst, hbefore⟩, last, hlast, hafter⟩
  · rintro (⟨hv, ds, htraces, hfollows⟩ | ⟨rfl, u, ⟨first, hfirst, hbefore⟩, last, hlast, hafter⟩)
    · exact ⟨ds, traces_guarded.mpr (Or.inl ⟨hv, htraces⟩), hfollows⟩
    · exact ⟨first ++ last, traces_guarded.mpr (Or.inr ⟨rfl, first, last, rfl, hfirst, hlast⟩),
        follows_append.mpr ⟨u, hbefore, hafter⟩⟩

end Task

end Demarcation
