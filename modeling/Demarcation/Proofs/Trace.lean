/-
What a routine does, deed by deed.

`Task.run` executes a routine in one monad, with one way to answer each command
and each call.  The properties of a routine are to hold however it is answered
and wherever it is dropped.  So they are stated of its traces: a trace lists
the commands that were given with their answers, the calls that were awaited
with their replies, and, if the routine was dropped, the call that was pending
and the cleanup that ran then.

`Task.Traces routine deeds result` says that `deeds` may happen when `routine`
runs, and that it ends in `result` then; there is no result when it was
dropped.  Answers and replies are not restricted by it.  What restricts them is
a `step` relation on the states of the surroundings, and `Follows step deeds`
relates the states before and after all of the deeds.

`Task.exists_traces_of_run` ties both to execution: every run of a routine in a
state monad follows one of its traces.
-/
import Demarcation.Async.Task

namespace Demarcation

/-- One thing that a routine has done: it gave a command and took the answer, it
heard the reply to a call, or it was dropped while a call was pending. -/
inductive Deed (V : Vocabulary) (C : Calls) where
  | did (command : V.Command) (answer : V.Answer command)
  | heard (call : C.Call) (reply : C.Reply call)
  | lost (call : C.Call)

/-! ## States that follow one another -/

section Follows

variable {σ δ : Type}

/-- The states that `deeds` lead to, one step for each deed. -/
def Follows (step : σ → δ → σ → Prop) : List δ → σ → σ → Prop
  | [], before, after => after = before
  | deed :: deeds, before, after =>
    ∃ between, step before deed between ∧ Follows step deeds between after

variable {step : σ → δ → σ → Prop}

@[simp] theorem follows_nil {s t : σ} : Follows step [] s t ↔ t = s := Iff.rfl

@[simp] theorem follows_cons {d : δ} {ds : List δ} {s t : σ} :
    Follows step (d :: ds) s t ↔ ∃ u, step s d u ∧ Follows step ds u t := Iff.rfl

theorem follows_append {first rest : List δ} {s t : σ} :
    Follows step (first ++ rest) s t ↔
      ∃ u, Follows step first s u ∧ Follows step rest u t := by
  induction first generalizing s with
  | nil => simp
  | cons d first ih =>
      simp only [List.cons_append, follows_cons, ih]
      constructor
      · rintro ⟨u, hd, v, hfirst, hrest⟩
        exact ⟨v, ⟨u, hd, hfirst⟩, hrest⟩
      · rintro ⟨v, ⟨u, hd, hfirst⟩, hrest⟩
        exact ⟨u, hd, v, hfirst, hrest⟩

/-- A property that every one of the steps keeps holds after all of them. -/
theorem Follows.keeps {P : σ → Prop} {ds : List δ} {s t : σ}
    (hstep : ∀ d ∈ ds, ∀ u v, step u d v → P u → P v) (h : Follows step ds s t) (hs : P s) :
    P t := by
  induction ds generalizing s with
  | nil =>
      rw [follows_nil.mp h]
      exact hs
  | cons d ds ih =>
      obtain ⟨u, hd, hrest⟩ := h
      have hu : P u := hstep d List.mem_cons_self s u hd hs
      refine ih ?_ hrest hu
      intro e he
      exact hstep e (List.mem_cons_of_mem d he)

end Follows

variable {V : Vocabulary} {C : Calls} {α β : Type}

/-! ## Traces of actions -/

namespace Action

/-- `deeds` may happen when the action runs, and it ends in `value` then. -/
inductive Traces : Action V α → List (Deed V C) → α → Prop where
  | done (value : α) : Traces (.done value) [] value
  | perform {command : V.Command} {next : V.Answer command → Action V α}
      {answer : V.Answer command} {deeds : List (Deed V C)} {value : α}
      (rest : Traces (next answer) deeds value) :
      Traces (.perform command next) (.did command answer :: deeds) value

@[simp] theorem traces_done {a b : α} {ds : List (Deed V C)} :
    (Action.done a : Action V α).Traces ds b ↔ ds = [] ∧ b = a := by
  constructor
  · intro h
    cases h with
    | done => exact ⟨rfl, rfl⟩
  · rintro ⟨rfl, rfl⟩
    exact .done b

@[simp] theorem traces_perform {c : V.Command} {next : V.Answer c → Action V α}
    {ds : List (Deed V C)} {b : α} :
    (Action.perform c next).Traces ds b ↔
      ∃ r rest, ds = .did c r :: rest ∧ (next r).Traces rest b := by
  constructor
  · intro h
    cases h with
    | perform h => exact ⟨_, _, rfl, h⟩
  · rintro ⟨r, rest, rfl, h⟩
    exact .perform h

theorem traces_bind {x : Action V α} {f : α → Action V β} {ds : List (Deed V C)} {b : β} :
    (x >>= f).Traces ds b ↔
      ∃ a first rest, ds = first ++ rest ∧ x.Traces first a ∧ (f a).Traces rest b := by
  induction x generalizing ds with
  | done a =>
      simp only [done_bind, traces_done]
      constructor
      · intro h
        exact ⟨a, [], ds, rfl, ⟨rfl, rfl⟩, h⟩
      · rintro ⟨_, _, rest, rfl, ⟨rfl, rfl⟩, h⟩
        exact h
  | perform c next ih =>
      simp only [perform_bind, traces_perform, ih]
      constructor
      · rintro ⟨r, _, rfl, a, first, rest, rfl, hfirst, hrest⟩
        exact ⟨a, .did c r :: first, rest, rfl, ⟨r, first, rfl, hfirst⟩, hrest⟩
      · rintro ⟨a, _, rest, rfl, ⟨r, first, rfl, hfirst⟩, hrest⟩
        exact ⟨r, first ++ rest, rfl, a, first, rest, rfl, hfirst, hrest⟩

/-- A trace does not go on, and it determines the value. -/
theorem Traces.eq_of_append {x : Action V α} {ds es : List (Deed V C)} {a b : α}
    (h : x.Traces ds a) (h' : x.Traces (ds ++ es) b) : es = [] ∧ b = a := by
  induction h with
  | done => exact traces_done.mp h'
  | perform _ ih =>
      obtain ⟨_, _, hcons, hrest⟩ := traces_perform.mp h'
      cases hcons
      exact ih hrest

end Action

/-! ## Traces of tasks -/

namespace Task

/-- `deeds` may happen when the routine runs, and it ends in `result` then; it has
no result when it was dropped. -/
inductive Traces : Task V C α → List (Deed V C) → Option α → Prop where
  | done (value : α) : Traces (.done value) [] (some value)
  | perform {command : V.Command} {next : V.Answer command → Task V C α}
      {answer : V.Answer command} {deeds : List (Deed V C)} {result : Option α}
      (rest : Traces (next answer) deeds result) :
      Traces (.perform command next) (.did command answer :: deeds) result
  | heard {call : C.Call} {onDrop : Action V Unit} {next : C.Reply call → Task V C α}
      {reply : C.Reply call} {deeds : List (Deed V C)} {result : Option α}
      (rest : Traces (next reply) deeds result) :
      Traces (.await call onDrop next) (.heard call reply :: deeds) result
  | lost {call : C.Call} {onDrop : Action V Unit} {next : C.Reply call → Task V C α}
      {deeds : List (Deed V C)} (cleanup : onDrop.Traces deeds ()) :
      Traces (.await call onDrop next) (.lost call :: deeds) none

/-- A trace does not go on, and it determines the result. -/
theorem Traces.eq_of_append {x : Task V C α} {ds es : List (Deed V C)} {v v' : Option α}
    (h : x.Traces ds v) (h' : x.Traces (ds ++ es) v') : es = [] ∧ v' = v := by
  induction h with
  | done =>
      cases h' with
      | done => exact ⟨rfl, rfl⟩
  | perform _ ih =>
      cases h' with
      | perform hrest => exact ih hrest
  | heard _ ih =>
      cases h' with
      | heard hrest => exact ih hrest
  | lost hcleanup =>
      cases h' with
      | lost hrest => exact ⟨(hcleanup.eq_of_append hrest).1, rfl⟩

/-- A routine that ends has lost no call. -/
theorem Traces.lost_notMem {x : Task V C α} {ds : List (Deed V C)} {v : Option α}
    (h : x.Traces ds v) (hv : v ≠ none) (c : C.Call) : .lost c ∉ ds := by
  induction h with
  | done => exact List.not_mem_nil
  | perform _ ih =>
      intro hmem
      rcases List.mem_cons.mp hmem with hd | hrest
      · cases hd
      · exact ih hv hrest
  | heard _ ih =>
      intro hmem
      rcases List.mem_cons.mp hmem with hd | hrest
      · cases hd
      · exact ih hv hrest
  | lost => exact absurd rfl hv

@[simp] theorem traces_done {a : α} {ds : List (Deed V C)} {v : Option α} :
    (Task.done a : Task V C α).Traces ds v ↔ ds = [] ∧ v = some a := by
  constructor
  · intro h
    cases h with
    | done => exact ⟨rfl, rfl⟩
  · rintro ⟨rfl, rfl⟩
    exact .done a

@[simp] theorem traces_perform {c : V.Command} {next : V.Answer c → Task V C α}
    {ds : List (Deed V C)} {v : Option α} :
    (Task.perform c next).Traces ds v ↔
      ∃ r rest, ds = .did c r :: rest ∧ (next r).Traces rest v := by
  constructor
  · intro h
    cases h with
    | perform h => exact ⟨_, _, rfl, h⟩
  · rintro ⟨r, rest, rfl, h⟩
    exact .perform h

@[simp] theorem traces_await {c : C.Call} {onDrop : Action V Unit}
    {next : C.Reply c → Task V C α} {ds : List (Deed V C)} {v : Option α} :
    (Task.await c onDrop next).Traces ds v ↔
      (∃ r rest, ds = .heard c r :: rest ∧ (next r).Traces rest v) ∨
      (∃ rest, ds = .lost c :: rest ∧ v = none ∧ onDrop.Traces rest ()) := by
  constructor
  · intro h
    cases h with
    | heard h => exact Or.inl ⟨_, _, rfl, h⟩
    | lost h => exact Or.inr ⟨_, rfl, rfl, h⟩
  · rintro (⟨r, rest, rfl, h⟩ | ⟨rest, rfl, rfl, h⟩)
    · exact .heard h
    · exact .lost h

/-- An action is never dropped. -/
@[simp] theorem traces_ofAction {x : Action V α} {ds : List (Deed V C)} {v : Option α} :
    (ofAction x : Task V C α).Traces ds v ↔ ∃ a, v = some a ∧ x.Traces ds a := by
  induction x generalizing ds with
  | done a =>
      simp only [ofAction_done, traces_done, Action.traces_done]
      constructor
      · rintro ⟨rfl, rfl⟩
        exact ⟨a, rfl, rfl, rfl⟩
      · rintro ⟨_, rfl, rfl, rfl⟩
        exact ⟨rfl, rfl⟩
  | perform c next ih =>
      simp only [ofAction_perform, traces_perform, Action.traces_perform, ih]
      constructor
      · rintro ⟨r, rest, rfl, a, rfl, h⟩
        exact ⟨a, rfl, r, rest, rfl, h⟩
      · rintro ⟨a, rfl, r, rest, rfl, h⟩
        exact ⟨r, rest, rfl, a, rfl, h⟩

/-- A sequence runs its first part to the end and then its second part, or is
dropped in the first part. -/
theorem traces_bind {x : Task V C α} {f : α → Task V C β} {ds : List (Deed V C)}
    {v : Option β} :
    (x >>= f).Traces ds v ↔
      (∃ a first rest, ds = first ++ rest ∧ x.Traces first (some a) ∧ (f a).Traces rest v) ∨
      (x.Traces ds none ∧ v = none) := by
  induction x generalizing ds with
  | done a =>
      simp only [done_bind, traces_done]
      constructor
      · intro h
        exact Or.inl ⟨a, [], ds, rfl, ⟨rfl, rfl⟩, h⟩
      · rintro (⟨_, _, rest, rfl, ⟨rfl, ha⟩, h⟩ | ⟨⟨-, hv⟩, -⟩)
        · cases ha
          exact h
        · cases hv
  | perform c next ih =>
      simp only [perform_bind, traces_perform, ih]
      constructor
      · rintro ⟨r, _, rfl, ⟨a, first, rest, rfl, hfirst, hrest⟩ | ⟨h, rfl⟩⟩
        · exact Or.inl ⟨a, .did c r :: first, rest, rfl, ⟨r, first, rfl, hfirst⟩, hrest⟩
        · exact Or.inr ⟨⟨r, _, rfl, h⟩, rfl⟩
      · rintro (⟨a, _, rest, rfl, ⟨r, first, rfl, hfirst⟩, hrest⟩ | ⟨⟨r, rest, rfl, h⟩, rfl⟩)
        · exact ⟨r, first ++ rest, rfl, Or.inl ⟨a, first, rest, rfl, hfirst, hrest⟩⟩
        · exact ⟨r, rest, rfl, Or.inr ⟨h, rfl⟩⟩
  | await c onDrop next ih =>
      simp only [await_bind, traces_await, ih]
      constructor
      · rintro (⟨r, _, rfl, ⟨a, first, rest, rfl, hfirst, hrest⟩ | ⟨h, rfl⟩⟩ | ⟨rest, rfl, rfl, h⟩)
        · exact Or.inl
            ⟨a, .heard c r :: first, rest, rfl, Or.inl ⟨r, first, rfl, hfirst⟩, hrest⟩
        · exact Or.inr ⟨Or.inl ⟨r, _, rfl, h⟩, rfl⟩
        · exact Or.inr ⟨Or.inr ⟨rest, rfl, trivial, h⟩, rfl⟩
      · rintro (⟨a, _, rest, rfl, ⟨r, first, rfl, hfirst⟩ | ⟨_, -, hv, -⟩, hrest⟩ |
          ⟨⟨r, rest, rfl, h⟩ | ⟨rest, rfl, -, h⟩, rfl⟩)
        · exact Or.inl ⟨r, first ++ rest, rfl, Or.inl ⟨a, first, rest, rfl, hfirst, hrest⟩⟩
        · cases hv
        · exact Or.inl ⟨r, rest, rfl, Or.inr ⟨h, rfl⟩⟩
        · exact Or.inr ⟨rest, rfl, rfl, h⟩

/-- Where the first part of a sequence has come to its end, the second part goes on. -/
theorem traces_of_bind {x : Task V C α} {f : α → Task V C β} {first rest : List (Deed V C)}
    {a : α} {v : Option β} (hfirst : x.Traces first (some a))
    (h : (x >>= f).Traces (first ++ rest) v) : (f a).Traces rest v := by
  induction x generalizing first with
  | done b =>
      obtain ⟨rfl, hb⟩ := traces_done.mp hfirst
      cases hb
      exact h
  | perform c next ih =>
      obtain ⟨r, later, rfl, hlater⟩ := traces_perform.mp hfirst
      obtain ⟨_, _, hcons, hnext⟩ := traces_perform.mp h
      cases hcons
      exact ih r hlater hnext
  | await c onDrop next ih =>
      rcases traces_await.mp hfirst with ⟨r, later, rfl, hlater⟩ | ⟨_, _, hnone, _⟩
      · rcases traces_await.mp h with ⟨_, _, hcons, hnext⟩ | ⟨_, hcons, _⟩
        · cases hcons
          exact ih r hlater hnext
        · cases hcons
      · cases hnone

/-- A single call, with nothing owed. -/
theorem traces_call {call : C.Call} {ds : List (Deed V C)} {v : Option (C.Reply call)} :
    (Task.await call (.done ()) .done : Task V C (C.Reply call)).Traces ds v ↔
      (∃ r, ds = [.heard call r] ∧ v = some r) ∨ (ds = [.lost call] ∧ v = none) := by
  simp only [traces_await, traces_done, Action.traces_done]
  constructor
  · rintro (⟨r, _, rfl, rfl, rfl⟩ | ⟨_, rfl, rfl, rfl, -⟩)
    · exact Or.inl ⟨r, rfl, rfl⟩
    · exact Or.inr ⟨rfl, rfl⟩
  · rintro (⟨r, rfl, rfl⟩ | ⟨rfl, rfl⟩)
    · exact Or.inl ⟨r, [], rfl, rfl, rfl⟩
    · exact Or.inr ⟨[], rfl, rfl, rfl, trivial⟩

/-- A second part that only turns the value into another one. -/
theorem traces_bind_done {x : Task V C α} {f : α → Task V C β} {g : α → β}
    (hf : ∀ a, f a = .done (g a)) {ds : List (Deed V C)} {v : Option β} :
    (x >>= f).Traces ds v ↔ ∃ r, x.Traces ds r ∧ v = r.map g := by
  rw [traces_bind]
  constructor
  · rintro (⟨a, first, rest, rfl, hfirst, hrest⟩ | ⟨h, rfl⟩)
    · rw [hf] at hrest
      obtain ⟨rfl, rfl⟩ := traces_done.mp hrest
      rw [List.append_nil]
      exact ⟨some a, hfirst, rfl⟩
    · exact ⟨none, h, rfl⟩
  · rintro ⟨_ | a, h, rfl⟩
    · exact Or.inr ⟨h, rfl⟩
    · refine Or.inl ⟨a, ds, [], (List.append_nil ds).symm, h, ?_⟩
      rw [hf]
      exact .done (g a)

theorem traces_ofAction_bind {x : Action V α} {f : α → Task V C β} {ds : List (Deed V C)}
    {v : Option β} :
    (ofAction x >>= f).Traces ds v ↔
      ∃ a first rest, ds = first ++ rest ∧ x.Traces first a ∧ (f a).Traces rest v := by
  simp only [traces_bind, traces_ofAction]
  constructor
  · rintro (⟨a, first, rest, rfl, ⟨_, ha, hfirst⟩, hrest⟩ | ⟨⟨_, hnone, -⟩, -⟩)
    · cases ha
      exact ⟨a, first, rest, rfl, hfirst, hrest⟩
    · cases hnone
  · rintro ⟨a, first, rest, rfl, hfirst, hrest⟩
    exact Or.inl ⟨a, first, rest, rfl, ⟨a, rfl, hfirst⟩, hrest⟩

/-- A cleanup changes nothing unless the routine is dropped, and then it comes
last. -/
theorem traces_guarded {x : Task V C α} {cleanup : Action V Unit} {ds : List (Deed V C)}
    {v : Option α} :
    (x.guarded cleanup).Traces ds v ↔
      (v ≠ none ∧ x.Traces ds v) ∨
      (v = none ∧ ∃ first last, ds = first ++ last ∧ x.Traces first none ∧
        cleanup.Traces last ()) := by
  induction x generalizing ds with
  | done a =>
      simp only [guarded, traces_done]
      constructor
      · rintro ⟨rfl, rfl⟩
        exact Or.inl ⟨Option.some_ne_none a, rfl, rfl⟩
      · rintro (⟨-, h⟩ | ⟨-, _, _, -, ⟨-, hv⟩, -⟩)
        · exact h
        · cases hv
  | perform c next ih =>
      simp only [guarded, traces_perform, ih]
      constructor
      · rintro ⟨r, _, rfl, ⟨hv, h⟩ | ⟨rfl, first, last, rfl, hfirst, hlast⟩⟩
        · exact Or.inl ⟨hv, r, _, rfl, h⟩
        · exact Or.inr ⟨rfl, .did c r :: first, last, rfl, ⟨r, first, rfl, hfirst⟩, hlast⟩
      · rintro (⟨hv, r, rest, rfl, h⟩ | ⟨rfl, _, last, rfl, ⟨r, first, rfl, hfirst⟩, hlast⟩)
        · exact ⟨r, rest, rfl, Or.inl ⟨hv, h⟩⟩
        · exact ⟨r, first ++ last, rfl, Or.inr ⟨rfl, first, last, rfl, hfirst, hlast⟩⟩
  | await c onDrop next ih =>
      simp only [guarded, traces_await, ih, Action.traces_bind]
      constructor
      · rintro (⟨r, _, rfl, ⟨hv, h⟩ | ⟨rfl, first, last, rfl, hfirst, hlast⟩⟩ |
          ⟨_, rfl, rfl, _, first, last, rfl, hfirst, hlast⟩)
        · exact Or.inl ⟨hv, Or.inl ⟨r, _, rfl, h⟩⟩
        · exact Or.inr
            ⟨rfl, .heard c r :: first, last, rfl, Or.inl ⟨r, first, rfl, hfirst⟩, hlast⟩
        · exact Or.inr
            ⟨rfl, .lost c :: first, last, rfl, Or.inr ⟨first, rfl, trivial, hfirst⟩, hlast⟩
      · rintro (⟨hv, ⟨r, rest, rfl, h⟩ | ⟨_, -, hnone, -⟩⟩ |
          ⟨rfl, _, last, rfl, ⟨r, first, rfl, hfirst⟩ | ⟨first, rfl, -, hfirst⟩, hlast⟩)
        · exact Or.inl ⟨r, rest, rfl, Or.inl ⟨hv, h⟩⟩
        · exact absurd hnone hv
        · exact Or.inl ⟨r, first ++ last, rfl, Or.inr ⟨rfl, first, last, rfl, hfirst, hlast⟩⟩
        · exact Or.inr ⟨first ++ last, rfl, rfl, (), first, last, rfl, hfirst, hlast⟩

end Task

/-! ## Execution follows a trace

A state monad's way to answer conforms to `step` if each answer, each reply and
each missing reply is a step of it. -/

section Execution

variable {σ : Type} {step : σ → Deed V C → σ → Prop}

/-- Every answer is a step. -/
def AnswersBy (step : σ → Deed V C → σ → Prop)
    (answer : (c : V.Command) → StateM σ (V.Answer c)) : Prop :=
  ∀ c s, step s (.did c ((answer c).run s).1) ((answer c).run s).2

/-- The deed that a call amounts to: its reply was heard, or it was lost. -/
def Deed.ofReply (c : C.Call) : Option (C.Reply c) → Deed V C
  | some r => .heard c r
  | none => .lost c

/-- Every reply, and every call that is not replied to, is a step. -/
def RepliesBy (step : σ → Deed V C → σ → Prop)
    (reply? : (c : C.Call) → StateM σ (Option (C.Reply c))) : Prop :=
  ∀ c s, step s (.ofReply c ((reply? c).run s).1) ((reply? c).run s).2

theorem Action.exists_traces_of_run {answer : (c : V.Command) → StateM σ (V.Answer c)}
    (hanswer : AnswersBy step answer) (x : Action V α) (s : σ) :
    ∃ ds, x.Traces ds ((x.run answer).run s).1 ∧
      Follows step ds s ((x.run answer).run s).2 := by
  induction x generalizing s with
  | done a => exact ⟨[], .done a, rfl⟩
  | perform c next ih =>
      obtain ⟨ds, htraces, hfollows⟩ := ih ((answer c).run s).1 ((answer c).run s).2
      exact ⟨_, .perform htraces, _, hanswer c s, hfollows⟩

/-- Every run follows a trace, and the states before and after it are those that
the trace leads to. -/
theorem Task.exists_traces_of_run {around : Surroundings V C (StateM σ)}
    (hanswer : AnswersBy step around.answer) (hreply : RepliesBy step around.reply?)
    (x : Task V C α) (s : σ) :
    ∃ ds, x.Traces ds ((x.run around).run s).1 ∧
      Follows step ds s ((x.run around).run s).2 := by
  induction x generalizing s with
  | done a => exact ⟨[], .done a, rfl⟩
  | perform c next ih =>
      obtain ⟨ds, htraces, hfollows⟩ := ih ((around.answer c).run s).1 ((around.answer c).run s).2
      exact ⟨_, .perform htraces, _, hanswer c s, hfollows⟩
  | await c onDrop next ih =>
      have hstep := hreply c s
      have hrun : ((Task.await c onDrop next).run around).run s =
          StateT.run (match ((around.reply? c).run s).1 with
            | some r => (next r).run around
            | none => do
              onDrop.run around.answer
              pure none) ((around.reply? c).run s).2 := by
        rw [Task.run]
        rfl
      rcases hr : (around.reply? c).run s with ⟨_ | r, t⟩
      · obtain ⟨ds, htraces, hfollows⟩ := Action.exists_traces_of_run hanswer onDrop t
        rw [hr] at hstep hrun
        rw [hrun]
        exact ⟨.lost c :: ds, .lost htraces, t, hstep, hfollows⟩
      · obtain ⟨ds, htraces, hfollows⟩ := ih r t
        rw [hr] at hstep hrun
        rw [hrun]
        exact ⟨.heard c r :: ds, .heard htraces, t, hstep, hfollows⟩

end Execution

end Demarcation
