/-
What a shared handle forwards.

`SharedHandle.Invokes` lists what may happen when a shared handle is invoked:
nothing is bound for its factory, or the bound handle `Receives` the operation,
which it is refused if it is mutating and there is no transaction.
`SharedHandle.traces_invoke` is an equivalence.

Code that uses shared handles only does no more than this.  `Task.Conforms`
bounds each deed of a routine by what has been done before it, and
`SharedOnly.conforms` says which deeds such code makes: it looks handles up in
its context, and it asks no handle that it has not found there.
-/
import Demarcation.Proofs.Applications
import Demarcation.Proofs.CallOrder

namespace Demarcation

variable {app : Jobs} {α β : Type}

/-! ## Routines within bounds -/

section Each

variable {δ : Type} {allowed : List δ → δ → Prop} {earlier ds : List δ}

theorem each_of_splits
    (h : ∀ pre d post, ds = pre ++ d :: post → allowed (earlier ++ pre) d) :
    Each allowed earlier ds := by
  induction ds generalizing earlier with
  | nil => trivial
  | cons d ds ih =>
      constructor
      · simpa using h [] d ds rfl
      · refine ih ?_
        intro pre e post hds
        simpa using h (d :: pre) e post (by rw [hds]; rfl)

theorem each_of_forall (h : ∀ d ∈ ds, ∀ earlier, allowed earlier d) : Each allowed earlier ds := by
  refine each_of_splits ?_
  rintro pre d post rfl
  exact h d (by simp) _

theorem Each.forall_mem {P : δ → Prop} (hallowed : ∀ pre d, allowed pre d → P d)
    (heach : Each allowed earlier ds) : ∀ d ∈ ds, P d := by
  intro d hmem
  obtain ⟨pre, post, rfl⟩ := List.append_of_mem hmem
  obtain ⟨-, hd, -⟩ := each_append.mp heach
  exact hallowed _ _ hd

/-- What holds step by step, by an invariant that looks back on what has been done. -/
theorem each_of_follows {σ : Type} {step : σ → δ → σ → Prop} {P : δ → Prop}
    {I : List δ → σ → Prop} {s t : σ}
    (hstep : ∀ past d u v, P d → I past u → step u d v → allowed past d ∧ I (past ++ [d]) v)
    (hds : ∀ d ∈ ds, P d) (hfollows : Follows step ds s t) (hs : I earlier s) :
    Each allowed earlier ds ∧ I (earlier ++ ds) t := by
  induction ds generalizing earlier s with
  | nil =>
      rw [follows_nil.mp hfollows, List.append_nil]
      exact ⟨trivial, hs⟩
  | cons d ds ih =>
      obtain ⟨hd, hrest⟩ := List.forall_mem_cons.mp hds
      obtain ⟨u, hfirst, hlater⟩ := hfollows
      obtain ⟨hallowed, hu⟩ := hstep earlier d s u hd hs hfirst
      obtain ⟨heach, ht⟩ := ih hrest hlater hu
      rw [← List.append_cons] at ht
      exact ⟨⟨hallowed, heach⟩, ht⟩

end Each

namespace Task

variable {V : Vocabulary} {C : Calls} {allowed : List (Deed V C) → Deed V C → Prop}
  {earlier : List (Deed V C)}

/-- However it goes, each deed of the routine is allowed after those before it. -/
def Conforms (allowed : List (Deed V C) → Deed V C → Prop) (earlier : List (Deed V C))
    (x : Task V C α) : Prop :=
  ∀ ds v, x.Traces ds v → Each allowed earlier ds

theorem conforms_done (a : α) : (Task.done a : Task V C α).Conforms allowed earlier := by
  intro ds v htraces
  obtain ⟨rfl, -⟩ := traces_done.mp htraces
  trivial

theorem Conforms.bind {x : Task V C α} {f : α → Task V C β} (hx : x.Conforms allowed earlier)
    (hf : ∀ a first, x.Traces first (some a) → (f a).Conforms allowed (earlier ++ first)) :
    (x >>= f).Conforms allowed earlier := by
  intro ds v htraces
  rcases traces_bind.mp htraces with ⟨a, first, rest, rfl, hfirst, hrest⟩ | ⟨hfirst, -⟩
  · exact each_append.mpr ⟨hx first _ hfirst, hf a first hfirst rest v hrest⟩
  · exact hx ds _ hfirst

theorem conforms_perform {c : V.Command} {next : V.Answer c → Task V C α}
    (hc : ∀ r, allowed earlier (.did c r))
    (hnext : ∀ r, (next r).Conforms allowed (earlier ++ [.did c r])) :
    (Task.perform c next).Conforms allowed earlier := by
  intro ds v htraces
  obtain ⟨r, rest, rfl, hrest⟩ := traces_perform.mp htraces
  exact ⟨hc r, hnext r rest v hrest⟩

theorem conforms_await {c : C.Call} {next : C.Reply c → Task V C α}
    (hheard : ∀ r, allowed earlier (.heard c r)) (hlost : allowed earlier (.lost c))
    (hnext : ∀ r, (next r).Conforms allowed (earlier ++ [.heard c r])) :
    (Task.await c (.done ()) next).Conforms allowed earlier := by
  intro ds v htraces
  rcases traces_await.mp htraces with ⟨r, rest, rfl, hrest⟩ | ⟨rest, rfl, -, hcleanup⟩
  · exact ⟨hheard r, hnext r rest v hrest⟩
  · obtain ⟨rfl, -⟩ := Action.traces_done.mp hcleanup
    exact ⟨hlost, trivial⟩

end Task

/-! ## One operation -/

/-- What is asked of a handle before an operation reaches it: a mutating operation
needs a transaction. -/
inductive Operation.Admitted (operation : Operation) (handle : Handle) :
    List (WorkDeed app) → Prop where
  | read (read : operation.kind = .read) : Admitted operation handle []
  | active (mutating : operation.kind = .mutating) :
      Admitted operation handle [.did (.transactionActive handle) true]

/-- What happens when the bound handle is asked for an operation. -/
inductive Handle.Receives (handle : Handle) (operation : Operation) :
    List (WorkDeed app) → Option (Except Failure Outcome) → Prop where
  | refused (mutating : operation.kind = .mutating) :
      Receives handle operation [.did (.transactionActive handle) false]
        (some (.error (.transactionRequired operation.name)))
  | executed {asked : List (WorkDeed app)} (admitted : operation.Admitted handle asked)
      (reply : Except Failure Outcome) :
      Receives handle operation (asked ++ [.heard (.execute handle operation) reply]) (some reply)
  | dropped {asked : List (WorkDeed app)} (admitted : operation.Admitted handle asked) :
      Receives handle operation (asked ++ [.lost (.execute handle operation)]) none

/-- What invoking a shared handle does. -/
inductive SharedHandle.Invokes (shared : SharedHandle) (cx : ContextId) (operation : Operation) :
    List (WorkDeed app) → Option (Except Failure Outcome) → Prop where
  | unbound : Invokes shared cx operation [.did (.context (.find cx shared.factory)) none]
      (some (.error (.noHandleBound shared.factory)))
  | bound {handle : Handle} {deeds : List (WorkDeed app)} {v : Option (Except Failure Outcome)}
      (receives : handle.Receives operation deeds v) :
      Invokes shared cx operation
        (.did (.context (.find cx shared.factory)) (some handle) :: deeds) v

section Invoke

variable {shared : SharedHandle} {cx : ContextId} {operation : Operation} {h : Handle}
  {ds : List (WorkDeed app)}

/-- Looking up the bound handle. -/
theorem ContextId.traces_current {factory : FactoryId} {r : Except Failure Handle} :
    (cx.current factory).Traces ds r ↔
      (ds = [.did (.context (.find cx factory)) none] ∧ r = .error (.noHandleBound factory)) ∨
        ∃ handle, ds = [.did (.context (.find cx factory)) (some handle)] ∧ r = .ok handle := by
  simp only [current, find?, Action.perform_bind, Action.done_bind, Action.traces_perform]
  constructor
  · rintro ⟨_ | handle, _, rfl, h⟩
    · obtain ⟨rfl, rfl⟩ := Action.traces_done.mp h
      exact Or.inl ⟨rfl, rfl⟩
    · obtain ⟨rfl, rfl⟩ := Action.traces_done.mp h
      exact Or.inr ⟨handle, rfl, rfl⟩
  · rintro (⟨rfl, rfl⟩ | ⟨handle, rfl, rfl⟩)
    · exact ⟨none, [], rfl, .done _⟩
    · exact ⟨some handle, [], rfl, .done _⟩

theorem Handle.traces_execute {v : Option (Except Failure Outcome)} :
    (h.execute operation : Work app (Except Failure Outcome)).Traces ds v ↔
      (∃ reply, ds = [.heard (.execute h operation) reply] ∧ v = some reply) ∨
        (ds = [.lost (.execute h operation)] ∧ v = none) :=
  Task.traces_call

theorem SharedHandle.traces_invoke {v : Option (Except Failure Outcome)} :
    (shared.invoke cx operation : Work app (Except Failure Outcome)).Traces ds v ↔
      shared.Invokes cx operation ds v := by
  simp only [invoke, Task.liftM_eq_ofAction, Task.traces_ofAction_bind, ContextId.traces_current]
  constructor
  · rintro ⟨_, _, rest, rfl, ⟨rfl, rfl⟩ | ⟨handle, rfl, rfl⟩, h⟩
    · obtain ⟨rfl, rfl⟩ := Task.traces_done.mp h
      exact .unbound
    · refine .bound ?_
      cases hkind : operation.kind with
      | read =>
          simp only [hkind, Handle.traces_execute] at h
          rcases h with ⟨reply, rfl, rfl⟩ | ⟨rfl, rfl⟩
          · exact .executed (.read hkind) reply
          · exact .dropped (.read hkind)
      | mutating =>
          simp only [hkind, Handle.transactionActive, Task.traces_ofAction_bind,
            Action.traces_perform, Action.traces_done] at h
          obtain ⟨_ | _, _, _, rfl, ⟨_, _, rfl, rfl, rfl⟩, h⟩ := h
          · obtain ⟨rfl, rfl⟩ := Task.traces_done.mp h
            exact .refused hkind
          · simp only [if_true, Handle.traces_execute] at h
            rcases h with ⟨reply, rfl, rfl⟩ | ⟨rfl, rfl⟩
            · exact .executed (.active hkind) reply
            · exact .dropped (.active hkind)
  · intro h
    cases h with
    | unbound => exact ⟨_, _, [], rfl, Or.inl ⟨rfl, rfl⟩, .done _⟩
    | bound hreceives =>
        refine ⟨_, _, _, rfl, Or.inr ⟨_, rfl, rfl⟩, ?_⟩
        cases hreceives with
        | refused hkind =>
            simp only [hkind]
            exact .perform (.done _)
        | executed hadmitted reply =>
            cases hadmitted with
            | read hkind =>
                simp only [hkind]
                exact .heard (.done _)
            | active hkind =>
                simp only [hkind]
                exact .perform (.heard (.done _))
        | dropped hadmitted =>
            cases hadmitted with
            | read hkind =>
                simp only [hkind]
                exact .lost (.done _)
            | active hkind =>
                simp only [hkind]
                exact .perform (.lost (.done _))

namespace Handle.Receives

variable {v : Option (Except Failure Outcome)}

theorem of_read (hread : operation.kind = .read) (hreceives : h.Receives operation ds v) :
    (∃ reply, ds = [.heard (.execute h operation) reply] ∧ v = some reply) ∨
      (ds = [.lost (.execute h operation)] ∧ v = none) := by
  cases hreceives with
  | refused hmutating => rw [hread] at hmutating; cases hmutating
  | executed hadmitted reply =>
      cases hadmitted with
      | read => exact Or.inl ⟨reply, rfl, rfl⟩
      | active hmutating => rw [hread] at hmutating; cases hmutating
  | dropped hadmitted =>
      cases hadmitted with
      | read => exact Or.inr ⟨rfl, rfl⟩
      | active hmutating => rw [hread] at hmutating; cases hmutating

/-- A mutating operation is refused, or it has found the transaction active. -/
theorem of_mutating (hmutating : operation.kind = .mutating)
    (hreceives : h.Receives operation ds v) :
    (v = some (.error (.transactionRequired operation.name)) ∧
        ds = [.did (.transactionActive h) false]) ∨
      ∃ last, ds = .did (.transactionActive h) true :: last := by
  cases hreceives with
  | refused => exact Or.inl ⟨rfl, rfl⟩
  | executed hadmitted reply =>
      cases hadmitted with
      | read hread => rw [hmutating] at hread; cases hread
      | active => exact Or.inr ⟨_, rfl⟩
  | dropped hadmitted =>
      cases hadmitted with
      | read hread => rw [hmutating] at hread; cases hread
      | active => exact Or.inr ⟨_, rfl⟩

/-- What is run is the operation, by the handle. -/
theorem eq_of_mem {g : Handle} {other : Operation} (hreceives : h.Receives operation ds v)
    (hmem : (∃ reply, .heard (.execute g other) reply ∈ ds) ∨ .lost (.execute g other) ∈ ds) :
    g = h ∧ other = operation := by
  cases hreceives with
  | refused => simp at hmem
  | executed hadmitted => cases hadmitted <;> simpa using hmem
  | dropped hadmitted => cases hadmitted <;> simpa using hmem

end Handle.Receives

end Invoke

/-! ## Code that uses shared handles only -/

/-- The handle has been looked up in the context. -/
def Found (cx : ContextId) (earlier : List (WorkDeed app)) (h : Handle) : Prop :=
  ∃ factory, .did (.context (.find cx factory)) (some h) ∈ earlier

/-- The deed looks a handle up, or asks one that was found before; or it has to do
with no handle at all. -/
def WorkDeed.Forwards (cx : ContextId) (earlier : List (WorkDeed app)) : WorkDeed app → Prop
  | .did (.context (.find other _)) _ => other = cx
  | .did (.transactionActive h) _ => Found cx earlier h
  | .did (.provides h _) _ => Found cx earlier h
  | .did (.emit (.closeIgnored _)) _ => True
  | .heard (.execute h _) _ => Found cx earlier h
  | .heard (.job _) _ => True
  | .lost (.execute h _) => Found cx earlier h
  | .lost (.job _) => True
  | _ => False

section Forwards

variable {cx : ContextId} {ds earlier : List (WorkDeed app)} {h : Handle}

theorem found_concat (earlier : List (WorkDeed app)) (factory : FactoryId) (h : Handle) :
    Found cx (earlier ++ [.did (.context (.find cx factory)) (some h)]) h :=
  ⟨factory, by simp⟩

theorem Found.append (hfound : Found cx earlier h) (later : List (WorkDeed app)) :
    Found cx (earlier ++ later) h := by
  obtain ⟨factory, hmem⟩ := hfound
  exact ⟨factory, List.mem_append_left later hmem⟩

/-- Looking up the bound handle, and then what is made of it. -/
theorem conforms_current {factory : FactoryId} {f : Except Failure Handle → Work app β}
    (hnone : ∀ failure more, (f (.error failure)).Conforms (WorkDeed.Forwards cx) (earlier ++ more))
    (hsome : ∀ h more, Found cx (earlier ++ more) h →
      (f (.ok h)).Conforms (WorkDeed.Forwards cx) (earlier ++ more)) :
    (Task.ofAction (cx.current factory) >>= f).Conforms (WorkDeed.Forwards cx) earlier := by
  simp only [ContextId.current, ContextId.find?, Action.perform_bind, Action.done_bind,
    Task.ofAction_perform, Task.perform_bind]
  refine Task.conforms_perform (fun _ => rfl) ?_
  rintro (_ | h)
  · exact hnone _ _
  · exact hsome h _ (found_concat earlier factory h)

theorem SharedHandle.conforms_invoke (shared : SharedHandle) (operation : Operation) :
    (shared.invoke cx operation : Work app (Except Failure Outcome)).Conforms
      (WorkDeed.Forwards cx) earlier := by
  have hexecute : ∀ (h : Handle) (more : List (WorkDeed app)), Found cx more h →
      (h.execute operation : Work app (Except Failure Outcome)).Conforms
        (WorkDeed.Forwards cx) more := by
    intro h more hfound
    exact Task.conforms_await (fun _ => hfound) hfound fun reply => Task.conforms_done reply
  refine conforms_current (fun _ _ => Task.conforms_done _) ?_
  intro h more hfound
  dsimp only
  cases operation.kind with
  | read => exact hexecute h _ hfound
  | mutating =>
      refine Task.conforms_perform (fun _ => hfound) ?_
      rintro (_ | _)
      · exact Task.conforms_done _
      · exact hexecute h _ (hfound.append _)

theorem SharedHandle.conforms_unwrap (shared : SharedHandle) (target : Option ObjectType)
    {f : Except Failure Unwrapped → Work app β}
    (hf : ∀ r more, (f r).Conforms (WorkDeed.Forwards cx) (earlier ++ more)) :
    (Task.ofAction (shared.unwrap cx target) >>= f).Conforms (WorkDeed.Forwards cx) earlier := by
  have hself : ∀ r, (f r).Conforms (WorkDeed.Forwards cx) earlier := by
    intro r
    simpa using hf r []
  rcases target with _ | type
  · simp only [unwrap, Task.ofAction_bind, Task.bind_assoc]
    exact conforms_current (fun _ _ => hf _ _) fun _ _ _ => hf _ _
  · cases type with
    | sharedHandle => exact hself _
    | _ =>
        simp only [unwrap, Task.ofAction_bind, Task.bind_assoc]
        refine conforms_current (fun _ _ => hf _ _) ?_
        intro h more hfound
        refine Task.conforms_perform (fun _ => hfound) ?_
        rintro (_ | _)
        · rw [List.append_assoc]
          exact hf _ _
        · rw [List.append_assoc]
          exact hf _ _

/-- Code that uses shared handles only looks handles up in its context, and asks the
handles that it has found there. -/
theorem SharedOnly.conforms {x : Work app α} (hx : SharedOnly cx x) :
    x.Conforms (WorkDeed.Forwards cx) earlier := by
  induction hx generalizing earlier with
  | done a => exact Task.conforms_done a
  | invoke shared operation _ ih =>
      exact (shared.conforms_invoke operation).bind fun reply _ _ => ih reply
  | unwrap shared target _ ih => exact shared.conforms_unwrap target fun reply _ => ih reply
  | close shared _ ih => exact Task.conforms_perform (fun _ => trivial) fun reply => ih reply
  | job job _ ih => exact Task.conforms_await (fun _ => trivial) trivial fun result => ih result

/-- Handles are called to run operations, and for nothing else. -/
def Operates (deeds : List (WorkDeed app)) : Prop :=
  ∀ deed ∈ deeds, ∀ h call, deed.call? = some (h, call) → ∃ operation, call = .execute operation

theorem operates_of_forwards (hforwards : Each (WorkDeed.Forwards cx) earlier ds) :
    Operates ds := by
  refine hforwards.forall_mem ?_
  intro pre d hd h call hcall
  rcases d with ⟨_ | _ | _ | _ | _, _⟩ | ⟨_ | _ | _ | _ | _ | _ | _, _⟩ |
    (_ | _ | _ | _ | _ | _ | _)
  all_goals first | exact hd.elim | (cases hcall; done) | (cases hcall; exact ⟨_, rfl⟩)

theorem SharedOnly.operates {x : Work app α} {v : Option α} (hx : SharedOnly cx x)
    (htraces : x.Traces ds v) : Operates ds := by
  have hforwards : Each (WorkDeed.Forwards cx) [] ds := hx.conforms ds v htraces
  exact operates_of_forwards hforwards

end Forwards

end Demarcation
