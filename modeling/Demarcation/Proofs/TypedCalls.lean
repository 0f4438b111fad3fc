/-
Operations through a shared handle.

Two questions decide whether an operation is passed on, in this order: whether a
handle is bound for the factory, and whether the transaction of that handle is active,
which is asked for a mutating operation only.  `SharedHandle.forwards` answers them
from the bindings and from the flags of the handles, and counts everything that handles
are asked, so that what is passed on is passed on once and to one handle.

There is one typed call for each operation (`SharedHandle.typed`).  It is the operation
itself, done deed by deed, and then a look at the outcome: `Operation.payload?` is the
table of what each operation expects, and what does not fit is told by the name of the
operation (`SharedHandle.traces_typed`).
-/
import Demarcation.Proofs.Surroundings

namespace Demarcation

variable {app : Jobs}

/-! ## The outcome that is expected -/

namespace Operation

/-- What the typed call for an operation returns. -/
abbrev Payload : Operation → Type
  | .find _ => Option Record
  | .contains _ => Bool
  | .nativeQuery _ => Nat
  | .merge _ | .refresh _ => Record
  | .persist _ | .remove _ | .flush | .joinTransaction => Unit

/-- What is taken from an outcome, if it is one that the operation expects.  Where there
is nothing to be taken any outcome will do. -/
def payload? : (operation : Operation) → Outcome → Option operation.Payload
  | .find _, .found record => some record
  | .contains _, .contains present => some present
  | .nativeQuery _, .rows count => some count
  | .merge _, .merged record => some record
  | .refresh _, .found (some record) => some record
  | .persist _, _ | .remove _, _ | .flush, _ | .joinTransaction, _ => some ()
  | _, _ => none

/-- The result of the typed call, given the result of the operation. -/
def interpret (operation : Operation) :
    Except Failure Outcome → Except Failure operation.Payload
  | .error failure => .error failure
  | .ok outcome =>
    match operation.payload? outcome with
    | some payload => .ok payload
    | none => .error (.unexpectedOutcome operation.name)

end Operation

namespace SharedHandle

variable (shared : SharedHandle) (cx : ContextId)

/-- The typed call for an operation. -/
def typed : (operation : Operation) → Work app (Except Failure operation.Payload)
  | .find key => shared.find cx key
  | .contains key => shared.contains cx key
  | .nativeQuery sql => shared.nativeQuery cx sql
  | .persist record => shared.persist cx record
  | .merge record => shared.merge cx record
  | .remove key => shared.remove cx key
  | .refresh key => shared.refresh cx key
  | .flush => shared.flush cx
  | .joinTransaction => shared.joinTransaction cx

/-- What a typed call makes of the outcome is what the table says, and the name that it
tells is the name of its operation. -/
theorem typed_eq (operation : Operation) :
    (shared.typed cx operation : Work app _) =
      shared.invokeFor cx operation fun outcome => operation.interpret (.ok outcome) := by
  cases operation with
  | find | contains | nativeQuery | merge =>
      refine congrArg (shared.invokeFor cx _) (funext fun outcome => ?_)
      cases outcome <;> rfl
  | refresh =>
      refine congrArg (shared.invokeFor cx _) (funext fun outcome => ?_)
      rcases outcome with _ | (_ | _) | _ | _ | _ <;> rfl
  | persist | remove | flush | joinTransaction => rfl

variable {shared cx} {operation : Operation} {ds : List (WorkDeed app)}

/-- A typed call does what its operation does, and interprets the result. -/
theorem traces_typed {v : Option (Except Failure operation.Payload)} :
    (shared.typed cx operation : Work app _).Traces ds v ↔
      ∃ r, (shared.invoke cx operation : Work app _).Traces ds r ∧
        v = r.map operation.interpret := by
  rw [typed_eq, invokeFor]
  refine Task.traces_bind_done ?_
  rintro (failure | outcome) <;> rfl

end SharedHandle

/-! ## What is passed on -/

/-- What handles are asked, in order. -/
def questions (deeds : List (WorkDeed app)) : List (Handle × Question) :=
  deeds.filterMap WorkDeed.question?

namespace Operation

/-- What is asked of a handle before it is asked for an operation. -/
def asksFirst (operation : Operation) (h : Handle) : List (Handle × Question) :=
  match operation.kind with
  | .read => []
  | .mutating => [(h, .transactionActive)]

variable {operation : Operation} {h : Handle} {asked : List (WorkDeed app)}

theorem Admitted.questions (hadmitted : operation.Admitted h asked) :
    Demarcation.questions asked = operation.asksFirst h := by
  cases hadmitted with
  | read hkind => simp [asksFirst, hkind, Demarcation.questions]
  | active hkind => simp [asksFirst, hkind, Demarcation.questions, WorkDeed.question?]

theorem Admitted.leads (hadmitted : operation.Admitted h asked)
    {others : Workspace → Workspace → Prop} {w w' : Workspace}
    (hleads : Workspace.Leads others asked w w') : w' = w := by
  cases hadmitted with
  | read => exact hleads
  | active =>
      obtain ⟨_, rfl, rfl⟩ := hleads
      rfl

end Operation

/-- The handle is asked for the operation, and the reply is the result; there is none if
nobody has waited for the reply. -/
def Handle.Yields (h : Handle) (operation : Operation) (deeds : List (WorkDeed app))
    (v : Option (Except Failure Outcome)) : Prop :=
  (∃ reply, .heard (.execute h operation) reply ∈ deeds ∧ v = some reply) ∨
    (.lost (.execute h operation) ∈ deeds ∧ v = none)

/-- The handles tell these flags when they are asked whether their transactions are
active. -/
def TellFlags (active : Handle → Bool) (deeds : List (WorkDeed app)) : Prop :=
  ∀ h answer, .did (.transactionActive h) answer ∈ deeds → answer = active h

section Forwards

variable {shared : SharedHandle} {cx : ContextId} {operation : Operation} {h : Handle}
  {ds : List (WorkDeed app)} {v : Option (Except Failure Outcome)} {active : Handle → Bool}
  {others : Workspace → Workspace → Prop} {w w' : Workspace}

namespace Handle.Receives

theorem of_inactive (hreceives : h.Receives operation ds v) (hflags : TellFlags active ds)
    (hmutating : operation.kind = .mutating) (hinactive : active h = false) :
    questions ds = [(h, .transactionActive)] ∧
      v = some (.error (.transactionRequired operation.name)) := by
  rcases hreceives.of_mutating hmutating with ⟨rfl, rfl⟩ | ⟨last, rfl⟩
  · exact ⟨rfl, rfl⟩
  · have hactive : true = active h := hflags h true List.mem_cons_self
    rw [hinactive] at hactive
    cases hactive

theorem of_admitted (hreceives : h.Receives operation ds v) (hflags : TellFlags active ds)
    (hadmitted : operation.kind = .read ∨ active h = true) :
    questions ds = operation.asksFirst h ++ [(h, .execute operation)] ∧
      h.Yields operation ds v := by
  have hpassed : ∀ {asked : List (WorkDeed app)} (last : WorkDeed app),
      operation.Admitted h asked → last.question? = some (h, .execute operation) →
        questions (asked ++ [last]) = operation.asksFirst h ++ [(h, .execute operation)] := by
    intro asked last hasked hlast
    rw [questions, List.filterMap_append, ← questions, hasked.questions]
    simp [hlast]
  cases hreceives with
  | refused hmutating =>
      have hinactive : false = active h := hflags h false List.mem_cons_self
      rcases hadmitted with hread | hactive
      · rw [hmutating] at hread
        cases hread
      · rw [hactive] at hinactive
        cases hinactive
  | executed hasked reply =>
      exact ⟨hpassed _ hasked rfl, Or.inl ⟨reply, by simp, rfl⟩⟩
  | dropped hasked => exact ⟨hpassed _ hasked rfl, Or.inr ⟨by simp, rfl⟩⟩

/-- Asking a handle does nothing to the bindings. -/
theorem leads (hreceives : h.Receives operation ds v)
    (hleads : Workspace.Leads others ds w w') : w' = w ∨ others w w' := by
  cases hreceives with
  | refused =>
      obtain ⟨_, rfl, rfl⟩ := hleads
      exact Or.inl rfl
  | executed hasked | dropped hasked =>
      obtain ⟨u, hbefore, _, hothers, rfl⟩ := follows_append.mp hleads
      rw [hasked.leads hbefore] at hothers
      exact Or.inr hothers

end Handle.Receives

/-- An operation is passed on to the handle that is bound for the factory, once and as it
is, if the operation is reading or the transaction of this handle is active, and then the
reply of the handle is the result.  If no handle is bound the call fails without asking any
handle; if a mutating operation finds no transaction it fails, and nothing but the flag has
been asked.  The bindings are left as they are, and only others may change them while the
handle is busy.

The typed call for an operation does the same deeds.  It fails as the operation has failed,
and otherwise returns what the expected outcome holds, or fails with the name of the call. -/
theorem SharedHandle.forwards
    (hinvoke : (shared.invoke cx operation : Work app _).Traces ds v)
    (hflags : TellFlags active ds) (hleads : Workspace.Leads others ds w w') :
    (w' = w ∨ others w w') ∧
    ((w.context cx).find? shared.factory = none →
      questions ds = [] ∧ v = some (.error (.noHandleBound shared.factory))) ∧
    (∀ h, (w.context cx).find? shared.factory = some h →
      (operation.kind = .mutating → active h = false → questions ds = [(h, .transactionActive)] ∧
        v = some (.error (.transactionRequired operation.name))) ∧
      (operation.kind = .read ∨ active h = true →
        questions ds = operation.asksFirst h ++ [(h, .execute operation)] ∧
          h.Yields operation ds v)) ∧
    ∀ (deeds : List (WorkDeed app)) result,
      (shared.typed cx operation : Work app _).Traces deeds result ↔
        ∃ r, (shared.invoke cx operation : Work app _).Traces deeds r ∧
          result = r.map operation.interpret := by
  have htyped : ∀ (deeds : List (WorkDeed app)) result,
      (shared.typed cx operation : Work app _).Traces deeds result ↔
        ∃ r, (shared.invoke cx operation : Work app _).Traces deeds r ∧
          result = r.map operation.interpret := fun _ _ => traces_typed
  cases traces_invoke.mp hinvoke with
  | unbound =>
      obtain ⟨_, hfind, rfl⟩ := hleads
      obtain ⟨hnone, rfl⟩ := Prod.mk.inj hfind
      refine ⟨Or.inl rfl, fun _ => ⟨rfl, rfl⟩, ?_, htyped⟩
      intro h hbound
      cases hnone.symm.trans hbound
  | @bound found rest _ hreceives =>
      obtain ⟨_, hfind, hlater⟩ := hleads
      obtain ⟨hfound, rfl⟩ := Prod.mk.inj hfind
      have hrest : TellFlags active rest := fun g answer hmem =>
        hflags g answer (List.mem_cons_of_mem _ hmem)
      refine ⟨hreceives.leads hlater, fun hnone => ?_, ?_, htyped⟩
      · cases hfound.symm.trans hnone
      · intro h hbound
        obtain rfl : found = h := Option.some.inj (hfound.symm.trans hbound)
        refine ⟨fun hmutating hinactive => ?_, fun hadmitted => ?_⟩
        · exact hreceives.of_inactive hrest hmutating hinactive
        · obtain ⟨hquestions, hyields⟩ := hreceives.of_admitted hrest hadmitted
          refine ⟨hquestions, hyields.imp ?_ ?_⟩
          · rintro ⟨reply, hmem, hv⟩
            exact ⟨reply, List.mem_cons_of_mem _ hmem, hv⟩
          · rintro ⟨hmem, hv⟩
            exact ⟨List.mem_cons_of_mem _ hmem, hv⟩

/-- The shared handle of a unit. -/
def mainShared : SharedHandle := ⟨⟨0⟩, "main", ⟨0⟩⟩

/-- A row that is merged through it. -/
def mergedRow : Record := ⟨"users", ⟨1⟩, ⟨.null⟩⟩

/-- The handle has a transaction, and answers as if the row had been removed. -/
def misansweredMerge : List (WorkDeed noJobs) :=
  [.did (.context (.find ⟨0⟩ ⟨0⟩)) (some ⟨0, ⟨0⟩⟩), .did (.transactionActive ⟨0, ⟨0⟩⟩) true,
    .heard (.execute ⟨0, ⟨0⟩⟩ (.merge mergedRow)) (.ok .unit)]

/-- The row was passed on, and the typed call fails by its name. -/
theorem misanswered_merge_forwarded :
    questions misansweredMerge =
        [(⟨0, ⟨0⟩⟩, .transactionActive), (⟨0, ⟨0⟩⟩, .execute (.merge mergedRow))] ∧
      (mainShared.merge ⟨0⟩ mergedRow : Work noJobs _).Traces misansweredMerge
        (some (.error (.unexpectedOutcome "merge"))) := by
  have hinvoke : (mainShared.invoke ⟨0⟩ (.merge mergedRow) : Work noJobs _).Traces misansweredMerge
      (some (.ok .unit)) :=
    SharedHandle.traces_invoke.mpr (.bound (.executed (.active rfl) (.ok .unit)))
  have hflags : TellFlags (fun _ => true) misansweredMerge := by
    intro h answer hmem
    simp only [misansweredMerge, List.mem_cons, List.not_mem_nil, or_false] at hmem
    rcases hmem with hdeed | hdeed | hdeed
    · cases hdeed
    · cases hdeed
      rfl
    · cases hdeed
  have hleads : Workspace.Leads Eq misansweredMerge
      (({} : Workspace).set ⟨0⟩ (Context.empty.bind ⟨0, ⟨0⟩⟩).2) _ := ⟨_, rfl, _, rfl, _, rfl, rfl⟩
  obtain ⟨-, -, hbound, htyped⟩ := SharedHandle.forwards hinvoke hflags hleads
  obtain ⟨hquestions, -⟩ := (hbound ⟨0, ⟨0⟩⟩ rfl).2 (Or.inr rfl)
  exact ⟨hquestions, (htyped misansweredMerge _).mpr ⟨_, hinvoke, rfl⟩⟩

end Forwards

end Demarcation
