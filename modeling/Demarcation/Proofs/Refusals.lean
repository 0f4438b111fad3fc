/-
Units of work that fail to open.

Opening a unit of work fails when its unit is not known, or when the handle can not
be created, configured or given a transaction.  The demarcator then stays as it was,
and the handle, if there was one by then, is closed and nothing stays bound for its
factory.

So what else is bound is spared, in this context and in every other.  The bindings are
those from before if and only if the handle found the place of its factory free: a
context has one place for each factory, and a handle that had it before is not put back
(`failed_start_undone`).  That handle stays open, and it is no longer bound.
-/
import Demarcation.Proofs.Isolation

namespace Demarcation

variable {app : Jobs}

/-! ## What has failed -/

/-- The failure that a factory or a handle has replied with. -/
def WorkDeed.failure? : WorkDeed app → Option Failure
  | .heard (.create _) (.error failure) => some failure
  | .heard (.configure ..) (.error failure) => some failure
  | .heard (.begin _) (.error failure) => some failure
  | .heard (.commit _) (.error failure) => some failure
  | .heard (.rollback _) (.error failure) => some failure
  | .heard (.execute ..) (.error failure) => some failure
  | _ => none

/-- The failures of factories and handles, in order. -/
def failures (deeds : List (WorkDeed app)) : List Failure := deeds.filterMap WorkDeed.failure?

section

variable {cx other : ContextId} {ds es : List (WorkDeed app)} {failure : Failure}
  {others : Workspace → Workspace → Prop} {w w' : Workspace}

@[simp] theorem failures_append : failures (ds ++ es) = failures ds ++ failures es :=
  List.filterMap_append

@[simp] theorem failures_bindDeeds {handle : Handle} {replaced : Option Handle} :
    failures (cx.bindDeeds handle replaced : List (WorkDeed app)) = [] := rfl

@[simp] theorem failures_unbindDeeds {factory : FactoryId} {removed : Option Handle} :
    failures (cx.unbindDeeds factory removed : List (WorkDeed app)) = [] := by
  cases removed <;> rfl

theorem OpenUnit.Enters.failures {spec : WorkSpec} {handle : Handle}
    (henters : Enters cx spec handle ds (some (.error failure))) : failures ds = [failure] := by
  cases henters with
  | configureFailed => rfl
  | begun replaced => 
      show Demarcation.failures (cx.bindDeeds handle replaced ++ _) = _
      rw [failures_append, failures_bindDeeds]
      rfl

/-- Removing a binding makes no difference if and only if there was none. -/
theorem Context.unbind_same_iff {c : Context} {g : FactoryId} :
    (∀ f, (c.unbind g).2.find? f = c.find? f) ↔ c.find? g = none := by
  constructor
  · intro hsame
    rw [← hsame g, Context.find?_unbind, if_pos rfl]
  · intro hfree f
    rw [Context.find?_unbind]
    by_cases hf : g = f
    · rw [if_pos hf, ← hf, hfree]
    · rw [if_neg hf]

/-- Deeds that give no command about a context leave it alone. -/
theorem context_of_unchanged (hspares : Workspace.Spares others other)
    (hcommands : ∀ d ∈ ds, ∀ c, d.command? = some c → ∀ f, ¬ c.Changes other f)
    (hleads : Workspace.Leads others ds w w') : w'.context other = w.context other := by
  refine Follows.keeps (P := fun u => u.context other = w.context other) ?_ hleads rfl
  intro d hd u v hstep hu
  rw [← hu]
  rcases d with ⟨c | _ | _ | _ | _, answer⟩ | ⟨_, _⟩ | _
  · obtain rfl : (u.perform c).2 = v := congrArg Prod.snd hstep
    exact Workspace.context_perform (hcommands _ hd c rfl)
  · rw [hstep]
  · rw [hstep]
  · rw [hstep]
  · rw [hstep]
  · exact hspares u v hstep
  · exact hspares u v hstep

end

/-! ## Failing to open -/

namespace Demarcator

variable {demarcator next : Demarcator} {registry : Registry} {cx other : ContextId}
  {spec? : Option WorkSpec} {ds : List (WorkDeed app)} {failure : Failure}
  {others : Workspace → Workspace → Prop} {w w' : Workspace}

/-- What is returned is what has failed, and nothing else has failed. -/
theorem Starts.failures
    (hstarts : demarcator.Starts registry cx spec? ds (some (.error failure))) :
    (ds = [] ∧ ∃ spec, spec? = some spec ∧ registry.resolve spec.unit = .error failure) ∨
      Demarcation.failures ds = [failure] := by
  cases hstarts with
  | unresolved hres => exact Or.inl ⟨rfl, _, rfl, hres⟩
  | createFailed => exact Or.inr rfl
  | @refused _ factory _ handle entered _ henters removed =>
      right
      show Demarcation.failures (entered ++ ([_] ++ cx.unbindDeeds factory removed)) = _
      rw [failures_append, failures_append, henters.failures, failures_unbindDeeds]
      rfl

/-- A start gives no command about another context. -/
theorem Starts.not_changes (hne : cx ≠ other)
    (hstarts : demarcator.Starts registry cx spec? ds (some (.error failure))) :
    ∀ d ∈ ds, ∀ c, d.command? = some c → ∀ f, ¬ c.Changes other f := by
  cases hstarts with
  | unresolved => exact fun _ hd => nomatch hd
  | createFailed => simp
  | @refused _ factory _ handle entered _ henters removed =>
      intro d hd c hc f hchanges
      rcases List.mem_cons.mp hd with rfl | hd
      · cases hc
      rcases List.mem_append.mp hd with hd | hd
      · obtain rfl := henters.commands d hd c hc
        exact hne hchanges.1
      rcases List.mem_cons.mp hd with rfl | hd
      · cases hc
      · obtain rfl := ContextId.commands_unbindDeeds d hd c hc
        exact hne hchanges.1

/-- A transaction that can not be begun, and what comes after it. -/
def defaultRefused (n : Nat) (replaced : Option Handle) : List (WorkDeed noJobs) :=
  defaultEntered n replaced ++ (.heard (.begin ⟨n, ⟨0⟩⟩) (.error .transactionInProgress) ::
    .did (.close ⟨n, ⟨0⟩⟩) () :: ContextId.unbindDeeds ⟨0⟩ ⟨0⟩ (some ⟨n, ⟨0⟩⟩))

section DefaultRefused

variable {n : Nat} {replaced : Option Handle}

theorem takes_defaultRefused :
    demarcator.Takes ⟨.start (.lone ⟨0⟩) ⟨0⟩ (some {}), defaultRefused n replaced,
      .error .transactionInProgress⟩ demarcator := by
  exact takes_iff.mpr (.refused (.refused (Registry.resolve_lone _)
    (.begun replaced rfl (.error .transactionInProgress)) _))

theorem ownFactory_defaultRefused : OwnFactory (defaultRefused n replaced) :=
  ownFactory_defaultEntered.append (ownFactory_of_handed_nil rfl)

theorem leads_defaultRefused (w : Workspace) :
    ∃ w', Workspace.Leads Eq (defaultRefused n ((w.context ⟨0⟩).find? ⟨0⟩)) w w' := by
  refine ⟨_, follows_append.mpr ⟨_, leads_defaultEntered.mpr ⟨rfl, rfl⟩, _, rfl, _, rfl,
    Workspace.leads_unbindDeeds.mpr ⟨?_, rfl⟩⟩⟩
  rw [Workspace.context_set_self, Context.find?_bind]
  exact (if_pos rfl).symm

end DefaultRefused

end Demarcator

end Demarcation
