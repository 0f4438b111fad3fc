/-
Handles that a routine obtains and closes.

`handed deeds` are the handles that factories have handed out in a trace, and
`closings h deeds` counts how often `h` was closed in it.  A trace is `Neutral`
when it obtains no handle, closes none and gives no command to a context; asking
whether a transaction is active, committing and rolling back are neutral.  What
is left of a demarcator's traces are the few deeds that bind, unbind or close.

That a handle reports the factory that it comes from is what `OwnFactory` asks
of the factories of a trace.
-/
import Demarcation.Proofs.Bindings

namespace Demarcation

variable {app : Jobs}

/-! ## Obtaining and closing -/

/-- Whether the deed closes `h`. -/
def WorkDeed.closes (h : Handle) : WorkDeed app → Bool
  | .did (.close other) _ => decide (other = h)
  | _ => false

/-- The handle that the deed obtains from a factory. -/
def WorkDeed.handed? : WorkDeed app → Option Handle
  | .heard (.create _) (.ok h) => some h
  | _ => none

/-- How often `h` is closed. -/
def closings (h : Handle) (deeds : List (WorkDeed app)) : Nat := deeds.countP (WorkDeed.closes h)

/-- The handles that factories hand out, in order. -/
def handed (deeds : List (WorkDeed app)) : List Handle := deeds.filterMap WorkDeed.handed?

/-- Every handle reports the factory that handed it out. -/
def OwnFactory (deeds : List (WorkDeed app)) : Prop :=
  ∀ factory handle, .heard (.create factory) (.ok handle) ∈ deeds → handle.factory = factory

section Counting

variable {h : Handle} {ds es : List (WorkDeed app)}

@[simp] theorem closings_nil : closings h ([] : List (WorkDeed app)) = 0 := rfl

@[simp] theorem closings_append : closings h (ds ++ es) = closings h ds + closings h es :=
  List.countP_append

theorem closings_cons {d : WorkDeed app} :
    closings h (d :: ds) = closings h ds + if WorkDeed.closes h d then 1 else 0 :=
  List.countP_cons

@[simp] theorem handed_append : handed (ds ++ es) = handed ds ++ handed es :=
  List.filterMap_append

theorem mem_handed {f : FactoryId} (hmem : .heard (.create f) (.ok h) ∈ ds) : h ∈ handed ds :=
  List.mem_filterMap.mpr ⟨_, hmem, rfl⟩

theorem ne_of_handed {g : Handle} (hds : handed ds = [g]) (hfresh : h ∉ handed ds) : g ≠ h := by
  rintro rfl
  rw [hds] at hfresh
  exact hfresh (List.mem_singleton_self g)

/-- An action obtains nothing. -/
theorem handed_of_action {α : Type} {x : Step α} {value : α} (hx : x.Traces ds value) :
    handed ds = [] := by
  induction hx with
  | done => rfl
  | perform _ ih => exact ih

theorem ownFactory_of_handed_nil (hds : handed ds = []) : OwnFactory ds := by
  intro f h hmem
  have hhanded : h ∈ handed ds := mem_handed hmem
  rw [hds] at hhanded
  cases hhanded

theorem OwnFactory.append (hds : OwnFactory ds) (hes : OwnFactory es) : OwnFactory (ds ++ es) := by
  intro f h hmem
  rcases List.mem_append.mp hmem with hmem | hmem
  · exact hds f h hmem
  · exact hes f h hmem

theorem OwnFactory.left (hown : OwnFactory (ds ++ es)) : OwnFactory ds :=
  fun f h hmem => hown f h (List.mem_append_left es hmem)

theorem OwnFactory.right (hown : OwnFactory (ds ++ es)) : OwnFactory es :=
  fun f h hmem => hown f h (List.mem_append_right ds hmem)

end Counting

/-! ## Binding and releasing -/

section Pieces

variable {cx : ContextId} {h : Handle} {f : FactoryId} {r : Option Handle} {work : OpenUnit}

@[simp] theorem closings_unbindDeeds :
    closings h (cx.unbindDeeds f r : List (WorkDeed app)) = 0 := by
  cases r <;> rfl

@[simp] theorem handed_unbindDeeds : handed (cx.unbindDeeds f r : List (WorkDeed app)) = [] := by
  cases r <;> rfl

@[simp] theorem closings_releaseDeeds :
    closings h (work.releaseDeeds cx r : List (WorkDeed app)) =
      if work.handle = h then 1 else 0 := by
  simp only [OpenUnit.releaseDeeds, closings_cons, closings_append, closings_unbindDeeds]
  by_cases hw : work.handle = h <;> simp [WorkDeed.closes, hw]

end Pieces

/-! ## Neutral deeds -/

/-- The deed obtains no handle, closes none and gives no command to a context. -/
def WorkDeed.Neutral : WorkDeed app → Prop
  | .did (.context _) _ => False
  | .did (.close _) _ => False
  | .heard (.create _) _ => False
  | _ => True

/-- Every deed is neutral. -/
def Neutral (deeds : List (WorkDeed app)) : Prop := ∀ deed ∈ deeds, WorkDeed.Neutral deed

section Neutral

variable {ds es : List (WorkDeed app)}

@[simp] theorem neutral_nil : Neutral ([] : List (WorkDeed app)) := fun _ h => nomatch h

@[simp] theorem neutral_cons {d : WorkDeed app} :
    Neutral (d :: ds) ↔ WorkDeed.Neutral d ∧ Neutral ds := by
  simp [Neutral]

@[simp] theorem neutral_append : Neutral (ds ++ es) ↔ Neutral ds ∧ Neutral es := by
  exact List.forall_mem_append

theorem Neutral.closings {h : Handle} (hds : Neutral ds) : closings h ds = 0 := by
  refine List.countP_eq_zero.mpr ?_
  intro d hd hcloses
  have hneutral := hds d hd
  rcases d with ⟨_ | _ | _, _⟩ | ⟨_, _⟩ | _ <;> simp_all [WorkDeed.closes, WorkDeed.Neutral]

theorem Neutral.handed (hds : Neutral ds) : handed ds = [] := by
  refine List.filterMap_eq_nil_iff.mpr ?_
  intro d hd
  have hneutral := hds d hd
  cases d with
  | did => rfl
  | lost => rfl
  | heard call reply =>
      cases call with
      | create => cases hneutral
      | _ => rfl

variable {others : Workspace → Workspace → Prop} {cx : ContextId} {w w' : Workspace}

theorem WorkDeed.Neutral.context {d : WorkDeed app} (hd : WorkDeed.Neutral d)
    (hspares : Workspace.Spares others cx) (hstep : Workspace.Step others w d w') :
    w'.context cx = w.context cx := by
  rcases d with ⟨_ | _ | _ | _ | _, _⟩ | ⟨_, _⟩ | _
  · cases hd
  · rw [hstep]
  · cases hd
  · rw [hstep]
  · rw [hstep]
  · exact hspares w w' hstep
  · exact hspares w w' hstep

/-- Neutral deeds change a context only if others do. -/
theorem Neutral.context (hds : Neutral ds) (hspares : Workspace.Spares others cx)
    (hleads : Workspace.Leads others ds w w') : w'.context cx = w.context cx := by
  refine Follows.keeps (P := fun v => v.context cx = w.context cx) ?_ hleads rfl
  intro d hd u v hstep hu
  rw [(hds d hd).context hspares hstep, hu]

/-- Between neutral deeds, binding a handle is all that changes the context. -/
theorem context_of_bindDeeds {h : Handle} {replaced : Option Handle} (hds : Neutral ds)
    (hes : Neutral es) (hspares : Workspace.Spares others cx)
    (hleads : Workspace.Leads others (ds ++ (cx.bindDeeds h replaced ++ es)) w w') :
    w'.context cx = ((w.context cx).bind h).2 := by
  obtain ⟨u, hbefore, hrest⟩ := follows_append.mp hleads
  obtain ⟨v, hbind, hafter⟩ := follows_append.mp hrest
  obtain ⟨-, rfl⟩ := Workspace.leads_bindDeeds.mp hbind
  rw [hes.context hspares hafter, Workspace.context_set_self, hds.context hspares hbefore]

end Neutral

namespace OpenUnit

variable {work : OpenUnit} {ds : List (WorkDeed app)}

theorem OwesEnd.neutral {b : Bool} (h : work.OwesEnd ds b) : Neutral ds := by
  cases h <;> simp [WorkDeed.Neutral]

theorem Commits.neutral {v : Option (Except Failure Unit)} (h : work.Commits ds v) :
    Neutral ds := by
  cases h with
  | notOwed howes => exact howes.neutral
  | dropped howes => simp [howes.neutral, WorkDeed.Neutral]
  | failed howes => simp [howes.neutral, WorkDeed.Neutral]
  | committed howes => simp [howes.neutral, WorkDeed.Neutral]

theorem RollsBack.neutral {v : Option Unit} (h : work.RollsBack ds v) : Neutral ds := by
  cases h with
  | notOwed howes => exact howes.neutral
  | dropped howes => simp [howes.neutral, WorkDeed.Neutral]
  | failed howes => simp [howes.neutral, WorkDeed.Neutral]
  | rolledBack howes => simp [howes.neutral, WorkDeed.Neutral]

end OpenUnit

end Demarcation
