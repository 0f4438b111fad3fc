/-
The course of a call.

A call opens a unit of work, runs its method and concludes, and it may be
dropped wherever it waits.  `Component.Allows` says after what the steps of a
call are taken: the method runs when the unit of work has been opened, a commit
follows a method that returned a value, a rollback follows an error of the
method or of the commit, and neither follows once the call has been dropped.
`Component.Returns` says what the call returns, and that a failure of the
rollback never takes the place of an earlier one.

The method is code that uses shared handles only, in a context that nobody else
changes.
-/
import Demarcation.Proofs.Forwarding
import Demarcation.Proofs.Invocation

namespace Demarcation

variable {app : Jobs}

/-- Two traces of one routine that begin the same list are the same trace. -/
theorem Task.Traces.eq_of_begin {V : Vocabulary} {C : Calls} {α : Type} {x : Task V C α}
    {first first' rest rest' : List (Deed V C)} {v v' : Option α} (h : x.Traces first v)
    (h' : x.Traces first' v') (hsame : first ++ rest = first' ++ rest') :
    first = first' ∧ rest = rest' ∧ v = v' := by
  rcases List.append_eq_append_iff.mp hsame with ⟨more, rfl, rfl⟩ | ⟨more, rfl, rfl⟩
  · obtain ⟨rfl, rfl⟩ := h.eq_of_append h'
    exact ⟨(List.append_nil first).symm, rfl, rfl⟩
  · obtain ⟨rfl, rfl⟩ := h'.eq_of_append h
    exact ⟨List.append_nil first', rfl, rfl⟩

/-! ## Whose deeds -/

namespace WorkDeed

/-- The deed is one of application code: it looks a handle up, asks what stands
behind one, runs an operation, or awaits something else. -/
@[simp] def Applied : WorkDeed app → Prop
  | .did (.context (.find ..)) _ => True
  | .did (.provides ..) _ => True
  | .heard (.execute ..) _ => True
  | .heard (.job _) _ => True
  | .lost (.execute ..) => True
  | .lost (.job _) => True
  | _ => False

/-- The deed calls the end of a transaction. -/
@[simp] def EndsTransaction (deed : WorkDeed app) : Prop :=
  ∃ h, deed.call? = some (h, .commit) ∨ deed.call? = some (h, .rollback)

/-- The deed neither is one of application code nor ends a transaction. -/
@[simp] def Incidental (deed : WorkDeed app) : Prop := ¬ deed.Applied ∧ ¬ deed.EndsTransaction

end WorkDeed

/-- Every deed is incidental. -/
def Incidental (deeds : List (WorkDeed app)) : Prop := ∀ deed ∈ deeds, WorkDeed.Incidental deed

section Incidental

variable {ds es : List (WorkDeed app)} {cx : ContextId} {h : Handle}

@[simp] theorem incidental_nil : Incidental ([] : List (WorkDeed app)) := fun _ h => nomatch h

@[simp] theorem incidental_cons {d : WorkDeed app} :
    Incidental (d :: ds) ↔ WorkDeed.Incidental d ∧ Incidental ds := by
  simp [Incidental]

@[simp] theorem incidental_append : Incidental (ds ++ es) ↔ Incidental ds ∧ Incidental es :=
  List.forall_mem_append

theorem mem_callsOn {call : HandleCall} :
    call ∈ callsOn h ds ↔ ∃ d ∈ ds, d.call? = some (h, call) := by
  rw [callsOn, List.mem_filterMap]
  refine exists_congr fun d => and_congr_right fun _ => ?_
  rw [Option.bind_eq_some_iff]
  constructor
  · rintro ⟨⟨g, other⟩, hsome, hsame⟩
    by_cases hg : g = h
    · rw [if_pos hg] at hsame
      obtain rfl : other = call := Option.some.inj hsame
      rw [hsome, hg]
    · rw [if_neg hg] at hsame
      cases hsame
  · intro hsome
    exact ⟨(h, call), hsome, if_pos rfl⟩

/-- Who only runs operations ends no transaction. -/
theorem Operates.not_endsTransaction (hds : Operates ds) :
    ∀ d ∈ ds, ¬ WorkDeed.EndsTransaction d := by
  rintro d hd ⟨h, hcall | hcall⟩
  · obtain ⟨_, hsame⟩ := hds d hd h _ hcall
    cases hsame
  · obtain ⟨_, hsame⟩ := hds d hd h _ hcall
    cases hsame

/-- Where no deed ends a transaction, neither a commit nor a rollback is called. -/
theorem not_mem_callsOn (hds : ∀ d ∈ ds, ¬ WorkDeed.EndsTransaction d) :
    HandleCall.commit ∉ callsOn h ds ∧ HandleCall.rollback ∉ callsOn h ds := by
  constructor
  · intro hmem
    obtain ⟨d, hd, hcall⟩ := mem_callsOn.mp hmem
    exact hds d hd ⟨h, Or.inl hcall⟩
  · intro hmem
    obtain ⟨d, hd, hcall⟩ := mem_callsOn.mp hmem
    exact hds d hd ⟨h, Or.inr hcall⟩

theorem not_mem_callsOn_append
    (hds : HandleCall.commit ∉ callsOn h ds ∧ HandleCall.rollback ∉ callsOn h ds)
    (hes : HandleCall.commit ∉ callsOn h es ∧ HandleCall.rollback ∉ callsOn h es) :
    HandleCall.commit ∉ callsOn h (ds ++ es) ∧ HandleCall.rollback ∉ callsOn h (ds ++ es) := by
  simp only [callsOn_append, List.mem_append, not_or]
  exact ⟨⟨hds.1, hes.1⟩, hds.2, hes.2⟩

theorem Incidental.not_mem_callsOn (hds : Incidental ds) :
    HandleCall.commit ∉ Demarcation.callsOn h ds ∧
      HandleCall.rollback ∉ Demarcation.callsOn h ds :=
  Demarcation.not_mem_callsOn fun d hd => (hds d hd).2

theorem Operates.not_mem_callsOn (hds : Operates ds) :
    HandleCall.commit ∉ Demarcation.callsOn h ds ∧
      HandleCall.rollback ∉ Demarcation.callsOn h ds :=
  Demarcation.not_mem_callsOn hds.not_endsTransaction

theorem incidental_emit (e : Event) : Incidental ([.did (.emit e) ()] : List (WorkDeed app)) := by
  simp [WorkDeed.call?]

theorem incidental_bindDeeds {replaced : Option Handle} :
    Incidental (cx.bindDeeds h replaced : List (WorkDeed app)) := by
  simp [ContextId.bindDeeds, WorkDeed.call?]

theorem incidental_unbindDeeds {factory : FactoryId} {removed : Option Handle} :
    Incidental (cx.unbindDeeds factory removed : List (WorkDeed app)) := by
  cases removed <;> simp [ContextId.unbindDeeds, WorkDeed.call?]

theorem OpenUnit.incidental_releaseDeeds {work : OpenUnit} {removed : Option Handle} :
    Incidental (work.releaseDeeds cx removed : List (WorkDeed app)) := by
  simp [OpenUnit.releaseDeeds, incidental_unbindDeeds, WorkDeed.call?]

theorem OpenUnit.OwesEnd.incidental {work : OpenUnit} {owed : Bool} (howes : work.OwesEnd ds owed) :
    Incidental ds := by
  cases howes <;> simp [WorkDeed.call?]

theorem OpenUnit.Enters.incidental {spec : WorkSpec} {v : Option (Except Failure Unit)}
    (henters : OpenUnit.Enters cx spec h ds v) : Incidental ds := by
  cases henters <;> simp [incidental_bindDeeds, WorkDeed.call?]

theorem Demarcator.Starts.incidental {demarcator : Demarcator} {registry : Registry}
    {spec? : Option WorkSpec} {v : Option (Except Failure Demarcator)}
    (hstarts : demarcator.Starts registry cx spec? ds v) : Incidental ds := by
  cases hstarts with
  | undeclared => exact incidental_nil
  | unresolved => exact incidental_nil
  | createDropped => simp [WorkDeed.call?]
  | createFailed => simp [WorkDeed.call?]
  | enterDropped _ henters => simp [henters.incidental, WorkDeed.call?]
  | refused _ henters => simp [henters.incidental, incidental_unbindDeeds, WorkDeed.call?]
  | opened _ henters => simp [henters.incidental, WorkDeed.call?]

theorem Demarcator.Finishes.incidental {demarcator : Demarcator} {work : OpenUnit}
    (hfinishes : demarcator.Finishes cx work ds) : Incidental ds := by
  cases hfinishes with
  | immediate => exact OpenUnit.incidental_releaseDeeds
  | deferred => exact incidental_nil

theorem Demarcator.incidental_of_releaseAbandoned {demarcator : Demarcator} {u : Unit}
    (hreleases : (demarcator.releaseAbandoned cx).Traces ds u) : Incidental ds := by
  cases hcur : demarcator.current with
  | none =>
      simp only [releaseAbandoned, hcur] at hreleases
      obtain ⟨rfl, -⟩ := Action.traces_done.mp hreleases
      exact incidental_nil
  | some work =>
      obtain ⟨removed, rfl⟩ := (traces_releaseAbandoned hcur).mp hreleases
      simp [OpenUnit.incidental_releaseDeeds, WorkDeed.call?]

end Incidental

namespace Component

variable {τ ρ ε : Type}

/-! ## What is done when -/

section Allows

variable (component : Component τ) (registry : Registry) (cx : ContextId) (method : String)
  (call : τ → ContextId → Work app (Except ε ρ)) (earlier : List (WorkDeed app))

/-- The unit of work has been opened. -/
def Opened : Prop :=
  ∃ before later demarcator, earlier = before ++ later ∧
    (component.opening registry cx method).Traces before (some (.ok demarcator))

/-- The unit of work has been opened, and the method has run and returned `outcome`. -/
def Returned (outcome : Except ε ρ) : Prop :=
  ∃ before during later demarcator, earlier = before ++ (during ++ later) ∧
    (component.opening registry cx method).Traces before (some (.ok demarcator)) ∧
    (call component.target cx).Traces during (some outcome)

/-- When a call takes a step. -/
structure Allows (deed : WorkDeed app) : Prop where
  /-- The method runs when the unit of work has been opened, until it returns. -/
  applied : deed.Applied → component.Opened registry cx method earlier ∧
    ∀ outcome, ¬ component.Returned registry cx method call earlier outcome
  /-- A commit is called once at most, on the handle of the unit of work, and the
  method has returned a value then. -/
  commit : ∀ h, deed.call? = some (h, .commit) →
    h ∈ handed earlier ∧ .commit ∉ callsOn h earlier ∧
      ∃ value, component.Returned registry cx method call earlier (.ok value)
  /-- A rollback is called once at most, on the handle of the unit of work, and the
  method has returned an error or the commit has failed then. -/
  rollback : ∀ h, deed.call? = some (h, .rollback) →
    h ∈ handed earlier ∧ .rollback ∉ callsOn h earlier ∧
      ((∃ e, component.Returned registry cx method call earlier (.error e)) ∨
        ∃ failure, .heard (.commit h) (.error failure) ∈ earlier)
  /-- A call that has been dropped calls neither. -/
  dropped : deed.EndsTransaction → ∀ c, .lost c ∉ earlier

/-- The method runs once at most, and only when the unit of work has been opened:
what the deeds hold of application code is one run of the method. -/
def RunsOnce (deeds : List (WorkDeed app)) : Prop :=
  ∃ before during after, deeds = before ++ (during ++ after) ∧
    (∀ d ∈ before, ¬ WorkDeed.Applied d) ∧ (∀ d ∈ after, ¬ WorkDeed.Applied d) ∧
    (during ≠ [] → component.Opened registry cx method before ∧
      ∃ outcome, (call component.target cx).Traces during outcome)

/-- What a call returns. -/
inductive Returns (ofFailure : Failure → ε) : Except ε ρ → Prop where
  /-- The unit of work could not be opened. -/
  | refused {failure : Failure}
      (opens : (component.opening registry cx method).Traces earlier (some (.error failure))) :
      Returns ofFailure (.error (ofFailure failure))
  /-- The method has returned an error. -/
  | failed {e : ε} (returned : component.Returned registry cx method call earlier (.error e)) :
      Returns ofFailure (.error e)
  /-- The method has returned a value, and it is up to the commit. -/
  | ended {value : ρ} {result : Except ε ρ}
      (returned : component.Returned registry cx method call earlier (.ok value))
      (committed : result = .ok value ↔ ∀ h reply, .heard (.commit h) reply ∈ earlier →
        reply = .ok ())
      (uncommitted : ∀ h failure, .heard (.commit h) (.error failure) ∈ earlier →
        result = .error (ofFailure failure)) :
      Returns ofFailure result

end Allows

section Steps

variable {component : Component τ} {registry : Registry} {ofFailure : Failure → ε} {cx : ContextId}
  {method : String} {call : τ → ContextId → Work app (Except ε ρ)}
  {earlier ds : List (WorkDeed app)} {demarcator : Demarcator} {work : OpenUnit}

theorem Returned.append {outcome : Except ε ρ}
    (hreturned : component.Returned registry cx method call earlier outcome)
    (later : List (WorkDeed app)) :
    component.Returned registry cx method call (earlier ++ later) outcome := by
  obtain ⟨before, during, rest, demarcator, rfl, hopens, hruns⟩ := hreturned
  exact ⟨before, during, rest ++ later, demarcator, by simp, hopens, hruns⟩

theorem each_allows_of_incidental (hds : Incidental ds) :
    Each (component.Allows registry cx method call) earlier ds := by
  refine each_of_forall ?_
  intro d hd earlier
  obtain ⟨happlied, hends⟩ := hds d hd
  constructor
  · exact fun h => absurd h happlied
  · exact fun h hcall => absurd ⟨h, Or.inl hcall⟩ hends
  · exact fun h hcall => absurd ⟨h, Or.inr hcall⟩ hends
  · exact fun h => absurd h hends

/-- The method runs after the opening, and as long as it takes a step it has not
returned. -/
theorem each_allows_of_running {v : Option (Except ε ρ)} (hoperates : Operates ds)
    (hopens : (component.opening registry cx method).Traces earlier (some (.ok demarcator)))
    (hruns : (call component.target cx).Traces ds v) :
    Each (component.Allows registry cx method call) earlier ds := by
  refine each_of_splits ?_
  rintro pre d post rfl
  have hends : ¬ WorkDeed.EndsTransaction d :=
    hoperates.not_endsTransaction d (by simp)
  constructor
  · intro _
    refine ⟨⟨earlier, pre, demarcator, rfl, hopens⟩, ?_⟩
    rintro outcome ⟨_, during, later, _, hsame, hopens', hruns'⟩
    obtain ⟨rfl, rfl, -⟩ := hopens.eq_of_begin hopens' hsame
    rw [List.append_assoc] at hruns
    obtain ⟨hnil, -⟩ := hruns'.eq_of_append hruns
    simp at hnil
  · exact fun h hcall => absurd ⟨h, Or.inl hcall⟩ hends
  · exact fun h hcall => absurd ⟨h, Or.inr hcall⟩ hends
  · exact fun h => absurd h hends

/-- A handle has been obtained whose transaction may be rolled back. -/
structure Owed (earlier : List (WorkDeed app)) (h : Handle) : Prop where
  handed : h ∈ handed earlier
  rollback : .rollback ∉ callsOn h earlier
  lost : ∀ c, .lost c ∉ earlier

theorem Owed.append {h : Handle} (howed : Owed earlier h)
    (hrollback : .rollback ∉ callsOn h ds) (hlost : ∀ c, .lost c ∉ ds) :
    Owed (earlier ++ ds) h where
  handed := by rw [handed_append]; exact List.mem_append_left _ howed.handed
  rollback := by
    rw [callsOn_append, List.mem_append]
    rintro (h | h)
    · exact howed.rollback h
    · exact hrollback h
  lost := by
    intro c hmem
    rcases List.mem_append.mp hmem with h | h
    · exact howed.lost c h
    · exact hlost c h

theorem Owed.asked {owed : Bool} (howed : Owed earlier work.handle)
    (howes : work.OwesEnd ds owed) : Owed (earlier ++ ds) work.handle := by
  refine howed.append howes.incidental.not_mem_callsOn.2 ?_
  cases howes <;> simp

theorem Owed.allows_rollback (howed : Owed earlier work.handle)
    (hcause : (∃ e, component.Returned registry cx method call earlier (.error e)) ∨
      ∃ failure, .heard (.commit work.handle) (.error failure) ∈ earlier) {d : WorkDeed app}
    (happlied : ¬ d.Applied) (hcall : d.call? = some (work.handle, .rollback)) :
    component.Allows registry cx method call earlier d where
  applied := fun h => absurd h happlied
  commit := by
    intro h hcommit
    rw [hcall] at hcommit
    cases hcommit
  rollback := by
    intro h hrollback
    obtain ⟨rfl, -⟩ := Prod.mk.inj (Option.some.inj (hcall.symm.trans hrollback))
    exact ⟨howed.handed, howed.rollback, hcause⟩
  dropped := fun _ => howed.lost

theorem each_allows_of_rollsBack {v : Option Unit} (howed : Owed earlier work.handle)
    (hcause : (∃ e, component.Returned registry cx method call earlier (.error e)) ∨
      ∃ failure, .heard (.commit work.handle) (.error failure) ∈ earlier)
    (hrolls : work.RollsBack ds v) :
    Each (component.Allows registry cx method call) earlier ds := by
  have hlater : ∀ asked, (∃ e, component.Returned registry cx method call (earlier ++ asked)
      (.error e)) ∨
        ∃ failure, .heard (.commit work.handle) (.error failure) ∈ earlier ++ asked := by
    intro asked
    refine hcause.imp ?_ ?_
    · rintro ⟨e, hreturned⟩
      exact ⟨e, hreturned.append asked⟩
    · rintro ⟨failure, hmem⟩
      exact ⟨failure, List.mem_append_left asked hmem⟩
  cases hrolls with
  | notOwed howes => exact each_allows_of_incidental howes.incidental
  | @dropped asked howes =>
      refine each_append.mpr ⟨each_allows_of_incidental howes.incidental, ?_, trivial⟩
      exact (howed.asked howes).allows_rollback (hlater asked) id rfl
  | @failed asked howes failure =>
      refine each_append.mpr ⟨each_allows_of_incidental howes.incidental, ?_,
        each_allows_of_incidental (incidental_emit _)⟩
      exact (howed.asked howes).allows_rollback (hlater asked) id rfl
  | @rolledBack asked howes =>
      refine each_append.mpr ⟨each_allows_of_incidental howes.incidental, ?_,
        each_allows_of_incidental (incidental_emit _)⟩
      exact (howed.asked howes).allows_rollback (hlater asked) id rfl

theorem Owed.allows_commit (howed : Owed earlier work.handle)
    (hcommit : .commit ∉ callsOn work.handle earlier)
    (hreturned : ∃ value, component.Returned registry cx method call earlier (.ok value))
    {d : WorkDeed app} (happlied : ¬ d.Applied) (hcall : d.call? = some (work.handle, .commit)) :
    component.Allows registry cx method call earlier d where
  applied := fun h => absurd h happlied
  commit := by
    intro h hsome
    obtain ⟨rfl, -⟩ := Prod.mk.inj (Option.some.inj (hcall.symm.trans hsome))
    exact ⟨howed.handed, hcommit, hreturned⟩
  rollback := by
    intro h hrollback
    rw [hcall] at hrollback
    cases hrollback
  dropped := fun _ => howed.lost

theorem each_allows_of_commits {v : Option (Except Failure Unit)}
    (howed : Owed earlier work.handle) (hcommit : .commit ∉ callsOn work.handle earlier)
    (hreturned : ∃ value, component.Returned registry cx method call earlier (.ok value))
    (hcommits : work.Commits ds v) :
    Each (component.Allows registry cx method call) earlier ds := by
  have hallows : ∀ asked, work.OwesEnd asked true → ∀ d : WorkDeed app, ¬ d.Applied →
      d.call? = some (work.handle, .commit) →
        component.Allows registry cx method call (earlier ++ asked) d := by
    intro asked howes d happlied hcall
    refine (howed.asked howes).allows_commit ?_ ?_ happlied hcall
    · rw [callsOn_append, howes.silent.callsOn, List.append_nil]
      exact hcommit
    · obtain ⟨value, h⟩ := hreturned
      exact ⟨value, h.append asked⟩
  cases hcommits with
  | notOwed howes => exact each_allows_of_incidental howes.incidental
  | dropped howes =>
      exact each_append.mpr ⟨each_allows_of_incidental howes.incidental,
        hallows _ howes _ id rfl, trivial⟩
  | failed howes =>
      exact each_append.mpr ⟨each_allows_of_incidental howes.incidental,
        hallows _ howes _ id rfl, trivial⟩
  | committed howes =>
      exact each_append.mpr ⟨each_allows_of_incidental howes.incidental,
        hallows _ howes _ id rfl, each_allows_of_incidental (incidental_emit _)⟩

theorem each_allows_of_fails {e : ε} {v : Option Demarcator}
    (howed : ∀ work, demarcator.current = some work → Owed earlier work.handle)
    (hreturned : component.Returned registry cx method call earlier (.error e))
    (hfails : demarcator.Fails cx ds v) :
    Each (component.Allows registry cx method call) earlier ds := by
  cases hfails with
  | idle => trivial
  | dropped hcur hrolls =>
      exact each_allows_of_rollsBack (howed _ hcur) (Or.inl ⟨e, hreturned⟩) hrolls
  | failed hcur hrolls hfinishes =>
      exact each_append.mpr
        ⟨each_allows_of_rollsBack (howed _ hcur) (Or.inl ⟨e, hreturned⟩) hrolls,
          each_allows_of_incidental hfinishes.incidental⟩

theorem each_allows_of_completes {value : ρ} {v : Option (Except Failure Unit × Demarcator)}
    (howed : ∀ work, demarcator.current = some work →
      Owed earlier work.handle ∧ .commit ∉ callsOn work.handle earlier)
    (hreturned : component.Returned registry cx method call earlier (.ok value))
    (hcompletes : demarcator.Completes cx ds v) :
    Each (component.Allows registry cx method call) earlier ds := by
  have hcommitting : ∀ {work : OpenUnit} {deeds : List (WorkDeed app)}
      {reply : Option (Except Failure Unit)}, demarcator.current = some work →
        work.Commits deeds reply → Each (component.Allows registry cx method call) earlier deeds :=
    fun hcur hcommits =>
      each_allows_of_commits (howed _ hcur).1 (howed _ hcur).2 ⟨value, hreturned⟩ hcommits
  -- after a failed commit the transaction is still owed an end, and the failure is its cause
  have hrolling : ∀ {work : OpenUnit} {deeds rolling : List (WorkDeed app)} {failure : Failure}
      {reply : Option Unit}, demarcator.current = some work →
        work.Commits deeds (some (.error failure)) → work.RollsBack rolling reply →
        Each (component.Allows registry cx method call)
          (earlier ++ deeds ++ [.did (.emit (.commitFailed cx work.spec.unit failure)) ()])
          rolling := by
    intro work deeds rolling failure reply hcur hcommits hrolls
    cases hcommits with
    | @failed asked howes _ =>
        have hcalled : Owed (earlier ++ (asked ++ [.heard (.commit work.handle) (.error failure)]) ++
            [.did (.emit (.commitFailed cx work.spec.unit failure)) ()]) work.handle := by
          rw [← List.append_assoc, List.append_assoc]
          refine ((howed _ hcur).1.asked howes).append ?_ ?_
          · simp [callsOn, WorkDeed.call?]
          · simp
        exact each_allows_of_rollsBack hcalled (Or.inr ⟨failure, by simp⟩) hrolls
  cases hcompletes with
  | idle => trivial
  | commitDropped hcur hcommits => exact hcommitting hcur hcommits
  | completed hcur hcommits hfinishes =>
      exact each_append.mpr
        ⟨hcommitting hcur hcommits, each_allows_of_incidental hfinishes.incidental⟩
  | rollbackDropped hcur hcommits hrolls =>
      refine each_append.mpr ⟨hcommitting hcur hcommits, ?_, hrolling hcur hcommits hrolls⟩
      exact (each_allows_of_incidental (incidental_emit _)).1
  | commitFailed hcur hcommits hrolls hfinishes =>
      refine each_append.mpr ⟨hcommitting hcur hcommits, ?_, each_append.mpr
        ⟨hrolling hcur hcommits hrolls, each_allows_of_incidental hfinishes.incidental⟩⟩
      exact (each_allows_of_incidental (incidental_emit _)).1

theorem each_allows_of_conclude {outcome : Except ε ρ} {v : Option (Except ε ρ)}
    (howed : ∀ work, demarcator.current = some work →
      Owed earlier work.handle ∧ .commit ∉ callsOn work.handle earlier)
    (hreturned : component.Returned registry cx method call earlier outcome)
    (hends : (conclude ofFailure demarcator cx outcome : Work app (Except ε ρ)).Traces ds v) :
    Each (component.Allows registry cx method call) earlier ds := by
  cases outcome with
  | error e =>
      rcases Task.traces_bind.mp hends with ⟨_, first, rest, rfl, hfails, hrest⟩ | ⟨hfails, -⟩
      · obtain ⟨rfl, -⟩ := Task.traces_done.mp hrest
        rw [List.append_nil]
        exact each_allows_of_fails (fun work hcur => (howed work hcur).1) hreturned
          (Demarcator.traces_fail.mp hfails)
      · exact each_allows_of_fails (fun work hcur => (howed work hcur).1) hreturned
          (Demarcator.traces_fail.mp hfails)
  | ok value =>
      rw [conclude, Task.traces_bind_done (g := fun r =>
        (r.1.mapError ofFailure).map fun _ => value) (by rintro ⟨_ | _, _⟩ <;> rfl)] at hends
      obtain ⟨_, hcompletes, -⟩ := hends
      exact each_allows_of_completes howed hreturned (Demarcator.traces_complete.mp hcompletes)

end Steps

/-! ## Whole calls -/

section Calls

variable {component : Component τ} {registry : Registry} {ofFailure : Failure → ε} {cx : ContextId}
  {method : String} {call : τ → ContextId → Work app (Except ε ρ)}
  {before during after deeds : List (WorkDeed app)} {demarcator : Demarcator}

/-- When the method has returned, the unit of work is there to be ended. -/
theorem owed_of_returned {outcome : Except ε ρ} (hoperates : Operates during)
    (hopens : (component.opening registry cx method).Traces before (some (.ok demarcator)))
    (hruns : (call component.target cx).Traces during (some outcome)) :
    ∀ work, demarcator.current = some work → Owed (before ++ during) work.handle ∧
      .commit ∉ callsOn work.handle (before ++ during) := by
  intro work hcur
  have hstarts := Demarcator.traces_start.mp hopens
  have hcalls : HandleCall.commit ∉ callsOn work.handle (before ++ during) ∧
      HandleCall.rollback ∉ callsOn work.handle (before ++ during) :=
    not_mem_callsOn_append hstarts.incidental.not_mem_callsOn hoperates.not_mem_callsOn
  have hhanded : work.handle ∈ handed (before ++ during) := by
    rcases hstarts.of_ok with ⟨-, rfl, -⟩ | ⟨_, work', -, -, rfl, hcreated, -⟩
    · cases hcur
    · obtain rfl : work' = work := Option.some.inj hcur
      rw [handed_append]
      exact List.mem_append_left _ (mem_handed hcreated)
  have hlost : ∀ c, .lost c ∉ before ++ during := by
    intro c hmem
    rcases List.mem_append.mp hmem with hmem | hmem
    · exact hopens.lost_notMem (Option.some_ne_none _) c hmem
    · exact hruns.lost_notMem (Option.some_ne_none _) c hmem
  exact ⟨⟨hhanded, hcalls.2, hlost⟩, hcalls.1⟩

theorem returned_of_traces {outcome : Except ε ρ}
    (hopens : (component.opening registry cx method).Traces before (some (.ok demarcator)))
    (hruns : (call component.target cx).Traces during (some outcome))
    (after : List (WorkDeed app)) :
    component.Returned registry cx method call (before ++ (during ++ after)) outcome :=
  ⟨before, during, after, demarcator, rfl, hopens, hruns⟩

/-- What is done after the method has returned is nothing of its own. -/
theorem not_applied_of_returned {outcome : Except ε ρ} {earlier : List (WorkDeed app)}
    (hreturned : component.Returned registry cx method call earlier outcome)
    (heach : Each (component.Allows registry cx method call) earlier after) :
    ∀ d ∈ after, ¬ WorkDeed.Applied d := by
  intro d hmem happlied
  obtain ⟨pre, post, rfl⟩ := List.append_of_mem hmem
  obtain ⟨-, hallows, -⟩ := each_append.mp heach
  exact (hallows.applied happlied).2 outcome (hreturned.append pre)

/-- The order is kept, whether the unit of work is concluded or the call dropped in
the midst of it. -/
theorem each_allows_of_concluding {outcome : Except ε ρ} {v : Option (Except ε ρ)}
    (hoperates : Operates during)
    (hopens : (component.opening registry cx method).Traces before (some (.ok demarcator)))
    (hruns : (call component.target cx).Traces during (some outcome))
    (hends : (conclude ofFailure demarcator cx outcome : Work app (Except ε ρ)).Traces after v) :
    Each (component.Allows registry cx method call) [] (before ++ (during ++ after)) := by
  have hreturned : component.Returned registry cx method call (before ++ during) outcome := by
    rw [← List.append_nil during]
    exact returned_of_traces hopens hruns []
  refine each_append.mpr ⟨?_, each_append.mpr ⟨?_, ?_⟩⟩
  · exact each_allows_of_incidental (Demarcator.traces_start.mp hopens).incidental
  · exact each_allows_of_running hoperates hopens hruns
  · exact each_allows_of_conclude (owed_of_returned hoperates hopens hruns) hreturned hends

theorem Drops.each_allows (hoperates : Operates during)
    (h : component.Drops registry ofFailure cx method call before during after) :
    Each (component.Allows registry cx method call) [] (before ++ (during ++ after)) := by
  cases h with
  | opening hopens =>
      rw [List.append_nil, List.append_nil]
      exact each_allows_of_incidental (Demarcator.traces_start.mp hopens).incidental
  | running hopens hruns hreleases =>
      refine each_append.mpr ⟨?_, each_append.mpr ⟨?_, ?_⟩⟩
      · exact each_allows_of_incidental (Demarcator.traces_start.mp hopens).incidental
      · exact each_allows_of_running hoperates hopens hruns
      · exact each_allows_of_incidental (Demarcator.incidental_of_releaseAbandoned hreleases)
  | concluding hopens hruns hends hreleases =>
      rw [← List.append_assoc, ← List.append_assoc, List.append_assoc before]
      refine each_append.mpr ⟨each_allows_of_concluding hoperates hopens hruns hends, ?_⟩
      exact each_allows_of_incidental (Demarcator.incidental_of_releaseAbandoned hreleases)

theorem runsOnce_of_opened {v : Option (Except ε ρ)}
    (hopens : (component.opening registry cx method).Traces before (some (.ok demarcator)))
    (hruns : (call component.target cx).Traces during v)
    (hafter : ∀ d ∈ after, ¬ WorkDeed.Applied d) :
    component.RunsOnce registry cx method call (before ++ (during ++ after)) := by
  refine ⟨before, during, after, rfl, ?_, hafter, ?_⟩
  · exact fun d hd => ((Demarcator.traces_start.mp hopens).incidental d hd).1
  · exact fun _ => ⟨⟨before, [], demarcator, (List.append_nil _).symm, hopens⟩, v, hruns⟩

theorem runsOnce_of_refused {v : Option (Except Failure Demarcator)}
    (hopens : (component.opening registry cx method).Traces deeds v) :
    component.RunsOnce registry cx method call deeds := by
  refine ⟨deeds, [], [], by simp, ?_, ?_, fun h => absurd rfl h⟩
  · exact fun d hd => ((Demarcator.traces_start.mp hopens).incidental d hd).1
  · exact fun d hd => nomatch hd

theorem Drops.runsOnce (hoperates : Operates during)
    (h : component.Drops registry ofFailure cx method call before during after) :
    component.RunsOnce registry cx method call (before ++ (during ++ after)) := by
  have heach := h.each_allows hoperates
  cases h with
  | opening hopens =>
      rw [List.append_nil, List.append_nil]
      exact runsOnce_of_refused hopens
  | running hopens hruns hreleases =>
      refine runsOnce_of_opened hopens hruns ?_
      exact fun d hd => (Demarcator.incidental_of_releaseAbandoned hreleases d hd).1
  | concluding hopens hruns hends hreleases =>
      refine runsOnce_of_opened hopens hruns ?_
      refine not_applied_of_returned (returned_of_traces hopens hruns []) ?_
      rw [List.append_nil]
      exact (each_append.mp (each_append.mp heach).2).2

/-- What a call returns that opened its unit of work. -/
theorem Concludes.returns {result : Except ε ρ} (hoperates : Operates during)
    (h : component.Concludes registry ofFailure cx method call before during after result) :
    component.Returns registry cx method call (before ++ (during ++ after)) ofFailure result := by
  cases h with
  | @concluded _ outcome _ hopens hruns hends =>
      have hreturned := returned_of_traces hopens hruns after
      cases outcome with
      | error e =>
          rw [conclude, Task.traces_bind_done (g := fun _ => .error e) (by intro; rfl)] at hends
          obtain ⟨_ | next, -, hresult⟩ := hends
          · cases hresult
          · cases hresult
            exact .failed hreturned
      | ok value =>
          rw [conclude, Task.traces_bind_done (g := fun r =>
            (r.1.mapError ofFailure).map fun _ => value) (by rintro ⟨_ | _, _⟩ <;> rfl)] at hends
          obtain ⟨_ | ⟨reply, next⟩, hcompletes, hresult⟩ := hends
          · cases hresult
          have hreply : ∀ {failure : Failure}, reply = .error failure ↔
              ∃ h, .heard (.commit h) (.error failure) ∈ after :=
            (Demarcator.traces_complete.mp hcompletes).error_iff
          -- a commit among the deeds is one of the last part
          have hcommit : ∀ h reply, .heard (.commit h) reply ∈ before ++ (during ++ after) ↔
              .heard (.commit h) reply ∈ after := by
            intro h reply
            have hbefore : .heard (.commit h) reply ∉ before := fun hmem =>
              ((Demarcator.traces_start.mp hopens).incidental _ hmem).2 ⟨h, Or.inl rfl⟩
            have hduring : .heard (.commit h) reply ∉ during := by
              intro hmem
              exact hoperates.not_endsTransaction _ hmem ⟨h, Or.inl rfl⟩
            rw [List.mem_append, List.mem_append, or_iff_right hbefore, or_iff_right hduring]
          simp only [Option.map_some, Option.some.injEq] at hresult
          refine .ended hreturned ?_ ?_
          · cases reply with
            | error failure =>
                obtain ⟨h, hmem⟩ := hreply.mp rfl
                rw [hresult]
                refine iff_of_false (fun hok => ?_) fun hall => ?_
                · cases hok
                · cases hall h _ ((hcommit h _).mpr hmem)
            | ok done =>
                rw [hresult]
                refine iff_of_true rfl ?_
                rintro h (failure | done) hmem
                · cases hreply.mpr ⟨h, (hcommit h _).mp hmem⟩
                · rfl
          · intro h failure hmem
            rw [hresult, hreply.mpr ⟨h, (hcommit h _).mp hmem⟩]
            rfl

/-! ## Giving everything back -/

section Returned

variable {others : Workspace → Workspace → Prop} {w w' : Workspace} {result : Except ε ρ}

/-- A call that opened its unit of work has closed its handle once when it returns,
and it leaves an empty context empty. -/
theorem Concludes.gives_back (hbody : SharedOnly cx (call component.target cx))
    (hown : OwnFactory (before ++ (during ++ after))) (hspares : Workspace.Spares others cx)
    (hempty : w.context cx = .empty)
    (h : component.Concludes registry ofFailure cx method call before during after result)
    (hleads : Workspace.Leads others (before ++ (during ++ after)) w w') :
    (∀ h ∈ handed (before ++ (during ++ after)), closings h (before ++ (during ++ after)) = 1) ∧
      w'.context cx = .empty := by
  have hconcludes := h
  cases h with
  | @concluded demarcator outcome _ hopens hruns hends =>
      have hquiet : Quiet cx during := hbody.leavesAlone _ _ hruns
      have hending := ends_of_traces_conclude hends
      rcases (Demarcator.traces_start.mp hopens).of_ok with
        ⟨-, rfl, rfl⟩ | ⟨spec, work, hspec, hfactory, rfl, -, hopened⟩
      · -- the method is not declared, so there is no unit of work
        have hafter : after = [] := by
          cases hending with
          | idle => rfl
          | ended hcur => cases hcur
        subst hafter
        rw [List.nil_append, List.append_nil] at hleads ⊢
        refine ⟨?_, (hquiet.context hspares hleads).trans hempty⟩
        intro h hmem
        rw [hquiet.handed] at hmem
        cases hmem
      · constructor
        · intro h hmem
          rw [handed_append, handed_append, hopened.handed, hquiet.handed, hending.handed] at hmem
          obtain rfl := List.mem_singleton.mp hmem
          obtain ⟨ending, removed, hneutral, rfl⟩ := hending.release_of_immediate rfl rfl
          rw [closings_append, closings_append, closings_append, hopened.closings, hquiet.closings,
            hneutral.closings, closings_releaseDeeds, if_pos rfl]
        · have hkeeps : ∀ handle : Handle, handle.factory = work.factory →
              Keeps others cx ((w.context cx).bind handle).2 (call component.target cx) := by
            intro handle _ ds value v v' htraces _ hleads hentry
            exact ((hbody.leavesAlone ds _ htraces).context hspares hleads).trans hentry
          rw [hconcludes.context hspec hfactory hown hspares hkeeps hleads, hempty]
          rfl

/-- So has a call that could not open it. -/
theorem gives_back_of_refused {failure : Failure} (hown : OwnFactory deeds)
    (hspares : Workspace.Spares others cx) (hempty : w.context cx = .empty)
    (hopens : (component.opening registry cx method).Traces deeds (some (.error failure)))
    (hleads : Workspace.Leads others deeds w w') :
    (∀ h ∈ handed deeds, closings h deeds = 1) ∧ w'.context cx = .empty := by
  rcases (Demarcator.traces_start.mp hopens).of_error hown with
    hquiet | ⟨_, handle, -, -, hrefused⟩
  · refine ⟨?_, (hquiet.context hspares hleads).trans hempty⟩
    intro h hmem
    rw [hquiet.handed] at hmem
    cases hmem
  · constructor
    · intro h hmem
      rw [hrefused.handed] at hmem
      obtain rfl := List.mem_singleton.mp hmem
      rw [hrefused.closings, if_pos rfl]
    · rw [hrefused.context hspares hleads, hempty]
      rfl

/-- A call in an empty context keeps to its course, wherever it is dropped: the
method runs once at most, after the opening; a commit and a rollback are called once
at most, for their reasons, and not by a call that was dropped.  If it returns, then
with the first failure that there was, with its handle closed once and its context
empty. -/
theorem keeps_course {result : Option (Except ε ρ)}
    (hcall : (component.callIn registry ofFailure cx method call).Traces deeds result ∨
      (component.call registry ofFailure method call).Traces
        (.did (.context .create) cx :: deeds) result)
    (hbody : SharedOnly cx (call component.target cx)) (hown : OwnFactory deeds)
    (hspares : Workspace.Spares others cx) (hempty : w.context cx = .empty)
    (hleads : Workspace.Leads others deeds w w') :
    component.RunsOnce registry cx method call deeds ∧
      Each (component.Allows registry cx method call) [] deeds ∧
      ∀ reply, result = some reply →
        component.Returns registry cx method call deeds ofFailure reply ∧
          (∀ h ∈ handed deeds, closings h deeds = 1) ∧ w'.context cx = .empty := by
  have hin : (component.callIn registry ofFailure cx method call).Traces deeds result := by
    rcases hcall with hin | hcall
    · exact hin
    · obtain ⟨_, _, hdeeds, h⟩ := traces_call.mp hcall
      cases hdeeds
      exact h
  cases result with
  | none =>
      obtain ⟨before, during, after, rfl, hdrops⟩ := traces_callIn_none.mp hin
      have hoperates : Operates during := by
        cases hdrops with
        | opening => exact fun _ hmem => nomatch hmem
        | running _ hruns => exact hbody.operates hruns
        | concluding _ hruns => exact hbody.operates hruns
      exact ⟨hdrops.runsOnce hoperates, hdrops.each_allows hoperates, nofun⟩
  | some reply =>
      rcases traces_callIn_some.mp hin with
        ⟨failure, hopens, rfl⟩ | ⟨before, during, after, rfl, hconcludes⟩
      · refine ⟨runsOnce_of_refused hopens, ?_, ?_⟩
        · exact each_allows_of_incidental (Demarcator.traces_start.mp hopens).incidental
        · rintro _ ⟨⟩
          exact ⟨.refused hopens, gives_back_of_refused hown hspares hempty hopens hleads⟩
      · have hgives := hconcludes.gives_back hbody hown hspares hempty hleads
        obtain ⟨hopens, hruns, hends⟩ := id hconcludes
        have hoperates : Operates during := hbody.operates hruns
        have heach := each_allows_of_concluding hoperates hopens hruns hends
        refine ⟨?_, heach, ?_⟩
        · refine runsOnce_of_opened hopens hruns ?_
          refine not_applied_of_returned (returned_of_traces hopens hruns []) ?_
          rw [List.append_nil]
          exact (each_append.mp (each_append.mp heach).2).2
        · rintro _ ⟨⟩
          exact ⟨hconcludes.returns hoperates, hgives⟩

end Returned

end Calls

/-! ## A call whose commit and rollback fail -/

section Lookup

/-- Looking the row up, and finding none. -/
def lookUpDeeds (n : Nat) : List (WorkDeed noJobs) :=
  [.did (.context (.find ⟨0⟩ ⟨0⟩)) (some ⟨n, ⟨0⟩⟩),
    .heard (.execute ⟨n, ⟨0⟩⟩ (.find ⟨"row", ⟨0⟩⟩)) (.ok (.found none))]

theorem traces_lookUp (n : Nat) : (lookUp () ⟨0⟩).Traces (lookUpDeeds n) (some (.ok none)) :=
  Task.traces_bind.mpr (Or.inl ⟨.ok (.found none), _, [], (List.append_nil _).symm,
    SharedHandle.traces_invoke.mpr (.bound (.executed (.read rfl) (.ok (.found none)))), .done _⟩)

/-- Neither the commit nor the rollback succeeds. -/
def uncommittedDeeds (n : Nat) : List (WorkDeed noJobs) :=
  ([.did (.transactionActive ⟨n, ⟨0⟩⟩) true] ++
      [.heard (.commit ⟨n, ⟨0⟩⟩) (.error (.commitFailed "conflict"))]) ++
    .did (.emit (.commitFailed ⟨0⟩ defaultUnitName (.commitFailed "conflict"))) () ::
      (([.did (.transactionActive ⟨n, ⟨0⟩⟩) true] ++
          [.heard (.rollback ⟨n, ⟨0⟩⟩) (.error .handleClosed),
            .did (.emit (.rollbackFailed defaultUnitName .handleClosed)) ()]) ++
        (defaultWork n).releaseDeeds ⟨0⟩ (some ⟨n, ⟨0⟩⟩))

theorem concludes_lookUp (n : Nat) :
    keeper.Concludes (.lone ⟨0⟩) id ⟨0⟩ "keep" lookUp (defaultOpened n none) (lookUpDeeds n)
      (uncommittedDeeds n) (.error (.commitFailed "conflict")) := by
  have hcur : ({ mode := .immediate, current := some (defaultWork n) } :
      Demarcator).current = some (defaultWork n) := rfl
  refine .concluded (traces_opening_keeper.mpr starts_defaultOpened) (traces_lookUp n) ?_
  have hcompletes : Demarcator.Completes { mode := .immediate, current := some (defaultWork n) }
      ⟨0⟩ (uncommittedDeeds n) (some (.error (.commitFailed "conflict"), { mode := .immediate })) :=
    .commitFailed hcur (.failed (.asked rfl true) _) (.failed (.asked rfl true) _)
      (.immediate rfl _)
  exact Task.traces_bind.mpr (Or.inl ⟨_, _, [], (List.append_nil _).symm,
    Demarcator.traces_complete.mpr hcompletes, .done _⟩)

/-- The failure of the commit is returned, although the rollback has failed too. -/
theorem uncommitted_keeps_course :
    ∃ w', Workspace.Leads Eq (defaultOpened 0 none ++ (lookUpDeeds 0 ++ uncommittedDeeds 0)) {} w' ∧
      Each (keeper.Allows (.lone ⟨0⟩) ⟨0⟩ "keep" lookUp) []
        (defaultOpened 0 none ++ (lookUpDeeds 0 ++ uncommittedDeeds 0)) ∧
      keeper.Returns (.lone ⟨0⟩) ⟨0⟩ "keep" lookUp
        (defaultOpened 0 none ++ (lookUpDeeds 0 ++ uncommittedDeeds 0)) id
        (.error (.commitFailed "conflict")) ∧
      w'.context ⟨0⟩ = .empty := by
  have hcall := traces_callIn_some.mpr (Or.inr ⟨_, _, _, rfl, concludes_lookUp 0⟩)
  have hown : OwnFactory (defaultOpened 0 none ++ (lookUpDeeds 0 ++ uncommittedDeeds 0)) :=
    ownFactory_defaultOpened.append (ownFactory_of_handed_nil rfl)
  have hleads : Workspace.Leads Eq
      (defaultOpened 0 none ++ (lookUpDeeds 0 ++ uncommittedDeeds 0)) {} _ :=
    follows_append.mpr ⟨_, leads_defaultOpened.mpr ⟨rfl, rfl⟩, _, rfl, _, rfl, _, rfl, _, rfl,
      _, rfl, _, rfl, _, rfl, _, rfl, Workspace.leads_releaseDeeds.mpr ⟨rfl, rfl⟩⟩
  obtain ⟨-, heach, hreturns⟩ := keeps_course (Or.inl hcall) (sharedOnly_lookUp () ⟨0⟩) hown
    Workspace.spares_eq rfl hleads
  obtain ⟨hreturned, -, hempty⟩ := hreturns _ rfl
  exact ⟨_, hleads, heach, hreturned, hempty⟩

end Lookup

end Component

end Demarcation
