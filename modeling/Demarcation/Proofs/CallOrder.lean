/-
The order of the calls on a handle.

A demarcator takes turns: it starts, completes or fails a unit of work.  The
turns may come in any order, factories and handles may answer what they like,
and a transaction may be found active at one moment and not at the next.  Still
the calls that a demarcator makes on one handle come in one order,
`HandleCall.order`: it is configured, its transaction is begun, committed or
rolled back or both, and it is closed, where all but the first may be left out.
Operations are for application code to run; a demarcator runs none.

`Demarcator.Act.Allows` says when each of these calls is made: what the turn is,
and what has happened in the same turn before.
-/
import Mathlib.Computability.RegularExpressions
import Demarcation.Proofs.Effects

namespace Demarcation

variable {app : Jobs}

/-! ## What is called -/

/-- A call on a handle, whatever the reply.  Questions, such as whether its transaction is
active, are no calls. -/
inductive HandleCall where
  | configure (options : SessionOptions)
  | begin
  | commit
  | rollback
  | execute (operation : Operation)
  | close
deriving DecidableEq

/-- The order of the calls on a handle that is configured with these options. -/
def HandleCall.order (options : SessionOptions) : RegularExpression HandleCall :=
  .char (.configure options) * (1 + .char .begin) *
    ((1 + (.char .commit * (1 + .char .rollback) + .char .rollback)) * (1 + .char .close))

/-- The handle that the deed calls, and the call. -/
def WorkDeed.call? : WorkDeed app → Option (Handle × HandleCall)
  | .heard (.configure h options) _ => some (h, .configure options)
  | .heard (.begin h) _ => some (h, .begin)
  | .heard (.commit h) _ => some (h, .commit)
  | .heard (.rollback h) _ => some (h, .rollback)
  | .heard (.execute h operation) _ => some (h, .execute operation)
  | .did (.close h) _ => some (h, .close)
  | .lost (.configure h options) => some (h, .configure options)
  | .lost (.begin h) => some (h, .begin)
  | .lost (.commit h) => some (h, .commit)
  | .lost (.rollback h) => some (h, .rollback)
  | .lost (.execute h operation) => some (h, .execute operation)
  | _ => none

/-- The calls on `h`, in order. -/
def callsOn (h : Handle) (deeds : List (WorkDeed app)) : List HandleCall :=
  deeds.filterMap fun deed =>
    deed.call?.bind fun call => if call.1 = h then some call.2 else none

section CallsOn

variable {h : Handle} {ds es : List (WorkDeed app)}

@[simp] theorem callsOn_nil : callsOn h ([] : List (WorkDeed app)) = [] := rfl

@[simp] theorem callsOn_append : callsOn h (ds ++ es) = callsOn h ds ++ callsOn h es :=
  List.filterMap_append

@[simp] theorem callsOn_cons_of_none {d : WorkDeed app} (hd : d.call? = none) :
    callsOn h (d :: ds) = callsOn h ds := by
  simp [callsOn, hd]

theorem callsOn_cons_of_some {d : WorkDeed app} {g : Handle} {call : HandleCall}
    (hd : d.call? = some (g, call)) :
    callsOn h (d :: ds) = if g = h then call :: callsOn h ds else callsOn h ds := by
  by_cases hg : g = h <;> simp [callsOn, hd, hg]

end CallsOn

/-! ## When it is called -/

/-- Every deed is allowed after those that come before it; `earlier` come first. -/
def Each {δ : Type} (allowed : List δ → δ → Prop) : (earlier deeds : List δ) → Prop
  | _, [] => True
  | earlier, deed :: deeds => allowed earlier deed ∧ Each allowed (earlier ++ [deed]) deeds

section Each

variable {δ : Type} {allowed : List δ → δ → Prop} {earlier ds es : List δ}

theorem each_append :
    Each allowed earlier (ds ++ es) ↔
      Each allowed earlier ds ∧ Each allowed (earlier ++ ds) es := by
  induction ds generalizing earlier with
  | nil => simp [Each]
  | cons d ds ih =>
      simp only [List.cons_append, Each, ih, and_assoc, List.append_assoc, List.nil_append]

theorem Each.allowed_of_split {pre post : List δ} {d : δ}
    (heach : Each allowed [] (pre ++ d :: post)) : allowed pre d := by
  obtain ⟨-, hd, -⟩ := each_append.mp heach
  exact hd

end Each

namespace Demarcator

/-- What a demarcator is asked to do. -/
inductive Act where
  | start (registry : Registry) (cx : ContextId) (spec : Option WorkSpec)
  | complete (cx : ContextId)
  | fail (cx : ContextId)

/-- Do what is asked.  A start that fails leaves the demarcator as it is. -/
def take (demarcator : Demarcator) : Act → Work app (Except Failure Unit × Demarcator)
  | .start registry cx spec => do
    match ← demarcator.start registry cx spec with
    | .error failure => return (.error failure, demarcator)
    | .ok next => return (.ok (), next)
  | .complete cx => demarcator.complete cx
  | .fail cx => do
    let next ← demarcator.fail cx
    return (.ok (), next)

/-- The last thing that has happened is that the transaction was found active. -/
def FoundActive (h : Handle) (earlier : List (WorkDeed app)) : Prop :=
  earlier.getLast? = some (.did (.transactionActive h) true)

/-- The handle could not be configured, or its transaction not be begun. -/
def FailedOpening (h : Handle) (earlier : List (WorkDeed app)) : Prop :=
  ∃ failure, (∃ options, .heard (.configure h options) (.error failure) ∈ earlier) ∨
    .heard (.begin h) (.error failure) ∈ earlier

/-- When a call on a handle is made: in which turn, and after what has happened in
this turn.  Operations are run in none. -/
def Act.Allows (mode : ReleaseMode) (act : Act) (earlier : List (WorkDeed app)) :
    WorkDeed app → Prop
  | .heard (.configure _ options) _ =>
      ∃ registry cx spec, act = .start registry cx (some spec) ∧ options = spec.sessionOptions
  | .heard (.begin _) _ =>
      ∃ registry cx spec, act = .start registry cx (some spec) ∧ spec.transactional = true
  | .heard (.commit h) _ => (∃ cx, act = .complete cx) ∧ FoundActive h earlier
  | .heard (.rollback h) _ => FoundActive h earlier ∧ ((∃ cx, act = .fail cx) ∨
      (∃ cx, act = .complete cx) ∧ ∃ failure, .heard (.commit h) (.error failure) ∈ earlier)
  | .heard (.execute ..) _ | .lost (.execute ..) => False
  | .did (.close h) _ => FailedOpening h earlier ∨
      (mode = .immediate ∧ ((∃ cx, act = .complete cx) ∨ ∃ cx, act = .fail cx))
  | _ => True

end Demarcator

/-! ## Deeds that call nothing -/

/-- No handle is called. -/
def Silent (deeds : List (WorkDeed app)) : Prop := ∀ deed ∈ deeds, deed.call? = none

section Silent

variable {h : Handle} {ds es : List (WorkDeed app)} {cx : ContextId}

theorem Silent.callsOn (hds : Silent ds) : callsOn h ds = [] := by
  refine List.filterMap_eq_nil_iff.mpr ?_
  intro d hd
  rw [hds d hd]
  rfl

theorem Silent.each {mode : ReleaseMode} {act : Demarcator.Act} {earlier : List (WorkDeed app)}
    (hds : Silent ds) : Each (act.Allows mode) earlier ds := by
  induction ds generalizing earlier with
  | nil => trivial
  | cons d ds ih =>
      obtain ⟨hd, hrest⟩ := List.forall_mem_cons.mp hds
      refine ⟨?_, ih hrest⟩
      rcases d with ⟨_ | _ | _ | _ | _, _⟩ | ⟨_ | _ | _ | _ | _ | _ | _, _⟩ |
        (_ | _ | _ | _ | _ | _ | _)
      all_goals trivial

theorem silent_bindDeeds {handle : Handle} {replaced : Option Handle} :
    Silent (cx.bindDeeds handle replaced : List (WorkDeed app)) := by
  simp [Silent, ContextId.bindDeeds, WorkDeed.call?]

theorem silent_unbindDeeds {factory : FactoryId} {removed : Option Handle} :
    Silent (cx.unbindDeeds factory removed : List (WorkDeed app)) := by
  cases removed <;> simp [Silent, ContextId.unbindDeeds, WorkDeed.call?]

theorem OpenUnit.OwesEnd.silent {work : OpenUnit} {b : Bool} (howes : work.OwesEnd ds b) :
    Silent ds := by
  cases howes <;> simp [Silent, WorkDeed.call?]

end Silent

/-! ## The calls of one unit of work -/

/-- The calls that open a unit of work. -/
inductive Opening (spec : WorkSpec) : List HandleCall → Prop where
  | configured : Opening spec [.configure spec.sessionOptions]
  | begun (transactional : spec.transactional = true) :
      Opening spec [.configure spec.sessionOptions, .begin]

/-- The calls that end its transaction. -/
inductive Ending (spec : WorkSpec) : List HandleCall → Prop where
  | idle : Ending spec []
  | committed (transactional : spec.transactional = true) : Ending spec [.commit]
  | uncommitted (transactional : spec.transactional = true) : Ending spec [.commit, .rollback]
  | rolledBack (transactional : spec.transactional = true) : Ending spec [.rollback]

/-- The calls that give its handle back. -/
inductive Release : List HandleCall → Prop where
  | kept : Release []
  | closed : Release [.close]

/-- The calls that end a unit of work. -/
inductive Concluding (spec : WorkSpec) : List HandleCall → Prop where
  | concluded {ending release : List HandleCall} (ends : Ending spec ending)
      (releases : Release release) : Concluding spec (ending ++ release)

theorem Concluding.nil {spec : WorkSpec} : Concluding spec [] := .concluded .idle .kept

/-- The calls are in order, and without a transaction none is begun or ended. -/
structure InOrder (spec : WorkSpec) (calls : List HandleCall) : Prop where
  order : calls ∈ (HandleCall.order spec.sessionOptions).matches'
  plain : spec.transactional = false → .begin ∉ calls ∧ .commit ∉ calls ∧ .rollback ∉ calls

section InOrder

variable {spec : WorkSpec} {opening ending release : List HandleCall}

theorem Opening.matches' (hopens : Opening spec opening) :
    opening ∈ ((.char (.configure spec.sessionOptions) * (1 + .char .begin)) :
      RegularExpression HandleCall).matches' := by
  refine (RegularExpression.rmatch_iff_matches' _ _).mp ?_
  cases hopens <;> simp [RegularExpression.rmatch, RegularExpression.deriv,
    RegularExpression.matchEpsilon]

theorem Concluding.matches' (hconcludes : Concluding spec ending) :
    ending ∈ (((1 + (.char .commit * (1 + .char .rollback) + .char .rollback)) *
      (1 + .char .close)) : RegularExpression HandleCall).matches' := by
  refine (RegularExpression.rmatch_iff_matches' _ _).mp ?_
  obtain ⟨hends, hreleases⟩ := hconcludes
  cases hends <;> cases hreleases <;> decide

theorem Opening.plain (hopens : Opening spec opening) (hplain : spec.transactional = false) :
    opening = [.configure spec.sessionOptions] := by
  cases hopens with
  | configured => rfl
  | begun htransactional => rw [hplain] at htransactional; cases htransactional

theorem Concluding.plain (hconcludes : Concluding spec ending)
    (hplain : spec.transactional = false) : Release ending := by
  obtain ⟨hends, hreleases⟩ := hconcludes
  cases hends with
  | idle => exact hreleases
  | committed htransactional => rw [hplain] at htransactional; cases htransactional
  | uncommitted htransactional => rw [hplain] at htransactional; cases htransactional
  | rolledBack htransactional => rw [hplain] at htransactional; cases htransactional

/-- A unit of work that is opened, and then ended or not. -/
theorem InOrder.of_opening (hopens : Opening spec opening) (hconcludes : Concluding spec ending) :
    InOrder spec (opening ++ ending) := by
  constructor
  · exact Language.append_mem_mul hopens.matches' hconcludes.matches'
  · intro hplain
    rw [hopens.plain hplain]
    cases hconcludes.plain hplain <;> simp

end InOrder

namespace OpenUnit

variable {cx : ContextId} {spec : WorkSpec} {handle : Handle} {work : OpenUnit}
  {ds : List (WorkDeed app)} {mode : ReleaseMode} {act : Demarcator.Act}
  {earlier : List (WorkDeed app)}

theorem Enters.opening {reply : Except Failure Unit}
    (henters : Enters cx spec handle ds (some reply)) :
    ∃ calls, Opening spec calls ∧ ∀ h, callsOn h ds = if handle = h then calls else [] := by
  cases henters with
  | configureFailed =>
      refine ⟨_, .configured, fun h => ?_⟩
      rw [callsOn_cons_of_some rfl, callsOn_nil]
  | bound =>
      refine ⟨_, .configured, fun h => ?_⟩
      rw [callsOn_cons_of_some rfl, silent_bindDeeds.callsOn]
  | begun _ htransactional =>
      refine ⟨_, .begun htransactional, fun h => ?_⟩
      rw [callsOn_cons_of_some rfl, callsOn_append, silent_bindDeeds.callsOn,
        callsOn_cons_of_some rfl, callsOn_nil]
      by_cases hh : handle = h <;> simp [hh]

theorem Enters.each {registry : Registry} {reply : Except Failure Unit}
    (henters : Enters cx spec handle ds (some reply)) :
    Each (Demarcator.Act.Allows mode (.start registry cx (some spec))) earlier ds := by
  have hstart : ∃ registry' cx' spec', Demarcator.Act.start registry cx (some spec) =
      .start registry' cx' (some spec') ∧ spec.sessionOptions = spec'.sessionOptions :=
    ⟨registry, cx, spec, rfl, rfl⟩
  cases henters with
  | configureFailed => exact ⟨hstart, trivial⟩
  | bound => exact ⟨hstart, silent_bindDeeds.each⟩
  | begun _ htransactional =>
      exact ⟨hstart, each_append.mpr
        ⟨silent_bindDeeds.each, ⟨registry, cx, spec, rfl, htransactional⟩, trivial⟩⟩

theorem Enters.failedOpening {failure : Failure}
    (henters : Enters cx spec handle ds (some (.error failure))) :
    Demarcator.FailedOpening handle (earlier ++ ds) := by
  refine ⟨failure, ?_⟩
  cases henters with
  | configureFailed => exact Or.inl ⟨_, List.mem_append_right _ List.mem_cons_self⟩
  | begun => exact Or.inr (by simp)

theorem OwesEnd.transactional (howes : work.OwesEnd ds true) :
    work.spec.transactional = true := by
  cases howes with
  | asked htransactional => exact htransactional

theorem OwesEnd.foundActive (howes : work.OwesEnd ds true) :
    Demarcator.FoundActive work.handle (earlier ++ ds) := by
  cases howes with
  | asked => simp [Demarcator.FoundActive]

theorem Commits.each {reply : Except Failure Unit} (hcommits : work.Commits ds (some reply)) :
    Each (Demarcator.Act.Allows mode (.complete cx)) [] ds := by
  cases hcommits with
  | notOwed howes => exact howes.silent.each
  | failed howes =>
      exact each_append.mpr ⟨howes.silent.each, ⟨⟨cx, rfl⟩, howes.foundActive⟩, trivial⟩
  | committed howes =>
      exact each_append.mpr
        ⟨howes.silent.each, ⟨⟨cx, rfl⟩, howes.foundActive⟩, trivial, trivial⟩

theorem RollsBack.each (hact : (∃ cx, act = .fail cx) ∨ (∃ cx, act = .complete cx) ∧
      ∃ failure, .heard (.commit work.handle) (.error failure) ∈ earlier)
    (hrolls : work.RollsBack ds (some ())) : Each (act.Allows mode) earlier ds := by
  have hlater : ∀ asked, (∃ cx, act = .fail cx) ∨ (∃ cx, act = .complete cx) ∧
      ∃ failure, .heard (.commit work.handle) (.error failure) ∈ earlier ++ asked := by
    intro asked
    refine hact.imp_right (And.imp_right ?_)
    rintro ⟨failure, hmem⟩
    exact ⟨failure, List.mem_append_left asked hmem⟩
  cases hrolls with
  | notOwed howes => exact howes.silent.each
  | failed howes =>
      exact each_append.mpr
        ⟨howes.silent.each, ⟨howes.foundActive, hlater _⟩, trivial, trivial⟩
  | rolledBack howes =>
      exact each_append.mpr
        ⟨howes.silent.each, ⟨howes.foundActive, hlater _⟩, trivial, trivial⟩

/-- A commit that is called, and whether it fails. -/
theorem Commits.calls {reply : Except Failure Unit} (hcommits : work.Commits ds (some reply)) :
    ∃ calls, (calls = [] ∧ reply = .ok () ∨ calls = [.commit] ∧ work.spec.transactional = true) ∧
      ∀ h, callsOn h ds = if work.handle = h then calls else [] := by
  cases hcommits with
  | notOwed howes =>
      refine ⟨[], Or.inl ⟨rfl, rfl⟩, fun h => ?_⟩
      rw [howes.silent.callsOn, ite_self]
  | failed howes =>
      refine ⟨_, Or.inr ⟨rfl, howes.transactional⟩, fun h => ?_⟩
      rw [callsOn_append, howes.silent.callsOn, callsOn_cons_of_some rfl]
      rfl
  | committed howes =>
      refine ⟨_, Or.inr ⟨rfl, howes.transactional⟩, fun h => ?_⟩
      rw [callsOn_append, howes.silent.callsOn, callsOn_cons_of_some rfl]
      rfl

theorem RollsBack.calls (hrolls : work.RollsBack ds (some ())) :
    ∃ calls, (calls = [] ∨ calls = [.rollback] ∧ work.spec.transactional = true) ∧
      ∀ h, callsOn h ds = if work.handle = h then calls else [] := by
  cases hrolls with
  | notOwed howes =>
      refine ⟨[], Or.inl rfl, fun h => ?_⟩
      rw [howes.silent.callsOn, ite_self]
  | failed howes =>
      refine ⟨_, Or.inr ⟨rfl, howes.transactional⟩, fun h => ?_⟩
      rw [callsOn_append, howes.silent.callsOn, callsOn_cons_of_some rfl]
      rfl
  | rolledBack howes =>
      refine ⟨_, Or.inr ⟨rfl, howes.transactional⟩, fun h => ?_⟩
      rw [callsOn_append, howes.silent.callsOn, callsOn_cons_of_some rfl]
      rfl

theorem Commits.error_iff {reply : Except Failure Unit} {failure : Failure}
    (hcommits : work.Commits ds (some reply)) :
    (∃ h, .heard (.commit h) (.error failure) ∈ ds) ↔ reply = .error failure := by
  cases hcommits with
  | notOwed howes => cases howes <;> simp
  | failed howes =>
      cases howes with
      | asked => simp [eq_comm]
  | committed howes =>
      cases howes with
      | asked => simp

theorem RollsBack.not_commit {v : Option Unit} {h : Handle} {reply : Except Failure Unit}
    (hrolls : work.RollsBack ds v) : .heard (.commit h) reply ∉ ds := by
  cases hrolls with
  | notOwed howes => cases howes <;> simp
  | dropped howes =>
      cases howes with
      | asked => simp
  | failed howes =>
      cases howes with
      | asked => simp
  | rolledBack howes =>
      cases howes with
      | asked => simp

end OpenUnit

/-! ## One turn -/

namespace Demarcator

variable {demarcator next : Demarcator} {registry : Registry} {cx : ContextId}
  {spec? : Option WorkSpec} {work : OpenUnit} {h : Handle} {mode : ReleaseMode} {act : Act}
  {ds earlier : List (WorkDeed app)} {reply : Except Failure Unit}

theorem Starts.each {v : Except Failure Demarcator}
    (hstarts : demarcator.Starts registry cx spec? ds (some v)) :
    Each (Act.Allows mode (.start registry cx spec?)) [] ds := by
  cases hstarts with
  | undeclared => trivial
  | unresolved => trivial
  | createFailed => exact ⟨trivial, trivial⟩
  | refused _ henters =>
      exact ⟨trivial, each_append.mpr
        ⟨henters.each, Or.inl henters.failedOpening, silent_unbindDeeds.each⟩⟩
  | opened _ henters => exact ⟨trivial, each_append.mpr ⟨henters.each, trivial, trivial⟩⟩

theorem Finishes.each (hact : (∃ cx, act = .complete cx) ∨ ∃ cx, act = .fail cx)
    (hfinishes : demarcator.Finishes cx work ds) :
    Each (act.Allows demarcator.mode) earlier ds := by
  cases hfinishes with
  | immediate himmediate =>
      exact ⟨Or.inr ⟨himmediate, hact⟩, each_append.mpr ⟨silent_unbindDeeds.each, trivial, trivial⟩⟩
  | deferred => trivial

theorem Completes.each (hcompletes : demarcator.Completes cx ds (some (reply, next))) :
    Each (Act.Allows demarcator.mode (.complete cx)) [] ds := by
  cases hcompletes with
  | idle => trivial
  | completed _ hcommits hfinishes =>
      exact each_append.mpr ⟨hcommits.each, hfinishes.each (Or.inl ⟨cx, rfl⟩)⟩
  | @commitFailed _ _ _ _ _ failure hcommits hrolls hfinishes =>
      refine each_append.mpr ⟨hcommits.each, trivial, each_append.mpr ⟨hrolls.each ?_, ?_⟩⟩
      · refine Or.inr ⟨⟨cx, rfl⟩, failure, ?_⟩
        cases hcommits with
        | failed => simp
      · exact hfinishes.each (Or.inl ⟨cx, rfl⟩)

theorem Fails.each (hfails : demarcator.Fails cx ds (some next)) :
    Each (Act.Allows demarcator.mode (.fail cx)) [] ds := by
  cases hfails with
  | idle => trivial
  | failed _ hrolls hfinishes =>
      exact each_append.mpr
        ⟨hrolls.each (Or.inl ⟨cx, rfl⟩), hfinishes.each (Or.inr ⟨cx, rfl⟩)⟩

theorem Finishes.calls (hfinishes : demarcator.Finishes cx work ds) :
    ∃ calls, Release calls ∧ ∀ h, callsOn h ds = if work.handle = h then calls else [] := by
  cases hfinishes with
  | immediate =>
      refine ⟨_, .closed, fun h => ?_⟩
      rw [OpenUnit.releaseDeeds, callsOn_cons_of_some rfl, callsOn_append,
        silent_unbindDeeds.callsOn]
      rfl
  | deferred => exact ⟨_, .kept, fun h => (ite_self _).symm⟩

/-- The calls of a start that succeeds: there are none, or those that open a unit of
work. -/
theorem Starts.calls_of_ok (hstarts : demarcator.Starts registry cx spec? ds (some (.ok next))) :
    (next = demarcator ∧ handed ds = [] ∧ ∀ h, callsOn h ds = []) ∨
      ∃ work calls, spec? = some work.spec ∧ next.current = some work ∧
        handed ds = [work.handle] ∧ Opening work.spec calls ∧
        ∀ h, callsOn h ds = if work.handle = h then calls else [] := by
  cases hstarts with
  | undeclared => exact Or.inl ⟨rfl, rfl, fun _ => rfl⟩
  | @opened _ _ _ handle entered henters =>
      obtain ⟨calls, hopening, hcalls⟩ := henters.opening
      refine Or.inr ⟨_, calls, rfl, rfl, ?_, hopening, fun h => ?_⟩
      · show handle :: handed (entered ++ _) = _
        rw [handed_append, henters.handed]
        rfl
      · rw [callsOn_cons_of_none rfl, callsOn_append, hcalls]
        exact List.append_nil _

/-- The calls of a start that fails: there are none, or those that open a unit of work
and close its handle again. -/
theorem Starts.calls_of_error {failure : Failure}
    (hstarts : demarcator.Starts registry cx spec? ds (some (.error failure))) :
    (handed ds = [] ∧ ∀ h, callsOn h ds = []) ∨
      ∃ spec handle calls, spec? = some spec ∧ handed ds = [handle] ∧ Opening spec calls ∧
        ∀ h, callsOn h ds = if handle = h then calls ++ [.close] else [] := by
  cases hstarts with
  | unresolved => exact Or.inl ⟨rfl, fun _ => rfl⟩
  | createFailed => exact Or.inl ⟨rfl, fun _ => rfl⟩
  | @refused _ factory _ handle entered _ henters removed =>
      obtain ⟨calls, hopening, hcalls⟩ := henters.opening
      refine Or.inr ⟨_, handle, calls, rfl, ?_, hopening, fun h => ?_⟩
      · show handle :: handed (entered ++ _) = _
        rw [handed_append, henters.handed]
        show [handle] ++ handed (cx.unbindDeeds factory removed) = _
        rw [handed_unbindDeeds]
        rfl
      · rw [callsOn_cons_of_none rfl, callsOn_append, hcalls, callsOn_cons_of_some rfl,
          silent_unbindDeeds.callsOn]
        by_cases hh : handle = h <;> simp [hh]

/-- The calls that complete a unit of work, if one is in progress. -/
theorem Completes.calls (hcompletes : demarcator.Completes cx ds (some (reply, next))) :
    ∀ h, callsOn h ds = [] ∨
      ∃ work, demarcator.current = some work ∧ work.handle = h ∧
        Concluding work.spec (callsOn h ds) := by
  intro h
  cases hcompletes with
  | idle => exact Or.inl rfl
  | @completed work hcurrent _ _ hcommits hfinishes =>
      obtain ⟨committing, hcommitting, hcommit⟩ := hcommits.calls
      obtain ⟨release, hreleases, hrelease⟩ := hfinishes.calls
      rw [callsOn_append, hcommit, hrelease]
      by_cases hh : work.handle = h
      · rw [if_pos hh, if_pos hh]
        refine Or.inr ⟨work, hcurrent, hh, ?_⟩
        rcases hcommitting with ⟨rfl, -⟩ | ⟨rfl, htransactional⟩
        · exact .concluded .idle hreleases
        · exact .concluded (.committed htransactional) hreleases
      · rw [if_neg hh, if_neg hh]
        exact Or.inl rfl
  | @commitFailed work hcurrent _ _ _ _ hcommits hrolls hfinishes =>
      obtain ⟨committing, hcommitting, hcommit⟩ := hcommits.calls
      obtain ⟨rolling, hrolling, hroll⟩ := hrolls.calls
      obtain ⟨release, hreleases, hrelease⟩ := hfinishes.calls
      rw [callsOn_append, hcommit, callsOn_cons_of_none rfl, callsOn_append, hroll, hrelease]
      by_cases hh : work.handle = h
      · rw [if_pos hh, if_pos hh, if_pos hh, ← List.append_assoc]
        refine Or.inr ⟨work, hcurrent, hh, ?_⟩
        rcases hcommitting with ⟨-, hok⟩ | ⟨rfl, htransactional⟩
        · cases hok
        · rcases hrolling with rfl | ⟨rfl, -⟩
          · exact .concluded (.committed htransactional) hreleases
          · exact .concluded (.uncommitted htransactional) hreleases
      · rw [if_neg hh, if_neg hh, if_neg hh]
        exact Or.inl rfl

/-- The calls that fail a unit of work, if one is in progress. -/
theorem Fails.calls (hfails : demarcator.Fails cx ds (some next)) :
    ∀ h, callsOn h ds = [] ∨
      ∃ work, demarcator.current = some work ∧ work.handle = h ∧
        Concluding work.spec (callsOn h ds) := by
  intro h
  cases hfails with
  | idle => exact Or.inl rfl
  | @failed work hcurrent _ _ hrolls hfinishes =>
      obtain ⟨rolling, hrolling, hroll⟩ := hrolls.calls
      obtain ⟨release, hreleases, hrelease⟩ := hfinishes.calls
      rw [callsOn_append, hroll, hrelease]
      by_cases hh : work.handle = h
      · rw [if_pos hh, if_pos hh]
        refine Or.inr ⟨work, hcurrent, hh, ?_⟩
        rcases hrolling with rfl | ⟨rfl, htransactional⟩
        · exact .concluded .idle hreleases
        · exact .concluded (.rolledBack htransactional) hreleases
      · rw [if_neg hh, if_neg hh]
        exact Or.inl rfl

theorem Finishes.not_commit {reply : Except Failure Unit}
    (hfinishes : demarcator.Finishes cx work ds) : .heard (.commit h) reply ∉ ds := by
  cases hfinishes with
  | immediate _ removed =>
      cases removed <;> simp [OpenUnit.releaseDeeds, ContextId.unbindDeeds]
  | deferred => exact List.not_mem_nil

/-- Completing fails exactly if its commit does, and with the same failure. -/
theorem Completes.error_iff {failure : Failure}
    (hcompletes : demarcator.Completes cx ds (some (reply, next))) :
    reply = .error failure ↔ ∃ h, .heard (.commit h) (.error failure) ∈ ds := by
  cases hcompletes with
  | idle => simp
  | completed _ hcommits hfinishes =>
      rw [← hcommits.error_iff]
      simp only [List.mem_append, hfinishes.not_commit, or_false]
  | commitFailed _ hcommits hrolls hfinishes =>
      rw [← hcommits.error_iff]
      simp [hrolls.not_commit, hfinishes.not_commit]

/-! ## Turns -/

/-- What a demarcator was asked to do, what happened then, and the reply. -/
structure Turn (app : Jobs) where
  act : Act
  deeds : List (WorkDeed app)
  reply : Except Failure Unit

/-- The demarcator takes the turn, and is `next` after it. -/
def Takes (demarcator : Demarcator) (t : Turn app) (next : Demarcator) : Prop :=
  (demarcator.take t.act).Traces t.deeds (some (t.reply, next))

/-- What happens in a turn. -/
inductive Turns (demarcator : Demarcator) :
    Act → List (WorkDeed app) → Except Failure Unit → Demarcator → Prop where
  | refused {registry : Registry} {cx : ContextId} {spec? : Option WorkSpec}
      {ds : List (WorkDeed app)} {failure : Failure}
      (starts : demarcator.Starts registry cx spec? ds (some (.error failure))) :
      Turns demarcator (.start registry cx spec?) ds (.error failure) demarcator
  | started {registry : Registry} {cx : ContextId} {spec? : Option WorkSpec}
      {ds : List (WorkDeed app)} {next : Demarcator}
      (starts : demarcator.Starts registry cx spec? ds (some (.ok next))) :
      Turns demarcator (.start registry cx spec?) ds (.ok ()) next
  | completed {cx : ContextId} {ds : List (WorkDeed app)} {reply : Except Failure Unit}
      {next : Demarcator} (completes : demarcator.Completes cx ds (some (reply, next))) :
      Turns demarcator (.complete cx) ds reply next
  | failed {cx : ContextId} {ds : List (WorkDeed app)} {next : Demarcator}
      (fails : demarcator.Fails cx ds (some next)) :
      Turns demarcator (.fail cx) ds (.ok ()) next

theorem takes_iff {t : Turn app} :
    demarcator.Takes t next ↔ demarcator.Turns t.act t.deeds t.reply next := by
  obtain ⟨act, ds, reply⟩ := t
  cases act with
  | start registry cx spec? =>
      rw [Takes, take, Task.traces_bind_done (g := fun
        | .error failure => (.error failure, demarcator)
        | .ok next => (.ok (), next)) (by rintro (_ | _) <;> rfl)]
      simp only [traces_start]
      constructor
      · rintro ⟨_ | failure | next, hstarts, hvalue⟩
        · cases hvalue
        · cases hvalue
          exact .refused hstarts
        · cases hvalue
          exact .started hstarts
      · intro h
        cases h with
        | refused hstarts => exact ⟨some (.error _), hstarts, rfl⟩
        | started hstarts => exact ⟨some (.ok _), hstarts, rfl⟩
  | complete cx =>
      rw [Takes, take, traces_complete]
      constructor
      · exact .completed
      · intro h
        cases h with
        | completed hcompletes => exact hcompletes
  | fail cx =>
      rw [Takes, take, Task.traces_bind_done (g := fun next => (.ok (), next)) (by intro; rfl)]
      simp only [traces_fail]
      constructor
      · rintro ⟨_ | next, hfails, hvalue⟩
        · cases hvalue
        · cases hvalue
          exact .failed hfails
      · intro h
        cases h with
        | failed hfails => exact ⟨some _, hfails, rfl⟩

/-- The unit of work in progress uses the handle `h`. -/
def Uses (demarcator : Demarcator) (h : Handle) : Prop :=
  ∃ work, demarcator.current = some work ∧ work.handle = h

section Takes

variable {t : Turn app}

theorem not_uses_of_none (hcurrent : demarcator.current = none) : ¬ demarcator.Uses h := by
  rintro ⟨work, hwork, -⟩
  rw [hcurrent] at hwork
  cases hwork

theorem Takes.mode_eq (htakes : demarcator.Takes t next) : next.mode = demarcator.mode := by
  obtain ⟨act, ds, reply⟩ := t
  cases takes_iff.mp htakes with
  | refused => rfl
  | started hstarts =>
      cases hstarts with
      | undeclared => rfl
      | opened => rfl
  | completed hcompletes => exact hcompletes.mode_eq
  | failed hfails => exact hfails.mode_eq

theorem Takes.each (htakes : demarcator.Takes t next) :
    Each (t.act.Allows demarcator.mode) [] t.deeds := by
  obtain ⟨act, ds, reply⟩ := t
  cases takes_iff.mp htakes with
  | refused hstarts => exact hstarts.each
  | started hstarts => exact hstarts.each
  | completed hcompletes => exact hcompletes.each
  | failed hfails => exact hfails.each

/-- A turn makes no calls on a handle that it does not obtain, or it ends the unit of
work with that handle. -/
theorem Takes.calls (hfresh : h ∉ handed t.deeds) (htakes : demarcator.Takes t next) :
    (callsOn h t.deeds = [] ∧ (next.Uses h → next = demarcator)) ∨
      ∃ work, demarcator.current = some work ∧ work.handle = h ∧
        Concluding work.spec (callsOn h t.deeds) ∧ ¬ next.Uses h := by
  obtain ⟨act, ds, reply⟩ := t
  cases takes_iff.mp htakes with
  | refused hstarts =>
      refine Or.inl ⟨?_, fun _ => rfl⟩
      rcases hstarts.calls_of_error with ⟨-, hnone⟩ | ⟨_, g, _, -, hg, -, hcalls⟩
      · exact hnone h
      · exact (hcalls h).trans (if_neg (ne_of_handed hg hfresh))
  | started hstarts =>
      refine Or.inl ?_
      rcases hstarts.calls_of_ok with ⟨hsame, -, hnone⟩ | ⟨work, _, -, hcurrent, hg, -, hcalls⟩
      · exact ⟨hnone h, fun _ => hsame⟩
      · have hne : work.handle ≠ h := ne_of_handed hg hfresh
        refine ⟨(hcalls h).trans (if_neg hne), ?_⟩
        rintro ⟨other, hother, hsame⟩
        rw [hcurrent] at hother
        cases hother
        exact absurd hsame hne
  | completed hcompletes =>
      have hafter : ¬ next.Uses h := not_uses_of_none hcompletes.current_eq_none
      rcases hcompletes.calls h with hnone | ⟨work, hcurrent, hh, hconcludes⟩
      · exact Or.inl ⟨hnone, fun huses => absurd huses hafter⟩
      · exact Or.inr ⟨work, hcurrent, hh, hconcludes, hafter⟩
  | failed hfails =>
      have hafter : ¬ next.Uses h := not_uses_of_none hfails.current_eq_none
      rcases hfails.calls h with hnone | ⟨work, hcurrent, hh, hconcludes⟩
      · exact Or.inl ⟨hnone, fun huses => absurd huses hafter⟩
      · exact Or.inr ⟨work, hcurrent, hh, hconcludes, hafter⟩

/-- A turn that obtains a handle opens a unit of work with it.  If that fails, the
handle is closed. -/
theorem Takes.calls_of_mem (hmem : h ∈ handed t.deeds) (htakes : demarcator.Takes t next) :
    ∃ registry cx spec opening, t.act = .start registry cx (some spec) ∧ Opening spec opening ∧
      ((next = demarcator ∧ callsOn h t.deeds = opening ++ [.close]) ∨
        (callsOn h t.deeds = opening ∧
          ∃ work, next.current = some work ∧ work.handle = h ∧ work.spec = spec)) := by
  obtain ⟨act, ds, reply⟩ := t
  cases takes_iff.mp htakes with
  | refused hstarts =>
      rcases hstarts.calls_of_error with ⟨hnone, -⟩ | ⟨spec, g, calls, rfl, hg, hopens, hcalls⟩
      · rw [hnone] at hmem
        cases hmem
      · rw [hg] at hmem
        obtain rfl := List.mem_singleton.mp hmem
        exact ⟨_, _, spec, calls, rfl, hopens, Or.inl ⟨rfl, (hcalls h).trans (if_pos rfl)⟩⟩
  | started hstarts =>
      rcases hstarts.calls_of_ok with
        ⟨-, hnone, -⟩ | ⟨work, calls, rfl, hcurrent, hg, hopens, hcalls⟩
      · rw [hnone] at hmem
        cases hmem
      · rw [hg] at hmem
        obtain rfl := List.mem_singleton.mp hmem
        exact ⟨_, _, work.spec, calls, rfl, hopens,
          Or.inr ⟨(hcalls _).trans (if_pos rfl), work, hcurrent, rfl, rfl⟩⟩
  | completed hcompletes =>
      rw [hcompletes.ends.handed] at hmem
      cases hmem
  | failed hfails =>
      rw [hfails.ends.handed] at hmem
      cases hmem

end Takes

/-! ## Histories of turns -/

/-- Everything that was done in these turns. -/
def Turn.allDeeds (turns : List (Turn app)) : List (WorkDeed app) := turns.flatMap Turn.deeds

section History

variable {t : Turn app} {turns pre post : List (Turn app)}

theorem Turn.allDeeds_cons : Turn.allDeeds (t :: turns) = t.deeds ++ Turn.allDeeds turns := rfl

theorem Turn.allDeeds_append :
    Turn.allDeeds (pre ++ post) = Turn.allDeeds pre ++ Turn.allDeeds post :=
  List.flatMap_append

/-- A handle that is not in use, and is not obtained, is not called. -/
theorem not_called_of_history (hfresh : h ∉ handed (Turn.allDeeds turns))
    (huses : ¬ demarcator.Uses h) (hturns : Follows Takes turns demarcator next) :
    callsOn h (Turn.allDeeds turns) = [] ∧ ¬ next.Uses h := by
  induction turns generalizing demarcator with
  | nil =>
      rw [follows_nil.mp hturns]
      exact ⟨rfl, huses⟩
  | cons t turns ih =>
      obtain ⟨between, htakes, hrest⟩ := hturns
      rw [Turn.allDeeds_cons, handed_append, List.mem_append, not_or] at hfresh
      rcases htakes.calls hfresh.1 with ⟨hnone, hkept⟩ | ⟨work, hcurrent, hh, -⟩
      · have hbetween : ¬ between.Uses h := by
          intro hstill
          exact huses (hkept hstill ▸ hstill)
        obtain ⟨hlater, hend⟩ := ih hfresh.2 hbetween hrest
        refine ⟨?_, hend⟩
        rw [Turn.allDeeds_cons, callsOn_append, hnone, hlater]
        rfl
      · exact absurd ⟨work, hcurrent, hh⟩ huses

/-- A handle that is in use is called to end its unit of work, once, or not at all. -/
theorem concluding_of_history (hfresh : work.handle ∉ handed (Turn.allDeeds turns))
    (hcurrent : demarcator.current = some work) (hturns : Follows Takes turns demarcator next) :
    Concluding work.spec (callsOn work.handle (Turn.allDeeds turns)) := by
  induction turns generalizing demarcator with
  | nil => exact .nil
  | cons t turns ih =>
      obtain ⟨between, htakes, hrest⟩ := hturns
      rw [Turn.allDeeds_cons, handed_append, List.mem_append, not_or] at hfresh
      rw [Turn.allDeeds_cons, callsOn_append]
      rcases htakes.calls hfresh.1 with ⟨hnone, hkept⟩ | ⟨other, hother, -, hconcludes, hafter⟩
      · rw [hnone]
        by_cases hstill : between.Uses work.handle
        · exact ih hfresh.2 ((congrArg current (hkept hstill)).trans hcurrent) hrest
        · rw [(not_called_of_history hfresh.2 hstill hrest).1]
          exact .nil
      · obtain rfl := Option.some.inj (hother.symm.trans hcurrent)
        rw [(not_called_of_history hfresh.2 hafter hrest).1, List.append_nil]
        exact hconcludes

/-- The calls on a handle that is obtained in this turn, and in no other. -/
theorem inOrder_of_history (hmem : h ∈ handed t.deeds)
    (honce : (handed (Turn.allDeeds (pre ++ t :: post))).count h = 1)
    (hidle : demarcator.current = none)
    (hturns : Follows Takes (pre ++ t :: post) demarcator next) :
    ∃ registry cx spec, t.act = .start registry cx (some spec) ∧
      InOrder spec (callsOn h (Turn.allDeeds (pre ++ t :: post))) := by
  rw [Turn.allDeeds_append, Turn.allDeeds_cons, handed_append, handed_append,
    List.count_append, List.count_append] at honce
  have hhere : 0 < (handed t.deeds).count h := List.count_pos_iff.mpr hmem
  have hfreshPre : h ∉ handed (Turn.allDeeds pre) := List.count_eq_zero.mp (by omega)
  have hfreshPost : h ∉ handed (Turn.allDeeds post) := List.count_eq_zero.mp (by omega)
  obtain ⟨before, hpre, after, htakes, hpost⟩ := follows_append.mp hturns
  obtain ⟨hnone, hunused⟩ := not_called_of_history hfreshPre (not_uses_of_none hidle) hpre
  obtain ⟨registry, cx, spec, opening, hact, hopens, hcalls⟩ := htakes.calls_of_mem hmem
  refine ⟨registry, cx, spec, hact, ?_⟩
  rw [Turn.allDeeds_append, Turn.allDeeds_cons, callsOn_append, callsOn_append, hnone,
    List.nil_append]
  rcases hcalls with ⟨rfl, hcalls⟩ | ⟨hcalls, work, hcurrent, rfl, rfl⟩
  · rw [hcalls, (not_called_of_history hfreshPost hunused hpost).1, List.append_nil]
    exact .of_opening hopens (.concluded .idle .closed)
  · rw [hcalls]
    exact .of_opening hopens (concluding_of_history hfreshPost hcurrent hpost)

/-- However a demarcator is used, it calls only handles that it has obtained, and
each one that is handed out once in order: it is configured as the specification
says, its transaction is begun, committed or rolled back or both, and it is closed;
nothing is begun or ended for a unit without a transaction.  Each call is made when
it is allowed.  Completing fails exactly if its commit does, and with the same
failure. -/
theorem calls_in_order {mode : ReleaseMode}
    (hturns : Follows Takes turns { mode } next) :
    (∀ h, h ∉ handed (Turn.allDeeds turns) → callsOn h (Turn.allDeeds turns) = []) ∧
      ∀ t ∈ turns,
        (∀ h ∈ handed t.deeds, (handed (Turn.allDeeds turns)).count h = 1 →
          ∃ registry cx spec, t.act = .start registry cx (some spec) ∧
            InOrder spec (callsOn h (Turn.allDeeds turns))) ∧
        (∀ earlier deed later, t.deeds = earlier ++ deed :: later →
          t.act.Allows mode earlier deed) ∧
        ((∃ cx, t.act = .complete cx) → ∀ failure,
          t.reply = .error failure ↔ ∃ h, .heard (.commit h) (.error failure) ∈ t.deeds) := by
  constructor
  · intro h hnever
    exact (not_called_of_history hnever (not_uses_of_none rfl) hturns).1
  · intro t ht
    obtain ⟨pre, post, rfl⟩ := List.append_of_mem ht
    obtain ⟨before, hpre, after, htakes, -⟩ := follows_append.mp hturns
    have hmode : before.mode = mode := by
      refine Follows.keeps (P := fun d : Demarcator => d.mode = mode) ?_ hpre rfl
      intro e _ d d' he hd
      exact he.mode_eq.trans hd
    refine ⟨fun h hmem honce => inOrder_of_history hmem honce rfl hturns, ?_, ?_⟩
    · intro earlier deed later hsplit
      have heach := htakes.each
      rw [hmode, hsplit] at heach
      exact heach.allowed_of_split
    · rintro ⟨cx, hact⟩ failure
      have hcompletes := takes_iff.mp htakes
      rw [hact] at hcompletes
      cases hcompletes with
      | completed hcompletes => exact hcompletes.error_iff

/-- A turn that opens a unit of work on the default unit. -/
def defaultStart : Turn noJobs where
  act := .start (.lone ⟨0⟩) ⟨0⟩ (some {})
  deeds := defaultOpened 0 none
  reply := .ok ()

/-- A turn that fails to commit it, and rolls it back. -/
def defaultUncommitted : Turn noJobs where
  act := .complete ⟨0⟩
  deeds := [.did (.transactionActive ⟨0, ⟨0⟩⟩) true,
      .heard (.commit ⟨0, ⟨0⟩⟩) (.error .handleClosed)] ++
    .did (.emit (.commitFailed ⟨0⟩ defaultUnitName .handleClosed)) () ::
      ([.did (.transactionActive ⟨0, ⟨0⟩⟩) true, .heard (.rollback ⟨0, ⟨0⟩⟩) (.ok ()),
        .did (.emit (.rolledBack defaultUnitName)) ()] ++
          (defaultWork 0).releaseDeeds ⟨0⟩ (some ⟨0, ⟨0⟩⟩))
  reply := .error .handleClosed

/-- The calls on the handle of this unit of work are in order. -/
theorem uncommitted_calls_in_order :
    callsOn ⟨0, ⟨0⟩⟩ (Turn.allDeeds [defaultStart, defaultUncommitted]) =
        [.configure {}, .begin, .commit, .rollback, .close] ∧
      ∃ registry cx spec, defaultStart.act = .start registry cx (some spec) ∧
        InOrder spec (callsOn ⟨0, ⟨0⟩⟩ (Turn.allDeeds [defaultStart, defaultUncommitted])) := by
  have hstarted : Demarcator.Takes { mode := .immediate } defaultStart
      { mode := .immediate, current := some (defaultWork 0) } :=
    takes_iff.mpr (.started starts_defaultOpened)
  have hcommits : (defaultWork 0).Commits
      ([.did (.transactionActive ⟨0, ⟨0⟩⟩) true,
        .heard (.commit ⟨0, ⟨0⟩⟩) (.error .handleClosed)] : List (WorkDeed noJobs))
      (some (.error .handleClosed)) :=
    .failed (.asked rfl true) _
  have hrolls : (defaultWork 0).RollsBack
      ([.did (.transactionActive ⟨0, ⟨0⟩⟩) true, .heard (.rollback ⟨0, ⟨0⟩⟩) (.ok ()),
        .did (.emit (.rolledBack defaultUnitName)) ()] : List (WorkDeed noJobs)) (some ()) :=
    .rolledBack (.asked rfl true)
  have hcompleted : Demarcator.Takes
      { mode := .immediate, current := some (defaultWork 0) } defaultUncommitted
      { mode := .immediate } :=
    takes_iff.mpr (.completed (.commitFailed rfl hcommits hrolls (.immediate rfl _)))
  have hturns : Follows Takes [defaultStart, defaultUncommitted] { mode := .immediate }
      { mode := .immediate } := ⟨_, hstarted, _, hcompleted, rfl⟩
  obtain ⟨hinOrder, -, -⟩ := (calls_in_order hturns).2 defaultStart List.mem_cons_self
  exact ⟨rfl, hinOrder ⟨0, ⟨0⟩⟩ (by decide) (by decide)⟩

end History

end Demarcator

end Demarcation
