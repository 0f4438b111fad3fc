/-
Deliveries of events to a request.

A `Delivery` is an event together with what happened when it was delivered: the
deeds, and the reply unless the delivery was dropped.  `Request.Takes` says what
the delivery makes of the request; one that was dropped leaves the request as it
was.  A history is a list of deliveries, each taken where the one before it left
the request.

A unit of work is committed by the first response that finds it open and its
transaction active.  An exception before that rolls it back and forgets it,
unless the exception is dropped while the rollback is pending: then the unit of
work stays, and a response commits it after all.
-/
import Demarcation.Pipeline.Request
import Demarcation.Proofs.Effects

namespace Demarcation

variable {app : Jobs}

/-! ## Emptying a context -/

namespace ContextId

/-- Closing all of these handles. -/
def closeDeeds (handles : List Handle) : List (WorkDeed app) :=
  handles.map fun handle => .did (.close handle) ()

/-- Closing the handles of the table that was found, if there was one. -/
def closeFoundDeeds (cx : ContextId) : Option (Table FactoryId Handle) → List (WorkDeed app)
  | none => []
  | some table => .did (.emit (.unbindingAll cx table.size)) () :: closeDeeds table.values

/-- Removing every binding and closing the handles. -/
def emptyDeeds (cx : ContextId) (found : Option (Table FactoryId Handle)) : List (WorkDeed app) :=
  .did (.context (.unbindAll cx)) found :: cx.closeFoundDeeds found

theorem traces_releaseEach {handles : List Handle} {ds : List (WorkDeed app)} {u : Unit} :
    (releaseEach Handle.close handles).Traces ds u ↔ ds = closeDeeds handles := by
  induction handles generalizing ds with
  | nil =>
      simp only [releaseEach, Action.pure_eq_done, Action.traces_done, and_true, closeDeeds,
        List.map_nil]
  | cons handle handles ih =>
      simp only [releaseEach, Action.traces_bind, Handle.traces_close, ih]
      constructor
      · rintro ⟨_, _, _, rfl, rfl, rfl⟩
        rfl
      · rintro rfl
        exact ⟨(), _, _, rfl, rfl, rfl⟩

theorem traces_unbindAll {cx : ContextId} {ds : List (WorkDeed app)} {u : Unit} :
    (cx.unbindAll Handle.close).Traces ds u ↔ ∃ found, ds = cx.emptyDeeds found := by
  simp only [unbindAll, Action.perform_bind, Action.done_bind, Action.traces_perform]
  constructor
  · rintro ⟨found, _, rfl, h⟩
    refine ⟨found, ?_⟩
    cases found with
    | none =>
        obtain ⟨rfl, -⟩ := Action.traces_done.mp h
        rfl
    | some table =>
        simp only [Action.traces_bind, traces_emit, traces_releaseEach] at h
        obtain ⟨_, _, _, rfl, rfl, rfl⟩ := h
        rfl
  · rintro ⟨found, rfl⟩
    refine ⟨found, _, rfl, ?_⟩
    cases found with
    | none => exact .done ()
    | some table =>
        simp only [Action.traces_bind, traces_emit, traces_releaseEach]
        exact ⟨(), _, _, rfl, rfl, rfl⟩

end ContextId

/-- Forgetting a unit of work is neutral. -/
theorem Demarcator.abandons_of_traces {demarcator next : Demarcator} {ds : List (WorkDeed app)}
    (h : demarcator.abandon.Traces ds next) : Neutral ds ∧ next = demarcator.idle := by
  cases hcur : demarcator.current with
  | none =>
      simp only [abandon, hcur, Action.pure_eq_done, Action.traces_done] at h
      obtain ⟨rfl, rfl⟩ := h
      refine ⟨neutral_nil, ?_⟩
      rw [idle, ← hcur]
  | some work =>
      simp only [abandon, hcur, Handle.transactionActive, Action.perform_bind, Action.done_bind,
        Action.traces_perform] at h
      obtain ⟨active, _, rfl, h⟩ := h
      cases active with
      | false =>
          obtain ⟨rfl, rfl⟩ := Action.traces_done.mp h
          exact ⟨neutral_cons.mpr ⟨trivial, neutral_nil⟩, rfl⟩
      | true =>
          simp only [if_true, Action.traces_bind, traces_emit, Action.pure_eq_done,
            Action.traces_done] at h
          obtain ⟨_, _, _, rfl, rfl, rfl, rfl⟩ := h
          exact ⟨neutral_cons.mpr ⟨trivial, neutral_cons.mpr ⟨trivial, neutral_nil⟩⟩, rfl⟩

/-! ## One delivery -/

namespace Request

variable (request : Request) (registry : Registry) (declarations : Declarations)

/-- What happens when an event is delivered. -/
inductive Serves : RequestEvent → List (WorkDeed app) →
    Option (Except Failure Unit × Request) → Prop where
  | startDropped {method : String} {ds : List (WorkDeed app)}
      (starts : request.demarcator.Starts registry request.context (declarations.find? method)
        ds none) :
      Serves (.methodStart method) ds none
  | startFailed {method : String} {ds : List (WorkDeed app)} {failure : Failure}
      (starts : request.demarcator.Starts registry request.context (declarations.find? method)
        ds (some (.error failure))) :
      Serves (.methodStart method) ds (some (.error failure, request))
  | started {method : String} {ds : List (WorkDeed app)} {demarcator : Demarcator}
      (starts : request.demarcator.Starts registry request.context (declarations.find? method)
        ds (some (.ok demarcator))) :
      Serves (.methodStart method) ds (some (.ok (), { request with demarcator }))
  | responseDropped {ds : List (WorkDeed app)}
      (completes : request.demarcator.Completes request.context ds none) :
      Serves .responseFiltersStart ds none
  | responded {ds : List (WorkDeed app)} {reply : Except Failure Unit} {demarcator : Demarcator}
      (completes : request.demarcator.Completes request.context ds (some (reply, demarcator))) :
      Serves .responseFiltersStart ds
        (some (reply.mapError .mappable, { request with demarcator }))
  | exceptionDropped {ds : List (WorkDeed app)}
      (fails : request.demarcator.Fails request.context ds none) : Serves .exception ds none
  | failed {ds : List (WorkDeed app)} {demarcator : Demarcator}
      (fails : request.demarcator.Fails request.context ds (some demarcator)) :
      Serves .exception ds (some (.ok (), { request with demarcator }))
  | finished {ds : List (WorkDeed app)} {next : Request}
      (finishes : request.finish.Traces ds next) : Serves .finished ds (some (.ok (), next))

/-- What a start makes of a request: a failure leaves it as it was. -/
def afterStart : Except Failure Demarcator → Except Failure Unit × Request
  | .error failure => (.error failure, request)
  | .ok demarcator => (.ok (), { request with demarcator })

variable {request registry declarations}

theorem traces_deliver {event : RequestEvent} {ds : List (WorkDeed app)}
    {v : Option (Except Failure Unit × Request)} :
    (request.deliver registry declarations event).Traces ds v ↔
      request.Serves registry declarations event ds v := by
  cases event with
  | methodStart method =>
      rw [deliver, Task.traces_bind_done (g := request.afterStart) (by rintro (_ | _) <;> rfl)]
      simp only [Demarcator.traces_start]
      constructor
      · rintro ⟨_ | failure | demarcator, hstarts, rfl⟩
        · exact .startDropped hstarts
        · exact .startFailed hstarts
        · exact .started hstarts
      · intro h
        cases h with
        | startDropped hstarts => exact ⟨none, hstarts, rfl⟩
        | startFailed hstarts => exact ⟨some (.error _), hstarts, rfl⟩
        | started hstarts => exact ⟨some (.ok _), hstarts, rfl⟩
  | responseFiltersStart =>
      rw [deliver, Task.traces_bind_done (g := fun r =>
        (r.1.mapError .mappable, { request with demarcator := r.2 }))
        (by rintro ⟨_ | _, _⟩ <;> rfl)]
      simp only [Demarcator.traces_complete]
      constructor
      · rintro ⟨_ | ⟨reply, demarcator⟩, hcompletes, rfl⟩
        · exact .responseDropped hcompletes
        · exact .responded hcompletes
      · intro h
        cases h with
        | responseDropped hcompletes => exact ⟨none, hcompletes, rfl⟩
        | responded hcompletes => exact ⟨some (_, _), hcompletes, rfl⟩
  | exception =>
      rw [deliver, Task.traces_bind_done (g := fun demarcator =>
        (.ok (), { request with demarcator })) (by intro; rfl)]
      simp only [Demarcator.traces_fail]
      constructor
      · rintro ⟨_ | demarcator, hfails, rfl⟩
        · exact .exceptionDropped hfails
        · exact .failed hfails
      · intro h
        cases h with
        | exceptionDropped hfails => exact ⟨none, hfails, rfl⟩
        | failed hfails => exact ⟨some _, hfails, rfl⟩
  | finished =>
      rw [deliver, Task.traces_bind_done (g := fun next => (.ok (), next)) (by intro; rfl)]
      simp only [Task.liftM_eq_ofAction, Task.traces_ofAction]
      constructor
      · rintro ⟨_, ⟨next, rfl, hfinishes⟩, rfl⟩
        exact .finished hfinishes
      · intro h
        cases h with
        | finished hfinishes => exact ⟨_, ⟨_, rfl, hfinishes⟩, rfl⟩

/-- Finishing forgets the unit of work and empties the context. -/
theorem finishes_of_traces {ds : List (WorkDeed app)} {next : Request}
    (h : request.finish.Traces ds next) :
    next = { request with demarcator := request.demarcator.idle, finished := true } ∧
      ∃ first found, Neutral first ∧ ds = first ++ request.context.emptyDeeds found := by
  simp only [finish, Action.traces_bind, ContextId.traces_unbindAll] at h
  obtain ⟨demarcator, first, _, rfl, habandons, _, _, _, rfl, ⟨found, rfl⟩, hdone⟩ := h
  obtain ⟨rfl, rfl⟩ := Action.traces_done.mp hdone
  obtain ⟨hneutral, rfl⟩ := Demarcator.abandons_of_traces habandons
  refine ⟨rfl, first, found, hneutral, ?_⟩
  rw [List.append_nil]

end Request

/-! ## Commits -/

/-- The deed is a call to commit on `h`, replied to or not. -/
def WorkDeed.commits (h : Handle) : WorkDeed app → Prop
  | .heard (.commit other) _ => other = h
  | .lost (.commit other) => other = h
  | _ => False

/-- A commit is called on `h`. -/
def CommitsOn (h : Handle) (deeds : List (WorkDeed app)) : Prop :=
  ∃ deed ∈ deeds, WorkDeed.commits h deed

section CommitsOn

variable {h : Handle} {ds es : List (WorkDeed app)}

@[simp] theorem not_commitsOn_nil : ¬ CommitsOn h ([] : List (WorkDeed app)) := by
  rintro ⟨_, hmem, -⟩
  cases hmem

@[simp] theorem commitsOn_cons {d : WorkDeed app} :
    CommitsOn h (d :: ds) ↔ WorkDeed.commits h d ∨ CommitsOn h ds := by
  simp [CommitsOn]

@[simp] theorem commitsOn_append : CommitsOn h (ds ++ es) ↔ CommitsOn h ds ∨ CommitsOn h es := by
  simp only [CommitsOn, List.mem_append, or_and_right, exists_or]

/-- An action calls nothing. -/
theorem not_commitsOn_of_action {α : Type} {x : Step α} {value : α} (hx : x.Traces ds value) :
    ¬ CommitsOn h ds := by
  induction hx with
  | done => exact not_commitsOn_nil
  | perform _ ih =>
      rw [commitsOn_cons]
      rintro (hdid | hrest)
      · exact hdid
      · exact ih hrest

namespace OpenUnit

variable {work : OpenUnit}

theorem Enters.not_commitsOn {cx : ContextId} {spec : WorkSpec} {handle : Handle}
    {v : Option (Except Failure Unit)} (henters : Enters cx spec handle ds v) :
    ¬ CommitsOn h ds := by
  cases henters <;> simp [ContextId.bindDeeds, WorkDeed.commits]

theorem OwesEnd.not_commitsOn {b : Bool} (howes : work.OwesEnd ds b) : ¬ CommitsOn h ds := by
  cases howes <;> simp [WorkDeed.commits]

/-- A commit is called on the handle of the unit of work, and only if its
transaction is found active. -/
theorem Commits.commitsOn_iff {v : Option (Except Failure Unit)} (hcommits : work.Commits ds v) :
    CommitsOn h ds ↔ work.handle = h ∧ .did (.transactionActive h) true ∈ ds := by
  cases hcommits with
  | notOwed howes => cases howes <;> simp [WorkDeed.commits]
  | dropped howes =>
      cases howes with
      | asked => by_cases hw : work.handle = h <;> simp [WorkDeed.commits, hw]
  | failed howes =>
      cases howes with
      | asked => by_cases hw : work.handle = h <;> simp [WorkDeed.commits, hw]
  | committed howes =>
      cases howes with
      | asked => by_cases hw : work.handle = h <;> simp [WorkDeed.commits, hw]

theorem RollsBack.not_commitsOn {v : Option Unit} (hrolls : work.RollsBack ds v) :
    ¬ CommitsOn h ds := by
  cases hrolls with
  | notOwed howes => exact howes.not_commitsOn
  | dropped howes => simp [howes.not_commitsOn, WorkDeed.commits]
  | failed howes => simp [howes.not_commitsOn, WorkDeed.commits]
  | rolledBack howes => simp [howes.not_commitsOn, WorkDeed.commits]

/-- A commit that fails had found the transaction active. -/
theorem Commits.asked_of_error {failure : Failure}
    (hcommits : work.Commits ds (some (.error failure))) :
    .did (.transactionActive work.handle) true ∈ ds := by
  cases hcommits with
  | failed howes =>
      cases howes with
      | asked => exact List.mem_cons_self

end OpenUnit

namespace Demarcator

variable {demarcator : Demarcator} {cx : ContextId}

theorem Starts.not_commitsOn {registry : Registry} {spec? : Option WorkSpec}
    {v : Option (Except Failure Demarcator)} (hstarts : demarcator.Starts registry cx spec? ds v) :
    ¬ CommitsOn h ds := by
  cases hstarts with
  | undeclared => exact not_commitsOn_nil
  | unresolved => exact not_commitsOn_nil
  | createDropped => simp [WorkDeed.commits]
  | createFailed => simp [WorkDeed.commits]
  | enterDropped _ henters => simp [henters.not_commitsOn, WorkDeed.commits]
  | @refused _ factory _ _ _ _ henters removed =>
      have hunbind : ¬ CommitsOn h (cx.unbindDeeds factory removed : List (WorkDeed app)) :=
        not_commitsOn_of_action ((ContextId.traces_unbind (r := removed)).mpr rfl)
      simp [henters.not_commitsOn, hunbind, WorkDeed.commits]
  | opened _ henters => simp [henters.not_commitsOn, WorkDeed.commits]

theorem Finishes.not_commitsOn {work : OpenUnit} (hfinishes : demarcator.Finishes cx work ds) :
    ¬ CommitsOn h ds :=
  not_commitsOn_of_action ((traces_finish (u := ())).mpr hfinishes)

theorem Finishes.not_asked {work : OpenUnit} (hfinishes : demarcator.Finishes cx work ds) :
    .did (.transactionActive h) true ∉ ds := by
  cases hfinishes with
  | immediate _ removed =>
      cases removed <;> simp [OpenUnit.releaseDeeds, ContextId.unbindDeeds]
  | deferred => exact List.not_mem_nil

theorem Fails.not_commitsOn {v : Option Demarcator} (hfails : demarcator.Fails cx ds v) :
    ¬ CommitsOn h ds := by
  cases hfails with
  | idle => exact not_commitsOn_nil
  | dropped _ hrolls => exact hrolls.not_commitsOn
  | failed _ hrolls hfinishes => simp [hrolls.not_commitsOn, hfinishes.not_commitsOn]

/-- A commit that failed was called on the handle, whatever follows it. -/
theorem commitsOn_append_of_error {work : OpenUnit} {failure : Failure}
    (hcommits : work.Commits ds (some (.error failure))) (hes : ¬ CommitsOn h es) :
    CommitsOn h (ds ++ es) ↔ work.handle = h ∧ .did (.transactionActive h) true ∈ ds ++ es := by
  rw [commitsOn_append, hcommits.commitsOn_iff]
  constructor
  · rintro (⟨hw, hasked⟩ | hlater)
    · exact ⟨hw, List.mem_append_left _ hasked⟩
    · exact absurd hlater hes
  · rintro ⟨rfl, -⟩
    exact Or.inl ⟨rfl, hcommits.asked_of_error⟩

/-- Completing calls commit on the handle of the unit of work in progress, and
only if its transaction is found active. -/
theorem Completes.commitsOn_iff {v : Option (Except Failure Unit × Demarcator)}
    (hcompletes : demarcator.Completes cx ds v) :
    CommitsOn h ds ↔ (∃ work, demarcator.current = some work ∧ work.handle = h) ∧
      .did (.transactionActive h) true ∈ ds := by
  cases hcompletes with
  | idle hcur => simp [hcur]
  | commitDropped hcur hcommits =>
      rw [hcommits.commitsOn_iff, hcur]
      simp
  | completed hcur hcommits hfinishes =>
      rw [commitsOn_append, hcommits.commitsOn_iff, hcur]
      simp [hfinishes.not_commitsOn, hfinishes.not_asked]
  | rollbackDropped hcur hcommits hrolls =>
      rw [commitsOn_append_of_error hcommits, hcur]
      · simp
      · simp [hrolls.not_commitsOn, WorkDeed.commits]
  | commitFailed hcur hcommits hrolls hfinishes =>
      rw [commitsOn_append_of_error hcommits, hcur]
      · simp
      · simp [hrolls.not_commitsOn, hfinishes.not_commitsOn, WorkDeed.commits]

end Demarcator

end CommitsOn

/-! ## Histories -/

/-- An event that was delivered, and what happened then.  There is no reply when
the delivery was dropped. -/
structure Delivery (app : Jobs) where
  event : RequestEvent
  registry : Registry
  declarations : Declarations
  deeds : List (WorkDeed app)
  reply : Option (Except Failure Unit)

/-- The delivery leaves a unit of work in progress, if there is one: it neither
opens another one nor ends nor forgets it. -/
def Delivery.KeepsUnit (d : Delivery app) : Prop :=
  match d.event with
  | .methodStart _ => d.reply = some (.ok ()) → handed d.deeds = []
  | .responseFiltersStart => d.reply = none
  | .exception => d.reply = none
  | .finished => False

namespace Request

/-- What a delivery makes of a request. -/
inductive Takes (request : Request) (d : Delivery app) : Request → Prop where
  | dropped (reply : d.reply = none)
      (traces : (request.deliver d.registry d.declarations d.event).Traces d.deeds none) :
      Takes request d request
  | served {result : Except Failure Unit} {next : Request} (reply : d.reply = some result)
      (traces : (request.deliver d.registry d.declarations d.event).Traces d.deeds
        (some (result, next))) :
      Takes request d next

/-- The unit of work in progress has the handle `h`. -/
def Holds (request : Request) (h : Handle) : Prop :=
  ∃ work, request.demarcator.current = some work ∧ work.handle = h

variable {request next : Request} {d : Delivery app} {h : Handle}

/-- The two ways to take a delivery, as one. -/
theorem Takes.serves (htakes : request.Takes d next) :
    ∃ v, request.Serves d.registry d.declarations d.event d.deeds v ∧
      d.reply = v.map Prod.fst ∧ next = (v.map Prod.snd).getD request := by
  cases htakes with
  | dropped hreply htraces => exact ⟨none, traces_deliver.mp htraces, hreply, rfl⟩
  | served hreply htraces => exact ⟨some _, traces_deliver.mp htraces, hreply, rfl⟩

/-- A commit is called on a handle when a response finds it in use and its
transaction active, and never else. -/
theorem Takes.commitsOn_iff (htakes : request.Takes d next) :
    CommitsOn h d.deeds ↔ request.Holds h ∧ d.event = .responseFiltersStart ∧
      .did (.transactionActive h) true ∈ d.deeds := by
  obtain ⟨event, registry, declarations, deeds, reply⟩ := d
  obtain ⟨v, hserves, -, -⟩ := htakes.serves
  show CommitsOn h deeds ↔ request.Holds h ∧ event = .responseFiltersStart ∧ _ ∈ deeds
  have hother : event ≠ .responseFiltersStart → ¬ CommitsOn h deeds →
      (CommitsOn h deeds ↔ request.Holds h ∧ event = .responseFiltersStart ∧
        .did (.transactionActive h) true ∈ deeds) := by
    intro hevent hnone
    constructor
    · intro hcommits
      exact absurd hcommits hnone
    · rintro ⟨-, hresponse, -⟩
      exact absurd hresponse hevent
  cases hserves with
  | startDropped hstarts => exact hother nofun hstarts.not_commitsOn
  | startFailed hstarts => exact hother nofun hstarts.not_commitsOn
  | started hstarts => exact hother nofun hstarts.not_commitsOn
  | responseDropped hcompletes =>
      rw [hcompletes.commitsOn_iff]
      exact and_congr_right fun _ => (and_iff_right rfl).symm
  | responded hcompletes =>
      rw [hcompletes.commitsOn_iff]
      exact and_congr_right fun _ => (and_iff_right rfl).symm
  | exceptionDropped hfails => exact hother nofun hfails.not_commitsOn
  | failed hfails => exact hother nofun hfails.not_commitsOn
  | finished hfinishes => exact hother nofun (not_commitsOn_of_action hfinishes)

/-- Only the start of a method obtains a handle. -/
theorem Takes.handed_eq_nil (hevent : ∀ method, d.event ≠ .methodStart method)
    (htakes : request.Takes d next) : handed d.deeds = [] := by
  obtain ⟨event, registry, declarations, deeds, reply⟩ := d
  obtain ⟨v, hserves, -, -⟩ := htakes.serves
  cases hserves with
  | startDropped => exact absurd rfl (hevent _)
  | startFailed => exact absurd rfl (hevent _)
  | started => exact absurd rfl (hevent _)
  | responseDropped hcompletes => exact hcompletes.ends.handed
  | responded hcompletes => exact hcompletes.ends.handed
  | exceptionDropped hfails => exact hfails.ends.handed
  | failed hfails => exact hfails.ends.handed
  | finished hfinishes => exact handed_of_action hfinishes

theorem not_holds_of_current (hcur : request.demarcator.current = none) : ¬ request.Holds h := by
  rintro ⟨work, hwork, -⟩
  rw [hcur] at hwork
  cases hwork

/-- A handle stays in use as long as deliveries keep the unit of work. -/
theorem Takes.holds_iff (hfresh : h ∉ handed d.deeds) (htakes : request.Takes d next) :
    next.Holds h ↔ request.Holds h ∧ d.KeepsUnit := by
  obtain ⟨event, registry, declarations, deeds, reply⟩ := d
  obtain ⟨v, hserves, hreply, rfl⟩ := htakes.serves
  obtain rfl : reply = v.map Prod.fst := hreply
  cases hserves with
  | startDropped => exact (and_iff_left nofun).symm
  | startFailed => exact (and_iff_left nofun).symm
  | @started method _ demarcator hstarts =>
      rcases hstarts.of_ok with ⟨-, rfl, rfl⟩ | ⟨_, work, -, -, rfl, -, hopened⟩
      · exact (and_iff_left fun _ => rfl).symm
      · have hhanded : handed deeds = [work.handle] := hopened.handed
        have hne : work.handle ≠ h := ne_of_handed hhanded hfresh
        constructor
        · rintro ⟨other, hcur, rfl⟩
          exact absurd (congrArg OpenUnit.handle (Option.some.inj hcur)) hne
        · rintro ⟨-, hkeeps⟩
          have hnone : handed deeds = [] := hkeeps rfl
          rw [hhanded] at hnone
          cases hnone
  | responseDropped => exact (and_iff_left rfl).symm
  | responded hcompletes =>
      refine iff_of_false (not_holds_of_current hcompletes.current_eq_none) ?_
      rintro ⟨-, hkept⟩
      cases hkept
  | exceptionDropped => exact (and_iff_left rfl).symm
  | failed hfails =>
      refine iff_of_false (not_holds_of_current hfails.current_eq_none) ?_
      rintro ⟨-, hkept⟩
      cases hkept
  | finished hfinishes =>
      obtain ⟨rfl, -⟩ := finishes_of_traces hfinishes
      exact iff_of_false (not_holds_of_current rfl) And.right

theorem holds_iff_of_history {deliveries : List (Delivery app)}
    (hfresh : ∀ x ∈ deliveries, h ∉ handed x.deeds)
    (hhistory : Follows Takes deliveries request next) :
    next.Holds h ↔ request.Holds h ∧ ∀ x ∈ deliveries, x.KeepsUnit := by
  induction deliveries generalizing request with
  | nil =>
      rw [follows_nil.mp hhistory]
      exact (and_iff_left fun _ hmem => nomatch hmem).symm
  | cons d deliveries ih =>
      obtain ⟨between, htakes, hrest⟩ := hhistory
      have hstep := htakes.holds_iff (hfresh d List.mem_cons_self)
      rw [ih (fun x hx => hfresh x (List.mem_cons_of_mem d hx)) hrest, hstep, List.forall_mem_cons,
        and_assoc]

/-! ## A pipeline with one method -/

section Keeping

/-- The method "keep" needs the default unit. -/
def keeping : Declarations where
  methods := Table.empty.insert "keep" {}

theorem keeping_find? : keeping.find? "keep" = some {} := by
  rw [Declarations.find?, keeping, Table.find?_insert, if_pos rfl]

/-- Deliver an event to a request of this pipeline. -/
def keepDelivery (event : RequestEvent) (deeds : List (WorkDeed noJobs))
    (reply : Option (Except Failure Unit)) : Delivery noJobs :=
  ⟨event, .lone ⟨0⟩, keeping, deeds, reply⟩

/-- The request of this pipeline while it works with the handle of this number. -/
def keepRequest (n : Nat) : Request where
  context := ⟨0⟩
  demarcator := { mode := .deferred, current := some (defaultWork n) }

/-- The start of "keep", in a context where `replaced` was bound. -/
def keepStart (n : Nat) (replaced : Option Handle) : Delivery noJobs :=
  keepDelivery (.methodStart "keep") (defaultOpened n replaced) (some (.ok ()))

theorem takes_keepStart {n : Nat} {replaced : Option Handle} {request : Request}
    (hcontext : request.context = ⟨0⟩) :
    request.Takes (keepStart n replaced) { request with
      demarcator := { request.demarcator with current := some (defaultWork n) } } := by
  refine .served rfl (traces_deliver.mpr (.started ?_))
  show request.demarcator.Starts (.lone ⟨0⟩) request.context (keeping.find? "keep") _ _
  rw [keeping_find?, hcontext]
  exact starts_defaultOpened

end Keeping

/-! ## Commits after an exception -/

/-- After an exception, a commit is called on the handle of the unit of work that
was open if and only if the exception was dropped, and a response finds the unit
of work still there and its transaction active. -/
theorem commit_after_exception_iff {request request' request'' : Request} {work : OpenUnit}
    {later : List (Delivery app)} (hopen : request.demarcator.current = some work)
    (hevent : d.event = .exception) (htakes : request.Takes d request')
    (hlater : Follows Takes later request' request'')
    (hfresh : ∀ x ∈ later, work.handle ∉ handed x.deeds) :
    (∃ x ∈ later, CommitsOn work.handle x.deeds) ↔
      d.reply = none ∧ ∃ pre x post, later = pre ++ x :: post ∧ (∀ y ∈ pre, y.KeepsUnit) ∧
        x.event = .responseFiltersStart ∧ .did (.transactionActive work.handle) true ∈ x.deeds := by
  have hholds : request.Holds work.handle := ⟨work, hopen, rfl⟩
  have hnone : work.handle ∉ handed d.deeds := by
    have hstart : ∀ method, d.event ≠ .methodStart method := by
      rw [hevent]
      exact nofun
    rw [htakes.handed_eq_nil hstart]
    exact List.not_mem_nil
  have hkept : request'.Holds work.handle ↔ d.reply = none := by
    rw [htakes.holds_iff hnone, and_iff_right hholds, Delivery.KeepsUnit, hevent]
  -- whether a delivery finds the unit of work depends on the deliveries before it
  have hfinds : ∀ {pre x post}, later = pre ++ x :: post →
      (CommitsOn work.handle x.deeds ↔
        (d.reply = none ∧ ∀ y ∈ pre, y.KeepsUnit) ∧ x.event = .responseFiltersStart ∧
          .did (.transactionActive work.handle) true ∈ x.deeds) := by
    rintro pre x post rfl
    obtain ⟨found, hpre, left, hx, -⟩ := follows_append.mp hlater
    have hfreshPre : ∀ y ∈ pre, work.handle ∉ handed y.deeds :=
      fun y hy => hfresh y (List.mem_append_left _ hy)
    rw [hx.commitsOn_iff, holds_iff_of_history hfreshPre hpre, hkept]
  constructor
  · rintro ⟨x, hx, hcommits⟩
    obtain ⟨pre, post, hsplit⟩ := List.append_of_mem hx
    obtain ⟨⟨hdropped, hpre⟩, hresponse⟩ := (hfinds hsplit).mp hcommits
    exact ⟨hdropped, pre, x, post, hsplit, hpre, hresponse⟩
  · rintro ⟨hdropped, pre, x, post, hsplit, hpre, hresponse⟩
    refine ⟨x, ?_, (hfinds hsplit).mpr ⟨⟨hdropped, hpre⟩, hresponse⟩⟩
    rw [hsplit]
    exact List.mem_append_right pre List.mem_cons_self

/-- A response commits the unit of work whose exception was dropped. -/
theorem commit_after_dropped_exception :
    ¬ ∀ (earlier later : List (Delivery noJobs)) (d : Delivery noJobs)
      (request request' request'' : Request) (work : OpenUnit),
      Follows Takes earlier { context := ⟨0⟩ } request →
        request.demarcator.current = some work → d.event = .exception →
        request.Takes d request' → Follows Takes later request' request'' →
        (∀ x ∈ later, work.handle ∉ handed x.deeds) →
        ∀ x ∈ later, ¬ CommitsOn work.handle x.deeds := by
  intro hall
  let exception : Delivery noJobs := keepDelivery .exception
    [.did (.transactionActive ⟨0, ⟨0⟩⟩) true, .lost (.rollback ⟨0, ⟨0⟩⟩)] none
  let response : Delivery noJobs := keepDelivery .responseFiltersStart
    [.did (.transactionActive ⟨0, ⟨0⟩⟩) true, .heard (.commit ⟨0, ⟨0⟩⟩) (.ok ()),
      .did (.emit (.committed defaultUnitName)) ()] (some (.ok ()))
  have hrolls : (defaultWork 0).RollsBack exception.deeds none := .dropped (.asked rfl true)
  have hexception : (keepRequest 0).Takes exception (keepRequest 0) :=
    .dropped rfl (traces_deliver.mpr (.exceptionDropped (.dropped rfl hrolls)))
  have hcommits : (defaultWork 0).Commits response.deeds (some (.ok ())) :=
    .committed (.asked rfl true)
  have hcompletes : (keepRequest 0).demarcator.Completes ⟨0⟩ (response.deeds ++ []) _ :=
    .completed rfl hcommits (.deferred rfl)
  rw [List.append_nil] at hcompletes
  have hresponse : (keepRequest 0).Takes response { context := ⟨0⟩ } :=
    .served rfl (traces_deliver.mpr (.responded hcompletes))
  have hfresh : ∀ x ∈ [response], (defaultWork 0).handle ∉ handed x.deeds := by
    intro x hx
    obtain rfl := List.mem_singleton.mp hx
    exact List.not_mem_nil
  refine hall [keepStart 0 none] [response] exception _ _ _ (defaultWork 0)
    ⟨_, takes_keepStart rfl, rfl⟩ rfl rfl hexception ⟨_, hresponse, rfl⟩ hfresh response
    List.mem_cons_self ?_
  exact ⟨.heard (.commit ⟨0, ⟨0⟩⟩) (.ok ()), by simp [response, keepDelivery], rfl⟩

/-- The response of a request without a unit of work. -/
def idleResponse : Delivery noJobs := keepDelivery .responseFiltersStart [] (some (.ok ()))

/-- A unit of work that was rolled back is not committed. -/
theorem no_commit_after_rollback :
    ¬ ∃ x ∈ [idleResponse], CommitsOn (defaultWork 0).handle x.deeds := by
  let exception : Delivery noJobs := keepDelivery .exception
    [.did (.transactionActive ⟨0, ⟨0⟩⟩) true, .heard (.rollback ⟨0, ⟨0⟩⟩) (.ok ()),
      .did (.emit (.rolledBack defaultUnitName)) ()] (some (.ok ()))
  have hrolls : (defaultWork 0).RollsBack exception.deeds (some ()) := .rolledBack (.asked rfl true)
  have hfails : (keepRequest 0).demarcator.Fails ⟨0⟩ (exception.deeds ++ []) _ :=
    .failed rfl hrolls (.deferred rfl)
  rw [List.append_nil] at hfails
  have hexception : (keepRequest 0).Takes exception { context := ⟨0⟩ } :=
    .served rfl (traces_deliver.mpr (.failed hfails))
  have hlater : Follows Takes [idleResponse] ({ context := ⟨0⟩ } : Request) { context := ⟨0⟩ } :=
    ⟨_, .served rfl (traces_deliver.mpr (.responded (.idle rfl))), rfl⟩
  have hfresh : ∀ x ∈ [idleResponse], (defaultWork 0).handle ∉ handed x.deeds := by
    intro x hx
    obtain rfl := List.mem_singleton.mp hx
    exact List.not_mem_nil
  intro hcommits
  obtain ⟨hdropped, -⟩ := (commit_after_exception_iff rfl rfl hexception hlater hfresh).mp hcommits
  cases hdropped

end Request

end Demarcation
