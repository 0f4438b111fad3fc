/-
The session of a request.

Application code may use shared handles at any moment of a request: before its
first event, between its events and after the last one.  A `Session` is a
request with its context and the transaction of its handle, and a `Happening` is
an event that is delivered or something that application code does.

`Session.Stands` is the invariant of a session whose unit of work has been
opened.  Its field `window` is why a mutating operation reaches the handle only
between the begin of the transaction and its end: the transaction is not active
at any other moment.
-/
import Demarcation.Proofs.Course
import Demarcation.Proofs.Lifetime
import Demarcation.Proofs.Window

namespace Demarcation

variable {app : Jobs}

/-! ## What happens in a session -/

/-- The operation looks something up. -/
inductive Operation.LooksUp : Operation → Prop where
  | find (key : EntityKey) : LooksUp (.find key)
  | contains (key : EntityKey) : LooksUp (.contains key)
  | nativeQuery (sql : String) : LooksUp (.nativeQuery sql)

theorem Operation.LooksUp.kind_eq {operation : Operation} (hlooks : operation.LooksUp) :
    operation.kind = .read := by
  cases hlooks <;> rfl

/-- The deed has to do with no operation: a handle is looked up or asked what stands
behind it, something is told, or something else is awaited. -/
def WorkDeed.Idle : WorkDeed app → Prop
  | .did (.context (.find ..)) _ => True
  | .did (.provides ..) _ => True
  | .did (.emit _) _ => True
  | .heard (.job _) _ => True
  | .lost (.job _) => True
  | _ => False

/-- Something that happens in the course of a request. -/
inductive Happening (app : Jobs) where
  /-- An event is delivered. -/
  | delivered (delivery : Delivery app)
  /-- A shared handle is invoked; there is no result if the call was dropped. -/
  | called (shared : SharedHandle) (operation : Operation) (deeds : List (WorkDeed app))
    (result : Option (Except Failure Outcome))
  /-- Application code does something else. -/
  | idle (deeds : List (WorkDeed app))

namespace Happening

/-- What was done. -/
def deeds : Happening app → List (WorkDeed app)
  | .delivered d => d.deeds
  | .called _ _ deeds _ => deeds
  | .idle deeds => deeds

/-- What may happen to a request. -/
def Befalls (request : Request) (next : Request) : Happening app → Prop
  | .delivered d => request.Takes d next
  | .called shared operation deeds result =>
      (shared.invoke request.context operation : Work app _).Traces deeds result ∧ next = request
  | .idle deeds => (∀ d ∈ deeds, WorkDeed.Idle d) ∧ next = request

/-- A mutating operation reaches the handle. -/
def Mutates (h : Handle) (e : Happening app) : Prop :=
  ∃ operation, operation.kind = .mutating ∧
    ((∃ reply, .heard (.execute h operation) reply ∈ e.deeds) ∨
      .lost (.execute h operation) ∈ e.deeds)

end Happening

/-- Everything that was done. -/
def deedsOf (past : List (Happening app)) : List (WorkDeed app) := past.flatMap Happening.deeds

@[simp] theorem deedsOf_append {past later : List (Happening app)} :
    deedsOf (past ++ later) = deedsOf past ++ deedsOf later :=
  List.flatMap_append

@[simp] theorem deedsOf_singleton {e : Happening app} : deedsOf [e] = e.deeds :=
  List.flatMap_singleton ..

/-- The event has been delivered. -/
def Delivered (event : RequestEvent) (past : List (Happening app)) : Prop :=
  ∃ d, .delivered d ∈ past ∧ d.event = event

section SharedOnly

variable {cx : ContextId} {ds : List (WorkDeed app)}

theorem idle_of_current {factory : FactoryId} {r : Except Failure Handle}
    (htraces : (cx.current factory).Traces ds r) : ∀ d ∈ ds, WorkDeed.Idle d := by
  rcases ContextId.traces_current.mp htraces with ⟨rfl, -⟩ | ⟨handle, rfl, -⟩
  · exact List.forall_mem_singleton.mpr trivial
  · exact List.forall_mem_singleton.mpr trivial

theorem idle_of_unwrap {shared : SharedHandle} {target : Option ObjectType}
    {r : Except Failure Unwrapped} (htraces : (shared.unwrap cx target).Traces ds r) :
    ∀ d ∈ ds, WorkDeed.Idle d := by
  have hproceeds : ∀ {f : Except Failure Handle → Step (Except Failure Unwrapped)},
      (∀ (x : Except Failure Handle) (es : List (WorkDeed app)), (f x).Traces es r →
        ∀ d ∈ es, WorkDeed.Idle d) →
      (cx.current shared.factory >>= f).Traces ds r → ∀ d ∈ ds, WorkDeed.Idle d := by
    intro f hf h
    obtain ⟨x, first, rest, rfl, hfirst, hrest⟩ := Action.traces_bind.mp h
    exact List.forall_mem_append.mpr ⟨idle_of_current hfirst, hf x rest hrest⟩
  have hdone : ∀ {value : Except Failure Unwrapped} {es : List (WorkDeed app)},
      (Action.done value : Step _).Traces es r → ∀ d ∈ es, WorkDeed.Idle d := by
    intro value es h
    obtain ⟨rfl, -⟩ := Action.traces_done.mp h
    exact fun _ hmem => nomatch hmem
  rcases target with _ | type
  · refine hproceeds ?_ htraces
    rintro (failure | handle) es h
    · exact hdone h
    · exact hdone h
  · cases type with
    | sharedHandle => exact hdone htraces
    | _ =>
        refine hproceeds ?_ htraces
        rintro (failure | handle) es h
        · exact hdone h
        · obtain ⟨answer, rest, rfl, hrest⟩ := Action.traces_perform.mp h
          refine List.forall_mem_cons.mpr ⟨trivial, ?_⟩
          cases answer with
          | false => exact hdone hrest
          | true => exact hdone hrest

/-- Code that uses shared handles only invokes them, and is idle else. -/
theorem SharedOnly.exists_happenings {α : Type} {x : Work app α} {request : Request}
    {v : Option α} (hcontext : request.context = cx) (hx : SharedOnly cx x)
    (htraces : x.Traces ds v) :
    ∃ happenings : List (Happening app), deedsOf happenings = ds ∧
      ∀ e ∈ happenings, (∀ d, e ≠ .delivered d) ∧ e.Befalls request request := by
  subst hcontext
  have hidle : ∀ first : List (WorkDeed app), (∀ d ∈ first, WorkDeed.Idle d) →
      (∀ d, Happening.idle first ≠ .delivered d) ∧
        (Happening.idle first).Befalls request request :=
    fun first hfirst => ⟨nofun, hfirst, rfl⟩
  induction hx generalizing ds with
  | done a =>
      obtain ⟨rfl, -⟩ := Task.traces_done.mp htraces
      exact ⟨[], rfl, fun _ hmem => nomatch hmem⟩
  | invoke shared operation _ ih =>
      rcases Task.traces_bind.mp htraces with ⟨reply, first, rest, rfl, hfirst, hrest⟩ | ⟨hfirst, -⟩
      · obtain ⟨happenings, rfl, hall⟩ := ih reply hrest
        exact ⟨.called shared operation first (some reply) :: happenings, rfl,
          List.forall_mem_cons.mpr ⟨⟨nofun, hfirst, rfl⟩, hall⟩⟩
      · exact ⟨[.called shared operation ds none], deedsOf_singleton,
          List.forall_mem_singleton.mpr ⟨nofun, hfirst, rfl⟩⟩
  | unwrap shared target _ ih =>
      obtain ⟨reply, first, rest, rfl, hfirst, hrest⟩ := Task.traces_ofAction_bind.mp htraces
      obtain ⟨happenings, rfl, hall⟩ := ih reply hrest
      exact ⟨.idle first :: happenings, rfl,
        List.forall_mem_cons.mpr ⟨hidle first (idle_of_unwrap hfirst), hall⟩⟩
  | close shared _ ih =>
      obtain ⟨reply, first, rest, rfl, hfirst, hrest⟩ := Task.traces_ofAction_bind.mp htraces
      obtain ⟨happenings, rfl, hall⟩ := ih reply hrest
      obtain rfl := traces_emit.mp hfirst
      exact ⟨.idle [_] :: happenings, rfl,
        List.forall_mem_cons.mpr ⟨hidle _ (List.forall_mem_singleton.mpr trivial), hall⟩⟩
  | job job _ ih =>
      rcases Task.traces_await.mp htraces with ⟨reply, rest, rfl, hrest⟩ | ⟨rest, rfl, -, hcleanup⟩
      · obtain ⟨happenings, rfl, hall⟩ := ih reply hrest
        exact ⟨.idle [.heard (.job job) reply] :: happenings, rfl,
          List.forall_mem_cons.mpr ⟨hidle _ (List.forall_mem_singleton.mpr trivial), hall⟩⟩
      · obtain ⟨rfl, -⟩ := Action.traces_done.mp hcleanup
        exact ⟨[.idle [.lost (.job job)]], rfl,
          List.forall_mem_singleton.mpr (hidle _ (List.forall_mem_singleton.mpr trivial))⟩

end SharedOnly

/-! ## Sessions -/

/-- A request, the workspace, and whether the transaction of its handle is active. -/
structure Request.Session where
  request : Request
  workspace : Workspace
  active : Bool

namespace Request.Session

section Proceeds

variable (others : Workspace → Workspace → Prop) (h : Handle)

/-- What a deed makes of the workspace and of the transaction. -/
def Step (before : Workspace × Bool) (d : WorkDeed app) (after : Workspace × Bool) : Prop :=
  Workspace.Step others before.1 d after.1 ∧ h.Obeys before.2 d after.2

/-- What a happening makes of a session.  Others act before it and while it waits;
the transaction may come to its end meanwhile, but none is begun. -/
def Proceeds (s : Session) (e : Happening app) (t : Session) : Prop :=
  ∃ w active, Relation.ReflTransGen others s.workspace w ∧ (active = true → s.active = true) ∧
    Follows (Step others h) e.deeds (w, active) (t.workspace, t.active) ∧
      e.Befalls s.request t.request

end Proceeds

variable {others : Workspace → Workspace → Prop} {h : Handle} {cx : ContextId} {spec : WorkSpec}
  {s t : Session} {e : Happening app} {past : List (Happening app)}

theorem follows_step {ds : List (WorkDeed app)} {before after : Workspace × Bool} :
    Follows (Step others h) ds before after ↔
      Workspace.Leads others ds before.1 after.1 ∧ Follows h.Obeys ds before.2 after.2 := by
  induction ds generalizing before with
  | nil =>
      simp only [Workspace.Leads, follows_nil]
      exact Prod.ext_iff
  | cons d ds ih =>
      simp only [Workspace.Leads, follows_cons, ih]
      constructor
      · rintro ⟨between, ⟨hstep, hobeys⟩, hleads, hrest⟩
        exact ⟨⟨between.1, hstep, hleads⟩, between.2, hobeys, hrest⟩
      · rintro ⟨⟨w, hstep, hleads⟩, active, hobeys, hrest⟩
        exact ⟨(w, active), ⟨hstep, hobeys⟩, hleads, hrest⟩

theorem Proceeds.follows (hspares : Workspace.Spares others cx)
    (hproceeds : Proceeds others h s e t) :
    e.Befalls s.request t.request ∧
      (∃ w, w.context cx = s.workspace.context cx ∧ Workspace.Leads others e.deeds w t.workspace) ∧
      ∃ active, (active = true → s.active = true) ∧ Follows h.Obeys e.deeds active t.active := by
  obtain ⟨w, active, hmeanwhile, hactive, hfollows, hbefalls⟩ := hproceeds
  obtain ⟨hleads, hobeys⟩ := follows_step.mp hfollows
  exact ⟨hbefalls, ⟨w, hspares.eq_of_meanwhile hmeanwhile, hleads⟩, active, hactive, hobeys⟩

/-! ## What application code does -/

theorem quiet_of_idle {ds : List (WorkDeed app)} (hds : ∀ d ∈ ds, WorkDeed.Idle d) :
    Quiet cx ds := by
  induction ds with
  | nil => exact .nil
  | cons d ds ih =>
      obtain ⟨hd, hrest⟩ := List.forall_mem_cons.mp hds
      have hquiet : Quiet cx [d] := by
        cases d with
        | did command answer =>
            have hreads : command.Reads := by
              cases command with
              | context command =>
                  cases command with
                  | find => trivial
                  | _ => cases hd
              | provides => trivial
              | emit => trivial
              | _ => cases hd
            exact .of_reads hreads answer
        | heard call reply =>
            cases call with
            | job => exact Neutral.quiet (by simp [WorkDeed.Neutral])
            | _ => cases hd
        | lost call => exact Neutral.quiet (by simp [WorkDeed.Neutral])
      exact hquiet.append (ih hrest)

theorem operates_of_idle {ds : List (WorkDeed app)} (hds : ∀ d ∈ ds, WorkDeed.Idle d) :
    Operates ds := by
  intro d hmem h call hcall
  have hd := hds d hmem
  rcases d with ⟨_ | _ | _ | _ | _, _⟩ | ⟨_ | _ | _ | _ | _ | _ | _, _⟩ |
    (_ | _ | _ | _ | _ | _ | _)
  all_goals first | (cases hcall; done) | cases hd

/-- Application code leaves the request and the context alone, and runs operations only. -/
theorem harmless_of_befalls {request next : Request} (happlied : ∀ d, e ≠ .delivered d)
    (hbefalls : e.Befalls request next) :
    next = request ∧ Quiet request.context e.deeds ∧ Operates e.deeds := by
  cases e with
  | delivered d => exact absurd rfl (happlied d)
  | called shared operation deeds result =>
      obtain ⟨htraces, rfl⟩ := hbefalls
      have hforwards : Each (WorkDeed.Forwards next.context) [] deeds :=
        shared.conforms_invoke operation deeds result htraces
      exact ⟨rfl, shared.leavesAlone_invoke operation deeds result htraces,
        operates_of_forwards hforwards⟩
  | idle deeds =>
      obtain ⟨hidle, rfl⟩ := hbefalls
      exact ⟨rfl, quiet_of_idle hidle, operates_of_idle hidle⟩

theorem unbegun_of_operates {ds : List (WorkDeed app)} (hds : Operates ds) : h.Unbegun ds := by
  intro hmem
  obtain ⟨_, hsame⟩ := hds _ hmem h _ rfl
  cases hsame

theorem Proceeds.harmless (hspares : Workspace.Spares others cx) (hcontext : s.request.context = cx)
    (happlied : ∀ d, e ≠ .delivered d) (hproceeds : Proceeds others h s e t) :
    t.request = s.request ∧ t.workspace.context cx = s.workspace.context cx ∧
      (t.active = true → s.active = true) ∧ Quiet cx e.deeds ∧ Operates e.deeds := by
  obtain ⟨hbefalls, ⟨w, hw, hleads⟩, active, hactive, hobeys⟩ := hproceeds.follows hspares
  obtain ⟨hrequest, hquiet, hoperates⟩ := harmless_of_befalls happlied hbefalls
  rw [hcontext] at hquiet
  refine ⟨hrequest, (hquiet.context hspares hleads).trans hw, ?_, hquiet, hoperates⟩
  exact fun ht => hactive (active_of_unbegun (unbegun_of_operates hoperates) hobeys ht)

/-! ## After the unit of work has been opened -/

theorem delivered_concat {event : RequestEvent} :
    Delivered event (past ++ [e]) ↔
      Delivered event past ∨ ∃ d, e = .delivered d ∧ d.event = event := by
  simp only [Delivered, List.mem_append, List.mem_singleton]
  constructor
  · rintro ⟨d, hmem | rfl, hevent⟩
    · exact Or.inl ⟨d, hmem, hevent⟩
    · exact Or.inr ⟨d, rfl, hevent⟩
  · rintro (⟨d, hmem, hevent⟩ | ⟨d, rfl, hevent⟩)
    · exact ⟨d, Or.inl hmem, hevent⟩
    · exact ⟨d, Or.inr rfl, hevent⟩

theorem delivered_concat_of_applied {event : RequestEvent} (happlied : ∀ d, e ≠ .delivered d) :
    Delivered event (past ++ [e]) ↔ Delivered event past := by
  rw [delivered_concat]
  exact or_iff_left fun ⟨d, he, _⟩ => happlied d he

/-- The response has been prepared, or something has failed. -/
def Answered (past : List (Happening app)) : Prop :=
  Delivered .responseFiltersStart past ∨ Delivered .exception past

/-- What holds of a session whose unit of work has been opened with this handle. -/
structure Stands (cx : ContextId) (spec : WorkSpec) (h : Handle) (past : List (Happening app))
    (s : Session) : Prop where
  started : ∃ d, .delivered d ∈ past
  context : s.request.context = cx
  mode : s.request.demarcator.mode = .deferred
  current : ∀ work, s.request.demarcator.current = some work → work.handle = h ∧ work.spec = spec
  ended : Answered past ∨ Delivered .finished past → s.request.demarcator.current = none
  idle : s.request.demarcator.current = none → s.active = false
  plain : spec.transactional = false → s.active = false
  window : s.active = true → .heard (.begin h) (.ok ()) ∈ deedsOf past ∧
    .commit ∉ callsOn h (deedsOf past) ∧ .rollback ∉ callsOn h (deedsOf past)
  bound : ¬ Delivered .finished past →
    s.workspace.context cx = (Context.empty.bind h).2 ∧ closings h (deedsOf past) = 0
  emptied : Delivered .finished past → s.workspace.context cx = .empty

theorem Stands.of_applied (hspares : Workspace.Spares others cx) (happlied : ∀ d, e ≠ .delivered d)
    (hstands : Stands cx spec h past s) (hproceeds : Proceeds others h s e t) :
    Stands cx spec h (past ++ [e]) t := by
  obtain ⟨hrequest, hcontext, hactive, hquiet, hoperates⟩ :=
    hproceeds.harmless hspares hstands.context happlied
  have hinactive : s.active = false → t.active = false := inactive_of_imp hactive
  constructor
  · obtain ⟨d, hmem⟩ := hstands.started
    exact ⟨d, List.mem_append_left _ hmem⟩
  · rw [hrequest]
    exact hstands.context
  · rw [hrequest]
    exact hstands.mode
  · rw [hrequest]
    exact hstands.current
  · rw [hrequest, Answered, delivered_concat_of_applied happlied,
      delivered_concat_of_applied happlied, delivered_concat_of_applied happlied]
    exact hstands.ended
  · rw [hrequest]
    exact fun hcurrent => hinactive (hstands.idle hcurrent)
  · exact fun hplain => hinactive (hstands.plain hplain)
  · intro ht
    obtain ⟨hbegun, hended⟩ := hstands.window (hactive ht)
    rw [deedsOf_append, deedsOf_singleton]
    exact ⟨List.mem_append_left _ hbegun, not_mem_callsOn_append hended hoperates.not_mem_callsOn⟩
  · rw [delivered_concat_of_applied happlied, hcontext, deedsOf_append, deedsOf_singleton,
      closings_append, hquiet.closings]
    exact hstands.bound
  · rw [delivered_concat_of_applied happlied, hcontext]
    exact hstands.emptied

theorem endedBy_of_closes {d : WorkDeed app} (hcloses : WorkDeed.closes h d = true) :
    h.EndedBy d := by
  cases d with
  | did command =>
      cases command with
      | close other =>
          show other = h
          simpa [WorkDeed.closes] using hcloses
      | _ => cases hcloses
  | heard => cases hcloses
  | lost => cases hcloses

/-- A delivery that obtains no handle is quiet, or it finishes the request. -/
theorem quiet_or_empties {d : Delivery app} {before after : Bool} (hhanded : handed d.deeds = [])
    (heffect : d.Effect cx before after) :
    (d.event ≠ .finished ∧ Quiet cx d.deeds) ∨ (d.event = .finished ∧ Empties cx d.deeds) := by
  cases heffect with
  | quiet hevent hquiet => exact Or.inl ⟨hevent, hquiet⟩
  | opened _ _ hopens => rw [hopens.handed] at hhanded; cases hhanded
  | refused _ _ hrefuses => rw [hrefuses.handed] at hhanded; cases hhanded
  | emptied hevent hempties => exact Or.inr ⟨hevent, hempties⟩

/-- A delivery that does not open a unit of work leaves none, and begins nothing. -/
theorem ends_of_takes {d : Delivery app} {request next : Request} (hdone : d.reply ≠ none)
    (hevent : ∀ method, d.event ≠ .methodStart method) (htakes : request.Takes d next) :
    next.demarcator.current = none ∧ h.Unbegun d.deeds := by
  obtain ⟨event, registry, declarations, deeds, reply⟩ := d
  obtain ⟨v, hserves, hreply, rfl⟩ := htakes.serves
  obtain rfl : reply = v.map Prod.fst := hreply
  cases hserves with
  | startDropped => exact absurd rfl hdone
  | startFailed => exact absurd rfl (hevent _)
  | started => exact absurd rfl (hevent _)
  | responseDropped => exact absurd rfl hdone
  | responded hcompletes => exact ⟨hcompletes.current_eq_none, hcompletes.windsUp.unbegun⟩
  | exceptionDropped => exact absurd rfl hdone
  | failed hfails => exact ⟨hfails.current_eq_none, hfails.windsUp.unbegun⟩
  | finished hfinishes =>
      have hunbegun : h.Unbegun deeds := (windsUp_of_action hfinishes).unbegun
      obtain ⟨rfl, -⟩ := Request.finishes_of_traces hfinishes
      exact ⟨rfl, hunbegun⟩

/-- After such a delivery the transaction is inactive: it has been ended, or the handle
was closed. -/
theorem Stands.inactive {d : Delivery app} {next : Request} {w w' : Workspace}
    {before after : Bool} (hspares : Workspace.Spares others cx) (hdone : d.reply ≠ none)
    (hevent : ∀ method, d.event ≠ .methodStart method) (hstands : Stands cx spec h past s)
    (htakes : s.request.Takes d next) (hcontext : w.context cx = s.workspace.context cx)
    (hleads : Workspace.Leads others d.deeds w w') (hbefore : before = true → s.active = true)
    (hobeys : Follows h.Obeys d.deeds before after) : after = false := by
  have hunbegun : h.Unbegun d.deeds := (ends_of_takes hdone hevent htakes).2
  have hkept : s.active = false → after = false :=
    fun hs => inactive_of_unbegun hunbegun hobeys (inactive_of_imp hbefore hs)
  cases hcurrent : s.request.demarcator.current with
  | none => exact hkept (hstands.idle hcurrent)
  | some work =>
      obtain ⟨rfl, rfl⟩ := hstands.current work hcurrent
      have hplain : work.spec.transactional = false → before = false :=
        fun htransactional => inactive_of_imp hbefore (hstands.plain htransactional)
      have hcx := hstands.context
      have hbound := hstands.bound fun hfinished => by
        rw [hstands.ended (Or.inr hfinished)] at hcurrent
        cases hcurrent
      obtain ⟨event, registry, declarations, deeds, reply⟩ := d
      obtain ⟨v, hserves, hreply, rfl⟩ := htakes.serves
      obtain rfl : reply = v.map Prod.fst := hreply
      cases hserves with
      | startDropped => exact absurd rfl hdone
      | startFailed => exact absurd rfl (hevent _)
      | started => exact absurd rfl (hevent _)
      | responseDropped => exact absurd rfl hdone
      | responded hcompletes => exact hcompletes.inactive hcurrent hplain hobeys
      | exceptionDropped => exact absurd rfl hdone
      | failed hfails => exact hfails.inactive hcurrent hplain hobeys
      | finished hfinishes =>
          have hempties := Request.empties_of_traces hfinishes
          rw [hcx] at hempties
          -- the handle is bound, and everything that is bound is closed
          have hclosed : 0 < closings work.handle deeds := by
            rw [(hempties.clears hspares hleads).2, hcontext, hbound.1]
            exact List.count_pos_iff.mpr List.mem_cons_self
          obtain ⟨closing, hmem, hcloses⟩ := List.countP_pos_iff.mp hclosed
          exact inactive_of_mem hmem hunbegun (Or.inl (endedBy_of_closes hcloses)) hobeys

theorem Stands.of_delivered {d : Delivery app} (hspares : Workspace.Spares others cx)
    (hdone : d.reply ≠ none) (hevent : ∀ method, d.event ≠ .methodStart method)
    (hstands : Stands cx spec h past s) (hproceeds : Proceeds others h s (.delivered d) t) :
    Stands cx spec h (past ++ [.delivered d]) t := by
  obtain ⟨htakes, ⟨w, hw, hleads⟩, active, hactive, hobeys⟩ := hproceeds.follows hspares
  have hnone : t.request.demarcator.current = none :=
    (ends_of_takes (h := h) hdone hevent htakes).1
  have hinactive : t.active = false :=
    hstands.inactive hspares hdone hevent htakes hw hleads hactive hobeys
  have hhanded : handed d.deeds = [] := htakes.handed_eq_nil hevent
  obtain ⟨hsame, hmode, heffect⟩ :=
    htakes.effect hdone (ownFactory_of_handed_nil hhanded) hstands.mode
  rw [hstands.context] at hsame heffect
  have hfinished : Delivered .finished (past ++ [.delivered d]) ↔
      Delivered .finished past ∨ d.event = .finished := by
    rw [delivered_concat]
    simp
  refine ⟨⟨d, List.mem_append_right _ List.mem_cons_self⟩, hsame, hmode, ?_, fun _ => hnone,
    fun _ => hinactive, fun _ => hinactive, ?_, ?_, ?_⟩
  · intro work hwork
    rw [hnone] at hwork
    cases hwork
  · intro ht
    rw [hinactive] at ht
    cases ht
  · rw [hfinished, not_or]
    rintro ⟨hunfinished, hd⟩
    obtain ⟨hbound, hclosings⟩ := hstands.bound hunfinished
    rcases quiet_or_empties hhanded heffect with ⟨-, hquiet⟩ | ⟨hevent, -⟩
    · rw [hquiet.context hspares hleads, hw, deedsOf_append, deedsOf_singleton, closings_append,
        hclosings, Happening.deeds, hquiet.closings]
      exact ⟨hbound, rfl⟩
    · exact absurd hevent hd
  · rw [hfinished]
    intro hover
    rcases quiet_or_empties hhanded heffect with ⟨hunfinished, hquiet⟩ | ⟨-, hempties⟩
    · rw [hquiet.context hspares hleads, hw]
      exact hstands.emptied (hover.resolve_right hunfinished)
    · exact (hempties.clears hspares hleads).1

/-! ## Before the unit of work has been opened -/

/-- What holds of a session before its first event. -/
structure Waits (cx : ContextId) (h : Handle) (past : List (Happening app)) (s : Session) :
    Prop where
  request : s.request = { context := cx }
  empty : s.workspace.context cx = .empty
  idle : s.active = false
  undelivered : ∀ d, .delivered d ∉ past
  unclosed : closings h (deedsOf past) = 0
  unended : .commit ∉ callsOn h (deedsOf past) ∧ .rollback ∉ callsOn h (deedsOf past)

theorem Waits.of_applied (hspares : Workspace.Spares others cx) (happlied : ∀ d, e ≠ .delivered d)
    (hwaits : Waits cx h past s) (hproceeds : Proceeds others h s e t) :
    Waits cx h (past ++ [e]) t := by
  have hcontext : s.request.context = cx := by rw [hwaits.request]
  obtain ⟨hrequest, hcx, hactive, hquiet, hoperates⟩ :=
    hproceeds.harmless hspares hcontext happlied
  constructor
  · rw [hrequest, hwaits.request]
  · rw [hcx, hwaits.empty]
  · exact inactive_of_imp hactive hwaits.idle
  · intro d hmem
    rcases List.mem_append.mp hmem with hpast | hlast
    · exact hwaits.undelivered d hpast
    · exact happlied d (List.mem_singleton.mp hlast).symm
  · rw [deedsOf_append, deedsOf_singleton, closings_append, hwaits.unclosed, hquiet.closings]
  · rw [deedsOf_append, deedsOf_singleton]
    exact not_mem_callsOn_append hwaits.unended hoperates.not_mem_callsOn

/-- The unit of work is opened by this delivery. -/
structure OpensUnit (d : Delivery app) (spec : WorkSpec) (h : Handle) : Prop where
  declared : ∃ method, d.event = .methodStart method ∧ d.declarations.find? method = some spec
  reply : d.reply = some (.ok ())
  obtained : h ∈ handed d.deeds

theorem OpensUnit.starts {d : Delivery app} {request next : Request} (hopening : OpensUnit d spec h)
    (htakes : request.Takes d next) :
    ∃ work : OpenUnit, work.handle = h ∧ work.spec = spec ∧
      next = { request with demarcator := { request.demarcator with current := some work } } ∧
      request.demarcator.Starts d.registry request.context (some spec) d.deeds
        (some (.ok next.demarcator)) := by
  obtain ⟨event, registry, declarations, deeds, reply⟩ := d
  obtain ⟨⟨method, hevent, hdeclared⟩, hok, hmem⟩ := hopening
  obtain ⟨v, hserves, hreply, rfl⟩ := htakes.serves
  obtain rfl : reply = v.map Prod.fst := hreply
  cases hserves with
  | startDropped => cases hok
  | startFailed => cases hok
  | @started other _ demarcator hstarts =>
      obtain rfl : other = method := RequestEvent.methodStart.inj hevent
      rw [show declarations.find? other = some spec from hdeclared] at hstarts
      have hopens : ∃ work : OpenUnit, work.spec = spec ∧
          demarcator = { request.demarcator with current := some work } := by
        cases hstarts with
        | opened => exact ⟨_, rfl, rfl⟩
      obtain ⟨work, hspec, rfl⟩ := hopens
      refine ⟨work, ?_, hspec, rfl, hstarts⟩
      rcases hstarts.of_ok with ⟨hnone, -⟩ | ⟨_, other, -, -, hsame, -, hopens⟩
      · cases hnone
      · have hmem : h ∈ handed deeds := hmem
        rw [hopens.handed] at hmem
        rw [List.mem_singleton.mp hmem]
        exact congrArg OpenUnit.handle (Option.some.inj (congrArg Demarcator.current hsame))
  | responseDropped => cases hevent
  | responded => cases hevent
  | exceptionDropped => cases hevent
  | failed => cases hevent
  | finished => cases hevent

theorem Stands.of_opening {d : Delivery app} (hspares : Workspace.Spares others cx)
    (hopening : OpensUnit d spec h) (hwaits : Waits cx h past s)
    (hproceeds : Proceeds others h s (.delivered d) t) :
    Stands cx spec h (past ++ [.delivered d]) t := by
  obtain ⟨htakes, ⟨w, hw, hleads⟩, active, hactive, hobeys⟩ := hproceeds.follows hspares
  obtain ⟨work, rfl, hspec, hnext, hstarts⟩ := hopening.starts htakes
  rw [hwaits.request] at hnext hstarts
  have hobeys : Follows work.handle.Obeys d.deeds active t.active := hobeys
  have hcurrent : t.request.demarcator.current = some work := by rw [hnext]
  have hbefore : active = false := inactive_of_imp hactive hwaits.idle
  have hopens : Opens cx d.deeds work.handle := by
    rcases hstarts.of_ok with ⟨hnone, -⟩ | ⟨_, other, -, -, hsame, -, hopens⟩
    · cases hnone
    · rw [hsame] at hcurrent
      obtain rfl := Option.some.inj hcurrent
      exact hopens
  have hundelivered : ∀ event, Delivered event (past ++ [.delivered d]) →
      ∃ method, event = .methodStart method := by
    intro event hdelivered
    rcases delivered_concat.mp hdelivered with ⟨x, hx, -⟩ | ⟨x, hx, rfl⟩
    · exact absurd hx (hwaits.undelivered x)
    · cases hx
      obtain ⟨method, hevent, -⟩ := hopening.declared
      exact ⟨method, hevent⟩
  have hunfinished : ¬ Delivered .finished (past ++ [.delivered d]) := by
    intro hfinished
    obtain ⟨method, hevent⟩ := hundelivered _ hfinished
    cases hevent
  refine ⟨⟨d, List.mem_append_right _ List.mem_cons_self⟩, by rw [hnext], by rw [hnext],
    ?_, ?_, ?_, ?_, ?_, ?_, ?_⟩
  · intro other hother
    rw [hcurrent] at hother
    obtain rfl := Option.some.inj hother
    exact ⟨rfl, hspec⟩
  · rintro ((hanswered | hanswered) | hfinished)
    · obtain ⟨method, hevent⟩ := hundelivered _ hanswered
      cases hevent
    · obtain ⟨method, hevent⟩ := hundelivered _ hanswered
      cases hevent
    · exact absurd hfinished hunfinished
  · intro hnone
    rw [hcurrent] at hnone
    cases hnone
  · intro hplain
    exact inactive_of_unbegun (hstarts.unbegun hplain) hobeys hbefore
  · intro ht
    rw [deedsOf_append, deedsOf_singleton]
    refine ⟨List.mem_append_right _ ?_,
      not_mem_callsOn_append hwaits.unended hstarts.incidental.not_mem_callsOn⟩
    -- only a begin can have made the transaction active
    by_contra hunbegun
    rw [inactive_of_unbegun hunbegun hobeys hbefore] at ht
    cases ht
  · intro _
    rw [hopens.context hspares hleads, hw, hwaits.empty, deedsOf_append, deedsOf_singleton,
      closings_append, hwaits.unclosed]
    exact ⟨rfl, by rw [Nat.zero_add]; exact hopens.closings _⟩
  · exact fun hfinished => absurd hfinished hunfinished

/-! ## The law of a session -/

/-- How a happening may follow `past`, in the session of a request that has opened a unit of
work with this handle. -/
structure Lawful (cx : ContextId) (spec : WorkSpec) (h : Handle) (past : List (Happening app))
    (e : Happening app) : Prop where
  /-- A mutating operation reaches the handle within its transaction only. -/
  mutates : e.Mutates h → spec.transactional = true ∧ .heard (.begin h) (.ok ()) ∈ deedsOf past ∧
    .commit ∉ callsOn h (deedsOf past) ∧ .rollback ∉ callsOn h (deedsOf past)
  /-- When the response has been prepared or something has failed, what looks something up
  still reaches the handle, which is open. -/
  reads : ∀ shared operation deeds result, e = .called shared operation deeds result →
    shared.factory = h.factory → Answered past → ¬ Delivered .finished past →
    operation.LooksUp → closings h (deedsOf past) = 0 ∧
      ((∃ reply, result = some reply ∧ deeds =
          [.did (.context (.find cx shared.factory)) (some h),
            .heard (.execute h operation) reply]) ∨
        (result = none ∧ deeds =
          [.did (.context (.find cx shared.factory)) (some h), .lost (.execute h operation)]))
  /-- A mutating one is refused. -/
  refuses : ∀ shared operation deeds result, e = .called shared operation deeds result →
    shared.factory = h.factory → Answered past → ¬ Delivered .finished past →
    operation.kind = .mutating → result = some (.error (.transactionRequired operation.name)) ∧
      deeds = [.did (.context (.find cx shared.factory)) (some h),
        .did (.transactionActive h) false]
  /-- Nothing is bound for another factory, nor before the first event, nor when the
  request has finished. -/
  unbound : ∀ shared operation deeds result, e = .called shared operation deeds result →
    shared.factory ≠ h.factory ∨ (∀ d, .delivered d ∉ past) ∨ Delivered .finished past →
    result = some (.error (.noHandleBound shared.factory)) ∧
      deeds = [.did (.context (.find cx shared.factory)) none]

/-- What the invoked handle does is up to what is bound. -/
theorem Proceeds.invokes {shared : SharedHandle} {operation : Operation}
    {deeds : List (WorkDeed app)} {result : Option (Except Failure Outcome)}
    (hspares : Workspace.Spares others cx) (hcontext : s.request.context = cx)
    (hproceeds : Proceeds others h s (.called shared operation deeds result) t) :
    ((s.workspace.context cx).find? shared.factory = none ∧
        result = some (.error (.noHandleBound shared.factory)) ∧
        deeds = [.did (.context (.find cx shared.factory)) none]) ∨
      ∃ handle rest, (s.workspace.context cx).find? shared.factory = some handle ∧
        deeds = .did (.context (.find cx shared.factory)) (some handle) :: rest ∧
        handle.Receives operation rest result ∧
        ∃ active, (active = true → s.active = true) ∧ Follows h.Obeys rest active t.active := by
  obtain ⟨⟨htraces, -⟩, ⟨w, hw, hleads⟩, active, hactive, hobeys⟩ := hproceeds.follows hspares
  rw [hcontext] at htraces
  have hinvokes := SharedHandle.traces_invoke.mp htraces
  rw [← hw]
  cases hinvokes with
  | unbound =>
      obtain ⟨_, hfind, -⟩ := hleads
      exact Or.inl ⟨congrArg Prod.fst hfind, rfl, rfl⟩
  | @bound handle rest _ hreceives =>
      obtain ⟨_, hfind, -⟩ := hleads
      obtain ⟨found, hfound, hrest⟩ := hobeys
      refine Or.inr ⟨handle, rest, congrArg Prod.fst hfind, rfl, hreceives, found, ?_, hrest⟩
      intro htrue
      refine hactive ?_
      by_contra hinactive
      cases hfound.begun (Bool.eq_false_iff.mpr hinactive) htrue

theorem not_mutates_of_forall {P : WorkDeed app → Prop} (hdeeds : ∀ d ∈ e.deeds, P d)
    (hheard : ∀ operation reply, ¬ P (.heard (.execute h operation) reply))
    (hlost : ∀ operation, ¬ P (.lost (.execute h operation))) : ¬ e.Mutates h := by
  rintro ⟨operation, -, ⟨reply, hmem⟩ | hmem⟩
  · exact hheard operation reply (hdeeds _ hmem)
  · exact hlost operation (hdeeds _ hmem)

/-- No operation is run when an event is delivered. -/
theorem not_mutates_of_takes {d : Delivery app} {request next : Request}
    (htakes : request.Takes d next) : ¬ (Happening.delivered d).Mutates h := by
  have hstarts : Incidental d.deeds → ¬ (Happening.delivered d).Mutates h := fun hds =>
    not_mutates_of_forall hds (fun _ _ hexecute => hexecute.1 trivial)
      fun _ hexecute => hexecute.1 trivial
  have hends : WindsUp d.deeds → ¬ (Happening.delivered d).Mutates h := fun hds =>
    not_mutates_of_forall hds (fun _ _ => id) fun _ => id
  obtain ⟨event, registry, declarations, deeds, reply⟩ := d
  obtain ⟨v, hserves, -, -⟩ := htakes.serves
  cases hserves with
  | startDropped hstarting => exact hstarts hstarting.incidental
  | startFailed hstarting => exact hstarts hstarting.incidental
  | started hstarting => exact hstarts hstarting.incidental
  | responseDropped hcompletes => exact hends hcompletes.windsUp
  | responded hcompletes => exact hends hcompletes.windsUp
  | exceptionDropped hfails => exact hends hfails.windsUp
  | failed hfails => exact hends hfails.windsUp
  | finished hfinishes => exact hends (windsUp_of_action hfinishes)

/-- A mutating operation that reaches the handle finds it bound and its transaction
active. -/
theorem Proceeds.of_mutates (hspares : Workspace.Spares others cx)
    (hcontext : s.request.context = cx) (hproceeds : Proceeds others h s e t)
    (hmutates : e.Mutates h) :
    (∃ f, (s.workspace.context cx).find? f = some h) ∧ s.active = true := by
  cases e with
  | delivered d =>
      obtain ⟨htakes, -⟩ := hproceeds.follows hspares
      exact absurd hmutates (not_mutates_of_takes htakes)
  | idle deeds =>
      obtain ⟨⟨hidle, -⟩, -⟩ := hproceeds.follows hspares
      exact absurd hmutates (not_mutates_of_forall hidle (fun _ _ => id) fun _ => id)
  | called shared operation deeds result =>
      obtain ⟨other, hmutating, hmem⟩ := hmutates
      rcases hproceeds.invokes hspares hcontext with
        ⟨-, -, rfl⟩ | ⟨handle, rest, hfound, rfl, hreceives, active, hactive, hobeys⟩
      · simp [Happening.deeds] at hmem
      · have hreaches : (∃ reply, .heard (.execute h other) reply ∈ rest) ∨
            .lost (.execute h other) ∈ rest := by
          simpa [Happening.deeds] using hmem
        obtain ⟨rfl, rfl⟩ := hreceives.eq_of_mem hreaches
        refine ⟨⟨_, hfound⟩, hactive ?_⟩
        rcases hreceives.of_mutating hmutating with ⟨-, rfl⟩ | ⟨last, rfl⟩
        · simp at hreaches
        · exact active_of_asked hobeys

theorem Waits.lawful (hspares : Workspace.Spares others cx) (hwaits : Waits cx h past s)
    (hproceeds : Proceeds others h s e t) : Lawful cx spec h past e := by
  have hcontext : s.request.context = cx := by rw [hwaits.request]
  have hunanswered : ∀ event, ¬ Delivered event past := by
    rintro event ⟨d, hmem, -⟩
    exact hwaits.undelivered d hmem
  constructor
  · intro hmutates
    obtain ⟨-, hactive⟩ := hproceeds.of_mutates hspares hcontext hmutates
    rw [hwaits.idle] at hactive
    cases hactive
  · rintro shared operation deeds result - - (hanswered | hanswered)
    · exact absurd hanswered (hunanswered _)
    · exact absurd hanswered (hunanswered _)
  · rintro shared operation deeds result - - (hanswered | hanswered)
    · exact absurd hanswered (hunanswered _)
    · exact absurd hanswered (hunanswered _)
  · rintro shared operation deeds result rfl -
    rcases hproceeds.invokes hspares hcontext with ⟨-, hunbound⟩ | ⟨_, _, hfound, -⟩
    · exact hunbound
    · rw [hwaits.empty] at hfound
      cases hfound

theorem Stands.lawful (hspares : Workspace.Spares others cx) (hstands : Stands cx spec h past s)
    (hproceeds : Proceeds others h s e t) : Lawful cx spec h past e := by
  -- what is bound when a shared handle is invoked
  have hfinds : ∀ f, ¬ Delivered .finished past →
      (s.workspace.context cx).find? f = if h.factory = f then some h else none := by
    intro f hunfinished
    rw [(hstands.bound hunfinished).1, Context.find?_bind]
    rfl
  have hreceived : ∀ {shared operation deeds result}, e = .called shared operation deeds result →
      shared.factory = h.factory → Answered past → ¬ Delivered .finished past →
      ∃ rest, deeds = .did (.context (.find cx shared.factory)) (some h) :: rest ∧
        h.Receives operation rest result ∧ Follows h.Obeys rest false t.active := by
    rintro shared operation deeds result rfl hfactory hanswered hunfinished
    have hidle : s.active = false := hstands.idle (hstands.ended (Or.inl hanswered))
    rcases hproceeds.invokes hspares hstands.context with
      ⟨hnone, -⟩ | ⟨handle, rest, hfound, rfl, hreceives, active, hactive, hobeys⟩
    · rw [hfinds _ hunfinished, if_pos hfactory.symm] at hnone
      cases hnone
    · rw [hfinds _ hunfinished, if_pos hfactory.symm] at hfound
      obtain rfl := Option.some.inj hfound
      rw [inactive_of_imp hactive hidle] at hobeys
      exact ⟨rest, rfl, hreceives, hobeys⟩
  constructor
  · intro hmutates
    obtain ⟨-, hactive⟩ := hproceeds.of_mutates hspares hstands.context hmutates
    refine ⟨?_, hstands.window hactive⟩
    by_contra hplain
    rw [hstands.plain (Bool.eq_false_iff.mpr hplain)] at hactive
    cases hactive
  · intro shared operation deeds result he hfactory hanswered hunfinished hlooks
    obtain ⟨rest, rfl, hreceives, -⟩ := hreceived he hfactory hanswered hunfinished
    refine ⟨(hstands.bound hunfinished).2, ?_⟩
    rcases hreceives.of_read hlooks.kind_eq with ⟨reply, rfl, rfl⟩ | ⟨rfl, rfl⟩
    · exact Or.inl ⟨reply, rfl, rfl⟩
    · exact Or.inr ⟨rfl, rfl⟩
  · intro shared operation deeds result he hfactory hanswered hunfinished hmutating
    obtain ⟨rest, rfl, hreceives, hobeys⟩ := hreceived he hfactory hanswered hunfinished
    rcases hreceives.of_mutating hmutating with ⟨rfl, rfl⟩ | ⟨last, rfl⟩
    · exact ⟨rfl, rfl⟩
    · cases active_of_asked hobeys
  · rintro shared operation deeds result rfl hnowhere
    rcases hproceeds.invokes hspares hstands.context with
      ⟨-, hunbound⟩ | ⟨handle, _, hfound, -⟩
    · exact hunbound
    · by_cases hfinished : Delivered .finished past
      · rw [hstands.emptied hfinished] at hfound
        cases hfound
      · rw [hfinds _ hfinished] at hfound
        rcases hnowhere with hfactory | hundelivered | hover
        · rw [if_neg fun hsame => hfactory hsame.symm] at hfound
          cases hfound
        · obtain ⟨d, hmem⟩ := hstands.started
          exact absurd hmem (hundelivered d)
        · exact absurd hover hfinished

variable {early later : List (Happening app)} {w : Workspace}

/-- Whatever happens in a session whose first event opens a unit of work, and whose other
events start no method, is lawful. -/
theorem keeps_law {d : Delivery app} (hspares : Workspace.Spares others cx)
    (hempty : w.context cx = .empty) (hopens : OpensUnit d spec h)
    (hearly : ∀ x, .delivered x ∉ early)
    (hlater : ∀ x, .delivered x ∈ later →
      x.reply ≠ none ∧ ∀ method, x.event ≠ .methodStart method)
    (hproceeds : Follows (Proceeds others h) (early ++ .delivered d :: later)
      ⟨{ context := cx }, w, false⟩ t) :
    Each (Lawful cx spec h) [] (early ++ .delivered d :: later) := by
  obtain ⟨s, hfirst, u, hopening, hrest⟩ := follows_append.mp hproceeds
  have hwaits : Waits cx h ([] : List (Happening app)) ⟨{ context := cx }, w, false⟩ :=
    ⟨rfl, hempty, rfl, nofun, rfl, nofun, nofun⟩
  have hwaiting : Each (Lawful cx spec h) [] early ∧ Waits cx h ([] ++ early) s :=
    each_of_follows (P := fun e => ∀ x, e ≠ .delivered x) (I := Waits cx h)
      (fun past e u v he hu hstep => ⟨hu.lawful hspares hstep, hu.of_applied hspares he hstep⟩)
      (fun e he x hx => hearly x (hx ▸ he)) hfirst hwaits
  obtain ⟨hbefore, hs⟩ := hwaiting
  have hu : Stands cx spec h (([] ++ early) ++ [.delivered d]) u :=
    .of_opening hspares hopens hs hopening
  refine each_append.mpr ⟨hbefore, hs.lawful hspares hopening, ?_⟩
  refine (each_of_follows (I := Stands cx spec h) (P := fun e => e ∈ later) ?_ (fun _ => id)
    hrest hu).1
  intro past e u v he hu hstep
  refine ⟨hu.lawful hspares hstep, ?_⟩
  cases e with
  | delivered x =>
      obtain ⟨hdone, hevent⟩ := hlater x he
      exact hu.of_delivered hspares hdone hevent hstep
  | called => exact hu.of_applied hspares nofun hstep
  | idle => exact hu.of_applied hspares nofun hstep

/-! ## A session of "keep" -/

section Keeping

/-- The handle of the session. -/
def keepHandle : Handle := (defaultWork 0).handle

/-- The shared handle of the default unit. -/
def keepShared : SharedHandle := ⟨⟨0⟩, defaultUnitName, ⟨0⟩⟩

/-- Pushing pending changes to the store, when this handle is bound. -/
def keepFlush (found : Option Handle) (rest : List (WorkDeed noJobs))
    (result : Except Failure Outcome) : Happening noJobs :=
  .called keepShared .flush (.did (.context (.find ⟨0⟩ ⟨0⟩)) found :: rest) (some result)

/-- The response, which commits. -/
def keepResponse : Delivery noJobs := Request.keepDelivery .responseFiltersStart
  [.did (.transactionActive keepHandle) true, .heard (.commit keepHandle) (.ok ()),
    .did (.emit (.committed defaultUnitName)) ()] (some (.ok ()))

/-- What was done does not concern the transaction of the handle. -/
theorem obeys_refl {d : WorkDeed app} {active : Bool}
    (hasked : ∀ answer, d ≠ .did (.transactionActive h) answer) (hended : ¬ h.EndedBy d) :
    h.Obeys active d active where
  asked := fun answer hd => absurd hd (hasked answer)
  begun := by
    rintro rfl htrue
    cases htrue
  ended := fun hd => absurd hd hended

theorem obeys_asked {active : Bool} :
    h.Obeys active (.did (.transactionActive h) active : WorkDeed app) active where
  asked := by
    rintro answer hd
    cases hd
    rfl
  begun := by
    rintro rfl htrue
    cases htrue
  ended := fun hd => nomatch hd

theorem obeys_keepOpened :
    Follows keepHandle.Obeys (defaultOpened 0 none) false true := by
  have hbegin : keepHandle.Obeys false (.heard (.begin keepHandle) (.ok ()) : WorkDeed noJobs)
      true := ⟨nofun, fun _ _ => rfl, nofun⟩
  exact ⟨false, obeys_refl nofun nofun, false, obeys_refl nofun nofun, false,
    obeys_refl nofun nofun, false, obeys_refl nofun nofun, true, hbegin, true,
    obeys_refl nofun nofun, rfl⟩

theorem obeys_keepResponse : Follows keepHandle.Obeys keepResponse.deeds true false := by
  have hcommit : keepHandle.Obeys true
      (.heard (.commit keepHandle) (.ok ()) : WorkDeed noJobs) false :=
    ⟨nofun, nofun, fun _ => rfl⟩
  exact ⟨true, obeys_asked, false, hcommit, false, obeys_refl nofun nofun, rfl⟩

theorem proceeds_keepFlush {found : Option Handle} {rest : List (WorkDeed noJobs)}
    {result : Except Failure Outcome} (hcontext : s.request.context = ⟨0⟩)
    (hinvokes : keepShared.Invokes ⟨0⟩ .flush (.did (.context (.find ⟨0⟩ ⟨0⟩)) found :: rest)
      (some result)) (hfound : (s.workspace.context ⟨0⟩).find? ⟨0⟩ = found)
    (hleads : Workspace.Leads Eq rest s.workspace s.workspace)
    (hobeys : Follows keepHandle.Obeys rest s.active s.active) :
    Proceeds Eq keepHandle s (keepFlush found rest result) s := by
  have hcalled : (keepFlush found rest result).Befalls s.request s.request := by
    refine ⟨?_, rfl⟩
    rw [hcontext]
    exact SharedHandle.traces_invoke.mpr hinvokes
  refine ⟨s.workspace, s.active, .refl, id, follows_step.mpr ⟨?_, ?_⟩, hcalled⟩
  · exact ⟨s.workspace, Prod.ext hfound rfl, hleads⟩
  · exact ⟨s.active, obeys_refl nofun nofun, hobeys⟩

/-- The session in which the store is flushed before the first event, in the
transaction, and after the response, meets the law. -/
theorem keep_keeps_law :
    Each (Lawful ⟨0⟩ {} keepHandle) []
      ([keepFlush none [] (.error (.noHandleBound ⟨0⟩))] ++
        .delivered (Request.keepStart 0 none) ::
          [keepFlush (some keepHandle) [.did (.transactionActive keepHandle) true,
              .heard (.execute keepHandle .flush) (.ok .unit)] (.ok .unit),
            .delivered keepResponse,
            keepFlush (some keepHandle) [.did (.transactionActive keepHandle) false]
              (.error (.transactionRequired "flush"))]) := by
  have hearly : Proceeds Eq keepHandle ⟨{ context := ⟨0⟩ }, {}, false⟩
      (keepFlush none [] (.error (.noHandleBound ⟨0⟩))) ⟨{ context := ⟨0⟩ }, {}, false⟩ :=
    proceeds_keepFlush rfl .unbound rfl rfl rfl
  have hopening : Proceeds Eq keepHandle ⟨{ context := ⟨0⟩ }, {}, false⟩
      (.delivered (Request.keepStart 0 none))
      ⟨Request.keepRequest 0, Request.Life.keepBound 0 {}, true⟩ :=
    ⟨{}, false, .refl, id, follows_step.mpr ⟨leads_defaultOpened.mpr ⟨rfl, rfl⟩, obeys_keepOpened⟩,
      Request.takes_keepStart rfl⟩
  have hflushed : Proceeds Eq keepHandle
      ⟨Request.keepRequest 0, Request.Life.keepBound 0 {}, true⟩
      (keepFlush (some keepHandle) [.did (.transactionActive keepHandle) true,
        .heard (.execute keepHandle .flush) (.ok .unit)] (.ok .unit))
      ⟨Request.keepRequest 0, Request.Life.keepBound 0 {}, true⟩ :=
    proceeds_keepFlush rfl (.bound (.executed (.active rfl) (.ok .unit))) rfl
      ⟨_, rfl, _, rfl, rfl⟩ ⟨true, obeys_asked, true, obeys_refl nofun nofun, rfl⟩
  have hresponse : Proceeds Eq keepHandle
      ⟨Request.keepRequest 0, Request.Life.keepBound 0 {}, true⟩ (.delivered keepResponse)
      ⟨{ context := ⟨0⟩ }, Request.Life.keepBound 0 {}, false⟩ := by
    have hcommits : (defaultWork 0).Commits keepResponse.deeds (some (.ok ())) :=
      .committed (.asked rfl true)
    have hcompletes : (Request.keepRequest 0).demarcator.Completes ⟨0⟩ (keepResponse.deeds ++ [])
      _ := .completed rfl hcommits (.deferred rfl)
    rw [List.append_nil] at hcompletes
    exact ⟨_, true, .refl, id, follows_step.mpr ⟨⟨_, rfl, _, rfl, _, rfl, rfl⟩, obeys_keepResponse⟩,
      .served rfl (Request.traces_deliver.mpr (.responded hcompletes))⟩
  have hrefused : Proceeds Eq keepHandle
      ⟨{ context := ⟨0⟩ }, Request.Life.keepBound 0 {}, false⟩
      (keepFlush (some keepHandle) [.did (.transactionActive keepHandle) false]
        (.error (.transactionRequired "flush")))
      ⟨{ context := ⟨0⟩ }, Request.Life.keepBound 0 {}, false⟩ :=
    proceeds_keepFlush rfl (.bound (.refused rfl)) rfl ⟨_, rfl, rfl⟩ ⟨false, obeys_asked, rfl⟩
  have hopens : OpensUnit (Request.keepStart 0 none) {} keepHandle :=
    ⟨⟨"keep", rfl, Request.keeping_find?⟩, rfl, List.mem_cons_self⟩
  refine keeps_law Workspace.spares_eq rfl hopens ?_ ?_
    ⟨_, hearly, _, hopening, _, hflushed, _, hresponse, _, hrefused, rfl⟩
  · intro x hmem
    cases List.mem_singleton.mp hmem
  · intro x hmem
    rcases List.mem_cons.mp hmem with hx | hmem
    · cases hx
    rcases List.mem_cons.mp hmem with hx | hmem
    · cases hx
      exact ⟨nofun, nofun⟩
    · cases List.mem_singleton.mp hmem

end Keeping

end Request.Session

end Demarcation
